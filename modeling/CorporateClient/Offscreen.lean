-- The offscreen bitmaps (offscreen.c) and the surface that is drawn on (graphics.c of the gdi). The
-- drawing surface is live as long as the server switches to bitmaps that are there and does not
-- delete the one that is drawn on.
import Mathlib.Logic.Function.Basic
import Mathlib.Data.List.Basic

open List

namespace neutrinordp.offscreen

/-! ## The state -/

def SCREEN_BITMAP_SURFACE : Nat := 0xFFFF

/-- A bitmap is known by the number of its allocation. -/
abbrev Bitmap := Nat

/-- What `gdi->drawing` points to. -/
inductive Drawing
  | primary
  | bitmap (bitmap : Bitmap)
  | null
  deriving DecidableEq

/-- The offscreen cache and the drawing surface, with the bitmaps that were freed and the number of
allocations so far. -/
structure Surfaces where
  maxEntries : Nat
  entries : Nat → Option Bitmap
  currentSurface : Nat
  drawing : Drawing
  freed : List Bitmap
  allocated : Nat

/-- `offscreen_cache_new`, with the primary surface selected. -/
def offscreen_cache_new : Surfaces where
  maxEntries := 2000
  entries := fun _ => none
  currentSurface := SCREEN_BITMAP_SURFACE
  drawing := .primary
  freed := []
  allocated := 0

/-! ## The functions -/

def gdi_Bitmap_SetSurface (s : Surfaces) (bitmap : Option Bitmap) (primary : Bool) : Surfaces :=
  if primary then { s with drawing := .primary }
  else
    match bitmap with
    | some bitmap => { s with drawing := .bitmap bitmap }
    | none => { s with drawing := .null }

def offscreen_cache_get (s : Surfaces) (index : Nat) : Option Bitmap :=
  if index ≥ s.maxEntries then none else s.entries index

def offscreen_cache_delete (s : Surfaces) (index : Nat) : Surfaces :=
  if index ≥ s.maxEntries then s
  else
    { s with
      entries := Function.update s.entries index none
      freed := (s.entries index).toList ++ s.freed }

def offscreen_cache_put (s : Surfaces) (index : Nat) (bitmap : Bitmap) : Surfaces :=
  if index ≥ s.maxEntries then s
  else
    let s := offscreen_cache_delete s index
    { s with entries := Function.update s.entries index (some bitmap) }

def update_gdi_create_offscreen_bitmap (s : Surfaces) (id : Nat) (deleteList : List Nat) :
    Surfaces :=
  let bitmap := s.allocated
  let s := { s with allocated := s.allocated + 1 }
  let s := offscreen_cache_delete s id
  let s := offscreen_cache_put s id bitmap
  let s := if s.currentSurface = id then gdi_Bitmap_SetSurface s (some bitmap) false else s
  deleteList.foldl offscreen_cache_delete s

def update_gdi_switch_surface (s : Surfaces) (bitmapId : Nat) : Surfaces :=
  let s :=
    if bitmapId = SCREEN_BITMAP_SURFACE then gdi_Bitmap_SetSurface s none true
    else gdi_Bitmap_SetSurface s (offscreen_cache_get s bitmapId) false
  { s with currentSurface := bitmapId }

inductive Order
  | create_offscreen_bitmap (id : Nat) (deleteList : List Nat)
  | switch_surface (bitmapId : Nat)

def step (s : Surfaces) : Order → Surfaces
  | .create_offscreen_bitmap id deleteList => update_gdi_create_offscreen_bitmap s id deleteList
  | .switch_surface bitmapId => update_gdi_switch_surface s bitmapId

/-- The states after each order. -/
def states (s : Surfaces) : List Order → List Surfaces
  | [] => []
  | order :: rest => step s order :: states (step s order) rest

/-! ## Bitmaps in the cache -/

/-- The drawing surface is the primary one, or a bitmap of the cache that was not freed. -/
def Live (s : Surfaces) : Prop :=
  s.drawing = .primary ∨
    ∃ index bitmap, index < s.maxEntries ∧ s.entries index = some bitmap ∧
      s.drawing = .bitmap bitmap ∧ bitmap ∉ s.freed

/-- Each bitmap is in one slot, and none that was freed. -/
structure Owned (s : Surfaces) : Prop where
  held : ∀ index bitmap, s.entries index = some bitmap →
    index < s.maxEntries ∧ bitmap < s.allocated ∧ bitmap ∉ s.freed
  once : ∀ index index' bitmap, s.entries index = some bitmap →
    s.entries index' = some bitmap → index = index'
  freed : ∀ bitmap ∈ s.freed, bitmap < s.allocated

theorem delete.frame (s : Surfaces) (index : Nat) :
    (offscreen_cache_delete s index).maxEntries = s.maxEntries ∧
      (offscreen_cache_delete s index).currentSurface = s.currentSurface ∧
      (offscreen_cache_delete s index).drawing = s.drawing ∧
      (offscreen_cache_delete s index).allocated = s.allocated := by
  unfold offscreen_cache_delete
  split <;> exact ⟨rfl, rfl, rfl, rfl⟩

variable {s : Surfaces} {index id : Nat} {bitmap : Bitmap} {deleteList : List Nat}

theorem delete.entries_inv {index' : Nat}
    (h : (offscreen_cache_delete s index).entries index' = some bitmap) :
    s.entries index' = some bitmap ∧ (index' ≠ index ∨ index ≥ s.maxEntries) := by
  unfold offscreen_cache_delete at h
  split at h
  · rename_i hout
    exact ⟨h, .inr hout⟩
  · dsimp only at h
    by_cases hsame : index' = index
    · subst hsame
      rw [Function.update_self] at h
      cases h
    · rw [Function.update_of_ne hsame] at h
      exact ⟨h, .inl hsame⟩

theorem delete.entries_of_ne (s : Surfaces) {index' : Nat} (h : index' ≠ index) :
    (offscreen_cache_delete s index).entries index' = s.entries index' := by
  unfold offscreen_cache_delete
  split
  · rfl
  · exact Function.update_of_ne h _ _

theorem delete.mem_freed :
    bitmap ∈ (offscreen_cache_delete s index).freed ↔
      (index < s.maxEntries ∧ s.entries index = some bitmap) ∨ bitmap ∈ s.freed := by
  unfold offscreen_cache_delete
  split
  · rename_i hout
    simp [Nat.not_lt.mpr hout]
  · rename_i hin
    simp [Nat.lt_of_not_ge hin, Option.mem_toList]

theorem delete.owned (h : Owned s) (index : Nat) :
    Owned (offscreen_cache_delete s index) := by
  obtain ⟨hmax, -, -, halloc⟩ := delete.frame s index
  refine ⟨?_, ?_, ?_⟩
  · intro index' bitmap hentry
    obtain ⟨hbefore, hkept⟩ := delete.entries_inv hentry
    obtain ⟨hin, hlt, hfree⟩ := h.held index' bitmap hbefore
    rw [hmax, halloc]
    refine ⟨hin, hlt, ?_⟩
    rw [delete.mem_freed]
    rintro (⟨hlow, hgone⟩ | hgone)
    · rcases hkept with hne | hout
      · exact hne (h.once _ _ _ hbefore hgone)
      · omega
    · exact hfree hgone
  · intro i j bitmap hi hj
    exact h.once i j bitmap (delete.entries_inv hi).1
      (delete.entries_inv hj).1
  · intro bitmap hgone
    rw [halloc]
    rcases delete.mem_freed.mp hgone with ⟨-, hentry⟩ | hgone
    · exact (h.held _ _ hentry).2.1
    · exact h.freed bitmap hgone

/-! ## A new bitmap -/

/-- The state once the new bitmap is stored, before the surface and the delete list. -/
def stored (s : Surfaces) (id : Nat) : Surfaces :=
  offscreen_cache_put
    (offscreen_cache_delete { s with allocated := s.allocated + 1 } id) id s.allocated

theorem Owned.allocate (h : Owned s) : Owned { s with allocated := s.allocated + 1 } := by
  refine ⟨?_, h.once, ?_⟩
  · intro index bitmap hentry
    obtain ⟨hin, hlt, hfree⟩ := h.held index bitmap hentry
    exact ⟨hin, Nat.lt_succ_of_lt hlt, hfree⟩
  · intro bitmap hgone
    exact Nat.lt_succ_of_lt (h.freed bitmap hgone)

theorem offscreen_cache_put.owned (h : Owned s) (index : Nat) (hlt : bitmap < s.allocated)
    (hfree : bitmap ∉ s.freed) (hnew : ∀ i, s.entries i ≠ some bitmap) :
    Owned (offscreen_cache_put s index bitmap) := by
  unfold offscreen_cache_put
  split
  · exact h
  rename_i hin
  have hdelete := delete.owned h index
  obtain ⟨hmax, -, -, halloc⟩ := delete.frame s index
  have hnew' : ∀ i, (offscreen_cache_delete s index).entries i ≠ some bitmap := fun i hi =>
    hnew i (delete.entries_inv hi).1
  refine ⟨?_, ?_, hdelete.freed⟩
  · intro i b hi
    dsimp only at hi
    by_cases hsame : i = index
    · subst hsame
      rw [Function.update_self] at hi
      cases hi
      rw [hmax, halloc, delete.mem_freed]
      refine ⟨Nat.lt_of_not_ge hin, hlt, ?_⟩
      rintro (⟨-, hentry⟩ | hgone)
      · exact hnew _ hentry
      · exact hfree hgone
    · rw [Function.update_of_ne hsame] at hi
      exact hdelete.held i b hi
  · intro i j b hi hj
    dsimp only at hi hj
    by_cases hi' : i = index <;> by_cases hj' : j = index
    · rw [hi', hj']
    · subst hi'
      rw [Function.update_self] at hi
      rw [Function.update_of_ne hj'] at hj
      cases hi
      exact absurd hj (hnew' j)
    · subst hj'
      rw [Function.update_self] at hj
      rw [Function.update_of_ne hi'] at hi
      cases hj
      exact absurd hi (hnew' i)
    · rw [Function.update_of_ne hi'] at hi
      rw [Function.update_of_ne hj'] at hj
      exact hdelete.once i j b hi hj

theorem offscreen_cache_put.frame (s : Surfaces) (index : Nat) (bitmap : Bitmap) :
    (offscreen_cache_put s index bitmap).maxEntries = s.maxEntries ∧
      (offscreen_cache_put s index bitmap).currentSurface = s.currentSurface ∧
      (offscreen_cache_put s index bitmap).drawing = s.drawing ∧
      (offscreen_cache_put s index bitmap).allocated = s.allocated := by
  unfold offscreen_cache_put
  split
  · exact ⟨rfl, rfl, rfl, rfl⟩
  · exact delete.frame s index

theorem stored.frame (s : Surfaces) (id : Nat) :
    (stored s id).maxEntries = s.maxEntries ∧ (stored s id).currentSurface = s.currentSurface ∧
      (stored s id).drawing = s.drawing ∧ (stored s id).allocated = s.allocated + 1 := by
  unfold stored
  obtain ⟨hmax, hcurrent, hdrawing, halloc⟩ := offscreen_cache_put.frame
    (offscreen_cache_delete { s with allocated := s.allocated + 1 } id) id s.allocated
  obtain ⟨hmax', hcurrent', hdrawing', halloc'⟩ :=
    delete.frame { s with allocated := s.allocated + 1 } id
  rw [hmax, hcurrent, hdrawing, halloc, hmax', hcurrent', hdrawing', halloc']
  exact ⟨rfl, rfl, rfl, rfl⟩

theorem stored.owned (h : Owned s) (id : Nat) : Owned (stored s id) := by
  have hdelete := delete.owned h.allocate id
  apply offscreen_cache_put.owned hdelete
  · rw [(delete.frame _ id).2.2.2]
    exact Nat.lt_succ_self _
  · rw [delete.mem_freed]
    rintro (⟨-, hentry⟩ | hgone)
    · exact absurd (h.held _ _ hentry).2.1 (Nat.lt_irrefl _)
    · exact absurd (h.freed _ hgone) (Nat.lt_irrefl _)
  · intro i hentry
    have hbefore := (delete.entries_inv hentry).1
    exact absurd (h.held _ _ hbefore).2.1 (Nat.lt_irrefl _)

theorem stored.entries_self (h : id < s.maxEntries) :
    (stored s id).entries id = some s.allocated := by
  have hmax := (delete.frame { s with allocated := s.allocated + 1 } id).1
  unfold stored offscreen_cache_put
  rw [hmax, if_neg (Nat.not_le_of_gt h)]
  exact Function.update_self _ _ _

theorem stored.entries_of_ne (s : Surfaces) (h : index ≠ id) :
    (stored s id).entries index = s.entries index := by
  unfold stored offscreen_cache_put
  split
  · exact delete.entries_of_ne _ h
  · dsimp only
    rw [Function.update_of_ne h, delete.entries_of_ne _ h,
      delete.entries_of_ne _ h]

theorem stored.refused (hs : Owned s) (h : id ≥ s.maxEntries) (index : Nat) :
    (stored s id).entries index ≠ some s.allocated := by
  intro hentry
  by_cases hsame : index = id
  · subst hsame
    have hin := ((stored.owned hs index).held index _ hentry).1
    rw [(stored.frame s index).1] at hin
    omega
  · rw [stored.entries_of_ne s hsame] at hentry
    exact absurd (hs.held _ _ hentry).2.1 (Nat.lt_irrefl _)

/-! ## The delete list -/

theorem deletes.frame (s : Surfaces) (deleteList : List Nat) :
    (deleteList.foldl offscreen_cache_delete s).maxEntries = s.maxEntries ∧
      (deleteList.foldl offscreen_cache_delete s).currentSurface = s.currentSurface ∧
      (deleteList.foldl offscreen_cache_delete s).drawing = s.drawing := by
  induction deleteList generalizing s with
  | nil => exact ⟨rfl, rfl, rfl⟩
  | cons index rest ih =>
    obtain ⟨hmax, hcurrent, hdrawing, -⟩ := delete.frame s index
    rw [foldl_cons, ← hmax, ← hcurrent, ← hdrawing]
    exact ih _

theorem deletes.owned (h : Owned s) (deleteList : List Nat) :
    Owned (deleteList.foldl offscreen_cache_delete s) := by
  induction deleteList generalizing s with
  | nil => exact h
  | cons index rest ih => exact ih (delete.owned h index)

theorem deletes.entries_inv
    (h : (deleteList.foldl offscreen_cache_delete s).entries index = some bitmap) :
    s.entries index = some bitmap := by
  induction deleteList generalizing s with
  | nil => exact h
  | cons first rest ih => exact (delete.entries_inv (ih h)).1

theorem deletes.entries_of_not_mem (s : Surfaces) (h : index ∉ deleteList) :
    (deleteList.foldl offscreen_cache_delete s).entries index = s.entries index := by
  induction deleteList generalizing s with
  | nil => rfl
  | cons first rest ih =>
    rw [mem_cons, not_or] at h
    rw [foldl_cons, ih _ h.2, delete.entries_of_ne s h.1]

theorem deletes.still_freed (deleteList : List Nat) (h : bitmap ∈ s.freed) :
    bitmap ∈ (deleteList.foldl offscreen_cache_delete s).freed := by
  induction deleteList generalizing s with
  | nil => exact h
  | cons first rest ih => exact ih (delete.mem_freed.mpr (.inr h))

theorem deletes.freed (hmem : index ∈ deleteList) (hin : index < s.maxEntries)
    (hentry : s.entries index = some bitmap) :
    bitmap ∈ (deleteList.foldl offscreen_cache_delete s).freed := by
  induction deleteList generalizing s with
  | nil => cases hmem
  | cons first rest ih =>
    by_cases hfirst : index = first
    · subst hfirst
      exact deletes.still_freed rest (delete.mem_freed.mpr (.inl ⟨hin, hentry⟩))
    · apply ih ((mem_cons.mp hmem).resolve_left hfirst)
      · rw [(delete.frame s first).1]
        exact hin
      · rw [delete.entries_of_ne s hfirst]
        exact hentry

/-! ## Orders that keep the drawing surface -/

/-- The current surface is the one that is drawn on. -/
inductive Tracks (s : Surfaces) : Prop
  | screen (hcurrent : s.currentSurface = SCREEN_BITMAP_SURFACE) (hdrawing : s.drawing = .primary)
  | bitmap (bitmap : Bitmap) (hscreen : s.currentSurface ≠ SCREEN_BITMAP_SURFACE)
      (hentry : s.entries s.currentSurface = some bitmap) (hdrawing : s.drawing = .bitmap bitmap)

structure Invariant (s : Surfaces) : Prop where
  size : s.maxEntries = 2000
  owned : Owned s
  tracks : Tracks s

/-- The order leaves a surface to draw on: a switch goes to the screen or to a bitmap that is
there, and a new bitmap neither has the current one in its delete list nor the id of the
screen. -/
def Keeps (s : Surfaces) : Order → Prop
  | .create_offscreen_bitmap id deleteList =>
    if s.currentSurface = SCREEN_BITMAP_SURFACE then id ≠ SCREEN_BITMAP_SURFACE
    else s.currentSurface ∉ deleteList
  | .switch_surface bitmapId =>
    bitmapId = SCREEN_BITMAP_SURFACE ∨ offscreen_cache_get s bitmapId ≠ none

theorem Invariant.live (h : Invariant s) : Live s := by
  rcases h.tracks with ⟨-, hdrawing⟩ | ⟨bitmap, -, hentry, hdrawing⟩
  · exact .inl hdrawing
  · obtain ⟨hin, -, hfree⟩ := h.owned.held _ _ hentry
    exact .inr ⟨_, bitmap, hin, hentry, hdrawing, hfree⟩

theorem switch_surface_keeps (h : Invariant s) {bitmapId : Nat}
    (hkeeps : Keeps s (.switch_surface bitmapId)) :
    Invariant (update_gdi_switch_surface s bitmapId) := by
  unfold update_gdi_switch_surface gdi_Bitmap_SetSurface
  by_cases hscreen : bitmapId = SCREEN_BITMAP_SURFACE
  · rw [if_pos hscreen]
    exact ⟨h.size, ⟨h.owned.held, h.owned.once, h.owned.freed⟩, .screen hscreen rfl⟩
  · rcases hget : offscreen_cache_get s bitmapId with _ | bitmap
    · exact absurd hget (hkeeps.resolve_left hscreen)
    · rw [if_neg hscreen]
      have hentry : s.entries bitmapId = some bitmap := by
        unfold offscreen_cache_get at hget
        split at hget
        · cases hget
        · exact hget
      exact ⟨h.size, ⟨h.owned.held, h.owned.once, h.owned.freed⟩, .bitmap bitmap hscreen hentry rfl⟩

theorem switch_surface_loses {bitmapId : Nat} (hkeeps : ¬ Keeps s (.switch_surface bitmapId)) :
    ¬ Live (update_gdi_switch_surface s bitmapId) := by
  obtain ⟨hscreen, hget⟩ := not_or.mp hkeeps
  have hnull : (update_gdi_switch_surface s bitmapId).drawing = .null := by
    unfold update_gdi_switch_surface gdi_Bitmap_SetSurface
    rw [if_neg hscreen, not_not.mp hget]
    rfl
  rintro (hprimary | ⟨_, _, -, -, hbitmap, -⟩)
  · rw [hnull] at hprimary
    cases hprimary
  · rw [hnull] at hbitmap
    cases hbitmap

/-- The state in front of the delete list. -/
def selected (s : Surfaces) (id : Nat) : Surfaces :=
  if s.currentSurface = id then { stored s id with drawing := .bitmap s.allocated }
  else stored s id

theorem create_eq (s : Surfaces) (id : Nat) (deleteList : List Nat) :
    update_gdi_create_offscreen_bitmap s id deleteList =
      deleteList.foldl offscreen_cache_delete (selected s id) := by
  show deleteList.foldl offscreen_cache_delete
    (if (stored s id).currentSurface = id then
      gdi_Bitmap_SetSurface (stored s id) (some s.allocated) false else stored s id) = _
  rw [(stored.frame s id).2.1]
  rfl

theorem selected.frame (s : Surfaces) (id : Nat) :
    (selected s id).maxEntries = s.maxEntries ∧
      (selected s id).currentSurface = s.currentSurface ∧
      (selected s id).entries = (stored s id).entries := by
  obtain ⟨hmax, hcurrent, -, -⟩ := stored.frame s id
  unfold selected
  split <;> exact ⟨hmax, hcurrent, rfl⟩

theorem selected.owned (h : Owned s) (id : Nat) : Owned (selected s id) := by
  obtain ⟨hheld, honce, hfreed⟩ := stored.owned h id
  unfold selected
  split <;> exact ⟨hheld, honce, hfreed⟩

theorem selected.current (h : Invariant s) (id : Nat)
    (hscreen : s.currentSurface ≠ SCREEN_BITMAP_SURFACE) :
    ∃ bitmap, (selected s id).entries s.currentSurface = some bitmap ∧
      (selected s id).drawing = .bitmap bitmap := by
  rcases h.tracks with ⟨hcurrent, -⟩ | ⟨bitmap, -, hentry, hdrawing⟩
  · exact absurd hcurrent hscreen
  rw [(selected.frame s id).2.2]
  unfold selected
  by_cases hsame : s.currentSurface = id
  · refine ⟨s.allocated, ?_, ?_⟩
    · subst hsame
      exact stored.entries_self (h.owned.held _ _ hentry).1
    · rw [if_pos hsame]
  · refine ⟨bitmap, ?_, ?_⟩
    · rw [stored.entries_of_ne s hsame, hentry]
    · rw [if_neg hsame, (stored.frame s id).2.2.1, hdrawing]

theorem selected.screen (h : Invariant s) (hscreen : s.currentSurface = SCREEN_BITMAP_SURFACE)
    (hid : id ≠ SCREEN_BITMAP_SURFACE) :
    (selected s id).drawing = .primary := by
  rcases h.tracks with ⟨-, hdrawing⟩ | ⟨bitmap, hne, -, -⟩
  · unfold selected
    rw [if_neg (hscreen ▸ hid.symm), (stored.frame s id).2.2.1, hdrawing]
  · exact absurd hscreen hne

theorem create_keeps (h : Invariant s) (hkeeps : Keeps s (.create_offscreen_bitmap id deleteList)) :
    Invariant (update_gdi_create_offscreen_bitmap s id deleteList) := by
  obtain ⟨hmax, hcurrent, hdrawing⟩ := deletes.frame _ deleteList
  obtain ⟨hmax', hcurrent', -⟩ := selected.frame s id
  rw [create_eq]
  refine ⟨by rw [hmax, hmax', h.size], deletes.owned (selected.owned h.owned id) deleteList, ?_⟩
  rw [Keeps] at hkeeps
  by_cases hscreen : s.currentSurface = SCREEN_BITMAP_SURFACE
  · rw [if_pos hscreen] at hkeeps
    apply Tracks.screen
    · rw [hcurrent, hcurrent', hscreen]
    · rw [hdrawing, selected.screen h hscreen hkeeps]
  · rw [if_neg hscreen] at hkeeps
    obtain ⟨bitmap, hentry, hbitmap⟩ := selected.current h id hscreen
    apply Tracks.bitmap bitmap
    · rwa [hcurrent, hcurrent']
    · rw [hcurrent, hcurrent', deletes.entries_of_not_mem _ hkeeps, hentry]
    · rw [hdrawing, hbitmap]

theorem create_loses (h : Invariant s)
    (hkeeps : ¬ Keeps s (.create_offscreen_bitmap id deleteList)) :
    ¬ Live (update_gdi_create_offscreen_bitmap s id deleteList) := by
  obtain ⟨-, -, hdrawing⟩ := deletes.frame (selected s id) deleteList
  rw [create_eq]
  rw [Keeps] at hkeeps
  by_cases hscreen : s.currentSurface = SCREEN_BITMAP_SURFACE
  · rw [if_pos hscreen, not_not] at hkeeps
    subst hkeeps
    have hnew : (selected s SCREEN_BITMAP_SURFACE).drawing = .bitmap s.allocated := by
      unfold selected
      rw [if_pos hscreen]
    rintro (hprimary | ⟨index, bitmap, -, hentry, hbitmap, -⟩)
    · rw [hdrawing, hnew] at hprimary
      cases hprimary
    · rw [hdrawing, hnew] at hbitmap
      cases hbitmap
      have hbefore := deletes.entries_inv hentry
      rw [(selected.frame s _).2.2] at hbefore
      exact stored.refused h.owned (by rw [h.size]; decide) index hbefore
  · rw [if_neg hscreen, not_not] at hkeeps
    obtain ⟨bitmap, hentry, hbitmap⟩ := selected.current h id hscreen
    have hin := ((selected.owned h.owned id).held _ _ hentry).1
    rintro (hprimary | ⟨index, other, -, -, hother, hfree⟩)
    · rw [hdrawing, hbitmap] at hprimary
      cases hprimary
    · rw [hdrawing, hbitmap] at hother
      cases hother
      exact hfree (deletes.freed hkeeps hin hentry)

/-! ## Runs -/

theorem step_keeps (h : Invariant s) {order : Order} (hkeeps : Keeps s order) :
    Invariant (step s order) := by
  cases order with
  | create_offscreen_bitmap id deleteList => exact create_keeps h hkeeps
  | switch_surface bitmapId => exact switch_surface_keeps h hkeeps

theorem step_loses (h : Invariant s) {order : Order} (hkeeps : ¬ Keeps s order) :
    ¬ Live (step s order) := by
  cases order with
  | create_offscreen_bitmap id deleteList => exact create_loses h hkeeps
  | switch_surface bitmapId => exact switch_surface_loses hkeeps

/-- Each order keeps a surface, in the state it comes in. -/
def AllKeep (s : Surfaces) : List Order → Prop
  | [] => True
  | order :: rest => Keeps s order ∧ AllKeep (step s order) rest

theorem states_live_iff (h : Invariant s) (orders : List Order) :
    (∀ s' ∈ states s orders, Live s') ↔ AllKeep s orders := by
  induction orders generalizing s with
  | nil => exact ⟨fun _ => trivial, fun _ s' hs' => absurd hs' not_mem_nil⟩
  | cons order rest ih =>
    unfold states AllKeep
    rw [forall_mem_cons]
    constructor
    · rintro ⟨hlive, hrest⟩
      have hkeeps : Keeps s order := by
        by_contra hloses
        exact step_loses h hloses hlive
      exact ⟨hkeeps, (ih (step_keeps h hkeeps)).mp hrest⟩
    · rintro ⟨hkeeps, hrest⟩
      have hstep := step_keeps h hkeeps
      exact ⟨hstep.live, (ih hstep).mpr hrest⟩

theorem invariant_new : Invariant offscreen_cache_new where
  size := rfl
  owned := by
    refine ⟨?_, ?_, ?_⟩
    · intro index bitmap h
      cases h
    · intro index index' bitmap h
      cases h
    · intro bitmap h
      cases h
  tracks := .screen rfl rfl

/-- The drawing surface is live after each order exactly if each order keeps a surface. -/
theorem surface_is_live_exactly_when_orders_keep_it (orders : List Order) :
    (∀ s ∈ states offscreen_cache_new orders, Live s) ↔ AllKeep offscreen_cache_new orders :=
  states_live_iff invariant_new orders

/-- The bitmap that is drawn on is deleted, the surface is switched to an empty slot, and a bitmap
is created under the id of the screen. -/
theorem surface_is_lost :
    (∃ s ∈ states offscreen_cache_new [.create_offscreen_bitmap 0 [], .switch_surface 0,
        .create_offscreen_bitmap 1 [0]], s.drawing = .bitmap 0 ∧ 0 ∈ s.freed ∧ ¬ Live s) ∧
      (∃ s ∈ states offscreen_cache_new [.switch_surface 5], s.drawing = .null ∧ ¬ Live s) ∧
      (∃ s ∈ states offscreen_cache_new [.create_offscreen_bitmap 0xFFFF []], ¬ Live s) := by
  have hswitch : Invariant (step (step offscreen_cache_new (.create_offscreen_bitmap 0 []))
      (.switch_surface 0)) := by
    refine step_keeps (step_keeps invariant_new ?_) (.inr ?_)
    · exact (by decide : (0 : Nat) ≠ SCREEN_BITMAP_SURFACE)
    · decide
  refine ⟨⟨_, .tail _ (.tail _ (.head _)), rfl, ?_, ?_⟩, ⟨_, .head _, rfl, ?_⟩, ⟨_, .head _, ?_⟩⟩
  · decide
  · exact step_loses hswitch fun hkeeps => hkeeps mem_cons_self
  · refine step_loses invariant_new (not_or.mpr ⟨?_, ?_⟩) <;> decide
  · exact step_loses invariant_new fun hkeeps => hkeeps rfl

end neutrinordp.offscreen
