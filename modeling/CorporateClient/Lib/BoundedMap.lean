-- Caches that own their objects: a put stores an object under a key, a get looks one up, and an
-- object that leaves the cache is freed. What such a cache is for, and the grids of slots it is
-- built of.
import Mathlib.Logic.Function.Basic
import Mathlib.Data.List.Perm.Basic

open List

namespace bounded

/-! ## The purpose of a cache -/

section Spec

variable {ρ κ α : Type} [DecidableEq κ]

/-- A request: store an object, or look one up. -/
inductive Op (ρ α : Type)
  | put (request : ρ) (object : α)
  | get (request : ρ)

/-- The objects handed to the puts. -/
def puts : List (Op ρ α) → List α
  | [] => []
  | .put _ object :: rest => object :: puts rest
  | .get _ :: rest => puts rest

/-- What is held under each key after the requests. -/
def held (key : ρ → κ) : (κ → Option α) → List (Op ρ α) → κ → Option α
  | before, [] => before
  | before, .put request object :: rest =>
    held key (Function.update before (key request) (some object)) rest
  | before, .get _ :: rest => held key before rest

/-- What the gets return: what was put last under that key. -/
def answers (key : ρ → κ) : (κ → Option α) → List (Op ρ α) → List (Option α)
  | _, [] => []
  | before, .put request object :: rest =>
    answers key (Function.update before (key request) (some object)) rest
  | before, .get request :: rest => before (key request) :: answers key before rest

end Spec

/-! ## Caches with that purpose -/

/-- A cache as its functions: `none` is an access outside the slots. A put also gives the objects
it frees, and `free` those that are freed with the cache. -/
structure Machine (ρ α S : Type) where
  get : S → ρ → Option (Option α)
  put : S → ρ → α → Option (S × List α)
  free : S → List α

namespace Machine

variable {ρ κ α S : Type} [DecidableEq κ]

/-- All requests in order: the cache, the answers and the freed objects. -/
def run (m : Machine ρ α S) : S → List (Op ρ α) → Option (S × List (Option α) × List α)
  | s, [] => some (s, [], [])
  | s, .get request :: rest => do
    let object ← m.get s request
    let (s', found, freed) ← m.run s rest
    return (s', object :: found, freed)
  | s, .put request object :: rest => do
    let (s₁, replaced) ← m.put s request object
    let (s', found, freed) ← m.run s₁ rest
    return (s', found, replaced ++ freed)

/-- The result of a put on a cache `s` that stands for the map `h`: the object is held under its
key, and what leaves the cache is freed. `Rep s h` says that the cache `s` stands for `h`. -/
def Puts (Rep : S → (κ → Option α) → Prop) (free : S → List α) (s : S) (h : κ → Option α)
    (key : κ) (object : α) (result : Option (S × List α)) : Prop :=
  ∃ s' replaced, result = some (s', replaced) ∧ Rep s' (Function.update h key (some object)) ∧
    (replaced ++ free s').Perm (object :: free s)

/-- For the requests in `Good` the functions do what they are for. -/
structure Lawful (m : Machine ρ α S) (key : ρ → κ) (Good : Op ρ α → Prop)
    (Rep : S → (κ → Option α) → Prop) : Prop where
  get : ∀ s h request, Rep s h → Good (.get request) → m.get s request = some (h (key request))
  put : ∀ s h request object, Rep s h → Good (.put request object) →
    Puts Rep m.free s h (key request) object (m.put s request object)

theorem Lawful.run {m : Machine ρ α S} {key : ρ → κ} {Good : Op ρ α → Prop}
    {Rep : S → (κ → Option α) → Prop} (hm : m.Lawful key Good Rep) (ops : List (Op ρ α)) (s : S)
    (h : κ → Option α) (hs : Rep s h) (hops : ∀ op ∈ ops, Good op) :
    ∃ s' freed, m.run s ops = some (s', answers key h ops, freed) ∧ Rep s' (held key h ops) ∧
      (freed ++ m.free s').Perm (puts ops ++ m.free s) := by
  induction ops generalizing s h with
  | nil => exact ⟨s, [], rfl, hs, .refl _⟩
  | cons op rest ih =>
    have hrest : ∀ op ∈ rest, Good op := (forall_mem_cons.mp hops).2
    have hop := hops op mem_cons_self
    cases op with
    | get request =>
      obtain ⟨s', freed, hrun, hrep, hfree⟩ := ih s h hs hrest
      refine ⟨s', freed, ?_, hrep, hfree⟩
      simp only [Machine.run, hm.get s h request hs hop, hrun, Option.bind_eq_bind,
        Option.bind_some]
      rfl
    | put request object =>
      obtain ⟨s1, replaced, hput, hrep1, hfree1⟩ := hm.put s h request object hs hop
      obtain ⟨s', freed, hrun, hrep, hfree⟩ := ih s1 _ hrep1 hrest
      refine ⟨s', replaced ++ freed, ?_, hrep, ?_⟩
      · simp only [Machine.run, hput, hrun, Option.bind_eq_bind, Option.bind_some]
        rfl
      · calc (replaced ++ freed ++ m.free s').Perm (replaced ++ (puts rest ++ m.free s1)) := by
              rw [append_assoc]
              exact hfree.append_left _
          _ |>.Perm (puts rest ++ (replaced ++ m.free s1)) := by
              rw [← append_assoc, ← append_assoc]
              exact perm_append_comm.append_right _
          _ |>.Perm (puts rest ++ (object :: m.free s)) := hfree1.append_left _
          _ |>.Perm (object :: puts rest ++ m.free s) := perm_middle

end Machine

/-! ## Slots -/

section Slots

variable {β α : Type}

theorem flatMap_set (f : β → List α) (l : List β) (i : Nat) (old new : β) (h : l[i]? = some old) :
    (f old ++ (l.set i new).flatMap f).Perm (f new ++ l.flatMap f) := by
  induction l generalizing i with
  | nil => cases h
  | cons x rest ih =>
    cases i with
    | zero =>
      obtain rfl : x = old := by simpa using h
      simp only [set_cons_zero, flatMap_cons, ← append_assoc]
      exact perm_append_comm.append_right _
    | succ i =>
      have hrest := ih i (by simpa using h)
      calc (f old ++ (f x ++ (rest.set i new).flatMap f)).Perm
            (f x ++ (f old ++ (rest.set i new).flatMap f)) := by
              rw [← append_assoc, ← append_assoc]
              exact perm_append_comm.append_right _
        _ |>.Perm (f x ++ (f new ++ rest.flatMap f)) := hrest.append_left _
        _ |>.Perm (f new ++ (f x ++ rest.flatMap f)) := by
              rw [← append_assoc, ← append_assoc]
              exact perm_append_comm.append_right _

variable {row : List (Option α)} {rows : List (List (Option α))} {j i : Nat}
    {old inner inner' : List α}

theorem exchange_nested {new outer outer' : List α} (hinner : (old ++ inner').Perm (new ++ inner))
    (houter : (inner ++ outer').Perm (inner' ++ outer)) :
    (old ++ outer').Perm (new ++ outer) := by
  apply (perm_append_left_iff inner).mp
  calc (inner ++ (old ++ outer')).Perm (old ++ (inner ++ outer')) := by
        rw [← append_assoc, ← append_assoc]
        exact perm_append_comm.append_right _
    _ |>.Perm (old ++ (inner' ++ outer)) := houter.append_left _
    _ |>.Perm (new ++ inner ++ outer) := by
        rw [← append_assoc]
        exact hinner.append_right _
    _ |>.Perm (inner ++ (new ++ outer)) := by
        rw [← append_assoc]
        exact perm_append_comm.append_right _

theorem exchange_left {x : α} (h : (old ++ inner').Perm (x :: inner)) (behind : List α) :
    (old ++ (inner' ++ behind)).Perm (x :: (inner ++ behind)) := by
  rw [← append_assoc]
  exact h.append_right behind

theorem exchange_right {x : α} (h : (old ++ inner').Perm (x :: inner)) (before : List α) :
    (old ++ (before ++ inner')).Perm (x :: (before ++ inner)) :=
  ((perm_append_comm_assoc _ _ _).trans (h.append_left before)).trans perm_middle

/-- The object in a slot of some rows of slots. -/
def slot (rows : List (List (Option α))) (i j : Nat) : Option α :=
  ((rows[i]?).bind (·[j]?)).join

theorem slot_eq {x : Option α} (hrow : rows[i]? = some row) (hx : row[j]? = some x) :
    slot rows i j = x := by
  simp [slot, hrow, hx]

theorem slot_set_self (hrow : rows[i]? = some row) (hj : j < row.length) (x : α) :
    slot (rows.set i (row.set j (some x))) i j = some x := by
  have hi : i < rows.length := (List.getElem?_eq_some_iff.mp hrow).1
  apply slot_eq (List.getElem?_set_self hi)
  exact List.getElem?_set_self hj

theorem slot_set_other {i' j' : Nat} (hrow : rows[i]? = some row) (h : (i', j') ≠ (i, j))
    (x : Option α) :
    slot (rows.set i (row.set j x)) i' j' = slot rows i' j' := by
  unfold slot
  by_cases hi : i = i'
  · subst hi
    have hj : j ≠ j' := fun hj => h (by rw [hj])
    have hlt : i < rows.length := (List.getElem?_eq_some_iff.mp hrow).1
    rw [List.getElem?_set_self hlt, hrow, Option.bind_some, Option.bind_some,
      List.getElem?_set_ne hj]
  · rw [List.getElem?_set_ne hi]

/-- The rows stand for the map: an object is in the place of its key, and a key without a place
has none. -/
def Stands {κ : Type} (place : κ → Option (Nat × Nat)) (rows : List (List (Option α)))
    (h : κ → Option α) : Prop :=
  ∀ k, h k = (place k).bind fun p => slot rows p.1 p.2

/-- Different keys have different places. -/
def Apart {κ : Type} (place : κ → Option (Nat × Nat)) : Prop :=
  ∀ k k' p, place k = some p → place k' = some p → k = k'

theorem Stands.set {κ : Type} [DecidableEq κ] {place : κ → Option (Nat × Nat)}
    (hplace : Apart place) {h : κ → Option α} (hs : Stands place rows h) {k : κ}
    (hk : place k = some (i, j)) (hrow : rows[i]? = some row) (hj : j < row.length) (x : α) :
    Stands place (rows.set i (row.set j (some x))) (Function.update h k (some x)) := by
  intro k'
  by_cases hsame : k' = k
  · subst hsame
    rw [Function.update_self, hk, Option.bind_some, slot_set_self hrow hj]
  · rw [Function.update_of_ne hsame, hs k']
    rcases hk' : place k' with _ | ⟨i', j'⟩
    · rfl
    · have hother : (i', j') ≠ (i, j) := by
        intro heq
        rw [heq] at hk'
        exact hsame (hplace k' k _ hk' hk)
      rw [Option.bind_some, Option.bind_some, slot_set_other hrow hother]

theorem Stands.empty {κ : Type} (place : κ → Option (Nat × Nat))
    (hrows : ∀ row ∈ rows, ∀ x ∈ row, x = none) : Stands place rows fun _ => none := by
  intro k
  rcases place k with _ | ⟨i, j⟩
  · rfl
  show none = slot rows i j
  unfold slot
  rcases hrow : rows[i]? with _ | row
  · rfl
  rw [Option.bind_some]
  rcases hx : row[j]? with _ | x
  · rfl
  · rw [hrows row (mem_of_getElem? hrow) x (mem_of_getElem? hx)]
    rfl

/-- The objects in some slots. -/
def objects (row : List (Option α)) : List α := row.flatMap Option.toList

theorem objects_set {old : Option α} (h : row[j]? = some old) (x : α) :
    (old.toList ++ objects (row.set j (some x))).Perm (x :: objects row) :=
  flatMap_set Option.toList row j old (some x) h

theorem objects_of_empty (h : ∀ x ∈ row, x = none) : objects row = [] := by
  apply flatMap_eq_nil_iff.mpr
  intro x hx
  rw [h x hx]
  rfl

end Slots

end bounded
