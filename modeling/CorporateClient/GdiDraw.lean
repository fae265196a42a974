-- What the drawing loops do to a bitmap: each operation rewrites the pixels of its rectangle, and
-- what a pixel becomes depends on the place in the rectangle, the pixel of the source and the pixel
-- that was there.
import CorporateClient.Gdi

open raster

namespace neutrinordp.gdi

/-! ## Memory -/

theorem withData_same (m : Memory) (id : Nat) (data : Nat → UInt32) :
    withData m id data id = { m id with data := data } :=
  Function.update_self _ _ _

variable {m : Memory} {c : Coords} {dst dstp id p src srcp : Nat} {hdcDest hdc hdcSrc : GDI_DC}
    {hBmp : GDI_BITMAP} {n : Int} {g : Nat → Nat → UInt32 → UInt32}

theorem withData_other (m : Memory) {id' : Nat} (h : id' ≠ id) (data : Nat → UInt32) :
    withData m id data id' = m id' :=
  Function.update_of_ne h _ _

theorem withData_withData (m : Memory) (id : Nat) (data data' : Nat → UInt32) :
    withData (withData m id data) id data' = withData m id data' := by
  have hsame := withData_same m id data
  unfold withData at hsame ⊢
  rw [hsame, Function.update_idem]

theorem withData_self (m : Memory) (id : Nat) : withData m id (m id).data = m :=
  Function.update_eq_self id m

theorem size_withData (m : Memory) (id id' : Nat) (data : Nat → UInt32) :
    (withData m id data id').size = (m id').size := by
  by_cases h : id' = id
  · subst h
    rw [withData_same]
    rfl
  · rw [withData_other m h]

theorem pointer_withData (m : Memory) (id id' : Nat) (data : Nat → UInt32) (x y : Int) :
    gdi_get_bitmap_pointer (withData m id data id') x y = gdi_get_bitmap_pointer (m id') x y := by
  by_cases h : id' = id
  · subst h
    rw [withData_same]
    rfl
  · rw [withData_other m h]

theorem store.spec (data : Nat → UInt32) (h : p < (m id).size) (v : UInt32) :
    store (withData m id data) id p v = some (withData m id (Function.update data p v)) := by
  unfold store
  rw [if_pos (by rwa [size_withData]), withData_withData, withData_same]

theorem load_same (data : Nat → UInt32) (h : p < (m id).size) :
    load (withData m id data) id p = some (data p) := by
  unfold load
  rw [if_pos (by rwa [size_withData]), withData_same]

theorem load_other {id' : Nat} (data : Nat → UInt32) (hne : id' ≠ id) (h : p < (m id').size) :
    load (withData m id data) id' p = some ((m id').data p) := by
  unfold load
  rw [if_pos (by rwa [size_withData]), withData_other m hne]

/-! ## Rows -/

theorem src_row.spec (hne : src ≠ dst) (data : Nat → UInt32) (hdst : dstp + n.toNat ≤ (m dst).size)
    (hsrc : srcp + n.toNat ≤ (m src).size) {f : Nat → UInt32 → UInt32 → Option UInt32}
    {g : Nat → UInt32 → UInt32 → UInt32} (hf : ∀ x s d, f x s d = some (g x s d)) :
    src_row (withData m dst data) dst dstp src (some srcp) n f =
      some (withData m dst
        (setRange data dstp n.toNat fun j => g j ((m src).data (srcp + j)))) := by
  have hloop := foldlM_range
    (fun m x => do
      let srcp ← some srcp
      let s ← load m src (srcp + x)
      let d ← load m dst (dstp + x)
      let v ← f x s d
      store m dst (dstp + x) v)
    (fun k => withData m dst (setRange data dstp k fun j => g j ((m src).data (srcp + j))))
    n.toNat ?_
  · rw [setRange_zero] at hloop
    exact hloop
  · intro k hk
    have hd : dstp + k < (m dst).size := by omega
    have hs : srcp + k < (m src).size := by omega
    simp [load_other _ hne hs, load_same _ hd, hf, setRange_next, setRange_succ, store.spec _ hd]

theorem dst_row.spec (data : Nat → UInt32) (hdst : dstp + n.toNat ≤ (m dst).size)
    {f : Nat → UInt32 → Option UInt32} {g : Nat → UInt32 → UInt32}
    (hf : ∀ x d, f x d = some (g x d)) :
    dst_row (withData m dst data) dst dstp n f =
      some (withData m dst (setRange data dstp n.toNat g)) := by
  have hloop := foldlM_range
    (fun m x => do
      let d ← load m dst (dstp + x)
      let v ← f x d
      store m dst (dstp + x) v)
    (fun k => withData m dst (setRange data dstp k g)) n.toNat ?_
  · rw [setRange_zero] at hloop
    exact hloop
  · intro k hk
    have hd : dstp + k < (m dst).size := by omega
    simp [load_same _ hd, hf, setRange_next, setRange_succ, store.spec _ hd]

theorem memset.spec (hn : 0 ≤ n) (data : Nat → UInt32) (hdst : dstp + n.toNat ≤ (m dst).size)
    (v : UInt32) :
    memset (withData m dst data) dst dstp v n =
      some (withData m dst (setRange data dstp n.toNat fun _ _ => v)) := by
  unfold memset
  rw [size_withData, if_pos ⟨hn, hdst⟩, withData_withData, withData_same]

theorem memcpy_other (hn : 0 ≤ n) (hne : src ≠ dst) (data : Nat → UInt32)
    (hdst : dstp + n.toNat ≤ (m dst).size) (hsrc : srcp + n.toNat ≤ (m src).size) :
    memcpy (withData m dst data) dst dstp src srcp n =
      some (withData m dst
        (setRange data dstp n.toNat fun j _ => (m src).data (srcp + j))) := by
  unfold memcpy copied
  rw [if_neg (fun h => hne h.1.symm), if_neg hne.symm, size_withData, size_withData,
    if_pos ⟨hn, hdst, hsrc⟩, withData_withData, withData_same, withData_other m hne]

theorem memset_nothing (hdst : dstp < (m dst).size) (v : UInt32) :
    memset m dst dstp v 0 = some m := by
  unfold memset
  rw [if_pos ⟨Int.le_refl 0, Nat.le_of_lt hdst⟩]
  show some (withData m dst (setRange (m dst).data dstp 0 fun _ _ => v)) = some m
  rw [setRange_zero, withData_self]

theorem memcpy_nothing (hdst : dstp < (m dst).size) (hsrc : srcp < (m src).size) :
    memcpy m dst dstp src srcp 0 = some m := by
  have hfar : ¬ (dst = src ∧ dstp < srcp + (0 : Int).toNat ∧ srcp < dstp + (0 : Int).toNat) := by
    rintro ⟨-, h, h'⟩
    exact absurd (Nat.lt_trans h h') (Nat.lt_irrefl _)
  have hcopy : copyRange (m dst).data dstp srcp 0 = (m dst).data := by
    funext i
    exact if_neg (by omega)
  unfold memcpy copied
  rw [if_neg hfar, if_pos ⟨Int.le_refl 0, Nat.le_of_lt hdst, Nat.le_of_lt hsrc⟩]
  show some (withData m dst (if dst = src then copyRange (m dst).data dstp srcp 0
    else setRange (m dst).data dstp 0 fun j _ => (m src).data (srcp + j))) = some m
  rw [hcopy, setRange_zero, ite_self, withData_self]

/-! ## Rectangles -/

theorem pointer_lt {x y : Int} (h : gdi_get_bitmap_pointer hBmp x y = some p) : p < hBmp.size := by
  unfold gdi_get_bitmap_pointer at h
  split at h
  · cases h
    exact cell_lt (by omega) (by omega)
  · cases h

/-- The rectangle is inside the bitmap. -/
structure Inside (hBmp : GDI_BITMAP) (x y w h : Int) : Prop where
  left : 0 ≤ x
  top : 0 ≤ y
  width : 0 ≤ w
  height : 0 ≤ h
  right : x + w ≤ hBmp.width
  bottom : y + h ≤ hBmp.height

theorem Inside.pointer {x y w h : Int} (hin : Inside hBmp x y w h) {k : Nat} (hk : k < h.toNat)
    (hw : 0 < w.toNat) :
    gdi_get_bitmap_pointer hBmp x (y + k) =
        some ((y.toNat + k) * hBmp.width + x.toNat) ∧
      (y.toNat + k) * hBmp.width + x.toNat + w.toNat ≤ hBmp.size := by
  obtain ⟨hleft, htop, hwidth, hheight, hright, hbottom⟩ := hin
  constructor
  · unfold gdi_get_bitmap_pointer
    have hrow : (y + k).toNat = y.toNat + k := by omega
    rw [if_pos (by omega), hrow]
  · have hlast : x.toNat + w.toNat - 1 < hBmp.width := by omega
    have hrow : y.toNat + k < hBmp.height := by omega
    have := cell_lt hlast hrow
    unfold GDI_BITMAP.size
    omega

theorem rows_down.spec {x y w : Nat} (hx : x + w ≤ (m dst).width) (h : Int)
    {row : Memory → Nat → Option Memory}
    (hrow : ∀ k < h.toNat, ∀ data, row (withData m dst data) k =
      some (withData m dst (setRange data ((y + k) * (m dst).width + x) w fun j => g j k))) :
    rows_down h row m =
      some (withData m dst (paint (m dst).width x y w h.toNat g (m dst).data)) := by
  have hloop := foldlM_range row
    (fun k => withData m dst (paint (m dst).width x y w k g (m dst).data)) h.toNat ?_
  · rw [paint_zero, withData_self] at hloop
    exact hloop
  · intro k hk
    rw [hrow k hk, paint_succ hx]

/-- What an operation does that turns the pixel `d` at column `j` and row `k` of the rectangle into
`g j k d`. -/
def painted (m : Memory) (dst : Nat) (c : Coords) (g : Nat → Nat → UInt32 → UInt32) : Memory :=
  withData m dst
    (paint (m dst).width c.x.toNat c.y.toNat c.w.toNat c.h.toNat g (m dst).data)

theorem loop_spec (hin : Inside (m dst) c.x c.y c.w c.h) {row : Memory → Nat → Option Memory}
    (hempty : c.w.toNat = 0 → ∀ m k, row m k = some m)
    (hrow : 0 < c.w.toNat → ∀ k < c.h.toNat, ∀ data, row (withData m dst data) k =
      some (withData m dst (setRange data ((c.y.toNat + k) * (m dst).width + c.x.toNat) c.w.toNat
        fun j => g j k))) :
    rows_down c.h row m = some (painted m dst c g) := by
  obtain ⟨hleft, -, hwidth, -, hright, -⟩ := hin
  apply rows_down.spec (by omega)
  intro k hk data
  by_cases hw : c.w.toNat = 0
  · rw [hempty hw, hw, setRange_zero]
  · exact hrow (by omega) k hk data

theorem dst_loop.spec (hin : Inside (m hdcDest.selectedObject) c.x c.y c.w c.h)
    {f : Nat → Nat → UInt32 → Option UInt32} (hf : ∀ x y d, f x y d = some (g x y d)) :
    dst_loop m hdcDest c f = some (painted m hdcDest.selectedObject c g) := by
  apply loop_spec hin
  · intro hw m k
    split
    · unfold dst_row
      rw [hw]
      rfl
    · rfl
  · intro hw k hk data
    obtain ⟨hpointer, hroom⟩ := hin.pointer hk hw
    rw [pointer_withData, hpointer]
    exact dst_row.spec data hroom fun x d => hf x k d

theorem memset_loop.spec (hin : Inside (m hdcDest.selectedObject) c.x c.y c.w c.h) (v : UInt32) :
    memset_loop m hdcDest c v = some (painted m hdcDest.selectedObject c fun _ _ _ => v) := by
  apply loop_spec hin
  · intro hw m k
    have hzero : c.w = 0 := by
      have := hin.width
      omega
    split
    · rename_i dstp hdstp
      rw [hzero]
      exact memset_nothing (pointer_lt hdstp) v
    · rfl
  · intro hw k hk data
    obtain ⟨hpointer, hroom⟩ := hin.pointer hk hw
    rw [pointer_withData, hpointer]
    exact memset.spec hin.width data hroom v

def GDI_BITMAP.pixel (hBmp : GDI_BITMAP) (x y : Nat) : UInt32 := hBmp.data (y * hBmp.width + x)

/-- The pixel of the source for a place in the rectangle. -/
def sourcePixel (m : Memory) (hdcSrc : GDI_DC) (c : Coords) (j k : Nat) : UInt32 :=
  (m hdcSrc.selectedObject).pixel (c.srcx.toNat + j) (c.srcy.toNat + k)

section

variable (hne : hdcSrc.selectedObject ≠ hdcDest.selectedObject)
  (hin : Inside (m hdcDest.selectedObject) c.x c.y c.w c.h)
  (hsrc : Inside (m hdcSrc.selectedObject) c.srcx c.srcy c.w c.h)

include hne hin hsrc

theorem src_loop.spec {f : Nat → Nat → UInt32 → UInt32 → Option UInt32}
    {g : Nat → Nat → UInt32 → UInt32 → UInt32}
    (hf : ∀ x y s d, f x y s d = some (g x y s d)) :
    src_loop m hdcDest hdcSrc c f = some (painted m hdcDest.selectedObject c
      fun j k => g j k (sourcePixel m hdcSrc c j k)) := by
  apply loop_spec hin
  · intro hw m k
    split
    · unfold src_row
      rw [hw]
      rfl
    · rfl
  · intro hw k hk data
    obtain ⟨hpointer, hroom⟩ := hin.pointer hk hw
    obtain ⟨hpointer', hroom'⟩ := hsrc.pointer hk hw
    simp only [pointer_withData, hpointer, hpointer']
    have hrow := src_row.spec hne data hroom hroom' fun x s d => hf x k s d
    simp only [Nat.add_assoc] at hrow ⊢
    exact hrow

theorem copy_loop_spec :
    BitBlt_SRCCOPY m hdcDest hdcSrc c = some (painted m hdcDest.selectedObject c
      fun j k _ => sourcePixel m hdcSrc c j k) := by
  unfold BitBlt_SRCCOPY
  rw [if_pos (.inl hne.symm)]
  apply loop_spec hin
  · intro hw m k
    have hzero : c.w = 0 := by
      have := hin.width
      omega
    unfold copy_row
    split
    · rename_i srcp dstp hsrcp hdstp
      rw [hzero]
      exact memcpy_nothing (pointer_lt hdstp) (pointer_lt hsrcp)
    · rfl
  · intro hw k hk data
    obtain ⟨hpointer, hroom⟩ := hin.pointer hk hw
    obtain ⟨hpointer', hroom'⟩ := hsrc.pointer hk hw
    unfold copy_row
    simp only [pointer_withData, hpointer, hpointer']
    have hrow := memcpy_other hin.width hne data hroom hroom'
    simp only [Nat.add_assoc] at hrow ⊢
    exact hrow

end

/-! ## Clipping -/

/-- The part of an operation inside a rectangle. -/
def clipped (clip : GDI_RECT) (c : Coords) : Coords where
  x := max c.x clip.left
  y := max c.y clip.top
  w := min (c.x + c.w - 1) clip.right - max c.x clip.left + 1
  h := min (c.y + c.h - 1) clip.bottom - max c.y clip.top + 1
  srcx := c.srcx + (max c.x clip.left - c.x)
  srcy := c.srcy + (max c.y clip.top - c.y)

/-- The operation meets the rectangle. -/
def Meets (clip : GDI_RECT) (c : Coords) : Prop :=
  c.x + c.w - 1 ≥ clip.left ∧ c.x ≤ clip.right ∧ c.y + c.h - 1 ≥ clip.top ∧ c.y ≤ clip.bottom

theorem gdi_ClipCoords_of_meets (h : Meets (clip_rect hBmp hdc) c) :
    gdi_ClipCoords hBmp hdc c = (true, clipped (clip_rect hBmp hdc) c) := by
  unfold gdi_ClipCoords
  generalize clip_rect hBmp hdc = clip at h ⊢
  refine (if_pos h).trans ?_
  simp only [gdi_CRgnToRect, gdi_RectToCRgn, clipped, Prod.mk.injEq, Coords.mk.injEq, true_and]
  refine ⟨?_, ?_, ?_, ?_, ?_, ?_⟩ <;> omega

theorem gdi_ClipCoords_of_not_meets (h : ¬ Meets (clip_rect hBmp hdc) c) :
    (gdi_ClipCoords hBmp hdc c).1 = false :=
  congrArg Prod.fst (if_neg h)

theorem clip_rect_of_null (hBmp : GDI_BITMAP) (h : hdc.clip.null = true) :
    clip_rect hBmp hdc = gdi_CRgnToRect 0 0 hBmp.width hBmp.height :=
  if_pos h

theorem gdi_ClipCoords_inside (hclip : hdc.clip.null = true) (hin : Inside hBmp c.x c.y c.w c.h) :
    gdi_ClipCoords hBmp hdc c = (true, c) ∨
      (gdi_ClipCoords hBmp hdc c).1 = false ∧ (c.w = 0 ∨ c.h = 0) := by
  obtain ⟨hleft, htop, hwidth, hheight, hright, hbottom⟩ := hin
  have hrect := clip_rect_of_null hBmp hclip
  by_cases hmeets : Meets (clip_rect hBmp hdc) c
  · left
    rw [gdi_ClipCoords_of_meets hmeets, hrect]
    rcases c with ⟨x, y, w, h, srcx, srcy⟩
    dsimp only at hleft htop hright hbottom
    simp only [clipped, gdi_CRgnToRect, Prod.mk.injEq, Coords.mk.injEq, true_and]
    refine ⟨?_, ?_, ?_, ?_, ?_, ?_⟩ <;> omega
  · right
    refine ⟨gdi_ClipCoords_of_not_meets hmeets, ?_⟩
    rw [hrect] at hmeets
    unfold Meets gdi_CRgnToRect at hmeets
    dsimp only at hmeets
    omega

/-! ## The operations -/

/-- A pattern has pixels. -/
def BrushOk (hdc : GDI_DC) : Prop :=
  hdc.brush.style = .PATTERN → hdc.brush.pattern.width ≠ 0 ∧ hdc.brush.pattern.height ≠ 0

/-- What the operations take for the brush that ask for a pointer. -/
def brushPixel (hdc : GDI_DC) (x y : Nat) : UInt32 :=
  if hdc.brush.style = .PATTERN then
    hdc.brush.pattern.pixel (x % hdc.brush.pattern.width) (y % hdc.brush.pattern.height)
  else hdc.textColor

theorem gdi_get_brush_pointer.spec (h : BrushOk hdc) (x y : Nat) :
    gdi_get_brush_pointer hdc x y = some (brushPixel hdc x y) := by
  unfold gdi_get_brush_pointer brushPixel
  by_cases hpattern : hdc.brush.style = .PATTERN
  · obtain ⟨hwidth, hheight⟩ := h hpattern
    rw [if_pos hpattern, if_pos hpattern]
    exact if_neg (not_or.mpr ⟨hwidth, hheight⟩)
  · rw [if_neg hpattern, if_neg hpattern]

/-- What a pixel becomes: `s` is the pixel of the source and `d` the one that is there. -/
def ropPixel (hdcDest hdcSrc : GDI_DC) (rop : Rop) (x y : Nat) (s d : UInt32) : UInt32 :=
  let p := brushPixel hdcDest x y
  let solid := gdi_get_color_32bpp hdcDest hdcDest.brush.color
  match rop with
  | .BLACKNESS => if hdcDest.alpha then 0xFF000000 else 0
  | .WHITENESS => 0xFFFFFFFF
  | .SRCCOPY => s
  | .NOTSRCCOPY => ~~~s
  | .DSTINVERT => ~~~d
  | .SRCERASE => s &&& ~~~d
  | .NOTSRCERASE => ~~~s &&& ~~~d
  | .SRCINVERT => d ^^^ s
  | .SRCAND => d &&& s
  | .SRCPAINT => d ||| s
  | .DSPDxax =>
    if hdcSrc.bytesPerPixel ≠ 1 then d
    else
      let color32 := gdi_get_color_32bpp hdcDest hdcDest.textColor
      let s := s &&& 0xFF
      let s := s ||| (s <<< 8) ||| (s <<< 16)
      (s &&& color32) ||| (~~~s &&& d)
  | .SPna => s &&& ~~~p
  | .DSna => ~~~s &&& d
  | .PDxn => d ^^^ ~~~p
  | .MERGECOPY => s &&& p
  | .MERGEPAINT => ~~~s ||| d
  | .PATCOPY => if hdcDest.brush.style = .SOLID then solid else p
  | .PATINVERT => if hdcDest.brush.style = .SOLID then d ^^^ solid else p ^^^ d
  | .PATPAINT => d ||| (p ||| ~~~s)

theorem painted_id (m : Memory) (dst : Nat) (c : Coords) :
    painted m dst c (fun _ _ d => d) = m := by
  have hsame : paint (m dst).width c.x.toNat c.y.toNat c.w.toNat c.h.toNat (fun _ _ d => d)
      (m dst).data = (m dst).data := by
    funext i
    unfold paint
    split <;> rfl
  unfold painted
  rw [hsame, withData_self]

theorem PatBlt_draws {rop : Rop} {blt : Memory → GDI_DC → Coords → Option Memory}
    (hrop : PatBlt_switch rop = some blt ∨ BitBlt_switch rop = some (.dst blt))
    (hbrush : BrushOk hdcDest) (hin : Inside (m hdcDest.selectedObject) c.x c.y c.w c.h)
    (hdcSrc : GDI_DC) (source : Nat → Nat → UInt32) :
    blt m hdcDest c = some (painted m hdcDest.selectedObject c
      fun j k => ropPixel hdcDest hdcSrc rop j k (source j k)) := by
  have hpat := gdi_get_brush_pointer.spec hbrush
  rcases hrop with hrop | hrop <;> cases rop <;> cases hrop
  case inl.PATCOPY | inr.PATCOPY | inl.PATINVERT | inr.PATINVERT =>
    first | unfold BitBlt_PATCOPY_32bpp | unfold BitBlt_PATINVERT_32bpp
    by_cases hsolid : hdcDest.brush.style = .SOLID
    · rw [if_pos hsolid]
      apply dst_loop.spec hin
      intro x y d
      simp only [ropPixel, if_pos hsolid]
    · rw [if_neg hsolid]
      apply dst_loop.spec hin
      intro x y d
      simp only [ropPixel, if_neg hsolid, hpat x y] <;> rfl
  case inl.DSTINVERT | inr.DSTINVERT => exact dst_loop.spec hin fun _ _ _ => rfl
  case inl.BLACKNESS | inr.BLACKNESS =>
    unfold BitBlt_BLACKNESS_32bpp
    by_cases halpha : hdcDest.alpha
    · rw [if_pos halpha]
      apply dst_loop.spec hin
      intro x y d
      simp only [ropPixel, if_pos halpha]
    · have hblack : (fun j k => ropPixel hdcDest hdcSrc .BLACKNESS j k (source j k)) =
          fun _ _ _ => 0 := by
        funext j k d
        simp only [ropPixel, if_neg halpha]
      rw [if_neg halpha, hblack]
      exact memset_loop.spec hin 0
  case inl.WHITENESS | inr.WHITENESS => exact memset_loop.spec hin 0xFFFFFFFF
  case inl.PDxn =>
    apply dst_loop.spec hin
    intro x y d
    rw [hpat x y]
    rfl

theorem BitBlt_draws {rop : Rop} {blt : Memory → GDI_DC → GDI_DC → Coords → Option Memory}
    (hrop : BitBlt_switch rop = some (.src blt)) (hbrush : BrushOk hdcDest)
    (hne : hdcSrc.selectedObject ≠ hdcDest.selectedObject)
    (hin : Inside (m hdcDest.selectedObject) c.x c.y c.w c.h)
    (hsrc : Inside (m hdcSrc.selectedObject) c.srcx c.srcy c.w c.h) :
    blt m hdcDest hdcSrc c = some (painted m hdcDest.selectedObject c
      fun j k => ropPixel hdcDest hdcSrc rop j k (sourcePixel m hdcSrc c j k)) := by
  have hpat := gdi_get_brush_pointer.spec hbrush
  cases rop <;> cases hrop
  case SRCCOPY => exact copy_loop_spec hne hin hsrc
  case DSPDxax =>
    unfold BitBlt_DSPDxax_32bpp
    by_cases hglyph : hdcSrc.bytesPerPixel ≠ 1
    · have hsame : (fun j k => ropPixel hdcDest hdcSrc .DSPDxax j k (sourcePixel m hdcSrc c j k)) =
          fun _ _ d => d := by
        funext j k d
        simp only [ropPixel, if_pos hglyph]
      rw [if_pos hglyph, hsame, painted_id]
    · rw [if_neg hglyph]
      apply src_loop.spec hne hin hsrc
      intro x y s d
      simp only [ropPixel, if_neg hglyph]
  case SPna | MERGECOPY | PATPAINT =>
    apply src_loop.spec hne hin hsrc
    intro x y s d
    rw [hpat x y]
    rfl
  all_goals exact src_loop.spec hne hin hsrc fun _ _ _ _ => rfl

end neutrinordp.gdi
