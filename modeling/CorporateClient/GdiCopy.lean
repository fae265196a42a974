-- Copies inside one bitmap, as the ScrBlt orders make them: they are right for every content unless
-- the two rectangles share just one column or one row of pixels and the source is not below.
import CorporateClient.GdiClip

open List raster

namespace neutrinordp.gdi

/-! ## One row -/

theorem memmove_same {m : Memory} {id dstp srcp : Nat} {n : Int} (hn : 0 ≤ n) (data : Nat → UInt32)
    (hdst : dstp + n.toNat ≤ (m id).size) (hsrc : srcp + n.toNat ≤ (m id).size) :
    memmove (withData m id data) id dstp id srcp n =
      some (withData m id (copyRange data dstp srcp n.toNat)) := by
  unfold memmove copied
  rw [size_withData, if_pos ⟨hn, hdst, hsrc⟩, if_pos rfl, withData_withData, withData_same]

theorem memcpy_apart {m : Memory} {id dstp srcp : Nat} {n : Int}
    (hapart : ¬ (dstp < srcp + n.toNat ∧ srcp < dstp + n.toNat)) :
    memcpy m id dstp id srcp n = memmove m id dstp id srcp n :=
  if_neg fun h => hapart h.2

section

variable {m : Memory} {hdcDest hdcSrc : GDI_DC} {c : Coords}
  (hsame : hdcSrc.selectedObject = hdcDest.selectedObject)
  (hdst : Inside (m hdcDest.selectedObject) c.x c.y c.w c.h)
  (hsrc : Inside (m hdcDest.selectedObject) c.srcx c.srcy c.w c.h) (hw : 0 < c.w)

include hsame hdst hsrc hw

theorem memmove_row {k : Nat} (hk : k < c.h.toNat) (data : Nat → UInt32) :
    copy_row memmove hdcDest hdcSrc c (withData m hdcDest.selectedObject data) k =
      some (withData m hdcDest.selectedObject (copyRange data
        ((c.y.toNat + k) * (m hdcDest.selectedObject).width + c.x.toNat)
        ((c.srcy.toNat + k) * (m hdcDest.selectedObject).width + c.srcx.toNat) c.w.toNat)) := by
  obtain ⟨hdstp, hroom⟩ := hdst.pointer hk (by omega)
  obtain ⟨hsrcp, hroom'⟩ := hsrc.pointer hk (by omega)
  unfold copy_row
  simp only [hsame, pointer_withData, hdstp, hsrcp]
  exact memmove_same (by omega) data hroom hroom'

theorem memcpy_row {k : Nat} (hk : k < c.h.toNat)
    (hclear : Clear c.x.toNat c.y.toNat c.srcx.toNat c.srcy.toNat c.w.toNat k k)
    (data : Nat → UInt32) :
    copy_row memcpy hdcDest hdcSrc c (withData m hdcDest.selectedObject data) k =
      copy_row memmove hdcDest hdcSrc c (withData m hdcDest.selectedObject data) k := by
  obtain ⟨hdstp, -⟩ := hdst.pointer hk (by omega)
  obtain ⟨hsrcp, -⟩ := hsrc.pointer hk (by omega)
  have hright := hdst.right
  have hright' := hsrc.right
  have hleft' := hsrc.left
  unfold copy_row
  simp only [hsame, pointer_withData, hdstp, hsrcp]
  exact memcpy_apart (rows_apart (by omega) (by omega) hclear)

theorem memcpy_row_undefined (hy : c.srcy = c.y) (hleft : c.x < c.srcx + c.w)
    (hright : c.srcx < c.x + c.w) {k : Nat} (hk : k < c.h.toNat) :
    copy_row memcpy hdcDest hdcSrc c m k = none := by
  obtain ⟨hdstp, -⟩ := hdst.pointer hk (by omega)
  obtain ⟨hsrcp, -⟩ := hsrc.pointer hk (by omega)
  unfold copy_row
  simp only [hsame, hdstp, hsrcp]
  apply if_pos
  rw [hy]
  exact ⟨rfl, by omega, by omega⟩

omit hsame hdst hsrc hw

/-! ## All rows -/

theorem copy_rows_spec {m : Memory} {hdcDest hdcSrc : GDI_DC} {c : Coords}
    {copy : Memory → Nat → Nat → Nat → Nat → Int → Option Memory} {rows : List Nat}
    (hrow : ∀ k ∈ rows, ∀ data,
      copy_row copy hdcDest hdcSrc c (withData m hdcDest.selectedObject data) k =
        some (withData m hdcDest.selectedObject (copyRange data
          ((c.y.toNat + k) * (m hdcDest.selectedObject).width + c.x.toNat)
          ((c.srcy.toNat + k) * (m hdcDest.selectedObject).width + c.srcx.toNat) c.w.toNat)))
    (data : Nat → UInt32) :
    rows.foldlM (copy_row copy hdcDest hdcSrc c) (withData m hdcDest.selectedObject data) =
      some (withData m hdcDest.selectedObject (copyRows (m hdcDest.selectedObject).width c.x.toNat
        c.y.toNat c.srcx.toNat c.srcy.toNat c.w.toNat data rows)) := by
  induction rows generalizing data with
  | nil => rfl
  | cons k rows ih =>
    rw [foldlM_cons, hrow k mem_cons_self]
    exact ih (forall_mem_cons.mp hrow).2 _

/-- The copy behaves as if all of the source were read first. -/
def AtOnce (blt : Memory → GDI_DC → GDI_DC → Coords → Option Memory) (m : Memory)
    (hdcDest hdcSrc : GDI_DC) (c : Coords) : Prop :=
  ∃ m', blt m hdcDest hdcSrc c = some m' ∧ (∀ id ≠ hdcDest.selectedObject, m' id = m id) ∧
    SameSizes m' m ∧
    ∀ x < (m hdcDest.selectedObject).width, ∀ y < (m hdcDest.selectedObject).height,
      (m' hdcDest.selectedObject).pixel x y =
        if InFigure c x y then
          (m hdcSrc.selectedObject).pixel (c.srcx + (x - c.x)).toNat (c.srcy + (y - c.y)).toNat
        else (m hdcDest.selectedObject).pixel x y

theorem SameSizes.withData (m : Memory) (id : Nat) (data : Nat → UInt32) :
    SameSizes (withData m id data) m := by
  intro id'
  by_cases h : id' = id
  · subst h
    rw [withData_same]
    exact ⟨rfl, rfl⟩
  · rw [withData_other m h]
    exact ⟨rfl, rfl⟩

include hsame hdst hsrc

theorem at_once_of_clear {blt : Memory → GDI_DC → GDI_DC → Coords → Option Memory}
    {rows : List Nat} (hrows : ∀ k, k ∈ rows ↔ k < c.h.toNat)
    (hclear : rows.Pairwise (Clear c.x.toNat c.y.toNat c.srcx.toNat c.srcy.toNat c.w.toNat))
    (hblt : blt m hdcDest hdcSrc c = some (withData m hdcDest.selectedObject
      (copyRows (m hdcDest.selectedObject).width c.x.toNat c.y.toNat c.srcx.toNat c.srcy.toNat
        c.w.toNat (m hdcDest.selectedObject).data rows))) :
    AtOnce blt m hdcDest hdcSrc c := by
  obtain ⟨hleft, htop, hwidth, hheight, hright, hbottom⟩ := hdst
  obtain ⟨hleft', htop', -, -, hright', hbottom'⟩ := hsrc
  refine ⟨_, hblt, fun id hid => withData_other m hid _, SameSizes.withData _ _ _, ?_⟩
  intro x hx y hy
  rw [copyRows_eq_movedRows (by omega) (by omega) _ hclear, withData_same, hsame]
  unfold GDI_BITMAP.pixel movedRows
  simp only [cell_mod y hx, cell_div y hx, hrows]
  by_cases hin : InFigure c x y
  · obtain ⟨⟨hxlow, hxhigh⟩, hylow, hyhigh⟩ := hin
    have hcol : (c.srcx + (x - c.x)).toNat = c.srcx.toNat + (x - c.x.toNat) := by omega
    have hrow : (c.srcy + (y - c.y)).toNat = c.srcy.toNat + (y - c.y.toNat) := by omega
    rw [if_pos (by omega), if_pos ⟨⟨hxlow, hxhigh⟩, hylow, hyhigh⟩, hcol, hrow]
  · rw [if_neg hin]
    unfold InFigure at hin
    rw [if_neg (by omega)]

omit hsame hdst hsrc

/-! ## Which copies are at once -/

/-- The two rectangles have a pixel in common. -/
def SharesPixel (c : Coords) : Prop :=
  (c.x < c.srcx + c.w ∧ c.srcx < c.x + c.w) ∧ c.y < c.srcy + c.h ∧ c.srcy < c.y + c.h

/-- They have two columns and two rows in common. -/
def SharesSquare (c : Coords) : Prop :=
  (c.x + 1 < c.srcx + c.w ∧ c.srcx + 1 < c.x + c.w) ∧
    c.y + 1 < c.srcy + c.h ∧ c.srcy + 1 < c.y + c.h

theorem gdi_CopyOverlap_iff (c : Coords) :
    gdi_CopyOverlap c.x c.y c.w c.h c.srcx c.srcy = true ↔ SharesSquare c := by
  unfold gdi_CopyOverlap gdi_CRgnToRect SharesSquare
  rw [decide_eq_true_iff]
  dsimp only
  omega

theorem gdi_CopyOverlap_eq_false {c : Coords} (h : ¬ SharesSquare c) :
    gdi_CopyOverlap c.x c.y c.w c.h c.srcx c.srcy = false := by
  rw [← Bool.not_eq_true, gdi_CopyOverlap_iff]
  exact h

include hsame hdst hsrc hw

theorem at_once_upwards (hsquare : SharesSquare c) (habove : c.srcy < c.y) :
    AtOnce BitBlt_SRCCOPY m hdcDest hdcSrc c := by
  have hoverlap := (gdi_CopyOverlap_iff c).mpr hsquare
  have hrows : ∀ k, k ∈ (range c.h.toNat).reverse ↔ k < c.h.toNat := by simp
  apply at_once_of_clear hsame hdst hsrc hrows
  · rw [pairwise_reverse]
    apply pairwise_lt_range.imp
    intro k j hkj
    left
    omega
  · have hfold := copy_rows_spec (fun k hk => memmove_row hsame hdst hsrc hw ((hrows k).mp hk))
      (m hdcDest.selectedObject).data
    rw [withData_self] at hfold
    unfold BitBlt_SRCCOPY rows_up
    simpa [hsame, hoverlap, habove] using hfold

theorem at_once_downwards (hsquare : SharesSquare c) (hbelow : c.y ≤ c.srcy) :
    AtOnce BitBlt_SRCCOPY m hdcDest hdcSrc c := by
  have hoverlap := (gdi_CopyOverlap_iff c).mpr hsquare
  have hrows : ∀ k, k ∈ range c.h.toNat ↔ k < c.h.toNat := by simp
  apply at_once_of_clear hsame hdst hsrc hrows
  · apply pairwise_lt_range.imp
    intro j k hjk
    left
    omega
  · have hfold := copy_rows_spec (fun k hk => memmove_row hsame hdst hsrc hw ((hrows k).mp hk))
      (m hdcDest.selectedObject).data
    rw [withData_self] at hfold
    unfold BitBlt_SRCCOPY rows_down
    simpa [hsame, hoverlap, Int.not_lt.mpr hbelow] using hfold

theorem memcpy_rows (hsquare : ¬ SharesSquare c) (hclear : ∀ k < c.h.toNat,
      Clear c.x.toNat c.y.toNat c.srcx.toNat c.srcy.toNat c.w.toNat k k) :
    BitBlt_SRCCOPY m hdcDest hdcSrc c = some (withData m hdcDest.selectedObject
      (copyRows (m hdcDest.selectedObject).width c.x.toNat c.y.toNat c.srcx.toNat c.srcy.toNat
        c.w.toNat (m hdcDest.selectedObject).data (range c.h.toNat))) := by
  have hoverlap := gdi_CopyOverlap_eq_false hsquare
  have hfold := copy_rows_spec (fun k hk data =>
    (memcpy_row hsame hdst hsrc hw (mem_range.mp hk) (hclear k (mem_range.mp hk)) data).trans
      (memmove_row hsame hdst hsrc hw (mem_range.mp hk) data)) (m hdcDest.selectedObject).data
  rw [withData_self] at hfold
  unfold BitBlt_SRCCOPY rows_down
  simpa [hsame, hoverlap] using hfold

theorem at_once_memcpy (hsquare : ¬ SharesSquare c) (hgood : ¬ SharesPixel c ∨ c.y < c.srcy) :
    AtOnce BitBlt_SRCCOPY m hdcDest hdcSrc c := by
  have hclear : ∀ j k, j ≤ k → k < c.h.toNat →
      Clear c.x.toNat c.y.toNat c.srcx.toNat c.srcy.toNat c.w.toNat j k := by
    intro j k hjk hk
    obtain ⟨hleft, htop, hwidth, hheight, -, -⟩ := hdst
    obtain ⟨hleft', htop', -, -, -, -⟩ := hsrc
    unfold Clear
    unfold SharesPixel at hgood
    omega
  apply at_once_of_clear hsame hdst hsrc fun k => mem_range
  · apply pairwise_lt_range.imp_of_mem
    intro j k hj hk hjk
    exact hclear j k (Nat.le_of_lt hjk) (mem_range.mp hk)
  · exact memcpy_rows hsame hdst hsrc hw hsquare fun k hk => hclear k k (Nat.le_refl k) hk

theorem undefined_of_same_row (hh : 0 < c.h) (hsquare : ¬ SharesSquare c)
    (hshares : SharesPixel c) (hrow : c.srcy = c.y) :
    BitBlt_SRCCOPY m hdcDest hdcSrc c = none := by
  obtain ⟨⟨hleft, hright⟩, -⟩ := hshares
  obtain ⟨n, hn⟩ : ∃ n, c.h.toNat = n + 1 := ⟨c.h.toNat - 1, by omega⟩
  have hfirst := memcpy_row_undefined hsame hdst hsrc hw hrow hleft hright
    (show 0 < c.h.toNat by omega)
  unfold BitBlt_SRCCOPY rows_down
  rw [if_pos (.inr (gdi_CopyOverlap_eq_false hsquare)), hn, range_succ_eq_map, foldlM_cons, hfirst]
  rfl

theorem pixels_agree {j j' t : Nat} (hsquare : ¬ SharesSquare c) (hj : j < c.w.toNat)
    (hj' : j' < c.w.toNat) (hcol : c.srcx.toNat + j = c.x.toNat + j') (ht : 0 < t)
    (hrow : c.srcy.toNat + t = c.y.toNat) (hth : t < c.h.toNat)
    (honce : AtOnce BitBlt_SRCCOPY m hdcDest hdcSrc c) :
    (m hdcDest.selectedObject).pixel (c.srcx.toNat + j) c.y.toNat =
      (m hdcDest.selectedObject).pixel (c.srcx.toNat + j') c.srcy.toNat := by
  have hclear : ∀ k < c.h.toNat,
      Clear c.x.toNat c.y.toNat c.srcx.toNat c.srcy.toNat c.w.toNat k k := by
    intro k hk
    left
    omega
  have hrun := memcpy_rows hsame hdst hsrc hw hsquare hclear
  obtain ⟨hleft, htop, hwidth, hheight, hright, hbottom⟩ := hdst
  obtain ⟨hleft', htop', -, -, hright', hbottom'⟩ := hsrc
  obtain ⟨m', hrun', -, -, hpixels⟩ := honce
  rw [hrun] at hrun'
  cases hrun'
  have hpixel := hpixels (c.x.toNat + j) (by omega) (c.y.toNat + t) (by omega)
  have hin : InFigure c (c.x.toNat + j) (c.y.toNat + t) := by
    unfold InFigure
    omega
  have hx : (c.srcx + ((c.x.toNat + j : Nat) - c.x)).toNat = c.srcx.toNat + j := by omega
  have hy : (c.srcy + ((c.y.toNat + t : Nat) - c.y)).toNat = c.y.toNat := by omega
  rw [if_pos hin, hx, hy, hsame, withData_same] at hpixel
  rw [← hpixel]
  unfold GDI_BITMAP.pixel
  dsimp only
  have hxw : c.x.toNat + c.w.toNat ≤ (m hdcDest.selectedObject).width := by omega
  rw [copyRows_range_at hxw hj _ _ _ _ hth, hrow, hcol]
  exact copyRows_range_at hxw hj' _ _ _ _ ht

end

/-- A picture with one pixel set. -/
def mark (p : Nat) : Nat → UInt32 := fun i => if i = p then 1 else 0

/-- The two copies are at once, for every content of the bitmaps. -/
def CopiesAtOnce (sizes : Memory) (hdcDest hdcSrc : GDI_DC) (c : Coords) : Prop :=
  ∀ m, SameSizes m sizes → AtOnce BitBlt_SRCCOPY_16bpp m hdcDest hdcSrc c ∧
    AtOnce BitBlt_SRCCOPY_32bpp m hdcDest hdcSrc c

section

variable {sizes : Memory} {hdcDest hdcSrc : GDI_DC} {c : Coords}
  (hsame : hdcSrc.selectedObject = hdcDest.selectedObject)
  (hdst : Inside (sizes hdcDest.selectedObject) c.x c.y c.w c.h)
  (hsrc : Inside (sizes hdcDest.selectedObject) c.srcx c.srcy c.w c.h) (hw : 0 < c.w)
  (hh : 0 < c.h)

include hsame hdst hsrc hw hh

theorem below_of_copies_at_once (hall : CopiesAtOnce sizes hdcDest hdcSrc c)
    (hshares : SharesPixel c) (hsquare : ¬ SharesSquare c) : c.y < c.srcy := by
  by_contra hbelow
  by_cases hrow : c.srcy = c.y
  · obtain ⟨-, m', hrun, -⟩ := hall sizes fun _ => ⟨rfl, rfl⟩
    unfold BitBlt_SRCCOPY_32bpp at hrun
    rw [undefined_of_same_row hsame hdst hsrc hw hh hsquare hshares hrow] at hrun
    cases hrun
  · obtain ⟨hleft, htop, -, -, hright, -⟩ := id hdst
    obtain ⟨hleft', htop', -, -, hright', -⟩ := id hsrc
    obtain ⟨⟨hcol1, hcol2⟩, hrow1, hrow2⟩ := hshares
    -- a column of the source that is a column of the destination as well
    obtain ⟨j, j', hj, hj', hcol⟩ : ∃ j j', j < c.w.toNat ∧ j' < c.w.toNat ∧
        c.srcx.toNat + j = c.x.toNat + j' := by
      by_cases hx : c.x ≤ c.srcx
      · exact ⟨0, c.srcx.toNat - c.x.toNat, by omega, by omega, by omega⟩
      · exact ⟨c.x.toNat - c.srcx.toNat, 0, by omega, by omega, by omega⟩
    have hsizes := SameSizes.withData sizes hdcDest.selectedObject
      (mark (c.y.toNat * (sizes hdcDest.selectedObject).width + (c.srcx.toNat + j)))
    obtain ⟨hwidth, hheight⟩ := hsizes hdcDest.selectedObject
    have hagree := pixels_agree hsame (hdst.of_sizes hwidth hheight) (hsrc.of_sizes hwidth hheight)
      hw hsquare hj hj' hcol (show 0 < c.y.toNat - c.srcy.toNat by omega) (by omega) (by omega)
      (hall _ hsizes).2
    rw [withData_same] at hagree
    unfold GDI_BITMAP.pixel mark at hagree
    dsimp only at hagree
    rw [if_pos rfl] at hagree
    have hcells : c.srcy.toNat * (sizes hdcDest.selectedObject).width + (c.srcx.toNat + j') =
        c.y.toNat * (sizes hdcDest.selectedObject).width + (c.srcx.toNat + j) := by
      by_contra hne
      rw [if_neg hne] at hagree
      exact absurd hagree (by decide)
    have hrows := congrArg (· / (sizes hdcDest.selectedObject).width) hcells
    simp only [cell_div _ (show c.srcx.toNat + j' < (sizes hdcDest.selectedObject).width by omega),
      cell_div _ (show c.srcx.toNat + j < (sizes hdcDest.selectedObject).width by omega)] at hrows
    omega

/-- A copy inside a bitmap is at once, exactly if the rectangles have no pixel in common, two
columns and two rows in common, or the source below. -/
theorem copies_at_once_iff :
    CopiesAtOnce sizes hdcDest hdcSrc c ↔ ¬ SharesPixel c ∨ SharesSquare c ∨ c.y < c.srcy := by
  constructor
  · intro hall
    by_cases hshares : SharesPixel c
    · by_cases hsquare : SharesSquare c
      · exact .inr (.inl hsquare)
      · exact .inr (.inr (below_of_copies_at_once hsame hdst hsrc hw hh hall hshares hsquare))
    · exact .inl hshares
  · intro hgood m hm
    obtain ⟨hwidth, hheight⟩ := hm hdcDest.selectedObject
    have hdst := hdst.of_sizes hwidth hheight
    have hsrc := hsrc.of_sizes hwidth hheight
    have honce : AtOnce BitBlt_SRCCOPY m hdcDest hdcSrc c := by
      by_cases hsquare : SharesSquare c
      · by_cases habove : c.srcy < c.y
        · exact at_once_upwards hsame hdst hsrc hw hsquare habove
        · exact at_once_downwards hsame hdst hsrc hw hsquare (by omega)
      · apply at_once_memcpy hsame hdst hsrc hw hsquare
        rcases hgood with hapart | hshared | hbelow
        · exact .inl hapart
        · exact absurd hshared hsquare
        · exact .inr hbelow
    exact ⟨honce, honce⟩

end

/-- A square of 8 by 8 pixels is moved from the corner of the bitmap. -/
def moveSquare (x y : Int) : Coords := ⟨x, y, 8, 8, 0, 0⟩

theorem moveSquare_inside {x y : Int} (hx : 0 ≤ x ∧ x ≤ 8) (hy : 0 ≤ y ∧ y ≤ 8) :
    Inside (squares 0) (moveSquare x y).x (moveSquare x y).y (moveSquare x y).w
      (moveSquare x y).h := by
  constructor <;> simp only [moveSquare, squares] <;> omega

theorem square_moves_at_once :
    CopiesAtOnce squares (sampleDC 0 red) (sampleDC 0 red) (moveSquare 2 3) :=
  (copies_at_once_iff rfl (moveSquare_inside (by decide) (by decide))
    (moveSquare_inside (x := 0) (y := 0) (by decide) (by decide)) (show (0 : Int) < 8 by decide)
    (show (0 : Int) < 8 by decide)).mpr (.inr (.inl (by unfold SharesSquare; decide)))

/-- One row in common, which is overwritten first. And one column, for which `memcpy` is called on
ranges that overlap. -/
theorem square_is_not_moved_at_once :
    ¬ CopiesAtOnce squares (sampleDC 0 red) (sampleDC 0 red) (moveSquare 0 7) ∧
      BitBlt_SRCCOPY_32bpp squares (sampleDC 0 red) (sampleDC 0 red) (moveSquare 7 0) = none := by
  have hsrc := moveSquare_inside (x := 0) (y := 0) (by decide) (by decide)
  constructor
  · intro hall
    have hbelow := below_of_copies_at_once rfl (moveSquare_inside (by decide) (by decide)) hsrc
      (show (0 : Int) < 8 by decide) (show (0 : Int) < 8 by decide) hall
      (by unfold SharesPixel; decide) (by unfold SharesSquare; decide)
    exact absurd hbelow (by decide)
  · exact undefined_of_same_row rfl (moveSquare_inside (by decide) (by decide)) hsrc
      (show (0 : Int) < 8 by decide) (show (0 : Int) < 8 by decide)
      (by unfold SharesSquare; decide) (by unfold SharesPixel; decide) rfl

end neutrinordp.gdi
