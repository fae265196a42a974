-- The raster operations for 32 bits per pixel compute the truth table of their code. Four of them
-- take the text colour for a solid brush.
import CorporateClient.GdiDraw

open raster

namespace neutrinordp.gdi

/-! ## Truth tables -/

/-- The value for the three bits, in the truth table `index`. -/
def rop3 (index : Nat) (p s d : Bool) : Bool :=
  index.testBit (4 * p.toNat + 2 * s.toNat + d.toNat)

/-- The truth table of an operation: bits 16 to 23 of its code. -/
def Rop.index (rop : Rop) : Nat := (rop.code >>> 16) &&& 0xFF

def bit (v : UInt32) (i : Nat) : Bool := v.toBitVec.getLsbD i

@[simp] theorem bit_and (a b : UInt32) (i : Nat) : bit (a &&& b) i = (bit a i && bit b i) := by
  simp [bit]

@[simp] theorem bit_or (a b : UInt32) (i : Nat) : bit (a ||| b) i = (bit a i || bit b i) := by
  simp [bit]

@[simp] theorem bit_xor (a b : UInt32) (i : Nat) : bit (a ^^^ b) i = (bit a i ^^ bit b i) := by
  simp [bit]

theorem bit_not {i : Nat} (h : i < 32) (a : UInt32) : bit (~~~a) i = !bit a i := by
  simp [bit, h]

theorem bit_ones : ∀ i < 24, bit 0xFFFFFFFF i = true := by decide

theorem bit_zero (i : Nat) : bit 0 i = false := BitVec.getLsbD_zero

theorem bit_alpha : ∀ i < 24, bit 0xFF000000 i = false := by decide

/-- What an operation takes for the brush. -/
def usedBrush (hdc : GDI_DC) (rop : Rop) (x y : Nat) : UInt32 :=
  if hdc.brush.style = .SOLID ∧ (rop = .PATCOPY ∨ rop = .PATINVERT) then
    gdi_get_color_32bpp hdc hdc.brush.color
  else brushPixel hdc x y

/-- The operations on one bit. -/
def ropBit : Rop → Bool → Bool → Bool → Bool
  | .BLACKNESS, _, _, _ => false
  | .WHITENESS, _, _, _ => true
  | .SRCCOPY, _, s, _ => s
  | .NOTSRCCOPY, _, s, _ => !s
  | .DSTINVERT, _, _, d => !d
  | .SRCERASE, _, s, d => s && !d
  | .NOTSRCERASE, _, s, d => !s && !d
  | .SRCINVERT, _, s, d => d ^^ s
  | .SRCAND, _, s, d => d && s
  | .SRCPAINT, _, s, d => d || s
  | .DSPDxax, p, s, d => (s && p) || (!s && d)
  | .SPna, p, s, _ => s && !p
  | .DSna, _, s, d => !s && d
  | .PDxn, p, _, d => d ^^ !p
  | .MERGECOPY, p, s, _ => s && p
  | .MERGEPAINT, _, s, d => !s || d
  | .PATCOPY, p, _, _ => p
  | .PATINVERT, p, _, d => p ^^ d
  | .PATPAINT, p, s, d => d || (p || !s)

theorem ropBit_eq (rop : Rop) : ∀ p s d, ropBit rop p s d = rop3 rop.index p s d := by
  cases rop <;> decide

theorem ropPixel_bit (hdcDest hdcSrc : GDI_DC) {rop : Rop} (hrop : rop ≠ .DSPDxax) (x y : Nat)
    (s d : UInt32) {i : Nat} (hi : i < 24) :
    bit (ropPixel hdcDest hdcSrc rop x y s d) i =
      rop3 rop.index (bit (usedBrush hdcDest rop x y) i) (bit s i) (bit d i) := by
  have hnot : ∀ a, bit (~~~a) i = !bit a i := bit_not (by omega)
  rw [← ropBit_eq]
  cases rop
  case DSPDxax => exact absurd rfl hrop
  case BLACKNESS =>
    unfold ropPixel ropBit
    dsimp only
    split
    · exact bit_alpha i hi
    · exact bit_zero i
  case WHITENESS => exact bit_ones i hi
  case PATCOPY =>
    unfold ropPixel ropBit usedBrush
    by_cases hsolid : hdcDest.brush.style = .SOLID
    · simp
    · simp
  case PATINVERT =>
    unfold ropPixel ropBit usedBrush
    by_cases hsolid : hdcDest.brush.style = .SOLID
    · simp [hsolid, Bool.xor_comm]
    · simp [hsolid]
  all_goals simp [ropPixel, ropBit, usedBrush, hnot]

/-! ## Operations -/

/-- A call of one of the two functions. -/
inductive Operation
  | bitBlt (rop : Rop)
  | patBlt (rop : Rop)

namespace Operation

def rop : Operation → Rop
  | .bitBlt rop => rop
  | .patBlt rop => rop

/-- The operations in the switches. -/
def Handled : Operation → Prop
  | .bitBlt rop => (BitBlt_switch rop).isSome
  | .patBlt rop => (PatBlt_switch rop).isSome

def run (m : Memory) (hdcDest hdcSrc : GDI_DC) (c : Coords) : Operation → Option (Nat × Memory)
  | .bitBlt rop => BitBlt_32bpp m hdcDest c (some hdcSrc) rop
  | .patBlt rop => PatBlt_32bpp m hdcDest c rop

/-- The source is inside its bitmap, if there is one. -/
def SourceInside (m : Memory) (hdcSrc : GDI_DC) (c : Coords) : Operation → Prop
  | .bitBlt _ => Inside (m hdcSrc.selectedObject) c.srcx c.srcy c.w c.h
  | .patBlt _ => True

/-- The pixels of the source. Without one they can be anything. -/
def source (m : Memory) (hdcSrc : GDI_DC) (c : Coords) (other : Nat → Nat → UInt32) :
    Operation → Nat → Nat → UInt32
  | .bitBlt _ => sourcePixel m hdcSrc c
  | .patBlt _ => other

end Operation

variable {c : Coords} {m : Memory} {rop : Rop}

theorem painted_empty (m : Memory) (dst : Nat) (hempty : c.w = 0 ∨ c.h = 0)
    (g : Nat → Nat → UInt32 → UInt32) : painted m dst c g = m := by
  have hsame : paint (m dst).width c.x.toNat c.y.toNat c.w.toNat c.h.toNat g (m dst).data =
      (m dst).data := by
    funext i
    apply if_neg
    unfold InRect
    omega
  unfold painted
  rw [hsame, withData_self]

theorem Operation.run_eq {op : Operation} (hop : op.Handled) {hdcDest hdcSrc : GDI_DC}
    (hclip : hdcDest.clip.null = true) (hbrush : BrushOk hdcDest)
    (hne : hdcSrc.selectedObject ≠ hdcDest.selectedObject)
    (hin : Inside (m hdcDest.selectedObject) c.x c.y c.w c.h) (hsrc : op.SourceInside m hdcSrc c)
    (other : Nat → Nat → UInt32) :
    op.run m hdcDest hdcSrc c = some (0, painted m hdcDest.selectedObject c fun j k =>
      ropPixel hdcDest hdcSrc op.rop j k (op.source m hdcSrc c other j k)) := by
  cases op with
  | bitBlt rop =>
    obtain ⟨blt, hblt⟩ := Option.isSome_iff_exists.mp hop
    unfold Operation.run BitBlt_32bpp
    rcases gdi_ClipCoords_inside hclip hin with hc | ⟨hc, hempty⟩
    · cases blt with
      | dst blt =>
        have hdraws := PatBlt_draws (.inr hblt) hbrush hin hdcSrc (sourcePixel m hdcSrc c)
        simp only [hc, hblt, Bool.true_eq_false, if_false, hdraws]
        rfl
      | src blt =>
        have hdraws := BitBlt_draws hblt hbrush hne hin hsrc
        simp only [hc, hblt, Bool.true_eq_false, if_false, hdraws, Option.bind_eq_bind,
          Option.bind_some]
        rfl
    · simp [hc, painted_empty m _ hempty]
  | patBlt rop =>
    obtain ⟨blt, hblt⟩ := Option.isSome_iff_exists.mp hop
    unfold Operation.run PatBlt_32bpp
    rcases gdi_ClipCoords_inside hclip hin with hc | ⟨hc, hempty⟩
    · have hdraws := PatBlt_draws (.inl hblt) hbrush hin hdcSrc other
      simp only [hc, hblt, Bool.true_eq_false, if_false, hdraws]
      rfl
    · simp [hc, painted_empty m _ hempty]

/-! ## The table -/

/-- The brush as it is meant: the colour of a solid one, or the pixel of the pattern. -/
def theBrush (hdc : GDI_DC) (x y : Nat) : UInt32 :=
  if hdc.brush.style = .SOLID then gdi_get_color_32bpp hdc hdc.brush.color
  else hdc.brush.pattern.pixel (x % hdc.brush.pattern.width) (y % hdc.brush.pattern.height)

/-- The pixels of the rectangle follow the truth table, and nothing else changes. -/
structure Computes (m m' : Memory) (dst : Nat) (c : Coords) (index : Nat)
    (brush source : Nat → Nat → UInt32) : Prop where
  inside : ∀ j < c.w.toNat, ∀ k < c.h.toNat, ∀ i < 24,
    bit ((m' dst).pixel (c.x.toNat + j) (c.y.toNat + k)) i =
      rop3 index (bit (brush j k) i) (bit (source j k) i)
        (bit ((m dst).pixel (c.x.toNat + j) (c.y.toNat + k)) i)
  outside : ∀ x < (m dst).width, ∀ y < (m dst).height,
    ¬ ((c.x ≤ x ∧ x < c.x + c.w) ∧ c.y ≤ y ∧ y < c.y + c.h) → (m' dst).pixel x y = (m dst).pixel x y
  size : (m' dst).width = (m dst).width ∧ (m' dst).height = (m dst).height
  others : ∀ id ≠ dst, m' id = m id

theorem pixel_painted {dst : Nat} (g : Nat → Nat → UInt32 → UInt32) {x y : Nat}
    (hx : x < (m dst).width) :
    (painted m dst c g dst).pixel x y =
      if (c.x.toNat ≤ x ∧ x < c.x.toNat + c.w.toNat) ∧
          c.y.toNat ≤ y ∧ y < c.y.toNat + c.h.toNat then
        g (x - c.x.toNat) (y - c.y.toNat) ((m dst).pixel x y)
      else (m dst).pixel x y := by
  unfold painted
  rw [withData_same]
  exact paint_at g _ hx

theorem computes_iff {dst : Nat} (hin : Inside (m dst) c.x c.y c.w c.h) (index : Nat)
    (brush source : Nat → Nat → UInt32) (g : Nat → Nat → UInt32 → UInt32) :
    Computes m (painted m dst c g) dst c index brush source ↔
      ∀ j < c.w.toNat, ∀ k < c.h.toNat, ∀ i < 24,
        bit (g j k ((m dst).pixel (c.x.toNat + j) (c.y.toNat + k))) i =
          rop3 index (bit (brush j k) i) (bit (source j k) i)
            (bit ((m dst).pixel (c.x.toNat + j) (c.y.toNat + k)) i) := by
  obtain ⟨hleft, htop, hwidth, hheight, hright, hbottom⟩ := hin
  have hpixel : ∀ j < c.w.toNat, ∀ k < c.h.toNat,
      (painted m dst c g dst).pixel (c.x.toNat + j) (c.y.toNat + k) =
        g j k ((m dst).pixel (c.x.toNat + j) (c.y.toNat + k)) := by
    intro j hj k hk
    rw [pixel_painted g (by omega), if_pos (by omega), Nat.add_sub_cancel_left,
      Nat.add_sub_cancel_left]
  constructor
  · intro hcomputes j hj k hk i hi
    rw [← hpixel j hj k hk]
    exact hcomputes.inside j hj k hk i hi
  · intro hbits
    refine ⟨?_, ?_, ?_, ?_⟩
    · intro j hj k hk i hi
      rw [hpixel j hj k hk]
      exact hbits j hj k hk i hi
    · intro x hx y hy hout
      rw [pixel_painted g hx, if_neg (by omega)]
    · unfold painted
      rw [withData_same]
      exact ⟨rfl, rfl⟩
    · intro id hid
      exact withData_other m hid _

/-- The operation computes its truth table on every rectangle inside both bitmaps. -/
def TableHolds (hdcDest hdcSrc : GDI_DC) (op : Operation) : Prop :=
  ∀ (m : Memory) (c : Coords) (other : Nat → Nat → UInt32),
    Inside (m hdcDest.selectedObject) c.x c.y c.w c.h → op.SourceInside m hdcSrc c →
      ∃ m', op.run m hdcDest hdcSrc c = some (0, m') ∧
        Computes m m' hdcDest.selectedObject c op.rop.index (theBrush hdcDest)
          (op.source m hdcSrc c other)

/-- The operations that only know patterns. -/
def asksForPointer (rop : Rop) : Bool :=
  rop = .SPna ∨ rop = .MERGECOPY ∨ rop = .PATPAINT ∨ rop = .PDxn

/-- The text colour looks like the colour of the brush. -/
def TextLooksLikeBrush (hdc : GDI_DC) : Prop :=
  ∀ i < 24, bit hdc.textColor i = bit (gdi_get_color_32bpp hdc hdc.brush.color) i

theorem used_brush_right {hdc : GDI_DC} (hrop : asksForPointer rop = false)
    (hglyph : rop ≠ .DSPDxax) (hstyle : hdc.brush.style = .SOLID ∨ hdc.brush.style = .PATTERN)
    (x y i : Nat) (s d : Bool) :
    rop3 rop.index (bit (usedBrush hdc rop x y) i) s d =
      rop3 rop.index (bit (theBrush hdc x y) i) s d := by
  by_cases hpat : rop = .PATCOPY ∨ rop = .PATINVERT
  · have hsame : usedBrush hdc rop x y = theBrush hdc x y := by
      unfold usedBrush theBrush brushPixel
      rcases hstyle with hstyle | hstyle <;> simp [hstyle, hpat]
    rw [hsame]
  · have hfree : ∀ p p' : Bool, rop3 rop.index p s d = rop3 rop.index p' s d := by
      revert s d
      cases rop <;> first | decide | (exfalso; revert hrop hpat hglyph; decide)
    exact hfree _ _

theorem used_brush_of_pointer {hdc : GDI_DC} (hrop : asksForPointer rop = true) (x y : Nat) :
    usedBrush hdc rop x y = brushPixel hdc x y := by
  apply if_neg
  rintro ⟨-, rfl | rfl⟩ <;> exact absurd hrop (by decide)

theorem pointer_rop_sees_brush (hrop : asksForPointer rop = true) :
    ∀ p p' : Bool, rop3 rop.index p true false = rop3 rop.index p' true false → p = p' := by
  cases rop <;> first | decide | (exfalso; revert hrop; decide)

/-- A black pixel in one bitmap, and a white one in the others. -/
def single (dst : Nat) : Memory := fun id =>
  ⟨1, 1, fun _ => if id = dst then 0 else 0xFFFFFFFF⟩

def origin : Coords := ⟨0, 0, 1, 1, 0, 0⟩

theorem inside_single (dst id : Nat) : Inside (single dst id) origin.x origin.y origin.w origin.h :=
  ⟨by decide, by decide, by decide, by decide, show (0 + 1 : Int) ≤ (1 : Nat) by decide,
    show (0 + 1 : Int) ≤ (1 : Nat) by decide⟩

section

variable {hdcDest hdcSrc : GDI_DC} (hne : hdcSrc.selectedObject ≠ hdcDest.selectedObject)
  (hclip : hdcDest.clip.null = true) (hbrush : BrushOk hdcDest) {op : Operation}
  (hop : op.Handled) (hglyph : op.rop ≠ .DSPDxax)

include hne hclip hbrush hop hglyph

theorem text_looks_like_brush (htable : TableHolds hdcDest hdcSrc op)
    (hsolid : hdcDest.brush.style = .SOLID) (hpointer : asksForPointer op.rop = true) :
    TextLooksLikeBrush hdcDest := by
  intro i hi
  -- one black pixel, and one white pixel as the source
  have hin := inside_single hdcDest.selectedObject hdcDest.selectedObject
  have hsrc : op.SourceInside (single hdcDest.selectedObject) hdcSrc origin := by
    cases op with
    | bitBlt rop => exact inside_single _ _
    | patBlt rop => trivial
  have hsource : op.source (single hdcDest.selectedObject) hdcSrc origin
      (fun _ _ => 0xFFFFFFFF) 0 0 = 0xFFFFFFFF := by
    cases op with
    | bitBlt rop =>
      show ((single hdcDest.selectedObject) hdcSrc.selectedObject).data _ = _
      rw [single, if_neg hne]
    | patBlt rop => rfl
  obtain ⟨m', hrun, hcomputes⟩ := htable _ origin (fun _ _ => 0xFFFFFFFF) hin hsrc
  rw [op.run_eq hop hclip hbrush hne hin hsrc (fun _ _ => 0xFFFFFFFF)] at hrun
  cases hrun
  have hbit := (computes_iff hin _ _ _ _).mp hcomputes 0 (by decide) 0 (by decide) i hi
  have hdst : ((single hdcDest.selectedObject) hdcDest.selectedObject).pixel
      (origin.x.toNat + 0) (origin.y.toNat + 0) = 0 := by
    unfold single
    rw [if_pos rfl]
    rfl
  rw [hdst, ropPixel_bit hdcDest hdcSrc hglyph _ _ _ _ hi, hsource, bit_ones i hi, bit_zero,
    used_brush_of_pointer hpointer] at hbit
  have hseen := pointer_rop_sees_brush hpointer _ _ hbit
  simpa [brushPixel, theBrush, hsolid] using hseen

theorem table_holds (hstyle : hdcDest.brush.style = .SOLID ∨ hdcDest.brush.style = .PATTERN)
    (hgood : hdcDest.brush.style = .PATTERN ∨ asksForPointer op.rop = false ∨
      TextLooksLikeBrush hdcDest) : TableHolds hdcDest hdcSrc op := by
  intro m c other hin hsrc
  refine ⟨_, op.run_eq hop hclip hbrush hne hin hsrc other, ?_⟩
  rw [computes_iff hin]
  intro j hj k hk i hi
  rw [ropPixel_bit hdcDest hdcSrc hglyph j k _ _ hi]
  by_cases hpointer : asksForPointer op.rop = false
  · exact used_brush_right hpointer hglyph hstyle j k i _ _
  · have hpointer : asksForPointer op.rop = true := by simpa using hpointer
    have hsame : bit (usedBrush hdcDest op.rop j k) i = bit (theBrush hdcDest j k) i := by
      rw [used_brush_of_pointer hpointer]
      unfold brushPixel theBrush
      rcases hstyle with hsolid | hpattern
      · have hlooks : TextLooksLikeBrush hdcDest := by
          rcases hgood with hpattern | hother | hlooks
          · rw [hsolid] at hpattern
            cases hpattern
          · rw [hpointer] at hother
            cases hother
          · exact hlooks
        simp only [hsolid, if_true, reduceCtorEq, if_false]
        exact hlooks i hi
      · simp [hpattern]
    rw [hsame]

end

/-- Each operation computes its truth table, exactly if the brush is a pattern, the operation is not
one of the four, or the text colour looks like the brush. -/
theorem rops_compute_their_table_iff {hdcDest hdcSrc : GDI_DC}
    (hne : hdcSrc.selectedObject ≠ hdcDest.selectedObject) (hclip : hdcDest.clip.null = true)
    (hstyle : hdcDest.brush.style = .SOLID ∨ hdcDest.brush.style = .PATTERN)
    (hbrush : BrushOk hdcDest) {op : Operation} (hop : op.Handled) (hglyph : op.rop ≠ .DSPDxax) :
    TableHolds hdcDest hdcSrc op ↔
      hdcDest.brush.style = .PATTERN ∨ asksForPointer op.rop = false ∨
        TextLooksLikeBrush hdcDest := by
  constructor
  · intro htable
    by_cases hpattern : hdcDest.brush.style = .PATTERN
    · exact .inl hpattern
    by_cases hpointer : asksForPointer op.rop = true
    · exact .inr (.inr (text_looks_like_brush hne hclip hbrush hop hglyph htable
        (hstyle.resolve_right hpattern) hpointer))
    · exact .inr (.inl (by simpa using hpointer))
  · exact table_holds hne hclip hbrush hop hglyph hstyle

/-- A context with some brush and black text. -/
def sampleDC (selectedObject : Nat) (brush : GDI_BRUSH) : GDI_DC where
  selectedObject := selectedObject
  bytesPerPixel := 4
  textColor := 0
  brush := brush
  clip := ⟨0, 0, 0, 0, true⟩
  alpha := false
  invert := false

/-- A chequered brush. -/
def chequered : GDI_BRUSH := ⟨.PATTERN, ⟨2, 2, fun i => if i = 0 ∨ i = 3 then 0xFFFFFF else 0⟩, 0⟩

def red : GDI_BRUSH := ⟨.SOLID, ⟨1, 1, fun _ => 0⟩, 0x0000FF⟩

theorem mergecopy_handled : (Operation.bitBlt .MERGECOPY).Handled := rfl

theorem chequered_brush_computes_mergecopy :
    TableHolds (sampleDC 0 chequered) (sampleDC 1 red) (.bitBlt .MERGECOPY) :=
  (rops_compute_their_table_iff (show (1 : Nat) ≠ 0 by decide) rfl (.inr rfl)
    (fun _ => ⟨show (2 : Nat) ≠ 0 by decide, show (2 : Nat) ≠ 0 by decide⟩) mergecopy_handled
    (show Rop.MERGECOPY ≠ .DSPDxax by decide)).mpr (.inl rfl)

/-- A red brush is taken for black. -/
theorem red_brush_is_taken_for_text_colour :
    ¬ TableHolds (sampleDC 0 red) (sampleDC 1 red) (.bitBlt .MERGECOPY) := by
  intro htable
  have hbrush : BrushOk (sampleDC 0 red) := fun h => by cases h
  have hlooks := text_looks_like_brush (show (1 : Nat) ≠ 0 by decide) rfl hbrush mergecopy_handled
    (show Rop.MERGECOPY ≠ .DSPDxax by decide) htable rfl rfl
  exact absurd (hlooks 16 (by decide)) (by decide)

end neutrinordp.gdi
