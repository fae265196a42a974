-- Clipping and drawing: a clip region only restricts what is drawn, but for pattern brushes. Their
-- pattern starts at the corner of the part that is drawn.
import CorporateClient.GdiRops

namespace neutrinordp.gdi

/-! ## Figures -/

/-- A fill, or a call of one of the two functions. -/
inductive Figure
  | fillRect (hbr : GDI_BRUSH)
  | blt (op : Operation)

namespace Figure

def run (m : Memory) (hdc hdcSrc : GDI_DC) (c : Coords) : Figure → Option Memory
  | .fillRect hbr => FillRect_32bpp m hdc (gdi_CRgnToRect c.x c.y c.w c.h) hbr
  | .blt op => (op.run m hdc hdcSrc c).map Prod.snd

/-- Does the figure read a source? -/
def hasSource : Figure → Bool
  | .blt (.bitBlt _) => true
  | _ => false

/-- Is there a case for it in the switch? -/
def handled : Operation → Bool
  | .bitBlt rop => (BitBlt_switch rop).isSome
  | .patBlt rop => (PatBlt_switch rop).isSome

/-- What a pixel becomes. -/
def pixel (hdc hdcSrc : GDI_DC) (figure : Figure) (x y : Nat) (s d : UInt32) : UInt32 :=
  match figure with
  | .fillRect hbr => gdi_get_color_32bpp hdc hbr.color
  | .blt op => if handled op then ropPixel hdc hdcSrc op.rop x y s d else d

end Figure

/-! ## What is drawn -/

/-- A rectangle with pixels in it, inside the bitmap. -/
structure Area (hBmp : GDI_BITMAP) (clip : GDI_RECT) : Prop where
  left : 0 ≤ clip.left
  top : 0 ≤ clip.top
  right : clip.right < hBmp.width
  bottom : clip.bottom < hBmp.height
  wide : clip.left ≤ clip.right
  high : clip.top ≤ clip.bottom

variable {hBmp : GDI_BITMAP} {clip : GDI_RECT} {c : Coords}

theorem Area.inside (h : Area hBmp clip) (hw : 0 < c.w) (hh : 0 < c.h) (hmeets : Meets clip c) :
    Inside hBmp (clipped clip c).x (clipped clip c).y (clipped clip c).w (clipped clip c).h := by
  obtain ⟨hleft, htop, hright, hbottom, hwide, hhigh⟩ := h
  obtain ⟨h1, h2, h3, h4⟩ := hmeets
  constructor <;> simp only [clipped] <;> omega

theorem Area.some_pixel (h : Area hBmp clip) (hw : 0 < c.w) (hh : 0 < c.h) (hmeets : Meets clip c) :
    0 < (clipped clip c).w ∧ 0 < (clipped clip c).h := by
  obtain ⟨-, -, -, -, hwide, hhigh⟩ := h
  obtain ⟨h1, h2, h3, h4⟩ := hmeets
  constructor <;> simp only [clipped] <;> omega

theorem Inside.of_clipped (hsrc : Inside hBmp c.srcx c.srcy c.w c.h)
    (hwide : clip.left ≤ clip.right) (hhigh : clip.top ≤ clip.bottom) (hmeets : Meets clip c) :
    Inside hBmp (clipped clip c).srcx (clipped clip c).srcy (clipped clip c).w
      (clipped clip c).h := by
  obtain ⟨hleft, htop, hwidth, hheight, hright, hbottom⟩ := hsrc
  obtain ⟨h1, h2, h3, h4⟩ := hmeets
  constructor <;> simp only [clipped] <;> omega

/-- The pixel is in the rectangle of the figure. -/
def InFigure (c : Coords) (x y : Nat) : Prop :=
  (c.x ≤ x ∧ x < c.x + c.w) ∧ c.y ≤ y ∧ y < c.y + c.h

instance (c : Coords) (x y : Nat) : Decidable (InFigure c x y) :=
  inferInstanceAs (Decidable (_ ∧ _))

/-- The rectangle of an operation is inside the bitmap. -/
abbrev Coords.InsideOf (c : Coords) (hBmp : GDI_BITMAP) : Prop := Inside hBmp c.x c.y c.w c.h

/-- The part of an operation that is drawn on a context. -/
def part (m : Memory) (hdc : GDI_DC) (c : Coords) : Coords :=
  clipped (clip_rect (m hdc.selectedObject) hdc) c

section

variable {m : Memory} {hdc hdcSrc : GDI_DC} {c : Coords}

theorem pixel_of_handled {op : Operation} (h : Figure.handled op = true)
    (source : Nat → Nat → UInt32) :
    (fun j k => (Figure.blt op).pixel hdc hdcSrc j k (source j k)) =
      fun j k => ropPixel hdc hdcSrc op.rop j k (source j k) := by
  funext j k d
  exact if_pos h

theorem pixel_of_not_handled {op : Operation} (h : Figure.handled op = false)
    (source : Nat → Nat → UInt32) :
    (fun j k => (Figure.blt op).pixel hdc hdcSrc j k (source j k)) = fun _ _ d => d := by
  funext j k d
  exact if_neg (by rw [h]; decide)

theorem rect_coords (c : Coords) :
    gdi_RectToCRgn (gdi_CRgnToRect c.x c.y c.w c.h) ⟨0, 0, 0, 0, 0, 0⟩ =
      ⟨c.x, c.y, c.w, c.h, 0, 0⟩ := by
  simp only [gdi_RectToCRgn, gdi_CRgnToRect, Coords.mk.injEq, true_and, and_true]
  omega

theorem Figure.run_of_not_meets (figure : Figure)
    (h : ¬ Meets (clip_rect (m hdc.selectedObject) hdc) c) :
    figure.run m hdc hdcSrc c = some m := by
  cases figure with
  | fillRect hbr =>
    have hdraw : (gdi_ClipCoords (m hdc.selectedObject) hdc ⟨c.x, c.y, c.w, c.h, 0, 0⟩).1 = false :=
      gdi_ClipCoords_of_not_meets h
    unfold Figure.run FillRect_32bpp
    simp [rect_coords, hdraw]
  | blt op =>
    have hdraw := gdi_ClipCoords_of_not_meets h
    cases op with
    | bitBlt rop =>
      unfold Figure.run Operation.run BitBlt_32bpp
      simp [hdraw]
    | patBlt rop =>
      unfold Figure.run Operation.run PatBlt_32bpp
      simp [hdraw]

theorem Figure.run_of_meets (figure : Figure) (hbrush : BrushOk hdc)
    (hne : hdcSrc.selectedObject ≠ hdc.selectedObject)
    (hin : (part m hdc c).InsideOf (m hdc.selectedObject))
    (hsrc : figure.hasSource = true → Inside (m hdcSrc.selectedObject) (part m hdc c).srcx
      (part m hdc c).srcy (part m hdc c).w (part m hdc c).h)
    (h : Meets (clip_rect (m hdc.selectedObject) hdc) c) :
    figure.run m hdc hdcSrc c = some (painted m hdc.selectedObject (part m hdc c) fun j k =>
      figure.pixel hdc hdcSrc j k (sourcePixel m hdcSrc (part m hdc c) j k)) := by
  cases figure with
  | fillRect hbr =>
    have hdraw : gdi_ClipCoords (m hdc.selectedObject) hdc ⟨c.x, c.y, c.w, c.h, 0, 0⟩ = (true, _) :=
      gdi_ClipCoords_of_meets h
    unfold Figure.run FillRect_32bpp
    simp only [rect_coords, hdraw, Bool.true_eq_false, if_false]
    exact dst_loop.spec hin fun _ _ _ => rfl
  | blt op =>
    have hdraw : gdi_ClipCoords (m hdc.selectedObject) hdc c = (true, part m hdc c) :=
      gdi_ClipCoords_of_meets h
    generalize part m hdc c = c' at hin hsrc hdraw ⊢
    cases op with
    | bitBlt rop =>
      unfold Figure.run Operation.run BitBlt_32bpp
      rcases hblt : BitBlt_switch rop with _ | blt | blt
      · have hhandled : Figure.handled (.bitBlt rop) = false := by
          rw [Figure.handled, hblt]
          rfl
        rw [pixel_of_not_handled hhandled, painted_id]
        simp [hdraw, hblt]
      · have hhandled : Figure.handled (.bitBlt rop) = true := by
          rw [Figure.handled, hblt]
          rfl
        have hdraws := PatBlt_draws (.inr hblt) hbrush hin hdcSrc (sourcePixel m hdcSrc c')
        rw [pixel_of_handled hhandled]
        simp only [hdraw, hblt, Bool.true_eq_false, if_false, hdraws]
        rfl
      · have hhandled : Figure.handled (.bitBlt rop) = true := by
          rw [Figure.handled, hblt]
          rfl
        have hdraws := BitBlt_draws hblt hbrush hne hin (hsrc rfl)
        rw [pixel_of_handled hhandled]
        simp only [hdraw, hblt, Bool.true_eq_false, if_false, hdraws, Option.bind_eq_bind,
          Option.bind_some]
        rfl
    | patBlt rop =>
      unfold Figure.run Operation.run PatBlt_32bpp
      rcases hblt : PatBlt_switch rop with _ | blt
      · have hhandled : Figure.handled (.patBlt rop) = false := by
          rw [Figure.handled, hblt]
          rfl
        rw [pixel_of_not_handled hhandled, painted_id]
        simp [hdraw, hblt]
      · have hhandled : Figure.handled (.patBlt rop) = true := by
          rw [Figure.handled, hblt]
          rfl
        have hdraws := PatBlt_draws (.inl hblt) hbrush hin hdcSrc (sourcePixel m hdcSrc c')
        rw [pixel_of_handled hhandled]
        simp only [hdraw, hblt, Bool.true_eq_false, if_false, hdraws]
        rfl

theorem pixel_part (hin : (part m hdc c).InsideOf (m hdc.selectedObject))
    (g : Nat → Nat → UInt32 → UInt32) {x y : Nat} (hx : x < (m hdc.selectedObject).width) :
    (painted m hdc.selectedObject (part m hdc c) g hdc.selectedObject).pixel x y =
      if InFigure (part m hdc c) x y then
        g (x - (part m hdc c).x.toNat) (y - (part m hdc c).y.toNat)
          ((m hdc.selectedObject).pixel x y)
      else (m hdc.selectedObject).pixel x y := by
  obtain ⟨hleft, htop, hwidth, hheight, -, -⟩ := hin
  rw [pixel_painted g hx]
  congr 1
  apply propext
  unfold InFigure
  omega

end

/-! ## With and without the clip region -/

/-- The context without its clip region. -/
def unclipped (hdc : GDI_DC) : GDI_DC := { hdc with clip := { hdc.clip with null := true } }

/-- The pixel is in the clip region. -/
def InClip (hdc : GDI_DC) (x y : Nat) : Prop :=
  (hdc.clip.x ≤ x ∧ x < hdc.clip.x + hdc.clip.w) ∧ hdc.clip.y ≤ y ∧ y < hdc.clip.y + hdc.clip.h

instance (hdc : GDI_DC) (x y : Nat) : Decidable (InClip hdc x y) :=
  inferInstanceAs (Decidable (_ ∧ _))

/-- The clip region meets the bitmap. -/
def ClipMeets (hBmp : GDI_BITMAP) (hdc : GDI_DC) : Prop :=
  ∃ x y : Nat, x < hBmp.width ∧ y < hBmp.height ∧ InClip hdc x y

variable {hdc : GDI_DC} {x y : Nat} {hBmp : GDI_BITMAP} {c : Coords}

theorem clip_rect_spec (hBmp : GDI_BITMAP) (h : hdc.clip.null = false) :
    (clip_rect hBmp hdc).left = max hdc.clip.x 0 ∧ (clip_rect hBmp hdc).top = max hdc.clip.y 0 ∧
      (clip_rect hBmp hdc).right = min (hdc.clip.x + hdc.clip.w - 1) (hBmp.width - 1) ∧
      (clip_rect hBmp hdc).bottom = min (hdc.clip.y + hdc.clip.h - 1) (hBmp.height - 1) := by
  unfold clip_rect gdi_RgnToRect gdi_CRgnToRect
  simp only [h, Bool.false_eq_true, if_false]
  refine ⟨?_, ?_, ?_, ?_⟩ <;> omega

theorem ClipMeets.area (hmeets : ClipMeets hBmp hdc) (hnull : hdc.clip.null = false) :
    Area hBmp (clip_rect hBmp hdc) := by
  obtain ⟨x, y, hx, hy, hin⟩ := hmeets
  obtain ⟨hleft, htop, hright, hbottom⟩ := clip_rect_spec hBmp hnull
  unfold InClip at hin
  constructor <;> omega

theorem part_unclipped (m : Memory) (hdc : GDI_DC) (c : Coords) :
    part m (unclipped hdc) c = clipped (gdi_CRgnToRect 0 0 (m hdc.selectedObject).width
      (m hdc.selectedObject).height) c :=
  congrArg (clipped · c) (clip_rect_of_null _ rfl)

theorem ClipMeets.area_unclipped (hmeets : ClipMeets hBmp hdc) :
    Area hBmp (clip_rect hBmp (unclipped hdc)) := by
  obtain ⟨x, y, hx, hy, -⟩ := hmeets
  rw [clip_rect_of_null hBmp rfl]
  constructor <;> simp only [gdi_CRgnToRect] <;> omega

/-- The clip region only restricts the figure: inside the result is the one without it, and outside
nothing changes. -/
def ClipOnly (m : Memory) (hdc hdcSrc : GDI_DC) (c : Coords) (figure : Figure) : Prop :=
  ∃ m₁ m₀, figure.run m hdc hdcSrc c = some m₁ ∧
    figure.run m (unclipped hdc) hdcSrc c = some m₀ ∧
    (∀ id ≠ hdc.selectedObject, m₁ id = m id) ∧
    ∀ x < (m hdc.selectedObject).width, ∀ y < (m hdc.selectedObject).height,
      (m₁ hdc.selectedObject).pixel x y =
        if InClip hdc x y then (m₀ hdc.selectedObject).pixel x y
        else (m hdc.selectedObject).pixel x y

/-- Does the figure read a pattern? -/
def usesPattern (hdc : GDI_DC) : Figure → Bool
  | .fillRect _ => false
  | .blt op => hdc.brush.style = .PATTERN ∧ Figure.handled op = true ∧
      (op.rop = .PATCOPY ∨ op.rop = .PATINVERT ∨ asksForPointer op.rop = true)

/-- Where the pattern starts with the clip region is a whole number of patterns from where it starts
without. -/
def Aligned (m : Memory) (hdc : GDI_DC) (c : Coords) : Prop :=
  ((part m hdc c).x - (part m (unclipped hdc) c).x) % hdc.brush.pattern.width = 0 ∧
    ((part m hdc c).y - (part m (unclipped hdc) c).y) % hdc.brush.pattern.height = 0

theorem pixel_place {hdcSrc : GDI_DC} {figure : Figure} (h : usesPattern hdc figure = false)
    (x y x' y' : Nat) (s d : UInt32) :
    figure.pixel hdc hdcSrc x y s d = figure.pixel hdc hdcSrc x' y' s d := by
  cases figure with
  | fillRect hbr => rfl
  | blt op =>
    unfold Figure.pixel
    dsimp only
    by_cases hhandled : Figure.handled op = true
    · rw [if_pos hhandled, if_pos hhandled]
      by_cases hpattern : hdc.brush.style = .PATTERN
      · simp only [usesPattern, hpattern, hhandled, true_and, decide_eq_false_iff_not, not_or] at h
        generalize op.rop = rop at h ⊢
        cases rop <;> first | rfl | exact absurd h (by decide)
      · have hsame : brushPixel hdc x y = brushPixel hdc x' y' := by
          unfold brushPixel
          rw [if_neg hpattern, if_neg hpattern]
        unfold ropPixel
        rw [hsame]
    · rw [if_neg hhandled, if_neg hhandled]

theorem pixel_no_source {figure : Figure} (h : figure.hasSource = false) (hdc hdcSrc : GDI_DC)
    (x y : Nat) (s s' d : UInt32) :
    figure.pixel hdc hdcSrc x y s d = figure.pixel hdc hdcSrc x y s' d := by
  cases figure with
  | fillRect hbr => rfl
  | blt op =>
    cases op with
    | bitBlt rop => cases h
    | patBlt rop => cases rop <;> rfl

theorem brushPixel_aligned {x' y' : Nat}
    (hx : x % hdc.brush.pattern.width = x' % hdc.brush.pattern.width)
    (hy : y % hdc.brush.pattern.height = y' % hdc.brush.pattern.height) :
    brushPixel hdc x y = brushPixel hdc x' y' := by
  unfold brushPixel
  rw [hx, hy]

theorem pixel_aligned (hdcSrc : GDI_DC) (figure : Figure) {x' y' : Nat}
    (hx : x % hdc.brush.pattern.width = x' % hdc.brush.pattern.width)
    (hy : y % hdc.brush.pattern.height = y' % hdc.brush.pattern.height) (s d : UInt32) :
    figure.pixel hdc hdcSrc x y s d = figure.pixel hdc hdcSrc x' y' s d := by
  cases figure with
  | fillRect hbr => rfl
  | blt op =>
    unfold Figure.pixel ropPixel
    rw [brushPixel_aligned hx hy]

theorem sub_mod_of_aligned {n : Nat} {a b : Int} (hb : 0 ≤ b) (hab : b ≤ a) (hx : a ≤ x)
    (h : (a - b) % n = 0) : (x - a.toNat) % n = (x - b.toNat) % n := by
  obtain ⟨q, hq⟩ := Int.dvd_of_emod_eq_zero h
  have hcast : (((x - b.toNat : Nat) : Int)) = ((x - a.toNat : Nat) : Int) + n * q := by omega
  have := congrArg (· % (n : Int)) hcast
  simp only [Int.add_mul_emod_self_left] at this
  exact_mod_cast this.symm

theorem sub_mod_of_corner {n : Nat} {b : Int} (hb : 0 ≤ b) (hbx : b ≤ x)
    (h : (x - b.toNat) % n = 0) :
    (x - b) % n = 0 := by
  have hcast : (x : Int) - b = ((x - b.toNat : Nat) : Int) := by omega
  rw [hcast]
  exact_mod_cast h

theorem parts_spec {m : Memory} (hnull : hdc.clip.null = false) (c : Coords)
    (hx : x < (m hdc.selectedObject).width) (hy : y < (m hdc.selectedObject).height) :
    (0 ≤ (part m (unclipped hdc) c).x ∧ 0 ≤ (part m (unclipped hdc) c).y) ∧
      ((part m (unclipped hdc) c).x ≤ (part m hdc c).x ∧
        (part m (unclipped hdc) c).y ≤ (part m hdc c).y) ∧
      (InFigure (part m hdc c) x y ↔ InClip hdc x y ∧ InFigure c x y) ∧
      (InFigure (part m (unclipped hdc) c) x y ↔ InFigure c x y) := by
  obtain ⟨hleft, htop, hright, hbottom⟩ := clip_rect_spec (m hdc.selectedObject) hnull
  rw [part_unclipped]
  unfold part clipped InClip InFigure
  simp only [gdi_CRgnToRect, hleft, htop, hright, hbottom]
  refine ⟨?_, ?_, ?_, ?_⟩ <;> omega

theorem source_of_parts {m : Memory} (hnull : hdc.clip.null = false) (hdcSrc : GDI_DC)
    (hsrcx : 0 ≤ c.srcx) (hsrcy : 0 ≤ c.srcy) (hx : (part m hdc c).x ≤ x)
    (hy : (part m hdc c).y ≤ y) :
    sourcePixel m hdcSrc (part m (unclipped hdc) c) (x - (part m (unclipped hdc) c).x.toNat)
        (y - (part m (unclipped hdc) c).y.toNat) =
      sourcePixel m hdcSrc (part m hdc c) (x - (part m hdc c).x.toNat)
        (y - (part m hdc c).y.toNat) := by
  obtain ⟨hleft, htop, -, -⟩ := clip_rect_spec (m hdc.selectedObject) hnull
  rw [part_unclipped]
  unfold part clipped at *
  unfold sourcePixel
  simp only [gdi_CRgnToRect, hleft, htop] at hx hy ⊢
  congr 1 <;> omega

theorem meets_of_part {m : Memory} (h : InFigure (part m hdc c) x y) :
    Meets (clip_rect (m hdc.selectedObject) hdc) c := by
  simp only [InFigure, part, clipped] at h
  unfold Meets
  omega

/-- What a figure makes of the pixel, if the part `start` is drawn. -/
def drawn (m : Memory) (hdc hdcSrc : GDI_DC) (figure : Figure) (start : Coords) (x y : Nat) :
    UInt32 :=
  figure.pixel hdc hdcSrc (x - start.x.toNat) (y - start.y.toNat)
    (sourcePixel m hdcSrc start (x - start.x.toNat) (y - start.y.toNat))
    ((m hdc.selectedObject).pixel x y)

section

variable {m : Memory} {hdc hdcSrc : GDI_DC} {c : Coords} {figure : Figure}
  (hbrush : BrushOk hdc) (hne : hdcSrc.selectedObject ≠ hdc.selectedObject) (hw : 0 < c.w)
  (hh : 0 < c.h)
  (hsrc : figure.hasSource = true → Inside (m hdcSrc.selectedObject) c.srcx c.srcy c.w c.h)

include hbrush hne hw hh hsrc

theorem part_pixels
    (harea : Area (m hdc.selectedObject) (clip_rect (m hdc.selectedObject) hdc)) :
    ∃ m1, figure.run m hdc hdcSrc c = some m1 ∧ (∀ id ≠ hdc.selectedObject, m1 id = m id) ∧
      ∀ x < (m hdc.selectedObject).width, ∀ y, (m1 hdc.selectedObject).pixel x y =
        if InFigure (part m hdc c) x y then drawn m hdc hdcSrc figure (part m hdc c) x y
        else (m hdc.selectedObject).pixel x y := by
  by_cases hmeets : Meets (clip_rect (m hdc.selectedObject) hdc) c
  · have hin := harea.inside hw hh hmeets
    refine ⟨_, figure.run_of_meets hbrush hne hin
      (fun h => (hsrc h).of_clipped harea.wide harea.high hmeets) hmeets,
      fun id hid => withData_other m hid _, ?_⟩
    intro x hx y
    exact pixel_part hin _ hx
  · refine ⟨m, figure.run_of_not_meets hmeets, fun _ _ => rfl, ?_⟩
    intro x hx y
    rw [if_neg fun hpart => hmeets (meets_of_part hpart)]

theorem clip_only_iff (hnull : hdc.clip.null = false)
    (hclip : ClipMeets (m hdc.selectedObject) hdc) :
    ClipOnly m hdc hdcSrc c figure ↔
      ∀ x < (m hdc.selectedObject).width, ∀ y < (m hdc.selectedObject).height, InClip hdc x y →
        InFigure c x y → drawn m hdc hdcSrc figure (part m hdc c) x y =
          drawn m hdc hdcSrc figure (part m (unclipped hdc) c) x y := by
  obtain ⟨m0, hrun0, -, hpixels0⟩ := part_pixels (show BrushOk (unclipped hdc) from hbrush) hne hw
    hh hsrc hclip.area_unclipped
  obtain ⟨m1, hrun1, hothers, hpixels1⟩ := part_pixels hbrush hne hw hh hsrc (hclip.area hnull)
  constructor
  · rintro ⟨m1', m0', hrun1', hrun0', -, hpixels⟩ x hx y hy hin hfigure
    rw [hrun1] at hrun1'
    rw [hrun0] at hrun0'
    cases hrun1'
    cases hrun0'
    obtain ⟨-, -, hpart, hpart0⟩ := parts_spec hnull c hx hy
    have hpixel := hpixels x hx y hy
    rw [if_pos hin, hpixels1 x hx y, if_pos (hpart.mpr ⟨hin, hfigure⟩)] at hpixel
    exact hpixel.trans ((hpixels0 x hx y).trans (if_pos (hpart0.mpr hfigure)))
  · intro hsame
    refine ⟨m1, m0, hrun1, hrun0, hothers, ?_⟩
    intro x hx y hy
    obtain ⟨-, -, hpart, hpart0⟩ := parts_spec hnull c hx hy
    rw [hpixels1 x hx y]
    by_cases hin : InClip hdc x y
    · rw [if_pos hin]
      refine Eq.trans ?_ (hpixels0 x hx y).symm
      by_cases hfigure : InFigure c x y
      · rw [if_pos (hpart.mpr ⟨hin, hfigure⟩), if_pos (hpart0.mpr hfigure)]
        exact hsame x hx y hy hin hfigure
      · rw [if_neg fun h => hfigure (hpart.mp h).2, if_neg fun h => hfigure (hpart0.mp h)]
        rfl
    · rw [if_neg fun h => hin (hpart.mp h).1, if_neg hin]

end

/-! ## Patterns -/

/-- The same brush with another picture on it. -/
def withPattern (hdc : GDI_DC) (data : Nat → UInt32) : GDI_DC :=
  { hdc with
    brush := { hdc.brush with pattern := { hdc.brush.pattern with data := data } } }

/-- Bitmaps of the same sizes. -/
def SameSizes (m m' : Memory) : Prop :=
  ∀ id, (m id).width = (m' id).width ∧ (m id).height = (m' id).height

/-- The clip region only restricts the figure, for every content of the bitmaps and the pattern. -/
def ClippingOnlyRestricts (sizes : Memory) (hdc hdcSrc : GDI_DC) (c : Coords) (figure : Figure) :
    Prop :=
  ∀ m, SameSizes m sizes → ∀ data, ClipOnly m (withPattern hdc data) hdcSrc c figure

variable {hdc : GDI_DC} {m : Memory} {x y : Nat} {c : Coords} {figure : Figure}

theorem part_of_sizes {m' : Memory} (h : SameSizes m m') (hdc : GDI_DC) (c : Coords) :
    part m hdc c = part m' hdc c := by
  unfold part clip_rect
  rw [(h hdc.selectedObject).1, (h hdc.selectedObject).2]

theorem Inside.of_sizes {hBmp hBmp' : GDI_BITMAP} {x y w h : Int} (hin : Inside hBmp' x y w h)
    (hwidth : hBmp.width = hBmp'.width) (hheight : hBmp.height = hBmp'.height) :
    Inside hBmp x y w h := by
  obtain ⟨h1, h2, h3, h4, h5, h6⟩ := hin
  constructor <;> omega

theorem ClipMeets.of_sizes {hBmp hBmp' : GDI_BITMAP} (h : ClipMeets hBmp' hdc)
    (hwidth : hBmp.width = hBmp'.width) (hheight : hBmp.height = hBmp'.height) :
    ClipMeets hBmp hdc := by
  obtain ⟨x, y, hx, hy, hin⟩ := h
  exact ⟨x, y, by omega, by omega, hin⟩

theorem drawn_eq (hdcSrc : GDI_DC) (hnull : hdc.clip.null = false)
    (hsrc : figure.hasSource = true → 0 ≤ c.srcx ∧ 0 ≤ c.srcy) (data : Nat → UInt32)
    (hx : (part m hdc c).x ≤ x) (hy : (part m hdc c).y ≤ y) :
    drawn m (withPattern hdc data) hdcSrc figure (part m (unclipped hdc) c) x y =
      figure.pixel (withPattern hdc data) hdcSrc (x - (part m (unclipped hdc) c).x.toNat)
        (y - (part m (unclipped hdc) c).y.toNat)
        (sourcePixel m hdcSrc (part m hdc c) (x - (part m hdc c).x.toNat)
          (y - (part m hdc c).y.toNat)) ((m hdc.selectedObject).pixel x y) := by
  by_cases h : figure.hasSource = true
  · obtain ⟨hsrcx, hsrcy⟩ := hsrc h
    unfold drawn
    rw [source_of_parts hnull hdcSrc hsrcx hsrcy hx hy]
    rfl
  · exact pixel_no_source (by simpa using h) _ _ _ _ _ _ _

theorem pattern_rop_sees_brush {rop : Rop}
    (h : rop = .PATCOPY ∨ rop = .PATINVERT ∨ asksForPointer rop = true) :
    ∀ p p' : Bool, rop3 rop.index p true false = rop3 rop.index p' true false → p = p' := by
  cases rop <;> first | decide | exact absurd h (by decide)

theorem pattern_style (h : usesPattern hdc figure = true) : hdc.brush.style = .PATTERN := by
  cases figure with
  | fillRect hbr => cases h
  | blt op =>
    simp only [usesPattern, decide_eq_true_eq] at h
    exact h.1

theorem pattern_seen {hdcSrc : GDI_DC} (hpattern : usesPattern hdc figure = true) {x' y' : Nat}
    (h : figure.pixel hdc hdcSrc x y 0xFFFFFFFF 0 = figure.pixel hdc hdcSrc x' y' 0xFFFFFFFF 0) :
    bit (brushPixel hdc x y) 0 = bit (brushPixel hdc x' y') 0 := by
  cases figure with
  | fillRect hbr => cases hpattern
  | blt op =>
    simp only [usesPattern, decide_eq_true_eq] at hpattern
    obtain ⟨hstyle, hhandled, hrop⟩ := hpattern
    have hglyph : op.rop ≠ .DSPDxax := by
      intro heq
      rw [heq] at hrop
      exact absurd hrop (by decide)
    have hused : ∀ j k, usedBrush hdc op.rop j k = brushPixel hdc j k := by
      intro j k
      apply if_neg
      rw [hstyle]
      rintro ⟨hsolid, -⟩
      cases hsolid
    unfold Figure.pixel at h
    simp only [hhandled, if_true] at h
    have hbit := congrArg (fun a => bit a 0) h
    simp only [ropPixel_bit hdc hdcSrc hglyph _ _ _ _ (show 0 < 24 by decide), hused] at hbit
    exact pattern_rop_sees_brush hrop _ _ hbit

theorem corner_of_part (hnull : hdc.clip.null = false)
    (hclip : ClipMeets (m hdc.selectedObject) hdc) (hw : 0 < c.w) (hh : 0 < c.h)
    (hmeets : Meets (clip_rect (m hdc.selectedObject) hdc) c) :
    ∃ x y : Nat, (part m hdc c).x = x ∧ (part m hdc c).y = y ∧
      x < (m hdc.selectedObject).width ∧ y < (m hdc.selectedObject).height ∧ InClip hdc x y ∧
      InFigure c x y := by
  obtain ⟨hleft, htop, hwide, hhigh, hright, hbottom⟩ :
      (part m hdc c).InsideOf (m hdc.selectedObject) := (hclip.area hnull).inside hw hh hmeets
  obtain ⟨hcols, hrows⟩ : 0 < (part m hdc c).w ∧ 0 < (part m hdc c).h :=
    (hclip.area hnull).some_pixel hw hh hmeets
  have hx : ((part m hdc c).x.toNat : Int) = (part m hdc c).x := Int.toNat_of_nonneg hleft
  have hy : ((part m hdc c).y.toNat : Int) = (part m hdc c).y := Int.toNat_of_nonneg htop
  have hxw : (part m hdc c).x.toNat < (m hdc.selectedObject).width := by omega
  have hyh : (part m hdc c).y.toNat < (m hdc.selectedObject).height := by omega
  obtain ⟨-, -, hpart, -⟩ := parts_spec hnull c hxw hyh
  obtain ⟨hin, hfigure⟩ := hpart.mp (by unfold InFigure; omega)
  exact ⟨_, _, hx.symm, hy.symm, hxw, hyh, hin, hfigure⟩

/-- Some pixel of the bitmap is in the clip region and in the rectangle. -/
def Touches (hBmp : GDI_BITMAP) (hdc : GDI_DC) (c : Coords) : Prop :=
  ∃ x y : Nat, x < hBmp.width ∧ y < hBmp.height ∧ InClip hdc x y ∧ InFigure c x y

theorem meets_iff_touches (hnull : hdc.clip.null = false)
    (hclip : ClipMeets (m hdc.selectedObject) hdc) (hw : 0 < c.w) (hh : 0 < c.h) :
    Meets (clip_rect (m hdc.selectedObject) hdc) c ↔ Touches (m hdc.selectedObject) hdc c := by
  constructor
  · intro hmeets
    obtain ⟨x, y, -, -, h⟩ := corner_of_part hnull hclip hw hh hmeets
    exact ⟨x, y, h⟩
  · rintro ⟨x, y, hx, hy, hin, hfigure⟩
    obtain ⟨-, -, hpart, -⟩ := parts_spec hnull c hx hy
    exact meets_of_part (hpart.mpr ⟨hin, hfigure⟩)

/-- The columns and rows that the clip region cuts off the visible rectangle, to the left and above,
are whole numbers of patterns. -/
def CutsWholePatterns (hdc : GDI_DC) (c : Coords) : Prop :=
  (max hdc.clip.x (max c.x 0) - max c.x 0) % hdc.brush.pattern.width = 0 ∧
    (max hdc.clip.y (max c.y 0) - max c.y 0) % hdc.brush.pattern.height = 0

theorem aligned_iff_cuts (m : Memory) (hnull : hdc.clip.null = false) (c : Coords) :
    Aligned m hdc c ↔ CutsWholePatterns hdc c := by
  obtain ⟨hleft, htop, -, -⟩ := clip_rect_spec (m hdc.selectedObject) hnull
  have hx : (part m hdc c).x - (part m (unclipped hdc) c).x =
      max hdc.clip.x (max c.x 0) - max c.x 0 := by
    rw [part_unclipped]
    simp only [part, clipped, gdi_CRgnToRect, hleft]
    omega
  have hy : (part m hdc c).y - (part m (unclipped hdc) c).y =
      max hdc.clip.y (max c.y 0) - max c.y 0 := by
    rw [part_unclipped]
    simp only [part, clipped, gdi_CRgnToRect, htop]
    omega
  unfold Aligned CutsWholePatterns
  rw [hx, hy]

/-- One white dot in the corner of a black pattern. -/
def dot : Nat → UInt32 := fun i => if i = 0 then 0xFFFFFFFF else 0

theorem dot_seen (hstyle : hdc.brush.style = .PATTERN) (hwidth : 0 < hdc.brush.pattern.width)
    (h : bit (brushPixel (withPattern hdc dot) 0 0) 0 =
      bit (brushPixel (withPattern hdc dot) x y) 0) :
    x % hdc.brush.pattern.width = 0 ∧ y % hdc.brush.pattern.height = 0 := by
  have hpixel : ∀ j k, brushPixel (withPattern hdc dot) j k =
      dot ((k % hdc.brush.pattern.height) * hdc.brush.pattern.width +
        j % hdc.brush.pattern.width) := by
    intro j k
    exact if_pos hstyle
  rw [hpixel, hpixel, Nat.zero_mod, Nat.zero_mod, Nat.zero_mul] at h
  by_cases hzero : (y % hdc.brush.pattern.height) * hdc.brush.pattern.width +
      x % hdc.brush.pattern.width = 0
  · obtain ⟨hrow, hcol⟩ := Nat.add_eq_zero_iff.mp hzero
    refine ⟨hcol, ?_⟩
    rcases Nat.mul_eq_zero.mp hrow with hrow | hnone
    · exact hrow
    · omega
  · unfold dot at h
    rw [if_neg hzero, if_pos rfl] at h
    exact absurd h (by decide)

/-- One black bitmap, and the others white. -/
def blackAmongWhite (sizes : Memory) (dst : Nat) : Memory := fun id =>
  { sizes id with data := fun _ => if id = dst then 0 else 0xFFFFFFFF }

section

variable {sizes : Memory} {hdc hdcSrc : GDI_DC} {c : Coords} {figure : Figure}
  (hnull : hdc.clip.null = false) (hclip : ClipMeets (sizes hdc.selectedObject) hdc)
  (hbrush : BrushOk hdc) (hne : hdcSrc.selectedObject ≠ hdc.selectedObject) (hw : 0 < c.w)
  (hh : 0 < c.h)
  (hsrc : figure.hasSource = true → Inside (sizes hdcSrc.selectedObject) c.srcx c.srcy c.w c.h)

include hnull hclip hbrush hne hw hh hsrc

theorem clip_only_with_pattern {m : Memory} (hm : SameSizes m sizes) (data : Nat → UInt32) :
    ClipOnly m (withPattern hdc data) hdcSrc c figure ↔
      ∀ x < (m hdc.selectedObject).width, ∀ y < (m hdc.selectedObject).height, InClip hdc x y →
        InFigure c x y →
        drawn m (withPattern hdc data) hdcSrc figure (part m hdc c) x y =
          drawn m (withPattern hdc data) hdcSrc figure (part m (unclipped hdc) c) x y := by
  have hdst := hm hdc.selectedObject
  have hother := hm hdcSrc.selectedObject
  have hclip' : ClipMeets (m (withPattern hdc data).selectedObject) (withPattern hdc data) :=
    hclip.of_sizes hdst.1 hdst.2
  exact clip_only_iff (show BrushOk (withPattern hdc data) from hbrush) hne hw hh
    (fun h => (hsrc h).of_sizes hother.1 hother.2) hnull hclip'

theorem clipping_restricts (hgood : usesPattern hdc figure = false ∨
      ¬ Meets (clip_rect (sizes hdc.selectedObject) hdc) c ∨ Aligned sizes hdc c) :
    ClippingOnlyRestricts sizes hdc hdcSrc c figure := by
  intro m hm data
  rw [clip_only_with_pattern hnull hclip hbrush hne hw hh hsrc hm]
  intro x hx y hy hin hfigure
  obtain ⟨⟨hx0, hy0⟩, ⟨hx1, hy1⟩, hpart, -⟩ := parts_spec hnull c hx hy
  obtain ⟨⟨hpx, -⟩, hpy, -⟩ := hpart.mpr ⟨hin, hfigure⟩
  rw [drawn_eq hdcSrc hnull (fun h => ⟨(hsrc h).left, (hsrc h).top⟩) data hpx hpy]
  rcases hgood with hpattern | hmeets | haligned
  · exact pixel_place (show usesPattern (withPattern hdc data) figure = false from hpattern) _ _ _ _
      _ _
  · have hdrawn := hpart.mpr ⟨hin, hfigure⟩
    rw [part_of_sizes hm hdc c] at hdrawn
    exact absurd (meets_of_part hdrawn) hmeets
  · unfold Aligned at haligned
    rw [← part_of_sizes hm hdc c, ← part_of_sizes hm _ c] at haligned
    have hcol := sub_mod_of_aligned hx0 hx1 hpx haligned.1
    have hrow := sub_mod_of_aligned hy0 hy1 hpy haligned.2
    exact pixel_aligned hdcSrc figure
      (show _ % (withPattern hdc data).brush.pattern.width = _ from hcol) hrow _ _

theorem aligned_of_restricts (hrestricts : ClippingOnlyRestricts sizes hdc hdcSrc c figure)
    (hpattern : usesPattern hdc figure = true)
    (hmeets : Meets (clip_rect (sizes hdc.selectedObject) hdc) c) : Aligned sizes hdc c := by
  have hm : SameSizes (blackAmongWhite sizes hdc.selectedObject) sizes := fun _ => ⟨rfl, rfl⟩
  have hall := (clip_only_with_pattern hnull hclip hbrush hne hw hh hsrc hm dot).mp
    (hrestricts _ hm dot)
  obtain ⟨x, y, hpx, hpy, hx, hy, hin, hfigure⟩ := corner_of_part hnull hclip hw hh hmeets
  obtain ⟨⟨hx0, hy0⟩, ⟨hx1, hy1⟩, -, -⟩ := parts_spec hnull c hx hy
  have hpixel := hall x hx y hy hin hfigure
  have hblack : ∀ j k, (blackAmongWhite sizes hdc.selectedObject hdc.selectedObject).pixel j k =
      0 := fun _ _ => if_pos rfl
  have hwhite : ∀ c' j k, sourcePixel (blackAmongWhite sizes hdc.selectedObject) hdcSrc c' j k =
      0xFFFFFFFF := fun _ _ _ => if_neg hne
  rw [part_of_sizes hm, part_of_sizes hm] at hpixel
  unfold drawn at hpixel
  rw [hwhite, hwhite, show (withPattern hdc dot).selectedObject = hdc.selectedObject from rfl,
    hblack, hpx, hpy, Int.toNat_natCast, Int.toNat_natCast, Nat.sub_self, Nat.sub_self] at hpixel
  have hseen := pattern_seen (show usesPattern (withPattern hdc dot) figure = true from hpattern)
    hpixel
  have hstyle := pattern_style hpattern
  obtain ⟨hcol, hrow⟩ := dot_seen hstyle (Nat.pos_of_ne_zero (hbrush hstyle).1) hseen
  unfold Aligned
  rw [hpx] at hx1 ⊢
  rw [hpy] at hy1 ⊢
  exact ⟨sub_mod_of_corner hx0 hx1 hcol, sub_mod_of_corner hy0 hy1 hrow⟩

/-- The right and the lower side of the rectangle are `int`s. -/
def Coords.Ints (c : Coords) : Prop := c.x + c.w - 1 < 0x80000000 ∧ c.y + c.h - 1 < 0x80000000

/-- Clipping only restricts drawing, exactly if no pattern is read, no pixel is drawn, or the clip
region cuts off a whole number of patterns. -/
theorem clipping_only_restricts_iff (_hint : c.Ints) :
    ClippingOnlyRestricts sizes hdc hdcSrc c figure ↔
      usesPattern hdc figure = false ∨ ¬ Touches (sizes hdc.selectedObject) hdc c ∨
        CutsWholePatterns hdc c := by
  rw [← meets_iff_touches hnull hclip hw hh, ← aligned_iff_cuts sizes hnull c]
  constructor
  · intro hrestricts
    by_cases hpattern : usesPattern hdc figure = true
    · by_cases hmeets : Meets (clip_rect (sizes hdc.selectedObject) hdc) c
      · exact .inr (.inr (aligned_of_restricts hnull hclip hbrush hne hw hh hsrc hrestricts hpattern
          hmeets))
      · exact .inr (.inl hmeets)
    · exact .inl (by simpa using hpattern)
  · exact clipping_restricts hnull hclip hbrush hne hw hh hsrc

end

/-- A bitmap of 16 by 16 pixels for every context. -/
def squares : Memory := fun _ => ⟨16, 16, fun _ => 0⟩

/-- A chequered brush, and a clip region from column `x` on. -/
def clippedDC (x : Int) : GDI_DC :=
  { sampleDC 0 chequered with clip := ⟨x, 0, 16, 16, false⟩ }

def wholeSquare : Coords := ⟨0, 0, 16, 16, 0, 0⟩

theorem clippedDC_meets {x : Int} (h : 0 ≤ x) (hx : x < 16) :
    ClipMeets (squares 0) (clippedDC x) := by
  refine ⟨15, 15, show 15 < 16 by decide, show 15 < 16 by decide, ?_⟩
  simp only [InClip, clippedDC]
  omega

theorem clippedDC_brush (x : Int) : BrushOk (clippedDC x) :=
  fun _ => ⟨show (2 : Nat) ≠ 0 by decide, show (2 : Nat) ≠ 0 by decide⟩

theorem clipping_restricts_for_even_columns :
    ClippingOnlyRestricts squares (clippedDC 4) (sampleDC 1 red) wholeSquare
      (.blt (.patBlt .PATCOPY)) :=
  (clipping_only_restricts_iff rfl (clippedDC_meets (by decide) (by decide)) (clippedDC_brush 4)
    (show (1 : Nat) ≠ 0 by decide) (show (0 : Int) < 16 by decide) (show (0 : Int) < 16 by decide)
    (fun h => by cases h) ⟨by decide, by decide⟩).mpr (.inr (.inr ⟨by decide, by decide⟩))

/-- Cut off one column of a chequered pattern, and black and white change places. -/
theorem clipping_moves_the_pattern :
    ¬ ClippingOnlyRestricts squares (clippedDC 1) (sampleDC 1 red) wholeSquare
      (.blt (.patBlt .PATCOPY)) := by
  intro hrestricts
  have haligned := aligned_of_restricts rfl (clippedDC_meets (by decide) (by decide))
    (clippedDC_brush 1) (show (1 : Nat) ≠ 0 by decide) (show (0 : Int) < 16 by decide)
    (show (0 : Int) < 16 by decide) (fun h => by cases h) hrestricts (by decide)
    (by unfold Meets; decide)
  exact absurd haligned.1 (by decide)

/-! ## What clipping computes -/

/-- The pixel is in the rectangle. -/
def Covers (x y w h px py : Int) : Prop := (x ≤ px ∧ px < x + w) ∧ y ≤ py ∧ py < y + h

/-- The pixel of the bitmap may be drawn on. -/
def Open (hBmp : GDI_BITMAP) (hdc : GDI_DC) (x y : Int) : Prop :=
  Covers 0 0 hBmp.width hBmp.height x y ∧
    (hdc.clip.null = true ∨ Covers hdc.clip.x hdc.clip.y hdc.clip.w hdc.clip.h x y)

/-- There is something to draw just when the rectangle has an open pixel. Then the open pixels are
what is left of it, and the source moves with the corner. -/
structure ClipsExactly (hBmp : GDI_BITMAP) (hdc : GDI_DC) (c : Coords) (draw : Bool)
    (left : Coords) : Prop where
  draws : draw = true ↔ ∃ x y, Open hBmp hdc x y ∧ Covers c.x c.y c.w c.h x y
  area : draw = true → ∀ x y, Covers left.x left.y left.w left.h x y ↔
    Open hBmp hdc x y ∧ Covers c.x c.y c.w c.h x y
  source : draw = true → left.srcx - c.srcx = left.x - c.x ∧ left.srcy - c.srcy = left.y - c.y

theorem open_iff (hBmp : GDI_BITMAP) (hdc : GDI_DC) (x y : Int) :
    Open hBmp hdc x y ↔ ((clip_rect hBmp hdc).left ≤ x ∧ x ≤ (clip_rect hBmp hdc).right) ∧
      (clip_rect hBmp hdc).top ≤ y ∧ y ≤ (clip_rect hBmp hdc).bottom := by
  unfold Open Covers
  by_cases hnull : hdc.clip.null = true
  · rw [clip_rect_of_null hBmp hnull]
    simp only [gdi_CRgnToRect, hnull, true_or, and_true]
    omega
  · obtain ⟨hleft, htop, hright, hbottom⟩ := clip_rect_spec hBmp (Bool.eq_false_iff.mpr hnull)
    rw [or_iff_right hnull]
    omega

theorem meets_clip_rect_iff (hBmp : GDI_BITMAP) (hdc : GDI_DC) (c : Coords) :
    Meets (clip_rect hBmp hdc) c ↔ Meets (gdi_CRgnToRect 0 0 hBmp.width hBmp.height) c ∧
      (hdc.clip.null = true ∨ Meets (gdi_RgnToRect hdc.clip) c) := by
  by_cases hnull : hdc.clip.null = true
  · simp [clip_rect_of_null hBmp hnull, hnull]
  · obtain ⟨hleft, htop, hright, hbottom⟩ := clip_rect_spec hBmp (Bool.eq_false_iff.mpr hnull)
    rw [or_iff_right hnull]
    simp only [Meets, gdi_RgnToRect, gdi_CRgnToRect]
    omega

/-- Clipping is exact unless the rectangle reaches over the bitmap and over the clip region, and
these two have no pixel in common. -/
theorem clipping_is_exact_iff (hBmp : GDI_BITMAP) (hdc : GDI_DC) (c : Coords) (hw : 0 < c.w)
    (hh : 0 < c.h) (_hint : c.Ints) :
    ClipsExactly hBmp hdc c (gdi_ClipCoords hBmp hdc c).1 (gdi_ClipCoords hBmp hdc c).2 ↔
      ¬ (Meets (gdi_CRgnToRect 0 0 hBmp.width hBmp.height) c ∧
        (hdc.clip.null = true ∨ Meets (gdi_RgnToRect hdc.clip) c)) ∨
      ∃ x y, Open hBmp hdc x y := by
  have hopen := open_iff hBmp hdc
  rw [← meets_clip_rect_iff]
  by_cases hmeets : Meets (clip_rect hBmp hdc) c
  · rw [gdi_ClipCoords_of_meets hmeets, or_iff_right (not_not.mpr hmeets)]
    generalize clip_rect hBmp hdc = clip at hopen hmeets
    obtain ⟨h1, h2, h3, h4⟩ := hmeets
    constructor
    · intro hexact
      obtain ⟨x, y, hxy, -⟩ := hexact.draws.mp rfl
      exact ⟨x, y, hxy⟩
    · rintro ⟨x, y, hxy⟩
      obtain ⟨⟨hx1, hx2⟩, hy1, hy2⟩ := (hopen x y).mp hxy
      refine ⟨⟨fun _ => ⟨max c.x clip.left, max c.y clip.top, ?_⟩, fun _ => rfl⟩, ?_, ?_⟩
      · rw [hopen, Covers]
        omega
      · intro _ x y
        simp only [hopen, Covers, clipped]
        omega
      · intro _
        simp only [clipped]
        omega
  · rw [gdi_ClipCoords_of_not_meets hmeets]
    have hnone {p : Prop} : false = true → p := Bool.false_ne_true.elim
    refine ⟨fun _ => .inl hmeets, fun _ => ⟨⟨hnone, ?_⟩, hnone, hnone⟩⟩
    rintro ⟨x, y, hxy, hin⟩
    rw [hopen] at hxy
    unfold Covers at hin
    unfold Meets at hmeets
    omega

theorem clipping_is_exact_inside : ClipsExactly (squares 0) (clippedDC 4) wholeSquare
    (gdi_ClipCoords (squares 0) (clippedDC 4) wholeSquare).1
    (gdi_ClipCoords (squares 0) (clippedDC 4) wholeSquare).2 :=
  (clipping_is_exact_iff (squares 0) (clippedDC 4) wholeSquare (by decide) (by decide)
    ⟨by decide, by decide⟩).mpr
    (.inr ⟨5, 5, by unfold Open Covers; decide⟩)

/-- A clip region to the right of the bitmap: the code still draws, with a negative width. -/
theorem clip_outside_the_bitmap_draws :
    ¬ ClipsExactly (squares 0) (clippedDC 20) ⟨0, 0, 30, 16, 0, 0⟩
      (gdi_ClipCoords (squares 0) (clippedDC 20) ⟨0, 0, 30, 16, 0, 0⟩).1
      (gdi_ClipCoords (squares 0) (clippedDC 20) ⟨0, 0, 30, 16, 0, 0⟩).2 := by
  intro hexact
  obtain ⟨x, y, ⟨⟨hx, -⟩, hclip⟩, -⟩ := hexact.draws.mp rfl
  have hright : 20 ≤ x := (hclip.resolve_left (by decide)).1.1
  have hleft : x < 0 + 16 := hx.2
  omega

end neutrinordp.gdi
