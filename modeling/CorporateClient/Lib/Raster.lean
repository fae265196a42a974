-- Pictures in memory: the pixels of a picture of some width stand row by row in one array. Loops
-- that rewrite a rectangle pixel by pixel, and copies of a rectangle row by row.
import Mathlib.Logic.Function.Basic
import Mathlib.Data.List.Induction
import Mathlib.Data.Nat.Basic

open List

namespace raster

variable {σ π : Type}

/-! ## Loops -/

theorem foldlM_range (step : σ → Nat → Option σ) (state : Nat → σ) (n : Nat)
    (h : ∀ k < n, step (state k) k = some (state (k + 1))) :
    (range n).foldlM step (state 0) = some (state n) := by
  induction n with
  | zero => rfl
  | succ n ih =>
    have hbefore := ih fun k hk => h k (by omega)
    rw [range_succ, foldlM_append, hbefore]
    simp only [Option.bind_eq_bind, Option.bind_some, foldlM_cons, foldlM_nil, h n (by omega)]
    rfl

/-! ## A rectangle, pixel by pixel -/

/-- The `n` cells from `p` on are rewritten. -/
def setRange (data : Nat → π) (p n : Nat) (g : Nat → π → π) : Nat → π := fun i =>
  if p ≤ i ∧ i < p + n then g (i - p) (data i) else data i

theorem setRange_zero (data : Nat → π) (p : Nat) (g : Nat → π → π) :
    setRange data p 0 g = data := by
  funext i
  exact if_neg (by omega)

theorem setRange_succ (data : Nat → π) (p n : Nat) (g : Nat → π → π) :
    setRange data p (n + 1) g =
      Function.update (setRange data p n g) (p + n) (g n (data (p + n))) := by
  funext i
  by_cases hi : i = p + n
  · subst hi
    rw [Function.update_self, setRange, if_pos (by omega), Nat.add_sub_cancel_left]
  · rw [Function.update_of_ne hi]
    unfold setRange
    by_cases hin : p ≤ i ∧ i < p + n
    · rw [if_pos hin, if_pos (by omega)]
    · rw [if_neg hin, if_neg (by omega)]

theorem setRange_next (data : Nat → π) (p n : Nat) (g : Nat → π → π) :
    setRange data p n g (p + n) = data (p + n) :=
  if_neg (by omega)

/-- Is the cell in the rectangle with the corner `(x, y)` and the size `w`, `h`? -/
def InRect (width x y w h i : Nat) : Prop :=
  (x ≤ i % width ∧ i % width < x + w) ∧ y ≤ i / width ∧ i / width < y + h

instance (width x y w h i : Nat) : Decidable (InRect width x y w h i) :=
  inferInstanceAs (Decidable (_ ∧ _))

/-- The pixels of a rectangle are rewritten. `g` gets the column and the row in the rectangle. -/
def paint (width x y w h : Nat) (g : Nat → Nat → π → π) (data : Nat → π) : Nat → π := fun i =>
  if InRect width x y w h i then g (i % width - x) (i / width - y) (data i) else data i

variable {width x w y : Nat}

theorem cell_mod (r : Nat) (hx : x < width) : (r * width + x) % width = x := by
  rw [Nat.add_comm, Nat.add_mul_mod_self_right, Nat.mod_eq_of_lt hx]

theorem cell_div (r : Nat) (hx : x < width) : (r * width + x) / width = r := by
  rw [Nat.add_comm, Nat.add_mul_div_right _ _ (by omega), Nat.div_eq_of_lt hx, Nat.zero_add]

theorem eq_cell (width i : Nat) : i = i / width * width + i % width := by
  rw [Nat.mul_comm]
  exact (Nat.div_add_mod i width).symm

theorem in_row_iff (hw : x + w ≤ width) (r i : Nat) :
    (r * width + x ≤ i ∧ i < r * width + x + w) ↔
      i / width = r ∧ x ≤ i % width ∧ i % width < x + w := by
  have hi := eq_cell width i
  constructor
  · rintro ⟨hlow, hhigh⟩
    obtain ⟨c, rfl⟩ : ∃ c, i = r * width + c := ⟨i - r * width, by omega⟩
    have hc : c < width := by omega
    rw [cell_div r hc, cell_mod r hc]
    omega
  · rintro ⟨rfl, hlow, hhigh⟩
    omega

theorem cell_lt {height : Nat} (hx : x < width) (hy : y < height) :
    y * width + x < width * height := by
  calc y * width + x < y * width + width := by omega
    _ = (y + 1) * width := by rw [Nat.succ_mul]
    _ ≤ height * width := Nat.mul_le_mul_right _ hy
    _ = width * height := Nat.mul_comm _ _

theorem paint_zero (width x y w : Nat) (g : Nat → Nat → π → π) (data : Nat → π) :
    paint width x y w 0 g data = data := by
  funext i
  apply if_neg
  unfold InRect
  omega

theorem paint_succ (hw : x + w ≤ width) (y h : Nat) (g : Nat → Nat → π → π) (data : Nat → π) :
    paint width x y w (h + 1) g data =
      setRange (paint width x y w h g data) ((y + h) * width + x) w fun j => g j h := by
  funext i
  unfold setRange
  by_cases hrow : (y + h) * width + x ≤ i ∧ i < (y + h) * width + x + w
  · rw [if_pos hrow]
    obtain ⟨hdiv, hlow, hhigh⟩ := (in_row_iff hw _ _).mp hrow
    have hi := eq_cell width i
    have hcol : i - ((y + h) * width + x) = i % width - x := by
      rw [hdiv] at hi
      omega
    have hin : InRect width x y w (h + 1) i := ⟨⟨hlow, hhigh⟩, by omega, by omega⟩
    have hout : ¬ InRect width x y w h i := by
      rintro ⟨-, -, hlt⟩
      omega
    rw [paint, if_pos hin, paint, if_neg hout, hcol, hdiv, Nat.add_sub_cancel_left]
  · rw [if_neg hrow]
    rw [in_row_iff hw] at hrow
    unfold paint
    have hsame : InRect width x y w (h + 1) i ↔ InRect width x y w h i := by
      unfold InRect
      omega
    simp only [hsame]

theorem paint_at {h : Nat} (g : Nat → Nat → π → π) (data : Nat → π) {col row : Nat}
    (hcol : col < width) :
    paint width x y w h g data (row * width + col) =
      if (x ≤ col ∧ col < x + w) ∧ y ≤ row ∧ row < y + h then
        g (col - x) (row - y) (data (row * width + col))
      else data (row * width + col) := by
  simp only [paint, InRect, cell_mod row hcol, cell_div row hcol]

/-! ## A rectangle, copied row by row -/

/-- A copy of `n` cells that behaves as if they were all read first. -/
def copyRange (data : Nat → π) (dst src n : Nat) : Nat → π := fun i =>
  if dst ≤ i ∧ i < dst + n then data (src + (i - dst)) else data i

/-- The rows of a rectangle are copied in some order. -/
def copyRows (width x y sx sy w : Nat) (data : Nat → π) (rows : List Nat) : Nat → π :=
  rows.foldl (fun data k => copyRange data ((y + k) * width + x) ((sy + k) * width + sx) w) data

/-- The picture with some rows copied at once. -/
def movedRows (width x y sx sy w : Nat) (data : Nat → π) (rows : List Nat) : Nat → π := fun i =>
  if (x ≤ i % width ∧ i % width < x + w) ∧ y ≤ i / width ∧ i / width - y ∈ rows then
    data ((sy + (i / width - y)) * width + (sx + (i % width - x)))
  else data i

/-- The copy of row `j` leaves the source of row `k` alone. -/
def Clear (x y sx sy w j k : Nat) : Prop := sy + k ≠ y + j ∨ x + w ≤ sx ∨ sx + w ≤ x

theorem copyRows_eq_movedRows {sx sy : Nat} (hx : x + w ≤ width) (hsx : sx + w ≤ width)
    (data : Nat → π) {rows : List Nat} (hclear : rows.Pairwise (Clear x y sx sy w)) :
    copyRows width x y sx sy w data rows = movedRows width x y sx sy w data rows := by
  induction rows using List.reverseRecOn with
  | nil =>
    funext i
    symm
    apply if_neg
    simp
  | append_singleton rows k ih =>
    rw [pairwise_append] at hclear
    obtain ⟨hrows, -, hk⟩ := hclear
    have hk : ∀ j ∈ rows, Clear x y sx sy w j k := fun j hj => hk j hj k mem_cons_self
    have hlast : copyRows width x y sx sy w data (rows ++ [k]) =
        copyRange (movedRows width x y sx sy w data rows) ((y + k) * width + x)
          ((sy + k) * width + sx) w := by
      rw [← ih hrows]
      exact foldl_append
    rw [hlast]
    funext i
    have hi := eq_cell width i
    unfold copyRange
    by_cases hrow : (y + k) * width + x ≤ i ∧ i < (y + k) * width + x + w
    · obtain ⟨hdiv, hlow, hhigh⟩ := (in_row_iff hx _ _).mp hrow
      have hcol : i - ((y + k) * width + x) = i % width - x := by
        rw [hdiv] at hi
        omega
      have hsource : sx + (i % width - x) < width := by omega
      -- the pixel that is read, by column and row
      have hcell : (sy + k) * width + sx + (i - ((y + k) * width + x)) =
          (sy + k) * width + (sx + (i % width - x)) := by omega
      rw [if_pos hrow, hcell]
      have hin : (x ≤ i % width ∧ i % width < x + w) ∧ y ≤ i / width ∧
          i / width - y ∈ rows ++ [k] := by
        refine ⟨⟨hlow, hhigh⟩, by omega, ?_⟩
        rw [hdiv, Nat.add_sub_cancel_left]
        simp
      have hread : ¬ ((x ≤ sx + (i % width - x) ∧ sx + (i % width - x) < x + w) ∧
          y ≤ sy + k ∧ sy + k - y ∈ rows) := by
        rintro ⟨hoverlap, hy, hmem⟩
        have := hk _ hmem
        unfold Clear at this
        omega
      unfold movedRows
      rw [cell_mod _ hsource, cell_div _ hsource, if_neg hread, if_pos hin, hdiv,
        Nat.add_sub_cancel_left]
    · rw [if_neg hrow]
      rw [in_row_iff hx] at hrow
      unfold movedRows
      have hsame : ((x ≤ i % width ∧ i % width < x + w) ∧ y ≤ i / width ∧
          i / width - y ∈ rows ++ [k]) ↔
          ((x ≤ i % width ∧ i % width < x + w) ∧ y ≤ i / width ∧ i / width - y ∈ rows) := by
        rw [mem_append, mem_singleton]
        constructor
        · rintro ⟨hcol, hy, hmem | hmem⟩
          · exact ⟨hcol, hy, hmem⟩
          · exact absurd ⟨by omega, hcol.1, hcol.2⟩ hrow
        · rintro ⟨hcol, hy, hmem⟩
          exact ⟨hcol, hy, .inl hmem⟩
      simp only [hsame]

theorem rows_apart {sx r r' : Nat} (hx : x + w ≤ width) (hsx : sx + w ≤ width)
    (h : r' ≠ r ∨ x + w ≤ sx ∨ sx + w ≤ x) :
    ¬ (r * width + x < r' * width + sx + w ∧ r' * width + sx < r * width + x + w) := by
  rintro ⟨hlow, hhigh⟩
  rcases Nat.lt_trichotomy r r' with hlt | heq | hlt
  · have hrow := Nat.mul_le_mul_right width hlt
    rw [Nat.succ_mul] at hrow
    omega
  · subst heq
    omega
  · have hrow := Nat.mul_le_mul_right width hlt
    rw [Nat.succ_mul] at hrow
    omega

theorem copyRows_range_at {j : Nat} (hx : x + w ≤ width) (hj : j < w) (y sx sy : Nat)
    (data : Nat → π) {k n : Nat} (hk : k < n) :
    copyRows width x y sx sy w data (range n) ((y + k) * width + (x + j)) =
      copyRows width x y sx sy w data (range k) ((sy + k) * width + (sx + j)) := by
  induction n with
  | zero => omega
  | succ n ih =>
    have hlast : copyRows width x y sx sy w data (range (n + 1)) =
        copyRange (copyRows width x y sx sy w data (range n)) ((y + n) * width + x)
          ((sy + n) * width + sx) w := by
      rw [range_succ]
      exact foldl_append
    have hcol : x + j < width := by omega
    rw [hlast]
    unfold copyRange
    by_cases hkn : k = n
    · subst hkn
      rw [if_pos (by omega)]
      congr 1
      omega
    · rw [if_neg, ih (by omega)]
      rw [in_row_iff hx, cell_div _ hcol]
      omega

end raster
