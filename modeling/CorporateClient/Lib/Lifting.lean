-- The 5/3 lifting step over integers: a sequence is split into low and high coefficients with
-- halves that are rounded down, and put together again. The two steps are not inverse to each
-- other, and this library says by how much they differ.
import Mathlib.Algebra.Order.Ring.Abs
import Mathlib.Tactic.Ring

namespace lifting

/-- The next even place, or the last one again. -/
def next (m n : Nat) : Nat := if n < m - 1 then n + 1 else n

/-- The coefficient in front, or the first one again. -/
def before (h : Nat → Int) (n : Nat) : Int := if n = 0 then h 0 else h (n - 1)

def high (m : Nat) (s : Nat → Int) (n : Nat) : Int :=
  (s (2 * n + 1) - (s (2 * n) + s (2 * next m n)) / 2) / 2

def low (m : Nat) (s : Nat → Int) (n : Nat) : Int :=
  s (2 * n) + (before (high m s) n + high m s n) / 2

def even (l h : Nat → Int) (n : Nat) : Int := l n - (before h n + h n + 1) / 2

def odd (m : Nat) (l h : Nat → Int) (n : Nat) : Int :=
  2 * h n + (even l h n + even l h (next m n)) / 2

variable {m n : Nat} {s : Nat → Int} {M : Int}

theorem next_lt (h : n < m) : next m n < m := by
  unfold next
  split_ifs <;> omega

/-! ## Sizes -/

/-- The first `k` values are at most `M` in size. -/
def Within (k : Nat) (M : Int) (s : Nat → Int) : Prop := ∀ i < k, -M ≤ s i ∧ s i ≤ M

theorem Within.high (h : Within (2 * m) M s) : Within m M (high m s) := by
  intro n hn
  have hnext := next_lt hn
  have he := h (2 * n) (by omega)
  have ho := h (2 * n + 1) (by omega)
  have he' := h (2 * next m n) (by omega)
  unfold lifting.high
  omega

theorem low_bounds (h : Within (2 * m) M s) (hn : n < m) :
    -(3 * M + 2) ≤ 2 * low m s n ∧ 2 * low m s n ≤ 3 * M + 2 := by
  have hnext := next_lt hn
  have he := h (2 * n) (by omega)
  have ho := h (2 * n + 1) (by omega)
  have he' := h (2 * next m n) (by omega)
  unfold low before
  split_ifs with hzero
  · subst hzero
    unfold lifting.high
    omega
  · have hprev : next m (n - 1) = n := by
      unfold next
      rw [if_pos (by omega)]
      omega
    have hp := h (2 * (n - 1)) (by omega)
    have hq := h (2 * (n - 1) + 1) (by omega)
    unfold lifting.high
    rw [hprev]
    omega

theorem Within.low {M' : Int} (h : Within (2 * m) M s) (hM : 3 * M + 2 ≤ 2 * M' + 1) :
    Within m M' (low m s) := by
  intro n hn
  have hlow := low_bounds h hn
  omega

/-! ## Errors -/

/-- The first `k` values of `t` lie at most `A` below and `B` above those of `s`. -/
def Near (k : Nat) (A B : Int) (s t : Nat → Int) : Prop :=
  ∀ i < k, -A ≤ t i - s i ∧ t i - s i ≤ B

theorem even_near {A B C : Int} {l h : Nat → Int} (hl : Near m A B (low m s) l)
    (hh : Near m C 0 (high m s) h) (hn : n < m) :
    -(A + 1) ≤ even l h n - s (2 * n) ∧ even l h n - s (2 * n) ≤ B + C := by
  have el := hl n hn
  have eh := hh n hn
  unfold even
  unfold low before at el
  unfold before
  split_ifs at el ⊢ with hzero
  · subst hzero
    omega
  · have eh' := hh (n - 1) (by omega)
    omega

theorem odd_near {A B C : Int} {l h : Nat → Int} (hl : Near m A B (low m s) l)
    (hh : Near m C 0 (high m s) h) (hn : n < m) :
    -(A + 2 + 2 * C) ≤ odd m l h n - s (2 * n + 1) ∧ odd m l h n - s (2 * n + 1) ≤ B + C := by
  have e := even_near hl hh hn
  have e' := even_near hl hh (next_lt hn)
  have eh := hh n hn
  unfold odd
  unfold high at eh
  omega

/-! ## Gains

A low coefficient is an eighth of a weighted sum, up to the rounding. Two steps in a row have a
smaller gain than the product of their gains. -/

/-- A weighted sum of the values from an index on. -/
def taps : List Int → Nat → (Nat → Int) → Int
  | [], _, _ => 0
  | w :: ws, i, f => w * f i + taps ws (i + 1) f

def gain (ws : List Int) : Int := (ws.map fun w => |w|).sum

theorem taps_bounds {k : Nat} {f : Nat → Int} (hf : Within k M f) (ws : List Int) (i : Nat)
    (hi : i + ws.length ≤ k) : |taps ws i f| ≤ gain ws * M := by
  induction ws generalizing i with
  | nil => simp [taps, gain]
  | cons w ws ih =>
    rw [List.length_cons] at hi
    have hhead : |w * f i| ≤ |w| * M := by
      rw [abs_mul]
      exact mul_le_mul_of_nonneg_left (abs_le.mpr (hf i (by omega))) (abs_nonneg w)
    have htail := ih (i + 1) (by omega)
    have hgain : gain (w :: ws) * M = |w| * M + gain ws * M := by
      rw [gain, List.map_cons, List.sum_cons, ← gain, add_mul]
    rw [taps, hgain]
    exact (abs_add_le _ _).trans (add_le_add hhead htail)

/-- Eight times a low coefficient without the rounding. -/
def low8 (m : Nat) (s : Nat → Int) (n : Nat) : Int :=
  8 * s (2 * n) + (before (fun n => 2 * s (2 * n + 1) - s (2 * n) - s (2 * next m n)) n +
    (2 * s (2 * n + 1) - s (2 * n) - s (2 * next m n)))

theorem low8_first (s : Nat → Int) (hm : 2 ≤ m) : low8 m s 0 = taps [6, 4, -2] 0 s := by
  have hnext : next m 0 = 1 := if_pos (by omega)
  simp only [low8, before, hnext, if_true, taps]
  ring

theorem next_inner (h : n + 1 < m) : next m n = n + 1 := if_pos (by omega)

theorem next_last (h : n + 1 = m) : next m n = n := if_neg (by omega)

theorem low8_inner {i : Nat} (s : Nat → Int) (hn : n + 1 < m) (hi : 2 * n = i + 2) :
    low8 m s n = taps [-1, 2, 6, 2, -1] i s := by
  have hpos : n ≠ 0 := by omega
  have hprev : next m (n - 1) = n := by rw [next_inner (by omega)]; omega
  have hfour : 2 * (n + 1) = i + 4 := by omega
  have hback : 2 * (n - 1) = i := by omega
  simp only [low8, before, if_neg hpos, next_inner hn, hprev, hi, hfour, hback, taps]
  ring

theorem low8_last {i : Nat} (s : Nat → Int) (hn : n + 1 = m) (hi : 2 * n = i + 2) :
    low8 m s n = taps [-1, 2, 5, 2] i s := by
  have hpos : n ≠ 0 := by omega
  have hprev : next m (n - 1) = n := by rw [next_inner (by omega)]; omega
  have hback : 2 * (n - 1) = i := by omega
  simp only [low8, before, if_neg hpos, next_last hn, hprev, hi, hback, taps]
  ring

theorem Within.nonneg {k : Nat} (h : Within k M s) (hk : 0 < k) : 0 ≤ M := by
  have hs := h 0 hk
  omega

theorem low8_bounds (h : Within (2 * m) M s) (hm : 2 ≤ m) (hn : n < m) : |low8 m s n| ≤ 12 * M := by
  have hM := h.nonneg (by omega)
  rcases Nat.eq_zero_or_pos n with rfl | hpos
  · rw [low8_first s hm]
    exact taps_bounds h [6, 4, -2] 0 (by show 0 + 3 ≤ _; omega)
  · rcases Nat.lt_or_eq_of_le (Nat.succ_le_of_lt hn) with hin | hlast
    · rw [low8_inner (i := 2 * n - 2) s hin (by omega)]
      exact taps_bounds h [-1, 2, 6, 2, -1] _ (by show _ + 5 ≤ _; omega)
    · rw [low8_last (i := 2 * n - 2) s hlast (by omega)]
      have hten : |taps [-1, 2, 5, 2] (2 * n - 2) s| ≤ 10 * M :=
        taps_bounds h [-1, 2, 5, 2] _ (by show _ + 4 ≤ _; omega)
      omega

section two

variable {m n : Nat} (s : Nat → Int)

theorem low8_low8_first (hm : 3 ≤ m) :
    low8 m (low8 (2 * m) s) 0 = taps [32, 32, 14, 4, -16, -4, 2] 0 s := by
  rw [low8_first _ (by omega)]
  simp only [taps, Nat.zero_add, Nat.reduceAdd]
  rw [low8_first s (by omega), low8_inner (i := 0) s (by omega) rfl,
    low8_inner (i := 2) s (by omega) rfl]
  simp only [taps, Nat.zero_add, Nat.reduceAdd]
  ring

theorem low8_low8_second (hm : 3 ≤ m) :
    low8 m (low8 (2 * m) s) 1 = taps [-8, 0, 8, 16, 32, 16, 7, 2, -8, -2, 1] 0 s := by
  rw [low8_inner (i := 0) _ (by omega) rfl]
  simp only [taps, Nat.zero_add, Nat.reduceAdd]
  rw [low8_first s (by omega), low8_inner (i := 0) s (by omega) rfl,
    low8_inner (i := 2) s (by omega) rfl, low8_inner (i := 4) s (by omega) rfl,
    low8_inner (i := 6) s (by omega) rfl]
  simp only [taps, Nat.zero_add, Nat.reduceAdd]
  ring

theorem low8_low8_inner {i : Nat} (hn : n + 1 < m) (hi : 4 * n = i + 6) :
    low8 m (low8 (2 * m) s) n = taps [1, -2, -8, 2, 7, 16, 32, 16, 7, 2, -8, -2, 1] i s := by
  rw [low8_inner (i := 2 * n - 2) _ hn (by omega)]
  simp only [taps, Nat.add_assoc, Nat.reduceAdd]
  rw [low8_inner (i := i) s (by omega) (by omega), low8_inner (i := i + 2) s (by omega) (by omega),
    low8_inner (i := i + 4) s (by omega) (by omega),
      low8_inner (i := i + 6) s (by omega) (by omega),
    low8_inner (i := i + 8) s (by omega) (by omega)]
  simp only [taps, Nat.add_assoc, Nat.reduceAdd]
  ring

theorem low8_low8_last {i : Nat} (hn : n + 1 = m) (hi : 4 * n = i + 6) :
    low8 m (low8 (2 * m) s) n = taps [1, -2, -8, 2, 8, 14, 26, 14, 5, 4] i s := by
  rw [low8_last (i := 2 * n - 2) _ hn (by omega)]
  simp only [taps, Nat.add_assoc, Nat.reduceAdd]
  rw [low8_inner (i := i) s (by omega) (by omega), low8_inner (i := i + 2) s (by omega) (by omega),
    low8_inner (i := i + 4) s (by omega) (by omega), low8_last (i := i + 6) s (by omega) (by omega)]
  simp only [taps, Nat.add_assoc, Nat.reduceAdd]
  ring

end two

theorem low8_low8_bounds {m n : Nat} {M : Int} {s : Nat → Int} (h : Within (2 * (2 * m)) M s)
    (hm : 3 ≤ m) (hn : n < m) : |low8 m (low8 (2 * m) s) n| ≤ 104 * M := by
  have hM := h.nonneg (by omega)
  have hcases : n = 0 ∨ n = 1 ∨ 2 ≤ n ∧ n + 1 < m ∨ 2 ≤ n ∧ n + 1 = m := by omega
  rcases hcases with rfl | rfl | ⟨hpos, hin⟩ | ⟨hpos, hlast⟩
  · rw [low8_low8_first s hm]
    exact taps_bounds h _ 0 (by show 0 + 7 ≤ _; omega)
  · rw [low8_low8_second s hm]
    have hsum : |taps [-8, 0, 8, 16, 32, 16, 7, 2, -8, -2, 1] 0 s| ≤ 100 * M :=
      taps_bounds h _ 0 (by show 0 + 11 ≤ _; omega)
    omega
  · rw [low8_low8_inner (i := 4 * n - 6) s hin (by omega)]
    exact taps_bounds h _ _ (by show _ + 13 ≤ _; omega)
  · rw [low8_low8_last (i := 4 * n - 6) s hlast (by omega)]
    have hsum : |taps [1, -2, -8, 2, 8, 14, 26, 14, 5, 4] (4 * n - 6) s| ≤ 84 * M :=
      taps_bounds h _ _ (by show _ + 10 ≤ _; omega)
    omega

theorem low8_comm (m m' n n' : Nat) (f : Nat → Nat → Int) :
    low8 m (fun y => low8 m' (f y) n') n = low8 m' (fun x => low8 m (fun y => f y x) n) n' := by
  unfold low8 before
  split_ifs <;> ring

theorem low8_sub (m n : Nat) (f g : Nat → Int) :
    low8 m f n - low8 m g n = low8 m (fun i => f i - g i) n := by
  unfold low8 before
  split_ifs <;> ring

theorem low8_mul (m n : Nat) (k : Int) (f : Nat → Int) :
    low8 m (fun i => k * f i) n = k * low8 m f n := by
  unfold low8 before
  split_ifs <;> ring

theorem low_rounding (m n : Nat) (s : Nat → Int) : |8 * low m s n - low8 m s n| ≤ 8 := by
  rw [abs_le]
  unfold low low8 before high
  dsimp only
  split_ifs with hzero
  · subst hzero
    omega
  · omega

theorem low_scaled {m n : Nat} {k k' E E' : Int} {f g : Nat → Int} (hm : 2 ≤ m) (hn : n < m)
    (h : ∀ i < 2 * m, |k * f i - g i| ≤ E) (hk : 0 ≤ k) (hk' : k' = 8 * k)
    (hE : 8 * k + 12 * E ≤ E') : |k' * low m f n - low8 m g n| ≤ E' := by
  have hround := low_rounding m n f
  have herror : |low8 m (fun i => k * f i - g i) n| ≤ 12 * E :=
    low8_bounds (fun i hi => abs_le.mp (h i hi)) hm hn
  have hsplit : k' * low m f n - low8 m g n =
      k * (8 * low m f n - low8 m f n) + low8 m (fun i => k * f i - g i) n := by
    rw [← low8_sub, low8_mul, hk']
    ring
  have hscaled : |k * (8 * low m f n - low8 m f n)| ≤ 8 * k := by
    rw [abs_mul, abs_of_nonneg hk, mul_comm 8 k]
    exact mul_le_mul_of_nonneg_left hround hk
  rw [hsplit]
  exact ((abs_add_le _ _).trans (add_le_add hscaled herror)).trans hE

end lifting
