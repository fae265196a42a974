-- The wavelet transform of RemoteFX (libfreerdp-codec/rfx_dwt.c): three levels of lifting in
-- both directions, with every result stored in 16 bits. What is decoded from the coefficients
-- of a tile is near the tile.
import CorporateClient.Lib.Lifting
import CorporateClient.RlgrLaws

open List lifting

namespace neutrinordp.rfx

/-! ## The transform -/

/-- Values row by row. -/
def grid (rows cols : Nat) (f : Nat → Nat → Int) : List Int :=
  (range (rows * cols)).map fun i => f (i / cols) (i % cols)

/-- `p[y * width + x]` -/
def cell (p : List Int) (width y x : Nat) : Int := p.getD (y * width + x) 0

/-- H, from a column or a row of the source. -/
def dwt_h (subband_width : Nat) (src : Nat → Int) (n : Nat) : Int :=
  sint16 ((src (2 * n + 1) -
    ((src (2 * n) + src (if n < subband_width - 1 then 2 * n + 2 else 2 * n)) >>> (1 : Nat)))
      >>> (1 : Nat))

def dwt_l (subband_width : Nat) (src : Nat → Int) (n : Nat) : Int :=
  sint16 (src (2 * n) + (if n = 0 then dwt_h subband_width src n
    else (dwt_h subband_width src (n - 1) + dwt_h subband_width src n) >>> (1 : Nat)))

/-- The vertical direction: L and H in the buffer `dwt`. -/
def l_src (buffer : List Int) (subband_width : Nat) : List Int :=
  grid subband_width (2 * subband_width) fun n x =>
    dwt_l subband_width (fun y => cell buffer (2 * subband_width) y x) n

def h_src (buffer : List Int) (subband_width : Nat) : List Int :=
  grid subband_width (2 * subband_width) fun n x =>
    dwt_h subband_width (fun y => cell buffer (2 * subband_width) y x) n

def high_band (src : List Int) (subband_width : Nat) : List Int :=
  grid subband_width subband_width fun y => dwt_h subband_width (cell src (2 * subband_width) y)

def low_band (src : List Int) (subband_width : Nat) : List Int :=
  grid subband_width subband_width fun y => dwt_l subband_width (cell src (2 * subband_width) y)

def rfx_dwt_2d_encode_block (buffer : List Int) (subband_width : Nat) : List Int :=
  let l_src := l_src buffer subband_width
  let h_src := h_src buffer subband_width
  let hl := high_band l_src subband_width
  let ll := low_band l_src subband_width
  let hh := high_band h_src subband_width
  let lh := low_band h_src subband_width
  hl ++ (lh ++ (hh ++ ll))

def idwt_even (l h : Nat → Int) (n : Nat) : Int :=
  sint16 (l n - (((if n > 0 then h (n - 1) else h n) + h n + 1) >>> (1 : Nat)))

def idwt_odd_row (subband_width : Nat) (l h : Nat → Int) (n : Nat) : Int :=
  sint16 ((h n <<< (1 : Nat)) + (if n < subband_width - 1 then
    (idwt_even l h n + idwt_even l h (n + 1)) >>> (1 : Nat) else idwt_even l h n))

def idwt_odd_column (subband_width : Nat) (l h : Nat → Int) (n : Nat) : Int :=
  sint16 ((h n <<< (1 : Nat)) + ((idwt_even l h n +
    idwt_even l h (if n < subband_width - 1 then n + 1 else n)) >>> (1 : Nat)))

def idwt_row (subband_width : Nat) (l h : Nat → Int) (x : Nat) : Int :=
  if x % 2 = 0 then idwt_even l h (x / 2) else idwt_odd_row subband_width l h (x / 2)

def idwt_column (subband_width : Nat) (l h : Nat → Int) (y : Nat) : Int :=
  if y % 2 = 0 then idwt_even l h (y / 2) else idwt_odd_column subband_width l h (y / 2)

def idwt_rows (low_band high_band : List Int) (subband_width : Nat) : List Int :=
  grid subband_width (2 * subband_width) fun y =>
    idwt_row subband_width (cell low_band subband_width y) (cell high_band subband_width y)

def rfx_dwt_2d_decode_block (buffer : List Int) (subband_width : Nat) : List Int :=
  let total_width := 2 * subband_width
  let ll := buffer.drop (subband_width * subband_width * 3)
  let hl := buffer
  let lh := buffer.drop (subband_width * subband_width)
  let hh := buffer.drop (subband_width * subband_width * 2)
  let l := idwt_rows ll hl subband_width
  let h := idwt_rows lh hh subband_width
  grid total_width total_width fun y x =>
    idwt_column subband_width (fun n => cell l total_width n x) (fun n => cell h total_width n x) y

/-- A block from `buffer + offset` to the end. -/
def in_block (offset : Nat) (f : List Int → List Int) (buffer : List Int) : List Int :=
  buffer.take offset ++ f (buffer.drop offset)

def rfx_dwt_2d_encode (buffer : List Int) : List Int :=
  let buffer := in_block 0 (rfx_dwt_2d_encode_block · 32) buffer
  let buffer := in_block 3072 (rfx_dwt_2d_encode_block · 16) buffer
  in_block 3840 (rfx_dwt_2d_encode_block · 8) buffer

def rfx_dwt_2d_decode (buffer : List Int) : List Int :=
  let buffer := in_block 3840 (rfx_dwt_2d_decode_block · 8) buffer
  let buffer := in_block 3072 (rfx_dwt_2d_decode_block · 16) buffer
  in_block 0 (rfx_dwt_2d_decode_block · 32) buffer

/-! ## Grids -/

theorem length_grid (rows cols : Nat) (f : Nat → Nat → Int) :
    (grid rows cols f).length = rows * cols := by
  rw [grid, length_map, length_range]

variable {rows cols y x w n : Nat} {M : Int} {src : Nat → Int}

theorem place_lt (hy : y < rows) (hx : x < cols) : y * cols + x < rows * cols := by
  have hle := Nat.mul_le_mul_right cols (Nat.succ_le_of_lt hy)
  rw [Nat.succ_mul] at hle
  omega

theorem cell_grid (f : Nat → Nat → Int) (hy : y < rows) (hx : x < cols) :
    cell (grid rows cols f) cols y x = f y x := by
  have hlt := place_lt hy hx
  have hdiv : (y * cols + x) / cols = y := by
    rw [Nat.add_comm, Nat.add_mul_div_right _ _ (by omega), Nat.div_eq_of_lt hx, Nat.zero_add]
  have hmod : (y * cols + x) % cols = x := by
    rw [Nat.add_comm, Nat.add_mul_mod_self_right, Nat.mod_eq_of_lt hx]
  unfold cell
  rw [getD_eq_getElem _ _ (by rw [length_grid]; exact hlt)]
  simp [grid, hdiv, hmod]

theorem getD_grid {i : Nat} (f : Nat → Nat → Int) (hi : i < rows * cols) :
    (grid rows cols f).getD i 0 = f (i / cols) (i % cols) := by
  rw [getD_eq_getElem _ _ (by rw [length_grid]; exact hi)]
  simp [grid]

theorem cell_append {p q : List Int} (hp : p.length = rows * cols) (hy : y < rows) (hx : x < cols) :
    cell (p ++ q) cols y x = cell p cols y x := by
  have hlt := place_lt hy hx
  unfold cell
  rw [getD_append _ _ _ _ (by omega)]

/-! ## Sixteen bits -/

theorem half_eq (v : Int) : v >>> (1 : Nat) = v / 2 := Int.shiftRight_eq_div_pow v 1

theorem double_eq (v : Int) : v <<< (1 : Nat) = 2 * v := by
  rw [Int.shiftLeft_eq, Int.mul_comm]
  rfl

theorem sint16_eq (v : Int) : sint16 v = v.bmod 65536 := BitVec.toInt_ofInt v

theorem sint16_sub (v k : Int) : sint16 (sint16 v - k) = sint16 (v - k) := by
  rw [sint16_eq, sint16_eq, sint16_eq, Int.bmod_sub_bmod]

theorem sint16_add (v k : Int) : sint16 (sint16 v + k) = sint16 (v + k) := by
  rw [sint16_eq, sint16_eq, sint16_eq, Int.bmod_add_bmod]

def h_value (subband_width : Nat) (src : Nat → Int) (n : Nat) : Int :=
  (src (2 * n + 1) -
    ((src (2 * n) + src (if n < subband_width - 1 then 2 * n + 2 else 2 * n)) >>> (1 : Nat)))
      >>> (1 : Nat)

def l_value (subband_width : Nat) (src : Nat → Int) (n : Nat) : Int :=
  src (2 * n) + (if n = 0 then dwt_h subband_width src n
    else (dwt_h subband_width src (n - 1) + dwt_h subband_width src n) >>> (1 : Nat))

theorem dwt_h_stores (w : Nat) (src : Nat → Int) (n : Nat) :
    dwt_h w src n = sint16 (h_value w src n) := rfl

theorem dwt_l_stores (w : Nat) (src : Nat → Int) (n : Nat) :
    dwt_l w src n = sint16 (l_value w src n) := rfl

theorem h_value_eq (w : Nat) (src : Nat → Int) (n : Nat) : h_value w src n = high w src n := by
  unfold h_value high lifting.next
  rw [half_eq, half_eq]
  split_ifs <;> rfl

theorem dwt_h_eq (h : Within (2 * w) M src) (hM : M ≤ 32767) (hn : n < w) :
    dwt_h w src n = high w src n := by
  have hhigh := h.high n hn
  rw [dwt_h_stores, h_value_eq]
  exact sint16_of_range (by omega) (by omega)

theorem l_value_eq (h : Within (2 * w) M src) (hM : M ≤ 32767) (hn : n < w) :
    l_value w src n = low w src n := by
  unfold l_value low before
  rw [half_eq]
  split_ifs with hzero
  · subst hzero
    rw [dwt_h_eq h hM hn]
    congr 1
    omega
  · rw [dwt_h_eq h hM hn, dwt_h_eq h hM (by omega)]

theorem dwt_l_eq (h : Within (2 * w) M src) (hM : M ≤ 32767) (hn : n < w) :
    dwt_l w src n = sint16 (low w src n) := by
  rw [dwt_l_stores, l_value_eq h hM hn]

section decode

variable {w : Nat} {A B C M : Int} {s l h c : Nat → Int}

variable {n : Nat}

theorem idwt_even_eq (hc : sint16 (c n) = sint16 (l n)) (hge : -32768 ≤ even l h n)
    (hlt : even l h n < 32768) : idwt_even c h n = even l h n := by
  have hbefore : (if n > 0 then h (n - 1) else h n) = before h n := by
    unfold before
    split_ifs with hpos hzero hzero
    · omega
    · rfl
    · rw [hzero]
    · omega
  unfold idwt_even
  rw [hbefore, half_eq, ← sint16_sub, hc, sint16_sub]
  exact sint16_of_range hge hlt

/-- The coefficients are near those of `s`, and there is room for the errors in 16 bits. The
low ones may be stored in 16 bits before. -/
structure Coefficients (w : Nat) (A B C M : Int) (s l h c : Nat → Int) : Prop where
  size : Within (2 * w) M s
  low : Near w A B (low w s) l
  high : Near w C 0 (high w s) h
  stored : ∀ n < w, sint16 (c n) = sint16 (l n)
  below : M + (A + 2 + 2 * C) ≤ 32768
  above : M + (B + C) ≤ 32767
  positive : 0 ≤ C

variable (hs : Coefficients w A B C M s l h c)

include hs

theorem Coefficients.even_eq (hn : n < w) : idwt_even c h n = even l h n := by
  have hnear := even_near hs.low hs.high hn
  have hsize := hs.size (2 * n) (by omega)
  have hbelow := hs.below
  have habove := hs.above
  have hpos := hs.positive
  exact idwt_even_eq (hs.stored n hn) (by omega) (by omega)

theorem Coefficients.odd_eq (hn : n < w) : sint16 (odd w l h n) = odd w l h n := by
  have hnear := odd_near hs.low hs.high hn
  have hsize := hs.size (2 * n + 1) (by omega)
  have hbelow := hs.below
  have habove := hs.above
  exact sint16_of_range (by omega) (by omega)

theorem Coefficients.odd_column_eq (hn : n < w) : idwt_odd_column w c h n = odd w l h n := by
  have hnext : (if n < w - 1 then n + 1 else n) = lifting.next w n := rfl
  unfold idwt_odd_column
  rw [hnext, hs.even_eq hn, hs.even_eq (next_lt hn), half_eq, double_eq]
  exact hs.odd_eq hn

theorem Coefficients.odd_row_eq (hn : n < w) : idwt_odd_row w c h n = odd w l h n := by
  rw [← hs.odd_column_eq hn]
  unfold idwt_odd_row idwt_odd_column
  rw [half_eq, half_eq]
  split_ifs with hlast
  · rfl
  · congr 2
    omega

theorem Coefficients.joined {f g : Nat → Int}
    (hf : ∀ n < w, f n = even l h n) (hg : ∀ n < w, g n = odd w l h n) :
    Near (2 * w) (A + 2 + 2 * C) (B + C) s fun x => if x % 2 = 0 then f (x / 2) else g (x / 2) := by
  intro x hx
  have hn : x / 2 < w := by omega
  have hpos := hs.positive
  dsimp only
  split_ifs with heven
  · have hnear := even_near hs.low hs.high hn
    rw [show 2 * (x / 2) = x by omega] at hnear
    rw [hf _ hn]
    omega
  · have hnear := odd_near hs.low hs.high hn
    rw [show 2 * (x / 2) + 1 = x by omega] at hnear
    rw [hg _ hn]
    omega

theorem Coefficients.row : Near (2 * w) (A + 2 + 2 * C) (B + C) s (idwt_row w c h) :=
  hs.joined (fun _ hn => hs.even_eq hn) fun _ hn => hs.odd_row_eq hn

theorem Coefficients.column : Near (2 * w) (A + 2 + 2 * C) (B + C) s (idwt_column w c h) :=
  hs.joined (fun _ hn => hs.even_eq hn) fun _ hn => hs.odd_column_eq hn

end decode

/-! ## One block -/

/-- Every value of a block is at most `M` in size. -/
def Sized (k : Nat) (M : Int) (p : List Int) : Prop :=
  Within k M fun i => p.getD i 0

/-- Every value of a block is near the one of another. -/
def NearBlock (k : Nat) (A B : Int) (p q : List Int) : Prop :=
  Near k A B (fun i => p.getD i 0) fun i => q.getD i 0

section block

variable {w : Nat} {A B M M' : Int} {b : List Int}

variable {y x n : Nat} {src : List Int}

theorem Sized.column (hb : Sized (2 * w * (2 * w)) M b) (hx : x < 2 * w) :
    Within (2 * w) M fun y => cell b (2 * w) y x :=
  fun _ hy => hb _ (place_lt hy hx)

theorem Sized.row (hb : Sized (w * (2 * w)) M b) (hy : y < w) :
    Within (2 * w) M (cell b (2 * w) y) :=
  fun _ hx => hb _ (place_lt hy hx)

theorem sized_grid {rows cols : Nat} {f : Nat → Nat → Int}
    (h : ∀ y < rows, ∀ x < cols, -M ≤ f y x ∧ f y x ≤ M) :
    Sized (rows * cols) M (grid rows cols f) := by
  intro i hi
  have hcols : 0 < cols := Nat.pos_of_ne_zero fun hzero => by rw [hzero, Nat.mul_zero] at hi; omega
  dsimp only
  rw [getD_grid f hi]
  exact h _ (Nat.div_lt_of_lt_mul (by rw [Nat.mul_comm]; exact hi)) _ (Nat.mod_lt _ hcols)

theorem near_grid {rows cols : Nat} {p : List Int} {f : Nat → Nat → Int}
    (h : ∀ y < rows, ∀ x < cols, -A ≤ f y x - cell p cols y x ∧ f y x - cell p cols y x ≤ B) :
    NearBlock (rows * cols) A B p (grid rows cols f) := by
  intro i hi
  have hcols : 0 < cols := Nat.pos_of_ne_zero fun hzero => by rw [hzero, Nat.mul_zero] at hi; omega
  have hcell := h _ (Nat.div_lt_of_lt_mul (by rw [Nat.mul_comm]; exact hi)) _ (Nat.mod_lt i hcols)
  have hi' : i / cols * cols + i % cols = i := by rw [Nat.mul_comm]; exact Nat.div_add_mod i cols
  unfold cell at hcell
  rw [hi'] at hcell
  dsimp only
  rw [getD_grid f hi]
  exact hcell

/-- Half as much again, and a bit for the rounding. -/
def Grows (M M' : Int) : Prop := 3 * M + 2 ≤ 2 * M' + 1 ∧ M' ≤ 32767

theorem Grows.le (h : Grows M M') (hM : 0 ≤ M) : M ≤ M' := by
  have h1 := h.1
  omega

theorem dwt_l_exact {src : Nat → Int} (h : Within (2 * w) M src) (hM : 0 ≤ M) (hg : Grows M M')
    (hn : n < w) : dwt_l w src n = low w src n := by
  have hlow := h.low hg.1 n hn
  have hle := hg.le hM
  have hmax := hg.2
  rw [dwt_l_eq h (by omega) hn]
  exact sint16_of_range (by omega) (by omega)

theorem cell_l_src (hb : Sized (2 * w * (2 * w)) M b) (hM : 0 ≤ M) (hg : Grows M M') (hy : y < w)
    (hx : x < 2 * w) :
    cell (l_src b w) (2 * w) y x = low w (fun y => cell b (2 * w) y x) y := by
  unfold l_src
  rw [cell_grid _ hy hx, dwt_l_exact (hb.column hx) hM hg hy]

theorem cell_h_src (hb : Sized (2 * w * (2 * w)) M b) (hM : M ≤ 32767) (hy : y < w)
    (hx : x < 2 * w) :
    cell (h_src b w) (2 * w) y x = high w (fun y => cell b (2 * w) y x) y := by
  unfold h_src
  rw [cell_grid _ hy hx, dwt_h_eq (hb.column hx) hM hy]

theorem sized_l_src (hb : Sized (2 * w * (2 * w)) M b) (hM : 0 ≤ M) (hg : Grows M M') :
    Sized (w * (2 * w)) M' (l_src b w) := by
  refine sized_grid fun y hy x hx => ?_
  rw [dwt_l_exact (hb.column hx) hM hg hy]
  exact (hb.column hx).low hg.1 y hy

theorem sized_h_src (hb : Sized (2 * w * (2 * w)) M b) (hM : M ≤ 32767) :
    Sized (w * (2 * w)) M (h_src b w) := by
  refine sized_grid fun y hy x hx => ?_
  rw [dwt_h_eq (hb.column hx) hM hy]
  exact (hb.column hx).high y hy

theorem sized_low_band (hs : Sized (w * (2 * w)) M src) (hM : 0 ≤ M) (hg : Grows M M') :
    Sized (w * w) M' (low_band src w) := by
  refine sized_grid fun y hy x hx => ?_
  rw [dwt_l_exact (hs.row hy) hM hg hx]
  exact (hs.row hy).low hg.1 x hx

theorem cell_high_band (hs : Sized (w * (2 * w)) M src) (hM : M ≤ 32767) (hy : y < w) (hn : n < w) :
    cell (high_band src w) w y n = high w (cell src (2 * w) y) n := by
  unfold high_band
  rw [cell_grid _ hy hn, dwt_h_eq (hs.row hy) hM hn]

theorem cell_low_band (hs : Sized (w * (2 * w)) M src) (hM : M ≤ 32767) (hy : y < w) (hn : n < w) :
    cell (low_band src w) w y n = sint16 (low w (cell src (2 * w) y) n) := by
  unfold low_band
  rw [cell_grid _ hy hn, dwt_l_eq (hs.row hy) hM hn]

theorem rows_near (src low' high' : List Int) (hs : Sized (w * (2 * w)) M src)
    (hlow : NearBlock (w * w) A B (low_band src w) low')
    (hhigh : ∀ y < w, ∀ n < w, cell high' w y n = cell (high_band src w) w y n)
    (hbelow : M + (A + 2) ≤ 32768) (habove : M + B ≤ 32767) (hM : M ≤ 32767) (hy : y < w) :
    Near (2 * w) (A + 2) B (cell src (2 * w) y) (cell (idwt_rows low' high' w) (2 * w) y) := by
  -- The low coefficients before they were stored in 16 bits, with their errors.
  have hcoefficients : Coefficients w A B 0 M (cell src (2 * w) y)
      (fun n => low w (cell src (2 * w) y) n + (cell low' w y n - cell (low_band src w) w y n))
      (cell high' w y) (cell low' w y) := by
    refine ⟨hs.row hy, ?_, ?_, ?_, by omega, by omega, by omega⟩
    · intro n hn
      have hnear : -A ≤ cell low' w y n - cell (low_band src w) w y n ∧
          cell low' w y n - cell (low_band src w) w y n ≤ B := hlow _ (place_lt hy hn)
      dsimp only
      omega
    · intro n hn
      rw [hhigh y hy n hn, cell_high_band hs hM hy hn]
      omega
    · intro n hn
      rw [cell_low_band hs hM hy hn, ← sint16_add]
      congr 1
      omega
  intro x hx
  have hnear := hcoefficients.row x hx
  unfold idwt_rows
  rw [cell_grid _ hy hx]
  omega

theorem drop_bands (hl lh hh ll : List Int) (h1 : hl.length = w * w) (h2 : lh.length = w * w)
    (h3 : hh.length = w * w) :
    (hl ++ (lh ++ (hh ++ ll))).drop (w * w) = lh ++ (hh ++ ll) ∧
      (hl ++ (lh ++ (hh ++ ll))).drop (w * w * 2) = hh ++ ll ∧
      (hl ++ (lh ++ (hh ++ ll))).drop (w * w * 3) = ll := by
  have e2 : w * w * 2 = w * w + w * w := by omega
  have e3 : w * w * 3 = w * w + (w * w + w * w) := by omega
  refine ⟨drop_left' h1, ?_, ?_⟩
  · rw [e2, ← drop_drop, drop_left' h1, drop_left' h2]
  · rw [e3, ← drop_drop, drop_left' h1, ← drop_drop, drop_left' h2, drop_left' h3]

/-- The sub-bands in front of LL. -/
def bands (b : List Int) (w : Nat) : List Int :=
  high_band (l_src b w) w ++ (low_band (h_src b w) w ++ high_band (h_src b w) w)

theorem length_bands (b : List Int) (w : Nat) : (bands b w).length = 3 * (w * w) := by
  unfold bands high_band low_band
  rw [length_append, length_append, length_grid, length_grid, length_grid]
  omega

theorem encode_block_eq (b : List Int) (w : Nat) :
    rfx_dwt_2d_encode_block b w = bands b w ++ low_band (l_src b w) w := by
  unfold rfx_dwt_2d_encode_block bands
  simp

theorem block_near {low' : List Int} (hb : Sized (2 * w * (2 * w)) M b) (hM : 0 ≤ M)
    (hg : Grows M M') (hlow : NearBlock (w * w) A B (low_band (l_src b w) w) low') (hA : 0 ≤ A)
    (hbelow : M' + (A + 8) ≤ 32768) (habove : M' + (B + 2) ≤ 32767) :
    NearBlock (2 * w * (2 * w)) (A + 8) (B + 2) b
      (rfx_dwt_2d_decode_block (bands b w ++ low') w) := by
  have hle := hg.le hM
  have hlen : ∀ f, (grid w w f).length = w * w := length_grid w w
  obtain ⟨hdrop1, hdrop2, hdrop3⟩ := drop_bands (high_band (l_src b w) w) (low_band (h_src b w) w)
    (high_band (h_src b w) w) low' (hlen _) (hlen _) (hlen _)
  have hl := sized_l_src hb hM hg
  have hh := sized_h_src hb (by omega)
  have hlh : NearBlock (w * w) 0 0 (low_band (h_src b w) w)
      (low_band (h_src b w) w ++ (high_band (h_src b w) w ++ low')) := by
    intro i hi
    dsimp only
    rw [getD_append _ _ _ _ (by rw [low_band, length_grid]; exact hi)]
    omega
  have hL : ∀ y < w, Near (2 * w) (A + 2) B (cell (l_src b w) (2 * w) y) _ := fun y hy =>
    rows_near _ low' (high_band (l_src b w) w ++ (low_band (h_src b w) w ++
      (high_band (h_src b w) w ++ low'))) hl hlow (fun y hy n hn => cell_append (hlen _) hy hn)
      (by omega) (by omega) (by omega) hy
  have hH : ∀ y < w, Near (2 * w) (0 + 2) 0 (cell (h_src b w) (2 * w) y) _ := fun y hy =>
    rows_near _ _ (high_band (h_src b w) w ++ low') hh hlh
      (fun y hy n hn => cell_append (hlen _) hy hn) (by omega) (by omega) (by omega) hy
  unfold rfx_dwt_2d_decode_block bands
  rw [append_assoc, append_assoc, hdrop1, hdrop2, hdrop3]
  refine near_grid fun y hy x hx => ?_
  have hcoefficients : Coefficients w (A + 2) B 2 M (fun y => cell b (2 * w) y x) _ _ _ :=
    ⟨hb.column hx, fun n hn => by
        rw [← cell_l_src hb hM hg hn hx]
        exact hL n hn x hx,
      fun n hn => by
        rw [← cell_h_src hb (by omega) hn hx]
        exact hH n hn x hx,
      fun _ _ => rfl, by omega, by omega, by omega⟩
  have hnear := hcoefficients.column y hy
  omega

end block

/-! ## Three levels -/

theorem in_block_append {offset : Nat} {front : List Int} (f : List Int → List Int)
    (back : List Int) (h : front.length = offset) :
    in_block offset f (front ++ back) = front ++ f back := by
  unfold in_block
  rw [take_left' h, drop_left' h]

theorem in_block_zero (f : List Int → List Int) (buffer : List Int) :
    in_block 0 f buffer = f buffer := by
  unfold in_block
  rw [take_zero, drop_zero, nil_append]

/-- The sub-band LL of the first level and of the second one. -/
def ll1 (tile : List Int) : List Int := low_band (l_src tile 32) 32

def ll2 (tile : List Int) : List Int := low_band (l_src (ll1 tile) 16) 16

theorem rfx_dwt_2d_encode_eq (tile : List Int) :
    rfx_dwt_2d_encode tile = bands tile 32 ++ (bands (ll1 tile) 16 ++
      rfx_dwt_2d_encode_block (ll2 tile) 8) := by
  have h1 : (bands tile 32).length = 3072 := length_bands tile 32
  have h2 : (bands tile 32 ++ bands (low_band (l_src tile 32) 32) 16).length = 3840 := by
    rw [length_append, h1, length_bands]
  unfold rfx_dwt_2d_encode ll2 ll1
  dsimp only
  rw [in_block_zero, encode_block_eq, in_block_append _ _ h1, encode_block_eq, ← append_assoc,
    in_block_append _ _ h2, append_assoc]

theorem rfx_dwt_2d_decode_eq (b1 b2 b3 : List Int) (h1 : b1.length = 3072) (h2 : b2.length = 768) :
    rfx_dwt_2d_decode (b1 ++ (b2 ++ b3)) = rfx_dwt_2d_decode_block (b1 ++
      rfx_dwt_2d_decode_block (b2 ++ rfx_dwt_2d_decode_block b3 8) 16) 32 := by
  have h3 : (b1 ++ b2).length = 3840 := by rw [length_append, h1, h2]
  unfold rfx_dwt_2d_decode
  dsimp only
  rw [← append_assoc, in_block_append _ _ h3, append_assoc, in_block_append _ _ h1, in_block_zero]

theorem ll1_sized {tile : List Int} (h : Sized 4096 4096 tile) : Sized 1024 9218 (ll1 tile) := by
  have hl : Sized (32 * (2 * 32)) 6145 (l_src tile 32) :=
    sized_l_src h (by decide) ⟨by decide, by decide⟩
  exact sized_low_band hl (by decide) ⟨by decide, by decide⟩

theorem ll2_sized {tile : List Int} (h : Sized 4096 4096 tile) : Sized 256 20743 (ll2 tile) := by
  have hl : Sized (16 * (2 * 16)) 13828 (l_src (ll1 tile) 16) :=
    sized_l_src (ll1_sized h) (by decide) ⟨by decide, by decide⟩
  exact sized_low_band hl (by decide) ⟨by decide, by decide⟩

theorem nearBlock_refl (k : Nat) (p : List Int) : NearBlock k 0 0 p p := by
  intro i _
  omega

theorem sized_tile {tile : List Int}
    (h : ∀ i < 4096, -4096 ≤ tile.getD i 0 ∧ tile.getD i 0 ≤ 4095) : Sized 4096 4096 tile := by
  intro i hi
  have hsample := h i hi
  dsimp only
  omega

/-- The wavelet is near-lossless: a decoded sample is at most 24 below and 6 above what it was.
One unit of a sample is 32. -/
theorem wavelet_is_near_lossless (tile : List Int)
    (h : ∀ i < 4096, -4096 ≤ tile.getD i 0 ∧ tile.getD i 0 ≤ 4095) :
    ∀ i < 4096,
      -24 ≤ (rfx_dwt_2d_decode (rfx_dwt_2d_encode tile)).getD i 0 - tile.getD i 0 ∧
        (rfx_dwt_2d_decode (rfx_dwt_2d_encode tile)).getD i 0 - tile.getD i 0 ≤ 6 := by
  have hsized := sized_tile h
  have g1 : Grows 4096 6145 := ⟨by decide, by decide⟩
  have g2 : Grows 9218 13828 := ⟨by decide, by decide⟩
  have g3 : Grows 20743 31115 := ⟨by decide, by decide⟩
  have hthree : NearBlock 256 (0 + 8) (0 + 2) (ll2 tile)
      (rfx_dwt_2d_decode_block (bands (ll2 tile) 8 ++ low_band (l_src (ll2 tile) 8) 8) 8) :=
    block_near (w := 8) (ll2_sized hsized) (by decide) g3 (nearBlock_refl _ _)
      (by decide) (by decide)
      (by decide)
  have htwo := block_near (w := 16) (ll1_sized hsized) (by decide) g2 hthree (by decide) (by decide)
    (by decide)
  have hone := block_near (w := 32) hsized (by decide) g1 htwo (by decide) (by decide) (by decide)
  rw [rfx_dwt_2d_encode_eq, encode_block_eq, rfx_dwt_2d_decode_eq _ _ _ (length_bands tile 32)
    (length_bands (ll1 tile) 16)]
  exact hone

/-- A tile of one bright sample. -/
def brightSample : List Int := 4095 :: replicate 4095 (-4096)

theorem bright_sample_range :
    ∀ i < 4096, -4096 ≤ brightSample.getD i 0 ∧ brightSample.getD i 0 ≤ 4095 := by
  intro i hi
  cases i with
  | zero => decide
  | succ i =>
    rw [brightSample, getD_cons_succ, getD_replicate _ (by omega)]
    decide

theorem bright_sample_is_kept :
    -24 ≤ (rfx_dwt_2d_decode (rfx_dwt_2d_encode brightSample)).getD 0 0 - 4095 ∧
      (rfx_dwt_2d_decode (rfx_dwt_2d_encode brightSample)).getD 0 0 - 4095 ≤ 6 := by
  exact wavelet_is_near_lossless brightSample bright_sample_range 0 (by decide)

/-! ## The size of the coefficients -/

theorem cell_low_band_exact {w y n : Nat} {M M' : Int} {src : List Int}
    (hs : Sized (w * (2 * w)) M src) (hM : 0 ≤ M) (hg : Grows M M') (hy : y < w) (hn : n < w) :
    cell (low_band src w) w y n = low w (cell src (2 * w) y) n := by
  unfold low_band
  rw [cell_grid _ hy hn, dwt_l_exact (hs.row hy) hM hg hn]

section ll2

variable (f : Nat → Nat → Int)

/-- Two levels of LL without rounding, 4096 times as large: columns and rows, twice. -/
def smooth1 (y n : Nat) : Int := low8 32 (fun x => low8 32 (fun i => f i x) y) n

def smooth2 (y n : Nat) : Int := low8 16 (fun x => low8 16 (fun i => smooth1 f i x) y) n

theorem smooth2_eq (y n : Nat) :
    smooth2 f y n =
      low8 16 (low8 (2 * 16) fun x => low8 16 (low8 (2 * 16) fun i => f i x) y) n := by
  unfold smooth2 smooth1
  congr 1
  funext j
  rw [low8_comm 16 32 y j fun i x => low8 32 (fun k => f k x) i]

theorem smooth2_bounds {M : Int} (hf : ∀ x < 64, Within 64 M fun y => f y x) {y n : Nat}
    (hy : y < 16) (hn : n < 16) : |smooth2 f y n| ≤ 104 * (104 * M) := by
  rw [smooth2_eq]
  refine low8_low8_bounds (fun x hx => ?_) (by decide) hn
  exact abs_le.mp (low8_low8_bounds (hf x hx) (by decide) hy)

end ll2

variable {tile : List Int}

theorem ll2_rounding (h : Sized 4096 4096 tile) {y n : Nat} (hy : y < 16) (hn : n < 16) :
    |4096 * cell (ll2 tile) 16 y n - smooth2 (cell tile 64) y n| ≤ 33280 := by
  have g1 : Grows 4096 6145 := ⟨by decide, by decide⟩
  have g1' : Grows 6145 9218 := ⟨by decide, by decide⟩
  have g2 : Grows 9218 13828 := ⟨by decide, by decide⟩
  have g2' : Grows 13828 20743 := ⟨by decide, by decide⟩
  have hl1 : Sized (32 * (2 * 32)) 6145 (l_src tile 32) := sized_l_src h (by decide) g1
  have hl2 : Sized (16 * (2 * 16)) 13828 (l_src (ll1 tile) 16) :=
    sized_l_src (ll1_sized h) (by decide) g2
  have hcolumns1 : ∀ y < 32, ∀ x < 64, |8 * cell (l_src tile 32) 64 y x -
      low8 32 (fun i => cell tile 64 i x) y| ≤ 8 := fun y hy x hx => by
    rw [cell_l_src (w := 32) h (by decide) g1 hy hx]
    exact low_rounding 32 y _
  have hrows1 : ∀ y < 32, ∀ n < 32, |64 * cell (ll1 tile) 32 y n - smooth1 (cell tile 64) y n| ≤
      160 := fun y hy n hn => by
    rw [ll1, cell_low_band_exact hl1 (by decide) g1' hy hn]
    exact low_scaled (by decide) hn (hcolumns1 y hy) (by decide) rfl (by decide)
  have hcolumns2 : ∀ y < 16, ∀ x < 32, |512 * cell (l_src (ll1 tile) 16) 32 y x -
      low8 16 (fun i => smooth1 (cell tile 64) i x) y| ≤ 2432 := fun y hy x hx => by
    rw [cell_l_src (w := 16) (ll1_sized h) (by decide) g2 hy hx]
    exact low_scaled (by decide) hy (fun i hi => hrows1 i hi x hx) (by decide) rfl (by decide)
  rw [ll2, cell_low_band_exact hl2 (by decide) g2' hy hn]
  exact low_scaled (by decide) hn (hcolumns2 y hy) (by decide) rfl (by decide)

theorem ll2_small (h : Sized 4096 4096 tile) : Sized 256 10824 (ll2 tile) := by
  have hgrid : Sized (16 * 16) 10824 (low_band (l_src (ll1 tile) 16) 16) := by
    refine sized_grid fun y hy x hx => ?_
    have hround := abs_le.mp (ll2_rounding h hy hx)
    have hsum := abs_le.mp (smooth2_bounds (cell tile 64)
      (fun x hx => Sized.column (w := 32) h hx) hy hx)
    rw [ll2, low_band, cell_grid _ hy hx] at hround
    omega
  exact hgrid

/-! ## No coefficient wraps -/

def Fits16 (v : Int) : Prop := -32768 ≤ v ∧ v ≤ 32767

/-- Everything that `rfx_dwt_2d_encode_block` stores fits 16 bits before it is cut: L and H of the
columns in the buffer `dwt`, and the four sub-bands of its rows. -/
structure StoresFit (buffer : List Int) (w : Nat) : Prop where
  l : ∀ x < 2 * w, ∀ n < w, Fits16 (l_value w (fun y => cell buffer (2 * w) y x) n)
  h : ∀ x < 2 * w, ∀ n < w, Fits16 (h_value w (fun y => cell buffer (2 * w) y x) n)
  hl : ∀ y < w, ∀ n < w, Fits16 (h_value w (cell (l_src buffer w) (2 * w) y) n)
  ll : ∀ y < w, ∀ n < w, Fits16 (l_value w (cell (l_src buffer w) (2 * w) y) n)
  hh : ∀ y < w, ∀ n < w, Fits16 (h_value w (cell (h_src buffer w) (2 * w) y) n)
  lh : ∀ y < w, ∀ n < w, Fits16 (l_value w (cell (h_src buffer w) (2 * w) y) n)

section fits

variable {w n : Nat} {M M' : Int} {src : Nat → Int}

theorem fits_h_value (h : Within (2 * w) M src) (hM : M ≤ 32767) (hn : n < w) :
    Fits16 (h_value w src n) := by
  have hhigh := h.high n hn
  rw [h_value_eq]
  exact ⟨by omega, by omega⟩

theorem fits_l_value (h : Within (2 * w) M src) (hM : 0 ≤ M) (hg : Grows M M') (hn : n < w) :
    Fits16 (l_value w src n) := by
  have hlow := h.low hg.1 n hn
  have hle := hg.le hM
  have hmax := hg.2
  rw [l_value_eq h (by omega) hn]
  exact ⟨by omega, by omega⟩

theorem storesFit {b : List Int} {M₁ M₂ : Int} (hb : Sized (2 * w * (2 * w)) M b) (hM : 0 ≤ M)
    (h1 : Grows M M₁) (h2 : Grows M₁ M₂) : StoresFit b w := by
  have hle := h1.le hM
  have hmax := h1.2
  have hl := sized_l_src hb hM h1
  have hh := sized_h_src hb (by omega)
  exact {
    l := fun x hx n hn => fits_l_value (hb.column hx) hM h1 hn
    h := fun x hx n hn => fits_h_value (hb.column hx) (by omega) hn
    hl := fun y hy n hn => fits_h_value (hl.row hy) (by omega) hn
    ll := fun y hy n hn => fits_l_value (hl.row hy) (by omega) h2 hn
    hh := fun y hy n hn => fits_h_value (hh.row hy) (by omega) hn
    lh := fun y hy n hn => fits_l_value (hh.row hy) hM h1 hn }

end fits

theorem drop_encode_block (b : List Int) (w : Nat) :
    (rfx_dwt_2d_encode_block b w).drop (3 * (w * w)) = low_band (l_src b w) w := by
  rw [encode_block_eq, drop_left' (length_bands b w)]

/-- On every tile of samples no coefficient wraps at any of the three levels. -/
theorem forward_wavelet_never_wraps (tile : List Int)
    (h : ∀ i < 4096, -4096 ≤ tile.getD i 0 ∧ tile.getD i 0 ≤ 4095) :
    StoresFit tile 32 ∧
      StoresFit ((rfx_dwt_2d_encode_block tile 32).drop 3072) 16 ∧
      StoresFit ((rfx_dwt_2d_encode_block ((rfx_dwt_2d_encode_block tile 32).drop 3072) 16).drop
        768) 8 := by
  have hsized := sized_tile h
  have h1 : (rfx_dwt_2d_encode_block tile 32).drop 3072 = ll1 tile := drop_encode_block tile 32
  have h2 : (rfx_dwt_2d_encode_block (ll1 tile) 16).drop 768 = ll2 tile :=
    drop_encode_block (ll1 tile) 16
  rw [h1, h2]
  refine ⟨storesFit (w := 32) hsized (by decide) (?_ : Grows 4096 6145) (?_ : Grows 6145 9218),
    storesFit (w := 16) (ll1_sized hsized) (by decide) (?_ : Grows 9218 13828)
      (?_ : Grows 13828 20743),
    -- Six steps of one and a half each would be too much, so two levels are bounded together.
    storesFit (w := 8) (ll2_small hsized) (by decide) (?_ : Grows 10824 16237)
      (?_ : Grows 16237 24356)⟩
  all_goals exact ⟨by decide, by decide⟩

theorem bright_sample_never_wraps : StoresFit brightSample 32 :=
  (forward_wavelet_never_wraps brightSample bright_sample_range).1

end neutrinordp.rfx
