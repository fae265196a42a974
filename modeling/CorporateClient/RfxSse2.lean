-- The forward transform of RemoteFX in SSE2 (libfreerdp-codec/rfx_sse2.c) beside the plain one
-- (rfx_dwt.c, rfx_quantization.c). A register has eight lanes of 16 bits, and sums wrap in their
-- lane. On the samples of a tile no sum wraps, so both give the same coefficients.
import CorporateClient.RfxDwt

open List lifting

namespace neutrinordp.rfx

/-! ## Plain quantization -/

/-- `*dst = (*dst + half) >> factor` -/
def quantize (factor : Nat) (v : Int) : Int :=
  sint16 ((v + sint16 (1 <<< (factor - 1))) >>> factor)

def map_block (offset size : Nat) (f : Int → Int) (buffer : List Int) : List Int :=
  buffer.take offset ++ ((buffer.drop offset).take size).map f ++ buffer.drop (offset + size)

def rfx_quantization_encode_block (buffer : List Int) (offset buffer_size factor : Nat) :
    List Int :=
  if factor = 0 then buffer else map_block offset buffer_size (quantize factor) buffer

/-- The sub-bands HL1, LH1, HH1, HL2, LH2, HH2, HL3, LH3, HH3, LL3: where they are in the buffer,
their sizes and the indices of their quantization values. -/
def quant_blocks : List (Nat × Nat × Nat) :=
  [(0, 1024, 8), (1024, 1024, 7), (2048, 1024, 9), (3072, 256, 5), (3328, 256, 4), (3584, 256, 6),
    (3840, 64, 2), (3904, 64, 1), (3968, 64, 3), (4032, 64, 0)]

/-- `quantization_values[i] - 6` is a `uint32`. -/
def quant_factor (quantization_values : List Nat) (i : Nat) : Nat :=
  (quantization_values.getD i 0 + 4294967290) % 4294967296

/-- Every sub-band with its own factor, and then the whole buffer, as the coefficients are
scaled by 32. -/
def quantize_blocks (encode_block : List Int → Nat → Nat → Nat → List Int) (buffer : List Int)
    (quantization_values : List Nat) : List Int :=
  let buffer := quant_blocks.foldl (fun buffer block =>
    encode_block buffer block.1 block.2.1 (quant_factor quantization_values block.2.2)) buffer
  encode_block buffer 0 4096 5

def rfx_quantization_encode : List Int → List Nat → List Int :=
  quantize_blocks rfx_quantization_encode_block

/-! ## Registers -/

/-- `__m128i` as eight lanes of 16 bits, the low one first. -/
abbrev Lanes := Fin 8 → Int

def mm_load_si128 (p : List Int) (offset : Nat) : Lanes := fun i => p.getD (offset + i) 0

def mm_set1_epi16 (v : Int) : Lanes := fun _ => sint16 v

def mm_add_epi16 (a b : Lanes) : Lanes := fun i => sint16 (a i + b i)

def mm_sub_epi16 (a b : Lanes) : Lanes := fun i => sint16 (a i - b i)

def mm_srai_epi16 (a : Lanes) (count : Nat) : Lanes := fun i => a i >>> count

def mm_extract_epi16 (a : Lanes) (lane : Fin 8) : Int := a lane % 65536

def mm_insert_epi16 (a : Lanes) (v : Int) (lane : Fin 8) : Lanes :=
  fun i => if i = lane then sint16 v else a i

def lanes_at (step : Nat → Lanes) (i : Nat) : Int := step (i / 8) ⟨i % 8, Nat.mod_lt i (by decide)⟩

def stored (size : Nat) (step : Nat → Lanes) : List Int := (range size).map (lanes_at step)

/-! ## Quantization in SSE2 -/

def quantize_sse2 (factor : Nat) (buffer : List Int) (step : Nat) : Lanes :=
  let half := mm_set1_epi16 (1 <<< (factor - 1))
  mm_srai_epi16 (mm_add_epi16 (mm_load_si128 buffer (8 * step)) half) factor

def rfx_quantization_encode_block_sse2 (buffer : List Int) (offset buffer_size factor : Nat) :
    List Int :=
  if factor = 0 then buffer
  else buffer.take offset ++ stored buffer_size (quantize_sse2 factor (buffer.drop offset)) ++
    buffer.drop (offset + buffer_size)

def rfx_quantization_encode_sse2 : List Int → List Nat → List Int :=
  quantize_blocks rfx_quantization_encode_block_sse2

/-! ## The wavelet in SSE2 -/

/-- `h[n] = (src[2n + 1] - ((src[2n] + src[2n + 2]) >> 1)) >> 1` -/
def lift_h (src_2n src_2n_1 src_2n_2 : Lanes) : Lanes :=
  mm_srai_epi16 (mm_sub_epi16 src_2n_1 (mm_srai_epi16 (mm_add_epi16 src_2n src_2n_2) 1)) 1

/-- `l[n] = src[2n] + ((h[n - 1] + h[n]) >> 1)` -/
def lift_l (src_2n h_n_m h_n : Lanes) : Lanes :=
  mm_add_epi16 (mm_srai_epi16 (mm_add_epi16 h_n_m h_n) 1) src_2n

section vertical

variable (buffer : List Int) (subband_width step : Nat)

/-- The row of a step, and `src` at the step: `src` moves by two rows for each row of `l` and
`h`. -/
def vert_n : Nat := 8 * step / (2 * subband_width)

def vert_src : Nat :=
  vert_n subband_width step * (2 * (2 * subband_width)) + 8 * step % (2 * subband_width)

def vert_src_2n : Lanes := mm_load_si128 buffer (vert_src subband_width step)

def vert_h_n : Lanes :=
  let src := vert_src subband_width step
  let total_width := 2 * subband_width
  let src_2n := vert_src_2n buffer subband_width step
  let src_2n_1 := mm_load_si128 buffer (src + total_width)
  let src_2n_2 := if vert_n subband_width step < subband_width - 1 then
    mm_load_si128 buffer (src + 2 * total_width) else src_2n
  lift_h src_2n src_2n_1 src_2n_2

def vert_h : List Int :=
  stored (subband_width * (2 * subband_width)) (vert_h_n buffer subband_width)

/-- The row of `h` in front is stored already. -/
def vert_l_n : Lanes :=
  let h_n := vert_h_n buffer subband_width step
  let h_n_m := if vert_n subband_width step = 0 then h_n
    else mm_load_si128 (vert_h buffer subband_width) (8 * step - 2 * subband_width)
  lift_l (vert_src_2n buffer subband_width step) h_n_m h_n

def vert_l : List Int :=
  stored (subband_width * (2 * subband_width)) (vert_l_n buffer subband_width)

end vertical

section horizontal

variable (front : Int) (src : List Int) (subband_width step : Nat)

/-- `n` at a step. `src` moves by 16 for each step of `l` and `h`. -/
def horiz_n : Nat := 8 * step % subband_width

def horiz_src_2n : Lanes := fun i => src.getD (16 * step + 2 * i) 0

def horiz_h_n : Lanes :=
  let src_2n := horiz_src_2n src step
  let src_2n_1 : Lanes := fun i => src.getD (16 * step + 2 * i + 1) 0
  let src_2n_2 : Lanes := fun i =>
    if i = 7 ∧ horiz_n subband_width step = subband_width - 8 then src.getD (16 * step + 14) 0
    else src.getD (16 * step + 2 * i + 2) 0
  lift_h src_2n src_2n_1 src_2n_2

def horiz_h : List Int := stored (subband_width * subband_width) (horiz_h_n src subband_width)

/-- The load starts one value early, at the start of the band at the value in front of it. At the
start of a row the first lane is replaced. -/
def horiz_l_n : Lanes :=
  let h_n := horiz_h_n src subband_width step
  let h_n_m := mm_load_si128 (front :: horiz_h src subband_width) (8 * step)
  let h_n_m := if horiz_n subband_width step = 0 then
    mm_insert_epi16 h_n_m (mm_extract_epi16 h_n_m 1) 0 else h_n_m
  lift_l (horiz_src_2n src step) h_n_m h_n

def horiz_l : List Int := stored (subband_width * subband_width) (horiz_l_n front src subband_width)

end horizontal

/-- `front` has the values that stand in front of HL and HH. -/
def rfx_dwt_2d_encode_block_sse2 (front : Int × Int) (buffer : List Int) (subband_width : Nat) :
    List Int :=
  let l_src := vert_l buffer subband_width
  let h_src := vert_h buffer subband_width
  let ll := horiz_l front.1 l_src subband_width
  let hl := horiz_h l_src subband_width
  let lh := horiz_l front.2 h_src subband_width
  let hh := horiz_h h_src subband_width
  hl ++ (lh ++ (hh ++ ll))

def rfx_dwt_2d_encode_sse2 (front : Nat → Int × Int) (buffer : List Int) : List Int :=
  let buffer := in_block 0 (rfx_dwt_2d_encode_block_sse2 (front 32) · 32) buffer
  let buffer := in_block 3072 (rfx_dwt_2d_encode_block_sse2 (front 16) · 16) buffer
  in_block 3840 (rfx_dwt_2d_encode_block_sse2 (front 8) · 8) buffer

/-! ## Lanes without overflow -/

theorem lane_h {a b c M : Int} (ha : -M ≤ a ∧ a ≤ M) (hb : -M ≤ b ∧ b ≤ M) (hc : -M ≤ c ∧ c ≤ M)
    (hM : M ≤ 16383) :
    sint16 (b - (sint16 (a + c) >>> (1 : Nat))) >>> (1 : Nat) =
      sint16 ((b - ((a + c) >>> (1 : Nat))) >>> (1 : Nat)) := by
  have hsum : sint16 (a + c) = a + c := sint16_of_range (by omega) (by omega)
  rw [hsum, half_eq, half_eq, half_eq]
  have hsub : sint16 (b - (a + c) / 2) = b - (a + c) / 2 := sint16_of_range (by omega) (by omega)
  rw [hsub]
  exact (sint16_of_range (by omega) (by omega)).symm

theorem lane_l {a g h M : Int} (hg : -M ≤ g ∧ g ≤ M) (hh : -M ≤ h ∧ h ≤ M) (hM : M ≤ 16383) :
    sint16 ((sint16 (g + h) >>> (1 : Nat)) + a) = sint16 (a + ((g + h) >>> (1 : Nat))) := by
  have hsum : sint16 (g + h) = g + h := sint16_of_range (by omega) (by omega)
  rw [hsum, Int.add_comm]

theorem lift_h_lane (a b c : Lanes) (i : Fin 8) :
    lift_h a b c i = sint16 (b i - (sint16 (a i + c i) >>> (1 : Nat))) >>> (1 : Nat) := rfl

theorem lift_l_lane (a g h : Lanes) (i : Fin 8) :
    lift_l a g h i = sint16 ((sint16 (g i + h i) >>> (1 : Nat)) + a i) := rfl

theorem getD_stored {size i : Nat} (step : Nat → Lanes) (hi : i < size) :
    (stored size step).getD i 0 = lanes_at step i := by
  rw [getD_eq_getElem _ _ (by rw [stored, length_map, length_range]; exact hi)]
  simp [stored]

theorem stored_eq_grid {rows cols : Nat} {step : Nat → Lanes} {f : Nat → Nat → Int}
    (h : ∀ y < rows, ∀ x < cols, lanes_at step (y * cols + x) = f y x) :
    stored (rows * cols) step = grid rows cols f := by
  refine map_congr_left fun i hi => ?_
  rw [mem_range] at hi
  have hcols : 0 < cols := Nat.pos_of_ne_zero fun hzero => by rw [hzero, Nat.mul_zero] at hi; omega
  have hi' : i / cols * cols + i % cols = i := by rw [Nat.mul_comm]; exact Nat.div_add_mod i cols
  have hlane := h _ (Nat.div_lt_of_lt_mul (by rw [Nat.mul_comm]; exact hi)) _ (Nat.mod_lt i hcols)
  rwa [hi'] at hlane

theorem step_place {c n x : Nat} (hx : x < 8 * c) :
    8 * ((n * (8 * c) + x) / 8) / (8 * c) = n ∧
      8 * ((n * (8 * c) + x) / 8) % (8 * c) + (n * (8 * c) + x) % 8 = x := by
  have hindex : n * (8 * c) + x = 8 * (n * c) + x := by rw [Nat.mul_left_comm]
  have hdiv : (n * (8 * c) + x) / 8 = n * c + x / 8 := by omega
  have hmod : (n * (8 * c) + x) % 8 = x % 8 := by omega
  have hround : 8 * (n * c + x / 8) = 8 * (x / 8) + n * (8 * c) := by
    rw [Nat.mul_add, Nat.mul_left_comm, Nat.add_comm]
  have hlt : 8 * (x / 8) < 8 * c := by omega
  rw [hdiv, hmod, hround, Nat.add_mul_div_right _ _ (by omega), Nat.add_mul_mod_self_right,
    Nat.div_eq_of_lt hlt, Nat.mod_eq_of_lt hlt]
  omega

section levels

variable {c : Nat} {M : Int} {b : List Int}

variable {n y x : Nat}

theorem lanes_vert_src (k : Nat) (hx : x < 2 * (8 * c)) :
    mm_load_si128 b (vert_src (8 * c) ((n * (2 * (8 * c)) + x) / 8) + k * (2 * (8 * c)))
        ⟨(n * (2 * (8 * c)) + x) % 8, Nat.mod_lt _ (by decide)⟩ =
      cell b (2 * (8 * c)) (2 * n + k) x := by
  have hwidth : 2 * (8 * c) = 8 * (2 * c) := by omega
  rw [hwidth] at hx ⊢
  obtain ⟨hn, hx'⟩ := step_place (n := n) hx
  unfold mm_load_si128 vert_src vert_n cell
  rw [hwidth, hn]
  dsimp only
  congr 1
  rw [Nat.add_mul]
  have hassoc : n * (2 * (8 * (2 * c))) = 2 * n * (8 * (2 * c)) := by
    rw [Nat.mul_comm 2 n, Nat.mul_assoc]
  omega

theorem vert_n_eq (hx : x < 2 * (8 * c)) : vert_n (8 * c) ((n * (2 * (8 * c)) + x) / 8) = n := by
  have hwidth : 2 * (8 * c) = 8 * (2 * c) := by omega
  unfold vert_n
  rw [hwidth] at hx ⊢
  exact (step_place hx).1

theorem lanes_vert_src_2n (hx : x < 2 * (8 * c)) :
    vert_src_2n b (8 * c) ((n * (2 * (8 * c)) + x) / 8)
        ⟨(n * (2 * (8 * c)) + x) % 8, Nat.mod_lt _ (by decide)⟩ =
      cell b (2 * (8 * c)) (2 * n) x := by
  have h := lanes_vert_src (b := b) (n := n) 0 hx
  rwa [Nat.zero_mul] at h

theorem dwt_h_sized {w : Nat} {src : Nat → Int} (h : Within (2 * w) M src) (hM : M ≤ 32767)
    (hn : n < w) : -M ≤ dwt_h w src n ∧ dwt_h w src n ≤ M := by
  rw [dwt_h_eq h hM hn]
  exact h.high n hn

theorem dwt_l_of_before {w : Nat} {src : Nat → Int} (h : Within (2 * w) M src) (hM : M ≤ 16383)
    (hn : n < w) {g : Int} (hg : g = if n = 0 then dwt_h w src n else dwt_h w src (n - 1)) :
    sint16 ((sint16 (g + dwt_h w src n) >>> (1 : Nat)) + src (2 * n)) = dwt_l w src n := by
  have hh := dwt_h_sized h (by omega) hn
  unfold dwt_l
  split_ifs at hg ⊢ with hzero
  · rw [hg, lane_l hh hh hM, half_eq]
    congr 2
    omega
  · rw [hg, lane_l (dwt_h_sized h (by omega) (by omega)) hh hM]

section

variable (hb : Sized (2 * (8 * c) * (2 * (8 * c))) M b) (hM : M ≤ 16383)

include hb hM

theorem lanes_vert_h (hn : n < 8 * c) (hx : x < 2 * (8 * c)) :
    lanes_at (vert_h_n b (8 * c)) (n * (2 * (8 * c)) + x) =
      dwt_h (8 * c) (fun y => cell b (2 * (8 * c)) y x) n := by
  have hcol := hb.column hx
  have h1 := lanes_vert_src (b := b) (n := n) 1 hx
  have h2 := lanes_vert_src (b := b) (n := n) 2 hx
  rw [Nat.one_mul] at h1
  unfold lanes_at vert_h_n
  rw [lift_h_lane, vert_n_eq hx, lanes_vert_src_2n hx, h1]
  unfold dwt_h
  split_ifs with hin
  · rw [h2]
    exact lane_h (hcol (2 * n) (by omega)) (hcol (2 * n + 1) (by omega))
      (hcol (2 * n + 2) (by omega)) hM
  · rw [lanes_vert_src_2n hx]
    exact lane_h (hcol (2 * n) (by omega)) (hcol (2 * n + 1) (by omega))
      (hcol (2 * n) (by omega)) hM

theorem vert_h_eq : vert_h b (8 * c) = h_src b (8 * c) :=
  stored_eq_grid fun _ hn _ hx => lanes_vert_h hb hM hn hx

theorem lanes_vert_l (hn : n < 8 * c) (hx : x < 2 * (8 * c)) :
    lanes_at (vert_l_n b (8 * c)) (n * (2 * (8 * c)) + x) =
      dwt_l (8 * c) (fun y => cell b (2 * (8 * c)) y x) n := by
  have hh := lanes_vert_h hb hM hn hx
  unfold lanes_at at hh ⊢
  unfold vert_l_n
  rw [lift_l_lane, vert_n_eq hx, lanes_vert_src_2n hx, hh]
  refine dwt_l_of_before (hb.column hx) hM hn ?_
  split_ifs with hzero
  · exact hh
  · -- The load is one row back.
    have hrow : n * (2 * (8 * c)) = (n - 1) * (2 * (8 * c)) + 2 * (8 * c) := by
      rw [← Nat.succ_mul, Nat.succ_eq_add_one, Nat.sub_add_cancel (by omega)]
    have hprev := lanes_vert_h hb hM (n := n - 1) (by omega) hx
    have hplace : (n - 1) * (2 * (8 * c)) + x < 8 * c * (2 * (8 * c)) := place_lt (by omega) hx
    rw [← hprev, ← getD_stored _ hplace]
    unfold mm_load_si128 vert_h
    dsimp only
    congr 1
    omega

theorem vert_l_eq : vert_l b (8 * c) = l_src b (8 * c) :=
  stored_eq_grid fun _ hn _ hx => lanes_vert_l hb hM hn hx

end

/-! ## Rows -/

theorem horiz_place (hn : n < 8 * c) :
    horiz_n (8 * c) ((y * (8 * c) + n) / 8) + (y * (8 * c) + n) % 8 = n ∧
      horiz_n (8 * c) ((y * (8 * c) + n) / 8) % 8 = 0 := by
  refine ⟨(step_place hn).2, ?_⟩
  unfold horiz_n
  rw [Nat.mul_mod_mul_left, Nat.mul_mod_right]

theorem lane_double {k : Nat} :
    b.getD (16 * ((y * (8 * c) + n) / 8) + 2 * ((y * (8 * c) + n) % 8) + k) 0 =
      cell b (2 * (8 * c)) y (2 * n + k) := by
  have hdouble : y * (2 * (8 * c)) = 2 * (y * (8 * c)) := Nat.mul_left_comm y 2 (8 * c)
  congr 1
  omega

theorem lanes_horiz_src_2n :
    horiz_src_2n b ((y * (8 * c) + n) / 8) ⟨(y * (8 * c) + n) % 8, Nat.mod_lt _ (by decide)⟩ =
      cell b (2 * (8 * c)) y (2 * n) :=
  lane_double (k := 0)

theorem insert_extract {v : Int} (h : -32768 ≤ v ∧ v ≤ 32767) : sint16 (v % 65536) = v := by
  have hback : (v % 65536).bmod 65536 = v.bmod 65536 := Int.emod_bmod v 65536
  rw [sint16_eq, hback, ← sint16_eq]
  exact sint16_of_range (by omega) (by omega)

section

variable (hb : Sized (8 * c * (2 * (8 * c))) M b) (hM : M ≤ 16383)

include hb hM

theorem lanes_horiz_h (hy : y < 8 * c) (hn : n < 8 * c) :
    lanes_at (horiz_h_n b (8 * c)) (y * (8 * c) + n) =
      dwt_h (8 * c) (cell b (2 * (8 * c)) y) n := by
  have hrow := hb.row hy
  obtain ⟨hplace, hmod⟩ := horiz_place (y := y) hn
  have h1 := lane_double (b := b) (c := c) (y := y) (n := n) (k := 1)
  have h2 := lane_double (b := b) (c := c) (y := y) (n := n) (k := 2)
  have h0 := lane_double (b := b) (c := c) (y := y) (n := n) (k := 0)
  unfold lanes_at horiz_h_n
  rw [lift_h_lane, lanes_horiz_src_2n]
  rw [h1, h2]
  unfold dwt_h
  by_cases hin : n < 8 * c - 1
  · have hinside : ¬ ((⟨(y * (8 * c) + n) % 8, Nat.mod_lt _ (by decide)⟩ : Fin 8) = 7 ∧
        horiz_n (8 * c) ((y * (8 * c) + n) / 8) = 8 * c - 8) := by
      rintro ⟨hlane, hlast⟩
      have hlane : (y * (8 * c) + n) % 8 = 7 := Fin.ext_iff.mp hlane
      omega
    rw [if_neg hinside, if_pos hin]
    exact lane_h (hrow (2 * n) (by omega)) (hrow (2 * n + 1) (by omega))
      (hrow (2 * n + 2) (by omega)) hM
  · -- In the last lane of a row the even sample is taken again.
    have hlane : (y * (8 * c) + n) % 8 = 7 := by omega
    rw [if_pos ⟨Fin.ext hlane, by omega⟩, if_neg hin]
    rw [hlane] at h0
    rw [show 16 * ((y * (8 * c) + n) / 8) + 14 = 16 * ((y * (8 * c) + n) / 8) + 2 * 7 + 0 from rfl,
      h0]
    exact lane_h (hrow (2 * n) (by omega)) (hrow (2 * n + 1) (by omega))
      (hrow (2 * n) (by omega)) hM

theorem horiz_h_eq : horiz_h b (8 * c) = high_band b (8 * c) :=
  stored_eq_grid fun _ hy _ hn => lanes_horiz_h hb hM hy hn

theorem getD_horiz_h (hy : y < 8 * c) (hn : n < 8 * c) :
    (horiz_h b (8 * c)).getD (y * (8 * c) + n) 0 = dwt_h (8 * c) (cell b (2 * (8 * c)) y) n := by
  rw [← lanes_horiz_h hb hM hy hn]
  exact getD_stored _ (place_lt hy hn)

theorem lanes_horiz_l (front : Int) (hy : y < 8 * c) (hn : n < 8 * c) :
    lanes_at (horiz_l_n front b (8 * c)) (y * (8 * c) + n) =
      dwt_l (8 * c) (cell b (2 * (8 * c)) y) n := by
  have hh := lanes_horiz_h hb hM hy hn
  obtain ⟨hplace, hmod⟩ := horiz_place (y := y) hn
  unfold lanes_at at hh ⊢
  unfold horiz_l_n
  rw [lift_l_lane, lanes_horiz_src_2n, hh]
  refine dwt_l_of_before (hb.row hy) hM hn ?_
  by_cases hzero : n = 0
  · -- The first lane of a row is a copy of the second, which is the first coefficient.
    subst hzero
    have hstart : horiz_n (8 * c) ((y * (8 * c) + 0) / 8) = 0 := by omega
    have hlane : (y * (8 * c) + 0) % 8 = 0 := by omega
    have hsize := dwt_h_sized (hb.row hy) (by omega) hn
    have hfirst : mm_load_si128 (front :: horiz_h b (8 * c)) (8 * ((y * (8 * c) + 0) / 8)) 1 =
        dwt_h (8 * c) (cell b (2 * (8 * c)) y) 0 := by
      rw [← getD_horiz_h hb hM hy hn]
      unfold mm_load_si128
      rw [show 8 * ((y * (8 * c) + 0) / 8) + ((1 : Fin 8) : Nat) = y * (8 * c) + 0 + 1 by
        show _ + 1 = _; omega]
      rfl
    rw [if_pos hstart, if_pos rfl]
    unfold mm_insert_epi16 mm_extract_epi16
    rw [if_pos (Fin.ext hlane), hfirst]
    exact insert_extract ⟨by omega, by omega⟩
  · have hprev := getD_horiz_h hb hM hy (n := n - 1) (by omega)
    have hload : mm_load_si128 (front :: horiz_h b (8 * c)) (8 * ((y * (8 * c) + n) / 8))
        ⟨(y * (8 * c) + n) % 8, Nat.mod_lt _ (by decide)⟩ =
        dwt_h (8 * c) (cell b (2 * (8 * c)) y) (n - 1) := by
      rw [← hprev]
      unfold mm_load_si128
      rw [show 8 * ((y * (8 * c) + n) / 8) + (y * (8 * c) + n) % 8 = y * (8 * c) + (n - 1) + 1 by
        omega]
      rfl
    split_ifs with hstart
    · unfold mm_insert_epi16
      rw [if_neg, hload]
      intro hlane
      have hlane : (y * (8 * c) + n) % 8 = 0 := Fin.ext_iff.mp hlane
      omega
    · exact hload

theorem horiz_l_eq (front : Int) : horiz_l front b (8 * c) = low_band b (8 * c) :=
  stored_eq_grid fun _ hy _ hn => lanes_horiz_l hb hM front hy hn

end

theorem rfx_dwt_2d_encode_block_sse2_eq {M' : Int} (front : Int × Int)
    (hb : Sized (2 * (8 * c) * (2 * (8 * c))) M b) (hM : 0 ≤ M) (hg : Grows M M')
    (hM' : M' ≤ 16383) :
    rfx_dwt_2d_encode_block_sse2 front b (8 * c) = rfx_dwt_2d_encode_block b (8 * c) := by
  have hle := hg.le hM
  have hl := sized_l_src hb hM hg
  have hh := sized_h_src hb (by omega)
  unfold rfx_dwt_2d_encode_block_sse2 rfx_dwt_2d_encode_block
  dsimp only
  rw [vert_l_eq hb (by omega), vert_h_eq hb (by omega), horiz_l_eq hl hM' _, horiz_h_eq hl hM',
    horiz_l_eq hh (by omega) _, horiz_h_eq hh (by omega)]

end levels

variable {tile : List Int}

theorem rfx_dwt_2d_encode_sse2_eq (front : Nat → Int × Int) (h : Sized 4096 4096 tile) :
    rfx_dwt_2d_encode_sse2 front tile = rfx_dwt_2d_encode tile := by
  have g1 : Grows 4096 6145 := ⟨by decide, by decide⟩
  have g2 : Grows 9218 13828 := ⟨by decide, by decide⟩
  have g3 : Grows 10824 16237 := ⟨by decide, by decide⟩
  have e1 : rfx_dwt_2d_encode_block_sse2 (front 32) tile 32 = rfx_dwt_2d_encode_block tile 32 :=
    rfx_dwt_2d_encode_block_sse2_eq (c := 4) _ h (by decide) g1 (by decide)
  have e2 : rfx_dwt_2d_encode_block_sse2 (front 16) (ll1 tile) 16 =
      rfx_dwt_2d_encode_block (ll1 tile) 16 :=
    rfx_dwt_2d_encode_block_sse2_eq (c := 2) _ (ll1_sized h) (by decide) g2 (by decide)
  have e3 : rfx_dwt_2d_encode_block_sse2 (front 8) (ll2 tile) 8 =
      rfx_dwt_2d_encode_block (ll2 tile) 8 :=
    rfx_dwt_2d_encode_block_sse2_eq (c := 1) _ (ll2_small h) (by decide) g3 (by decide)
  have h1 : (bands tile 32).length = 3072 := length_bands tile 32
  have h2 : (bands tile 32 ++ bands (ll1 tile) 16).length = 3840 := by
    rw [length_append, h1, length_bands]
  rw [rfx_dwt_2d_encode_eq, ← e3]
  unfold rfx_dwt_2d_encode_sse2
  dsimp only
  rw [in_block_zero, e1, encode_block_eq, in_block_append _ _ h1]
  change in_block 3840 _ (_ ++ rfx_dwt_2d_encode_block_sse2 (front 16) (ll1 tile) 16) = _
  rw [e2, encode_block_eq, ← append_assoc, in_block_append _ _ h2, append_assoc]
  rfl

/-! ## Quantization without overflow -/

/-- A half of at most 256 can be added to every value. -/
def Roomy (v : Int) : Prop := -32511 ≤ v ∧ v ≤ 32511

def RoomyTile (b : List Int) : Prop := b.length = 4096 ∧ ∀ v ∈ b, Roomy v

theorem half_range {factor : Nat} (h : factor ≤ 9) :
    1 ≤ sint16 (1 <<< (factor - 1)) ∧ sint16 (1 <<< (factor - 1)) ≤ 256 := by
  have hfactors : ∀ k ≤ 8, 1 ≤ sint16 (1 <<< k) ∧ sint16 (1 <<< k) ≤ 256 := by decide
  exact hfactors (factor - 1) (by omega)

theorem quantize.spec {factor : Nat} {v : Int} (h0 : factor ≠ 0) (h : factor ≤ 9) (hv : Roomy v) :
    Roomy (quantize factor v) ∧
      sint16 (v + sint16 (1 <<< (factor - 1))) >>> factor = quantize factor v := by
  obtain ⟨hlow, hhigh⟩ := hv
  have hhalf := half_range h
  generalize hk : sint16 (1 <<< (factor - 1)) = half at hhalf
  have hsmall : Roomy ((v + half) >>> factor) := by
    have hpow : (1 : Int) < 2 ^ factor := one_lt_pow₀ (by decide) h0
    rw [Int.shiftRight_eq_div_pow]
    push_cast
    generalize (2 : Int) ^ factor = p at hpow
    constructor
    · rw [Int.le_ediv_iff_mul_le (by omega)]
      omega
    · refine Int.lt_add_one_iff.mp (Int.ediv_lt_of_lt_mul (by omega) ?_)
      omega
  have hquantize : quantize factor v = (v + half) >>> factor := by
    obtain ⟨hlow', hhigh'⟩ := hsmall
    unfold quantize
    rw [hk]
    exact sint16_of_range (by omega) (by omega)
  rw [hquantize, sint16_of_range (by omega) (by omega)]
  exact ⟨hsmall, rfl⟩

variable {b : List Int} {offset size factor : Nat}

theorem rfx_quantization_encode_block_sse2_eq (hb : RoomyTile b) (hfactor : factor ≤ 9)
    (hsize : offset + size ≤ 4096) :
    rfx_quantization_encode_block_sse2 b offset size factor =
      rfx_quantization_encode_block b offset size factor := by
  obtain ⟨hlen, hroom⟩ := hb
  unfold rfx_quantization_encode_block_sse2 rfx_quantization_encode_block map_block
  split_ifs with hzero
  · rfl
  congr 2
  refine ext_getElem ?_ fun i hi _ => ?_
  · rw [stored, length_map, length_range, length_map, length_take,
      length_drop]
    omega
  · rw [stored, length_map, length_range] at hi
    have hdrop : i < (b.drop offset).length := by rw [length_drop]; omega
    have hload : mm_load_si128 (b.drop offset) (8 * (i / 8)) ⟨i % 8, Nat.mod_lt i (by decide)⟩ =
        (b.drop offset)[i] := by
      unfold mm_load_si128
      rw [Nat.div_add_mod, getD_eq_getElem _ _ hdrop]
    have hmem : (b.drop offset)[i] ∈ b := mem_of_mem_drop (getElem_mem hdrop)
    simp only [stored, getElem_map, getElem_range, getElem_take]
    unfold lanes_at quantize_sse2 mm_srai_epi16 mm_add_epi16 mm_set1_epi16
    rw [hload]
    exact (quantize.spec hzero hfactor (hroom _ hmem)).2

theorem RoomyTile.encode_block (hb : RoomyTile b) (hfactor : factor ≤ 9)
    (hsize : offset + size ≤ 4096) :
    RoomyTile (rfx_quantization_encode_block b offset size factor) := by
  unfold rfx_quantization_encode_block
  split_ifs with hzero
  · exact hb
  obtain ⟨hlen, hroom⟩ := hb
  unfold map_block
  constructor
  · rw [length_append, length_append, length_map, length_take,
      length_take, length_drop, length_drop]
    omega
  · intro v hv
    rw [mem_append, mem_append, mem_map] at hv
    rcases hv with (hv | ⟨u, hu, rfl⟩) | hv
    · exact hroom v (mem_of_mem_take hv)
    · have hmem : u ∈ b := mem_of_mem_drop (mem_of_mem_take hu)
      exact (quantize.spec hzero hfactor (hroom u hmem)).1
    · exact hroom v (mem_of_mem_drop hv)

/-- A quantization table with values from 6 to 15. -/
def QuantTable (q : List Nat) : Prop := ∀ i < 10, 6 ≤ q.getD i 0 ∧ q.getD i 0 ≤ 15

theorem quant_factor_le {q : List Nat} {i : Nat} (hq : QuantTable q) (hi : i < 10) :
    quant_factor q i ≤ 9 := by
  have hvalue := hq i hi
  unfold quant_factor
  omega

theorem quantize_sub_bands {q : List Nat} (hq : QuantTable q) (blocks : List (Nat × Nat × Nat))
    (hblocks : ∀ block ∈ blocks, block.1 + block.2.1 ≤ 4096 ∧ block.2.2 < 10) (hb : RoomyTile b) :
    blocks.foldl (fun b block => rfx_quantization_encode_block_sse2 b block.1 block.2.1
        (quant_factor q block.2.2)) b =
      blocks.foldl (fun b block => rfx_quantization_encode_block b block.1 block.2.1
        (quant_factor q block.2.2)) b ∧
      RoomyTile (blocks.foldl (fun b block => rfx_quantization_encode_block b block.1 block.2.1
        (quant_factor q block.2.2)) b) := by
  induction blocks generalizing b with
  | nil =>
    rw [foldl_nil, foldl_nil]
    exact ⟨rfl, hb⟩
  | cons block blocks ih =>
    obtain ⟨hsize, hindex⟩ := hblocks block mem_cons_self
    have hfactor := quant_factor_le hq hindex
    rw [foldl_cons, foldl_cons, rfx_quantization_encode_block_sse2_eq hb hfactor hsize]
    exact ih (forall_mem_cons.mp hblocks).2
      (hb.encode_block hfactor hsize)

theorem rfx_quantization_encode_sse2_eq {q : List Nat} (hq : QuantTable q) (hb : RoomyTile b) :
    rfx_quantization_encode_sse2 b q = rfx_quantization_encode b q := by
  obtain ⟨hsame, hroom⟩ := quantize_sub_bands hq quant_blocks (by decide) hb
  unfold rfx_quantization_encode_sse2 rfx_quantization_encode quantize_blocks
  rw [hsame]
  exact rfx_quantization_encode_block_sse2_eq hroom (by decide) (by decide)

/-! ## The coefficients of a tile have room -/

theorem mem_grid {rows cols : Nat} {f : Nat → Nat → Int} {P : Int → Prop}
    (h : ∀ y < rows, ∀ x < cols, P (f y x)) : ∀ v ∈ grid rows cols f, P v := by
  intro v hv
  obtain ⟨i, hi, rfl⟩ := mem_map.mp hv
  rw [mem_range] at hi
  have hcols : 0 < cols := Nat.pos_of_ne_zero fun hzero => by rw [hzero, Nat.mul_zero] at hi; omega
  exact h _ (Nat.div_lt_of_lt_mul (by rw [Nat.mul_comm]; exact hi)) _ (Nat.mod_lt i hcols)

section room

variable {w : Nat} {M M' : Int} {src : List Int}

theorem roomy_high_band (hs : Sized (w * (2 * w)) M src) (hM : M ≤ 32511) :
    ∀ v ∈ high_band src w, Roomy v := by
  refine mem_grid fun y hy n hn => ?_
  have hsize := dwt_h_sized (hs.row hy) (by omega) hn
  exact ⟨by omega, by omega⟩

theorem roomy_low_band (hs : Sized (w * (2 * w)) M src) (hM : 0 ≤ M) (hg : Grows M M')
    (hM' : M' ≤ 32511) : ∀ v ∈ low_band src w, Roomy v := by
  refine mem_grid fun y hy n hn => ?_
  have hsize := (hs.row hy).low hg.1 n hn
  rw [dwt_l_exact (hs.row hy) hM hg hn]
  exact ⟨by omega, by omega⟩

theorem roomy_bands (hb : Sized (2 * w * (2 * w)) M b) (hM : 0 ≤ M) (hg : Grows M M')
    (hM' : M' ≤ 32511) : ∀ v ∈ bands b w, Roomy v := by
  intro v hv
  have hle := hg.le hM
  have hh := sized_h_src hb (by omega)
  unfold bands at hv
  rw [mem_append, mem_append] at hv
  rcases hv with hv | hv | hv
  · exact roomy_high_band (sized_l_src hb hM hg) hM' v hv
  · exact roomy_low_band hh hM hg hM' v hv
  · exact roomy_high_band hh (by omega) v hv

end room

theorem rfx_dwt_2d_encode_roomy (h : Sized 4096 4096 tile) :
    RoomyTile (rfx_dwt_2d_encode tile) := by
  have g1 : Grows 4096 6145 := ⟨by decide, by decide⟩
  have g2 : Grows 9218 13828 := ⟨by decide, by decide⟩
  have g3 : Grows 10824 16237 := ⟨by decide, by decide⟩
  have g3' : Grows 16237 24356 := ⟨by decide, by decide⟩
  have hl3 : Sized (8 * (2 * 8)) 16237 (l_src (ll2 tile) 8) :=
    sized_l_src (ll2_small h) (by decide) g3
  rw [rfx_dwt_2d_encode_eq, encode_block_eq]
  constructor
  · rw [length_append, length_append, length_append, length_bands, length_bands,
      length_bands, low_band, length_grid]
  · intro v hv
    rw [mem_append, mem_append, mem_append] at hv
    rcases hv with hv | hv | hv | hv
    · exact roomy_bands (w := 32) h (by decide) g1 (by decide) v hv
    · exact roomy_bands (w := 16) (ll1_sized h) (by decide) g2 (by decide) v hv
    · exact roomy_bands (w := 8) (ll2_small h) (by decide) g3 (by decide) v hv
    · exact roomy_low_band hl3 (by decide) g3' (by decide) v hv

/-- Both forward transforms give the same coefficients, whatever stands in front of the
sub-bands in memory. -/
theorem sse2_transform_is_the_plain_one (front : Nat → Int × Int) (tile : List Int)
    (quantization_values : List Nat)
    (htile : ∀ i < 4096, -4096 ≤ tile.getD i 0 ∧ tile.getD i 0 ≤ 4095)
    (htable : ∀ i < 10, 6 ≤ quantization_values.getD i 0 ∧ quantization_values.getD i 0 ≤ 15) :
    rfx_quantization_encode_sse2 (rfx_dwt_2d_encode_sse2 front tile) quantization_values =
      rfx_quantization_encode (rfx_dwt_2d_encode tile) quantization_values := by
  have hsized : Sized 4096 4096 tile := by
    intro i hi
    have hsample := htile i hi
    dsimp only
    omega
  rw [rfx_dwt_2d_encode_sse2_eq front hsized]
  exact rfx_quantization_encode_sse2_eq htable (rfx_dwt_2d_encode_roomy hsized)

/-- A tile with bright columns, two dark ones behind each. -/
def stripedTile : List Int := (range 4096).map fun i => if i % 3 = 0 then 4095 else -4096

/-- This tile, with HL and HH behind memory that has other values. -/
theorem striped_tile_in_both_ways :
    rfx_quantization_encode_sse2 (rfx_dwt_2d_encode_sse2 (fun _ => (-7, 9)) stripedTile)
        [6, 6, 6, 6, 7, 7, 8, 8, 8, 9] =
      rfx_quantization_encode (rfx_dwt_2d_encode stripedTile) [6, 6, 6, 6, 7, 7, 8, 8, 8, 9] :=
  sse2_transform_is_the_plain_one _ _ _ (fun i hi => by
    rw [stripedTile, List.getD_eq_getElem _ _ (by simpa using hi), getElem_map]
    split <;> decide) (by decide)

end neutrinordp.rfx
