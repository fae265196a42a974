-- The law of the entropy coder: what the encoder writes, the decoder reads back. Both sides have
-- the same parameters after every value, so each turn of one is answered by a turn of the other.
import CorporateClient.Rlgr

open List bits

namespace neutrinordp.rfx

/-! ## Numbers -/

theorem Param.k_le (p : Param) : p.k ≤ 10 := by
  have hle := p.le
  rw [p.shift, Nat.shiftRight_eq_div_pow]
  unfold KPMAX LSGR at *
  omega

theorem sint16_of_range {v : Int} (h : -32768 ≤ v) (h' : v < 32768) : sint16 v = v :=
  BitVec.toInt_ofInt_eq_self (by decide) h h'

/-- A coefficient that the coder takes. -/
def Coefficient (x : Int) : Prop := -16383 ≤ x ∧ x ≤ 16383

variable {d : Decoder} {rest : List Bool} {x : Int} {data : List Int} {n : Nat} {e : Encoder}

theorem get2MagSign_le (h : Coefficient x) : Get2MagSign x ≤ 32766 := by
  obtain ⟨hlow, hhigh⟩ := h
  unfold Get2MagSign
  split <;> omega

theorem get2MagSign_eq_zero : Get2MagSign x = 0 ↔ x = 0 := by
  unfold Get2MagSign
  split <;> omega

theorem getIntFrom2MagSign_get2MagSign (h : Coefficient x) :
    GetIntFrom2MagSign (Get2MagSign x) = x := by
  obtain ⟨hlow, hhigh⟩ := h
  unfold GetIntFrom2MagSign
  rw [Nat.and_one_is_mod]
  by_cases hx : x ≥ 0
  · have hval : Get2MagSign x = 2 * x.toNat := by
      unfold Get2MagSign
      omega
    rw [hval, if_neg (by omega), Nat.shiftRight_eq_div_pow, sint16_of_range (by omega) (by omega)]
    omega
  · have hval : Get2MagSign x + 1 = 2 * (-x).toNat := by
      unfold Get2MagSign
      omega
    rw [if_pos (by omega), hval, Nat.mod_eq_of_lt (by omega), Nat.shiftRight_eq_div_pow,
      sint16_of_range (by omega) (by omega)]
    omega

theorem min_bits_loop.spec (turns v : Nat) (h : v < 2 ^ turns) :
    v < 2 ^ min_bits_loop turns v ∧ ∀ n, v < 2 ^ n → min_bits_loop turns v ≤ n := by
  induction turns generalizing v with
  | zero => exact ⟨h, fun n _ => Nat.zero_le n⟩
  | succ turns ih =>
    unfold min_bits_loop
    by_cases hv : v = 0
    · subst hv
      simp
    · obtain ⟨hlt, hle⟩ := ih (v >>> 1) (by
        omega)
      rw [Nat.shiftRight_eq_div_pow] at hlt hle
      rw [if_pos hv, Nat.shiftRight_eq_div_pow]
      refine ⟨by rw [Nat.pow_succ]; omega, fun n hn => ?_⟩
      cases n with
      | zero => simp only [Nat.pow_zero] at hn; omega
      | succ n =>
        have hsmall := hle n (by rw [Nat.pow_succ] at hn; omega)
        omega

theorem GetMinBits.spec {v : Nat} (h : v < 65536) : v < 2 ^ GetMinBits v ∧ GetMinBits v ≤ 16 := by
  obtain ⟨hlt, hle⟩ := min_bits_loop.spec 32 v (by omega)
  exact ⟨hlt, hle 16 h⟩

/-! ## The bits of the encoder -/

/-- The bits that a list of calls writes. -/
def bitsOf (calls : List Put) : List Bool := calls.flatMap fun call => toBits call.nbits call.bits

@[simp] theorem bitsOf_append (a b : List Put) : bitsOf (a ++ b) = bitsOf a ++ bitsOf b :=
  flatMap_append

@[simp] theorem bitsOf_OutputBits (n v : Nat) : bitsOf (OutputBits n v) = toBits n v :=
  flatMap_singleton ..

/-- A call never has more bits than a `uint16`. -/
def Narrow (calls : List Put) : Prop := ∀ call ∈ calls, call.nbits ≤ 16

theorem narrow_append {a b : List Put} (ha : Narrow a) (hb : Narrow b) : Narrow (a ++ b) := by
  intro call hcall
  rcases mem_append.mp hcall with h | h
  · exact ha call h
  · exact hb call h

theorem narrow_OutputBits (h : n ≤ 16) (v : Nat) : Narrow (OutputBits n v) := by
  intro call hcall
  rw [mem_singleton.mp hcall]
  exact h

theorem toBits_ones {w : Nat} (h : n ≤ w) : toBits n (2 ^ w - 1) = replicate n true := by
  apply ext_getElem
  · simp
  intro i hi _
  rw [length_toBits] at hi
  rw [getElem_toBits, Nat.testBit_two_pow_sub_one, getElem_replicate]
  exact decide_eq_true (by omega)

theorem toBits_zero (n : Nat) : toBits n 0 = replicate n false := by
  apply ext_getElem
  · simp
  intro i hi _
  rw [getElem_toBits, Nat.zero_testBit, getElem_replicate]

theorem output_bit_loop.spec (bit : Bool) (turns c : Nat) (h : c ≤ turns) :
    bitsOf (output_bit_loop turns (if bit then 0xFFFF else 0) c) = replicate c bit ∧
      Narrow (output_bit_loop turns (if bit then 0xFFFF else 0) c) := by
  have hword : ∀ n, n ≤ 16 → toBits n (if bit then 0xFFFF else 0) = replicate n bit := by
    intro n hn
    cases bit with
    | false => exact toBits_zero n
    | true => exact toBits_ones hn
  induction turns generalizing c with
  | zero =>
    obtain rfl := Nat.le_zero.mp h
    exact ⟨rfl, forall_mem_nil _⟩
  | succ turns ih =>
    unfold output_bit_loop
    by_cases hc : c > 0
    · obtain ⟨hbits, hnarrow⟩ := ih (c - 16) (by omega)
      have hn : (if c > 16 then 16 else c) ≤ 16 := by split <;> omega
      rw [if_pos hc]
      constructor
      · unfold bitsOf at hbits ⊢
        rw [flatMap_cons, hbits, hword _ hn, replicate_append_replicate]
        congr 1
        split <;> omega
      · exact forall_mem_cons.mpr ⟨hn, hnarrow⟩
    · obtain rfl : c = 0 := by omega
      exact ⟨rfl, forall_mem_nil _⟩

@[simp] theorem bitsOf_OutputBit (count : Nat) (bit : Bool) :
    bitsOf (OutputBit count bit) = replicate count bit :=
  (output_bit_loop.spec bit count count (Nat.le_refl _)).1

theorem narrow_OutputBit (count : Nat) (bit : Bool) : Narrow (OutputBit count bit) :=
  (output_bit_loop.spec bit count count (Nat.le_refl _)).2

/-- The bits of a code: the ones, a zero and the remainder. -/
def grBits (krp : Param) (val : Nat) : List Bool :=
  replicate (val >>> krp.k) true ++ (false :: toBits krp.k val)

theorem rfx_rlgr_code_gr.spec (krp : Param) (val : Nat) :
    bitsOf (rfx_rlgr_code_gr krp val).1 = grBits krp val ∧ Narrow (rfx_rlgr_code_gr krp val).1 := by
  have hk := krp.k_le
  unfold rfx_rlgr_code_gr grBits
  rw [← krp.shift]
  have hrest : bitsOf (if krp.k ≠ 0 then OutputBits krp.k (val &&& ((1 <<< krp.k) - 1)) else []) =
      toBits krp.k val := by
    split
    · rw [bitsOf_OutputBits, Nat.one_shiftLeft, Nat.and_two_pow_sub_one_eq_mod, toBits_mod]
    · rename_i hzero
      rw [of_not_not hzero]
      rfl
  constructor
  · rw [bitsOf_append, bitsOf_append, bitsOf_OutputBit, bitsOf_OutputBit, hrest]
    simp
  · refine narrow_append (narrow_append (narrow_OutputBit _ _) (narrow_OutputBit _ _)) ?_
    split
    · exact narrow_OutputBits (by omega) _
    · exact forall_mem_nil _

theorem code_gr_krp (krp : Param) (val : Nat) :
    (rfx_rlgr_code_gr krp val).2 = if val >>> krp.k = 0 then UpdateParam krp (-2)
      else if val >>> krp.k ≠ 1 then UpdateParam krp (val >>> krp.k : Nat) else krp := by
  unfold rfx_rlgr_code_gr
  dsimp only
  rw [← krp.shift]
  generalize val >>> krp.k = vk
  split
  · rfl
  · by_cases hone : vk = 1
    · rw [if_neg (by omega), if_neg (by omega)]
    · rw [if_pos (by omega), if_pos hone]

/-! ## The reads of the decoder -/

theorem GetBits.spec {x : List Bool} (h : d.bs.ahead = x ++ rest) (hlen : x.length ≤ 16) :
    ∃ bs, GetBits x.length d = (ofBits x, { d with bs }) ∧ bs.ahead = rest := by
  obtain ⟨bs, hget, hrest⟩ := rfx_bitstream_get_bits.spec h hlen
  refine ⟨bs, ?_, hrest⟩
  unfold GetBits
  rw [hget]

theorem GetBits.number {v : Nat} (h : d.bs.ahead = toBits n v ++ rest) (hn : n ≤ 16)
    (hv : v < 2 ^ n) :
    ∃ bs, GetBits n d = (v, { d with bs }) ∧ bs.ahead = rest := by
  obtain ⟨bs, hget, hrest⟩ := GetBits.spec h (by rw [length_toBits]; exact hn)
  refine ⟨bs, ?_, hrest⟩
  rwa [length_toBits, ofBits_toBits, Nat.mod_eq_of_lt hv] at hget

theorem GetBits.bit {bit : Bool} (h : d.bs.ahead = bit :: rest) :
    ∃ bs, GetBits 1 d = (bit.toNat, { d with bs }) ∧ bs.ahead = rest := by
  obtain ⟨bs, hget, hrest⟩ := GetBits.spec (x := [bit]) h (by simp)
  refine ⟨bs, ?_, hrest⟩
  rw [length_singleton] at hget
  rw [hget]
  simp [ofBits]

theorem leading_ones.spec (turns vk n : Nat) (d : Decoder) (rest : List Bool) (hturns : n < turns)
    (h : d.bs.ahead = replicate n true ++ (false :: rest)) :
    ∃ bs, leading_ones turns vk d = (vk + n, { d with bs }) ∧ bs.ahead = rest := by
  induction turns generalizing vk n d with
  | zero => omega
  | succ turns ih =>
    unfold leading_ones
    cases n with
    | zero =>
      obtain ⟨bs, hbit, hrest⟩ := GetBits.bit (d := d) h
      exact ⟨bs, by rw [hbit]; rfl, hrest⟩
    | succ n =>
      obtain ⟨bs, hbit, hrest⟩ := GetBits.bit (d := d) h
      obtain ⟨bs', hloop, hrest'⟩ := ih _ n { d with bs } (by omega) hrest
      refine ⟨bs', ?_, hrest'⟩
      rw [hbit]
      dsimp only
      rw [if_pos Bool.toNat_true, hloop, Nat.add_assoc, Nat.add_comm 1 n]

theorem GetGRCode.spec {val : Nat} (hval : val < 65536)
    (h : d.bs.ahead = grBits d.krp val ++ rest) :
    ∃ bs, GetGRCode d = (val, { d with bs, krp := (rfx_rlgr_code_gr d.krp val).2 }) ∧
      bs.ahead = rest := by
  have hk := d.krp.k_le
  unfold grBits at h
  rw [append_assoc, cons_append] at h
  have hlen := congrArg length h
  rw [length_ahead, length_append, length_replicate] at hlen
  obtain ⟨bs, hones, hrest⟩ := leading_ones.spec (rfx_bitstream_left d.bs + 1) 0 _
    d (toBits d.krp.k val ++ rest) (by omega) h
  rw [← toBits_mod] at hrest
  obtain ⟨bs', hget, hrest'⟩ := GetBits.number (d := { d with bs }) hrest (by omega)
    (Nat.mod_lt _ (Nat.two_pow_pos _))
  have hmag : (val % 2 ^ d.krp.k ||| (val >>> d.krp.k) <<< d.krp.k) % 65536 = val := by
    rw [Nat.or_comm, ← Nat.shiftLeft_add_eq_or_of_lt (Nat.mod_lt _ (Nat.two_pow_pos _)),
      Nat.shiftLeft_eq, Nat.shiftRight_eq_div_pow, Nat.div_add_mod', Nat.mod_eq_of_lt hval]
  refine ⟨bs', ?_, hrest'⟩
  unfold GetGRCode
  rw [hones]
  dsimp only
  rw [hget]
  rw [Nat.zero_add, hmag, code_gr_krp]
  split
  · rfl
  · split <;> rfl

/-! ## The writes of the decoder -/

theorem WriteZeroes.spec (h : n ≤ d.buffer_size) :
    WriteZeroes n d = { d with
      out := d.out ++ replicate n 0, buffer_size := d.buffer_size - n } := by
  unfold WriteZeroes
  rw [if_neg (by omega)]
  dsimp only
  rw [Int.toNat_natCast]
  by_cases hn : n = 0
  · subst hn
    simp
  · rw [if_pos (by omega)]

theorem WriteValue.spec {v : Int} (h : 0 < d.buffer_size) (hv : -32768 ≤ v) (hv' : v < 32768) :
    WriteValue v d = { d with out := d.out ++ [v], buffer_size := d.buffer_size - 1 } := by
  unfold WriteValue
  rw [if_pos h, sint16_of_range hv hv']

/-! ## Runs of zeros -/

theorem zero_runs.stop (turns : Nat) (h : d.bs.ahead = true :: rest) :
    ∃ bs, zero_runs (turns + 1) d = { d with bs } ∧ bs.ahead = rest := by
  obtain ⟨bs, hbit, hrest⟩ := GetBits.bit h
  have heos : ¬ rfx_bitstream_eos d.bs = true := by
    rw [rfx_bitstream_eos_iff, h]
    simp
  refine ⟨bs, ?_, hrest⟩
  unfold zero_runs
  rw [if_neg heos, hbit]
  exact if_pos (by decide)

theorem zero_runs.more (turns : Nat) (h : d.bs.ahead = false :: rest)
    (hroom : (2 ^ d.kp.k : Nat) ≤ d.buffer_size) :
    ∃ bs, zero_runs (turns + 1) d = zero_runs turns { d with
        bs, kp := UpdateParam d.kp UP_GR, buffer_size := d.buffer_size - (2 ^ d.kp.k : Nat)
        out := d.out ++ replicate (2 ^ d.kp.k) 0 } ∧
      bs.ahead = rest := by
  obtain ⟨bs, hbit, hrest⟩ := GetBits.bit h
  have heos : ¬ rfx_bitstream_eos d.bs = true := by
    rw [rfx_bitstream_eos_iff, h]
    simp
  have hwrite := WriteZeroes.spec (d := { d with bs }) hroom
  refine ⟨bs, ?_, hrest⟩
  rw [zero_runs, if_neg heos, hbit]
  dsimp only
  rw [if_neg (by decide), Nat.one_shiftLeft, hwrite]

theorem emit_zeros.spec (turns numZeros : Nat) (kp : Param) (hturns : numZeros ≤ turns) :
    ∃ calls left kp', emit_zeros turns numZeros kp = (calls, left, kp') ∧ left ≤ numZeros ∧
      left < 2 ^ kp'.k ∧ Narrow calls ∧
      ∀ (d : Decoder) rest turns', d.kp = kp → d.bs.ahead = bitsOf calls ++ (true :: rest) →
        numZeros ≤ d.buffer_size → (bitsOf calls).length < turns' →
        ∃ bs, zero_runs turns' d = { d with
            bs, kp := kp', buffer_size := d.buffer_size - (numZeros - left : Nat)
            out := d.out ++ replicate (numZeros - left) 0 } ∧
          bs.ahead = rest := by
  induction turns generalizing numZeros kp with
  | zero =>
    obtain rfl := Nat.le_zero.mp hturns
    refine ⟨[], 0, kp, rfl, Nat.le_refl _, Nat.two_pow_pos _,
      forall_mem_nil _, ?_⟩
    intro d rest turns' hkp hahead _ hturns'
    obtain ⟨turns', rfl⟩ : ∃ n, turns' = n + 1 := ⟨turns' - 1, by omega⟩
    obtain ⟨bs, hstop, hrest⟩ := zero_runs.stop turns' hahead
    exact ⟨bs, by rw [hstop, ← hkp]; simp, hrest⟩
  | succ turns ih =>
    unfold emit_zeros
    rw [Nat.one_shiftLeft]
    by_cases hrun : numZeros ≥ 2 ^ kp.k
    · have hpos := Nat.two_pow_pos kp.k
      obtain ⟨calls, left, kp', hemit, hle, hlt, hnarrow, hdecode⟩ :=
        ih (numZeros - 2 ^ kp.k) (UpdateParam kp UP_GR) (by omega)
      rw [if_pos hrun, hemit]
      refine ⟨_, left, kp', rfl, by omega, hlt, narrow_append (narrow_OutputBit _ _) hnarrow, ?_⟩
      intro d rest turns' hkp hahead hroom hturns'
      rw [bitsOf_append, bitsOf_OutputBit, length_append, length_replicate] at hturns'
      obtain ⟨turns', rfl⟩ : ∃ n, turns' = n + 1 := ⟨turns' - 1, by omega⟩
      subst hkp
      obtain ⟨bs, hmore, hrest⟩ := zero_runs.more turns' hahead (by omega)
      obtain ⟨bs', hruns, hrest'⟩ := hdecode { d with
        bs, kp := UpdateParam d.kp UP_GR, buffer_size := d.buffer_size - (2 ^ d.kp.k : Nat)
        out := d.out ++ replicate (2 ^ d.kp.k) 0 } rest turns' rfl hrest (by dsimp only; omega)
        (Nat.lt_of_succ_lt_succ (by rwa [Nat.add_comm] at hturns'))
      refine ⟨bs', ?_, hrest'⟩
      have hsize : d.buffer_size - (2 ^ d.kp.k : Nat) - (numZeros - 2 ^ d.kp.k - left : Nat) =
          d.buffer_size - (numZeros - left : Nat) := by omega
      have hzeros : 2 ^ d.kp.k + (numZeros - 2 ^ d.kp.k - left) = numZeros - left := by omega
      rw [hmore, hruns]
      rw [hsize, append_assoc, replicate_append_replicate, hzeros]
    · rw [if_neg hrun]
      refine ⟨[], numZeros, kp, rfl, Nat.le_refl _, Nat.lt_of_not_le hrun,
        forall_mem_nil _, ?_⟩
      intro d rest turns' hkp hahead _ hturns'
      obtain ⟨turns', rfl⟩ : ∃ n, turns' = n + 1 := ⟨turns' - 1, by omega⟩
      obtain ⟨bs, hstop, hrest⟩ := zero_runs.stop turns' hahead
      exact ⟨bs, by rw [hstop, ← hkp]; simp, hrest⟩

/-! ## Turns -/

theorem collect_zeros.spec (hsome : data ≠ []) :
    ∃ n x data', collect_zeros data = (n, x, data') ∧ (x = 0 → data' = []) ∧
      data = replicate n 0 ++ x :: data' := by
  induction data with
  | nil => exact absurd rfl hsome
  | cons x data ih =>
    unfold collect_zeros
    by_cases hzero : x = 0 ∧ data.length > 0
    · obtain ⟨n, y, data', hcollect, hy, hdata⟩ := ih (ne_nil_of_length_pos hzero.2)
      rw [if_pos hzero, hcollect]
      refine ⟨n + 1, y, data', rfl, hy, ?_⟩
      rw [hzero.1, hdata]
      rfl
    · rw [if_neg hzero]
      refine ⟨0, x, data, rfl, fun hx => ?_, rfl⟩
      exact length_eq_zero_iff.mp (Nat.eq_zero_of_not_pos fun hlen => hzero ⟨hx, hlen⟩)

/-- The decoder is at the same place as the encoder: the parameters are the same, and `bits` come
next in the stream. -/
structure InStep (e : Encoder) (d : Decoder) (bits : List Bool) (data : List Int) : Prop where
  kp : d.kp = e.kp
  krp : d.krp = e.krp
  ahead : d.bs.ahead = bits
  room : d.buffer_size ≤ data.length
  exact_room : data ≠ [] → d.buffer_size = data.length

/-- A turn of the encoder takes some inputs, and the turn of the decoder gives them back. -/
structure Answered (mode : RLGR_MODE) (e : Encoder) (data : List Int) (calls : List Put)
    (e' : Encoder) (data' : List Int) : Prop where
  narrow : Narrow calls
  some_bits : bitsOf calls ≠ []
  taken : ∃ a, a ≠ [] ∧ data = a ++ data' ∧ ∀ d rest, InStep e d (bitsOf calls ++ rest) data →
    InStep e' (decode_turn mode d) rest data' ∧ (decode_turn mode d).out = d.out ++ a

theorem run_end.spec {left : Nat} (hx : Coefficient x) (hnonzero : x ≠ 0)
    (hleft : left < 2 ^ d.kp.k) (hroom : left + 1 ≤ d.buffer_size)
    (h : d.bs.ahead = toBits d.kp.k left ++ (decide (x < 0) ::
      (grBits d.krp (x.natAbs - 1) ++ rest))) :
    ∃ bs, run_end d = { d with
        bs, kp := UpdateParam d.kp (-DN_GR), krp := (rfx_rlgr_code_gr d.krp (x.natAbs - 1)).2
        buffer_size := d.buffer_size - (left + 1 : Nat)
        out := d.out ++ (replicate left 0 ++ [x]) } ∧
      bs.ahead = rest := by
  obtain ⟨hlow, hhigh⟩ := hx
  have hk := d.kp.k_le
  obtain ⟨bs1, hrun, hahead1⟩ := GetBits.number h (by omega) hleft
  have hzeros := WriteZeroes.spec (d := { d with bs := bs1 }) (n := left) (by dsimp only; omega)
  obtain ⟨bs2, hsign, hahead2⟩ := GetBits.bit (d := { d with
    bs := bs1, out := d.out ++ replicate left 0, buffer_size := d.buffer_size - left }) hahead1
  obtain ⟨bs3, hcode, hahead3⟩ := GetGRCode.spec (d := { d with
    bs := bs2, out := d.out ++ replicate left 0, buffer_size := d.buffer_size - left })
    (by omega : x.natAbs - 1 < 65536) hahead2
  have hvalue : (if (decide (x < 0)).toNat ≠ 0 then -(((x.natAbs - 1 : Nat) : Int) + 1)
      else ((x.natAbs - 1 : Nat) : Int) + 1) = x := by
    by_cases hneg : x < 0
    · simp only [hneg, decide_true, Bool.toNat_true, ne_eq, one_ne_zero, not_false_eq_true,
        if_true]
      omega
    · simp only [hneg, decide_false, Bool.toNat_false, ne_eq, not_true, if_false]
      omega
  have hwrite := WriteValue.spec (v := x) (d := { d with
    bs := bs3, krp := (rfx_rlgr_code_gr d.krp (x.natAbs - 1)).2
    out := d.out ++ replicate left 0, buffer_size := d.buffer_size - left })
    (by dsimp only; omega) (by omega) (by omega)
  refine ⟨bs3, ?_, hahead3⟩
  unfold run_end
  rw [hrun]
  dsimp only
  rw [hzeros]
  rw [hsign]
  rw [hcode]
  rw [hvalue, hwrite]
  rw [append_assoc, Int.natCast_add, Int.sub_sub]
  rfl

variable (mode : RLGR_MODE)

theorem encode_run.answered (h : ∀ x ∈ data, Coefficient x) (hsome : data ≠ [])
    (hk : e.kp.k ≠ 0) (hvalue : (collect_zeros data).2.1 ≠ 0) :
    Answered mode e data (encode_run e data).1 (encode_run e data).2.1 (encode_run e data).2.2 := by
  obtain ⟨n, x, data', hcollect, -, hdata⟩ := collect_zeros.spec hsome
  have hx : x ≠ 0 := by
    rw [hcollect] at hvalue
    exact hvalue
  obtain ⟨zeros, left, kp, hemit, hle, hlt, hnarrow, hruns⟩ :=
    emit_zeros.spec n n e.kp (Nat.le_refl _)
  have hkp := kp.k_le
  have hmag : (if x < 0 then -x else x).toNat = x.natAbs := by split <;> omega
  have hcode := rfx_rlgr_code_gr.spec e.krp (x.natAbs - 1)
  have hturn : encode_run e data =
      (zeros ++ OutputBit 1 true ++ OutputBits kp.k left ++ OutputBit 1 (decide (x < 0)) ++
        (rfx_rlgr_code_gr e.krp (x.natAbs - 1)).1,
        ⟨UpdateParam kp (-DN_GR), (rfx_rlgr_code_gr e.krp (x.natAbs - 1)).2⟩, data') := by
    unfold encode_run
    rw [hcollect]
    dsimp only
    rw [hemit, hmag]
    rw [if_pos (Int.natAbs_ne_zero.mpr hx)]
  rw [hturn]
  refine ⟨?_, by simp, replicate n 0 ++ [x], by simp, by simpa using hdata, ?_⟩
  · exact narrow_append (narrow_append (narrow_append (narrow_append hnarrow
      (narrow_OutputBit _ _)) (narrow_OutputBits (by omega) _)) (narrow_OutputBit _ _)) hcode.2
  intro d rest hstep
  have hahead := hstep.ahead
  simp only [bitsOf_append, bitsOf_OutputBit, bitsOf_OutputBits, hcode.1, append_assoc,
    replicate_one, cons_append] at hahead
  have hroom := hstep.exact_room hsome
  have hlen := congrArg length hdata
  simp only [length_append, length_replicate, length_cons] at hlen
  have hbits := congrArg length hahead
  rw [length_ahead, length_append, length_cons] at hbits
  obtain ⟨bs1, hzeros, hahead1⟩ := hruns d _ (rfx_bitstream_left d.bs) hstep.kp hahead (by omega)
    (by omega)
  rw [← hstep.krp] at hahead1
  obtain ⟨bs2, hend, hahead2⟩ := run_end.spec (h x (by rw [hdata]; simp)) hx
    (d := { d with
      bs := bs1, kp, buffer_size := d.buffer_size - (n - left : Nat)
      out := d.out ++ replicate (n - left) 0 }) hlt (by dsimp only; omega) hahead1
  have hdecode : decode_turn mode d = { d with
      bs := bs2, kp := UpdateParam kp (-DN_GR)
      krp := (rfx_rlgr_code_gr d.krp (x.natAbs - 1)).2
      buffer_size := d.buffer_size - (n - left : Nat) - (left + 1 : Nat)
      out := d.out ++ replicate (n - left) 0 ++ (replicate left 0 ++ [x]) } := by
    unfold decode_turn decode_run
    rw [if_pos (by rw [hstep.kp]; exact hk), hzeros, hend]
  rw [hdecode]
  refine ⟨⟨rfl, by dsimp only; rw [hstep.krp], hahead2, ?_, fun _ => ?_⟩, ?_⟩
  · dsimp only
    omega
  · dsimp only
    omega
  · dsimp only
    rw [append_assoc, ← append_assoc (replicate _ _),
      replicate_append_replicate, Nat.sub_add_cancel hle]

theorem encode_value.answered (hx : Coefficient x) (hk : e.kp.k = 0) :
    Answered .RLGR1 e (x :: data) (encode_value e (x :: data)).1 (encode_value e (x :: data)).2.1
      (encode_value e (x :: data)).2.2 := by
  have hle := get2MagSign_le hx
  have hcode := rfx_rlgr_code_gr.spec e.krp (Get2MagSign x)
  refine ⟨hcode.2, ?_, [x], by simp, rfl, ?_⟩
  · show bitsOf (rfx_rlgr_code_gr e.krp (Get2MagSign x)).1 ≠ []
    rw [hcode.1]
    simp [grBits]
  intro d rest hstep
  have hahead : d.bs.ahead = grBits d.krp (Get2MagSign x) ++ rest := by
    rw [hstep.krp, ← hcode.1]
    exact hstep.ahead
  have hroom := hstep.exact_room (by simp)
  rw [length_cons] at hroom
  obtain ⟨bs, hgr, hrest⟩ := GetGRCode.spec (by omega) hahead
  obtain ⟨hlow, hhigh⟩ := hx
  have hwrite : ∀ v, v = x → WriteValue v { d with
      bs, krp := (rfx_rlgr_code_gr d.krp (Get2MagSign x)).2 } = { d with
      bs, krp := (rfx_rlgr_code_gr d.krp (Get2MagSign x)).2
      out := d.out ++ [x], buffer_size := d.buffer_size - 1 } := by
    intro v hv
    subst hv
    exact WriteValue.spec (by dsimp only; omega) (by omega) (by omega)
  have hdecode : decode_turn .RLGR1 d = { d with
      bs, krp := (rfx_rlgr_code_gr d.krp (Get2MagSign x)).2
      kp := if Get2MagSign x ≠ 0 then UpdateParam d.kp (-DQ_GR) else UpdateParam d.kp UQ_GR
      out := d.out ++ [x], buffer_size := d.buffer_size - 1 } := by
    unfold decode_turn
    rw [if_neg (by rw [hstep.kp, hk]; simp)]
    unfold decode_value
    rw [hgr]
    dsimp only
    by_cases hzero : Get2MagSign x = 0
    · rw [if_pos hzero, if_neg (not_not.mpr hzero), hwrite 0 (get2MagSign_eq_zero.mp hzero).symm]
    · rw [if_neg hzero, if_pos hzero, hwrite _ (getIntFrom2MagSign_get2MagSign ⟨hlow, hhigh⟩)]
  rw [hdecode]
  refine ⟨⟨?_, ?_, hrest, ?_, fun _ => ?_⟩, rfl⟩
  · dsimp only
    rw [hstep.kp]
    rfl
  · dsimp only
    rw [hstep.krp]
    rfl
  · show d.buffer_size - 1 ≤ data.length
    omega
  · show d.buffer_size - 1 = data.length
    omega

theorem decode_pair.spec {val1 val2 : Nat} (hsum : val1 + val2 < 65536)
    (h : d.bs.ahead = grBits d.krp (val1 + val2) ++
      (toBits (GetMinBits (val1 + val2)) val1 ++ rest)) :
    ∃ bs, decode_pair d = WriteValue (GetIntFrom2MagSign val2)
        (WriteValue (GetIntFrom2MagSign val1) { d with
          bs, kp := update_pair d.kp val1 val2
          krp := (rfx_rlgr_code_gr d.krp (val1 + val2)).2 }) ∧
      bs.ahead = rest := by
  obtain ⟨hlt, hbits⟩ := GetMinBits.spec hsum
  obtain ⟨bs1, hgr, hahead1⟩ := GetGRCode.spec hsum h
  obtain ⟨bs2, hget, hahead2⟩ := GetBits.number (d := { d with
    bs := bs1, krp := (rfx_rlgr_code_gr d.krp (val1 + val2)).2 }) hahead1 hbits (by omega)
  have hval2 : ((((val1 + val2 : Nat) : Int) - val1) % 4294967296).toNat = val2 := by omega
  refine ⟨bs2, ?_, hahead2⟩
  unfold decode_pair
  rw [hgr]
  dsimp only
  rw [hget]
  rw [hval2]

theorem encode_pair.answered (h : ∀ y ∈ x :: data, Coefficient y) (hk : e.kp.k = 0) :
    Answered .RLGR3 e (x :: data) (encode_pair e (x :: data)).1 (encode_pair e (x :: data)).2.1
      (encode_pair e (x :: data)).2.2 := by
  have hx := h x mem_cons_self
  -- The second value is 0 if there is none.
  have hy : Coefficient (GetNextInput data).1 := by
    cases data with
    | nil => exact ⟨by decide, by decide⟩
    | cons y data => exact h y (by simp)
  have hxle := get2MagSign_le hx
  have hyle := get2MagSign_le hy
  have hpair : encode_pair e (x :: data) =
      ((rfx_rlgr_code_gr e.krp (Get2MagSign x + Get2MagSign (GetNextInput data).1)).1 ++
        OutputBits (GetMinBits (Get2MagSign x + Get2MagSign (GetNextInput data).1))
          (Get2MagSign x),
        ⟨update_pair e.kp (Get2MagSign x) (Get2MagSign (GetNextInput data).1),
          (rfx_rlgr_code_gr e.krp (Get2MagSign x + Get2MagSign (GetNextInput data).1)).2⟩,
        (GetNextInput data).2) := rfl
  rw [hpair]
  generalize hval2 : Get2MagSign (GetNextInput data).1 = val2
  have hcode := rfx_rlgr_code_gr.spec e.krp (Get2MagSign x + val2)
  obtain ⟨_, hbits⟩ := GetMinBits.spec (by omega : Get2MagSign x + val2 < 65536)
  refine ⟨narrow_append hcode.2 (narrow_OutputBits hbits _), ?_, ?_⟩
  · rw [bitsOf_append, hcode.1]
    simp [grBits]
  -- The values that the decoder has read are written as far as there is room.
  have hdecode : ∀ (d : Decoder) rest, InStep e d (bitsOf
      ((rfx_rlgr_code_gr e.krp (Get2MagSign x + val2)).1 ++
        OutputBits (GetMinBits (Get2MagSign x + val2)) (Get2MagSign x)) ++ rest) (x :: data) →
      ∃ bs, decode_turn .RLGR3 d = WriteValue (GetNextInput data).1 { d with
          bs, kp := update_pair d.kp (Get2MagSign x) val2
          krp := (rfx_rlgr_code_gr d.krp (Get2MagSign x + val2)).2
          out := d.out ++ [x], buffer_size := d.buffer_size - 1 } ∧ bs.ahead = rest := by
    intro d rest hstep
    have hahead := hstep.ahead
    rw [bitsOf_append, hcode.1, bitsOf_OutputBits, append_assoc, ← hstep.krp] at hahead
    have hroom := hstep.exact_room (by simp)
    rw [length_cons] at hroom
    obtain ⟨bs, hread, hrest⟩ := decode_pair.spec (by omega) hahead
    have hwrite := WriteValue.spec (v := x) (d := { d with
      bs, kp := update_pair d.kp (Get2MagSign x) val2
      krp := (rfx_rlgr_code_gr d.krp (Get2MagSign x + val2)).2 }) (by dsimp only; omega)
      (by have := hx.1; omega) (by have := hx.2; omega)
    refine ⟨bs, ?_, hrest⟩
    unfold decode_turn
    rw [if_neg (by rw [hstep.kp, hk]; simp)]
    rw [hread, getIntFrom2MagSign_get2MagSign hx, hwrite, ← hval2,
      getIntFrom2MagSign_get2MagSign hy]
  cases data with
  | nil =>
    refine ⟨[x], by simp, rfl, fun d rest hstep => ?_⟩
    obtain ⟨bs, hturn, hrest⟩ := hdecode d rest hstep
    have hroom := hstep.exact_room (by simp)
    simp only [length_cons, length_nil] at hroom
    unfold WriteValue at hturn
    rw [if_neg (by dsimp only; omega)] at hturn
    rw [hturn]
    refine ⟨⟨?_, ?_, hrest, ?_, fun hne => absurd rfl hne⟩, rfl⟩
    · dsimp only
      rw [hstep.kp]
    · dsimp only
      rw [hstep.krp]
    · show d.buffer_size - 1 - 1 ≤ 0
      omega
  | cons y data =>
    refine ⟨[x, y], by simp, rfl, fun d rest hstep => ?_⟩
    obtain ⟨bs, hturn, hrest⟩ := hdecode d rest hstep
    have hroom := hstep.exact_room (by simp)
    simp only [length_cons] at hroom
    have hlow := hy.1
    have hhigh := hy.2
    rw [WriteValue.spec (by dsimp only; omega) (by omega) (by omega)] at hturn
    rw [hturn]
    refine ⟨⟨?_, ?_, hrest, ?_, fun _ => ?_⟩, append_assoc _ _ _⟩
    · dsimp only
      rw [hstep.kp]
    · dsimp only
      rw [hstep.krp]
    · show d.buffer_size - 1 - 1 ≤ data.length
      omega
    · show d.buffer_size - 1 - 1 = data.length
      omega

theorem encode_turn.answered (h : ∀ x ∈ data, Coefficient x) (hsome : data ≠ [])
    (hvalue : e.kp.k ≠ 0 → (collect_zeros data).2.1 ≠ 0) :
    Answered mode e data (encode_turn mode e data).1 (encode_turn mode e data).2.1
      (encode_turn mode e data).2.2 := by
  obtain ⟨x, data, rfl⟩ := exists_cons_of_ne_nil hsome
  unfold encode_turn
  by_cases hk : e.kp.k ≠ 0
  · rw [if_pos hk]
    exact encode_run.answered mode h hsome hk (hvalue hk)
  · rw [if_neg hk]
    cases mode with
    | RLGR1 => exact encode_value.answered (h x mem_cons_self) (of_not_not hk)
    | RLGR3 => exact encode_pair.answered h (of_not_not hk)

/-! ## Whole lists -/

/-- What the inputs of a turn make of `kp`, and the inputs that are left. -/
def kpTurn (mode : RLGR_MODE) (kp : Param) (data : List Int) : Param × List Int :=
  if kp.k ≠ 0 then
    let (n, _, data) := collect_zeros data
    (UpdateParam (emit_zeros n n kp).2.2 (-DN_GR), data)
  else
    let (x, data) := GetNextInput data
    match mode with
    | .RLGR1 => (if x ≠ 0 then UpdateParam kp (-DQ_GR) else UpdateParam kp UQ_GR, data)
    | .RLGR3 =>
      let (y, data) := GetNextInput data
      (update_pair kp x.natAbs y.natAbs, data)

/-- The last input is taken in run-length mode. -/
def endsInRun (mode : RLGR_MODE) : Nat → Param → List Int → Bool
  | 0, _, _ => false
  | turns + 1, kp, data =>
    let (kp', data') := kpTurn mode kp data
    if data' = [] then kp.k ≠ 0 else endsInRun mode turns kp' data'

theorem kpTurn_eq (e : Encoder) (data : List Int) :
    kpTurn mode e.kp data = ((encode_turn mode e data).2.1.kp, (encode_turn mode e data).2.2) := by
  unfold kpTurn encode_turn
  by_cases hk : e.kp.k ≠ 0
  · rw [if_pos hk, if_pos hk]
    rfl
  · rw [if_neg hk, if_neg hk]
    cases mode with
    | RLGR1 => simp [encode_value, get2MagSign_eq_zero]
    | RLGR3 => simp [encode_pair, update_pair, get2MagSign_eq_zero]

/-- The inputs of the coder: each is a coefficient, and a 0 at the end is not taken in run-length
mode. -/
structure Codable (mode : RLGR_MODE) (turns : Nat) (kp : Param) (data : List Int) : Prop where
  coefficient : ∀ x ∈ data, Coefficient x
  last : data.getLast? = some 0 → endsInRun mode turns kp data = false

section

variable {mode : RLGR_MODE} {turns : Nat} {e : Encoder} {data : List Int}

theorem endsInRun_succ : endsInRun mode (turns + 1) e.kp data =
    if (encode_turn mode e data).2.2 = [] then decide (e.kp.k ≠ 0)
    else endsInRun mode turns (encode_turn mode e data).2.1.kp (encode_turn mode e data).2.2 := by
  rw [endsInRun, kpTurn_eq]

theorem Codable.answered (h : Codable mode (turns + 1) e.kp data) (hsome : data ≠ []) :
    Answered mode e data (encode_turn mode e data).1 (encode_turn mode e data).2.1
      (encode_turn mode e data).2.2 := by
  refine encode_turn.answered mode h.coefficient hsome fun hk hzero => ?_
  obtain ⟨n, x, data', hcollect, hlast, hdata⟩ := collect_zeros.spec hsome
  rw [hcollect] at hzero
  obtain rfl := hlast hzero
  have hend := h.last (by rw [hdata, List.getLast?_append]; exact congrArg some hzero)
  unfold endsInRun kpTurn at hend
  rw [if_pos hk, hcollect] at hend
  simp [hk] at hend

theorem Codable.behind {a : List Int} (h : Codable mode (turns + 1) e.kp data)
    (hdata : data = a ++ (encode_turn mode e data).2.2) :
    Codable mode turns (encode_turn mode e data).2.1.kp (encode_turn mode e data).2.2 := by
  refine ⟨fun x hx => h.coefficient x (by rw [hdata]; exact mem_append_right a hx), ?_⟩
  intro hlast
  have hend := h.last (by rw [hdata, List.getLast?_append, hlast]; rfl)
  have hmore : (encode_turn mode e data).2.2 ≠ [] := fun hnil => by rw [hnil] at hlast; cases hlast
  rwa [endsInRun_succ, if_neg hmore] at hend

end

theorem encode_loop.narrow (turns : Nat) (e : Encoder) (data : List Int)
    (h : Codable mode turns e.kp data) : Narrow (encode_loop mode turns e data) := by
  induction turns generalizing e data with
  | zero => exact forall_mem_nil _
  | succ turns ih =>
    unfold encode_loop
    by_cases hsome : data.length > 0
    · have hturn := h.answered (ne_nil_of_length_pos hsome)
      obtain ⟨a, _, hdata, _⟩ := hturn.taken
      rw [if_pos hsome]
      exact narrow_append hturn.narrow (ih _ _ (h.behind hdata))
    · rw [if_neg hsome]
      exact forall_mem_nil _

theorem decode_loop.spec (turns turns' : Nat) (e : Encoder) (data : List Int)
    (d : Decoder) (rest : List Bool) (h : Codable mode turns e.kp data)
    (hturns : data.length ≤ turns)
    (hstep : InStep e d (bitsOf (encode_loop mode turns e data) ++ rest) data)
    (hturns' : (bitsOf (encode_loop mode turns e data)).length < turns') :
    ∃ d', decode_loop mode turns' d = some d' ∧ d'.out = d.out ++ data := by
  obtain ⟨turns', rfl⟩ : ∃ n, turns' = n + 1 := ⟨turns' - 1, by omega⟩
  induction turns generalizing turns' e data d with
  | zero =>
    obtain rfl := length_eq_zero_iff.mp (Nat.le_zero.mp hturns)
    have hroom := hstep.room
    unfold decode_loop
    rw [if_neg (by omega)]
    exact ⟨d, rfl, (append_nil _).symm⟩
  | succ turns ih =>
    by_cases hsome : data.length > 0
    · have hne := ne_nil_of_length_pos hsome
      have hturn := h.answered hne
      obtain ⟨a, ha, hdata, hdecode⟩ := hturn.taken
      have hbits := length_pos_of_ne_nil hturn.some_bits
      have hlen := congrArg length hdata
      have halen := length_pos_of_ne_nil ha
      rw [length_append] at hlen
      unfold encode_loop at hstep hturns'
      rw [if_pos hsome] at hstep hturns'
      rw [bitsOf_append, append_assoc] at hstep
      rw [bitsOf_append, length_append] at hturns'
      obtain ⟨hnext, hout⟩ := hdecode d _ hstep
      have hroom := hstep.exact_room hne
      have heos : rfx_bitstream_eos d.bs = false := by
        rw [← Bool.not_eq_true, rfx_bitstream_eos_iff, hstep.ahead]
        intro hnil
        exact hturn.some_bits (append_eq_nil_iff.mp hnil).1
      obtain ⟨turns', rfl⟩ : ∃ n, turns' = n + 1 := ⟨turns' - 1, by omega⟩
      have hshorter : (encode_turn mode e data).2.2.length ≤ turns := by omega
      have hfewer := Nat.lt_of_lt_of_le (Nat.lt_add_of_pos_left hbits) (Nat.le_of_lt_succ hturns')
      obtain ⟨d', hloop, hout'⟩ := ih _ _ _ (h.behind hdata) hshorter hnext turns' hfewer
      refine ⟨d', ?_, ?_⟩
      · rw [decode_loop, if_pos ⟨heos, by omega⟩]
        exact hloop
      · rw [hout', hout, append_assoc, ← hdata]
    · obtain rfl := length_eq_zero_iff.mp (Nat.eq_zero_of_not_pos hsome)
      have hroom := hstep.room
      unfold decode_loop
      rw [if_neg (by omega)]
      exact ⟨d, rfl, (append_nil _).symm⟩

theorem put_all.spec {calls : List Put} (hnarrow : Narrow calls) (bs : RFX_BITSTREAM)
    (x : List Bool) (h : Written bs x) (hroom : DropsNoBit bs calls) :
    Written (put_all bs calls) (x ++ bitsOf calls) := by
  induction calls generalizing bs x with
  | nil => simpa [put_all, bitsOf] using h
  | cons call calls ih =>
    obtain ⟨hfits, hrest⟩ := hroom
    have hput : Written (rfx_bitstream_put_bits bs call.bits call.nbits) _ :=
      (rfx_bitstream_put_bits.spec h hfits (hnarrow call mem_cons_self)).1
    have hnext := ih (forall_mem_cons.mp hnarrow).2 _ _ hput hrest
    rw [append_assoc] at hnext
    exact hnext

theorem processed_bytes {bs : RFX_BITSTREAM} {x : List Bool} (h : Written bs x) :
    ∃ pad, unpack (bs.buffer.take (rfx_bitstream_get_processed_bytes bs)) = x ++ pad := by
  have hpos := h.1
  have hle : x.length ≤ 8 * rfx_bitstream_get_processed_bytes bs := by
    unfold RFX_BITSTREAM.pos at hpos
    unfold rfx_bitstream_get_processed_bytes
    split <;> omega
  refine ⟨((unpack bs.buffer).take (8 * rfx_bitstream_get_processed_bytes bs)).drop x.length, ?_⟩
  have hx : ((unpack bs.buffer).take (8 * rfx_bitstream_get_processed_bytes bs)).take x.length =
      x := by
    rw [take_take, Nat.min_eq_left hle, h.2]
  rw [unpack_take]
  conv_lhs => rw [← take_append_drop x.length
    ((unpack bs.buffer).take (8 * rfx_bitstream_get_processed_bytes bs)), hx]

theorem Codable.round_trip {mode : RLGR_MODE} {data : List Int} {buffer : List UInt8}
    (hdata : Codable mode data.length param_start data)
    (hroom : DropsNoBit (rfx_bitstream_attach buffer) (encode_calls mode data)) :
    rfx_rlgr_decode mode
        ((rfx_rlgr_encode mode data buffer).2.take (rfx_rlgr_encode mode data buffer).1)
        data.length =
      some (data.length, data) := by
  have hwritten := put_all.spec (encode_loop.narrow mode data.length _ data hdata)
    (rfx_bitstream_attach buffer) [] (written_attach buffer) hroom
  obtain ⟨pad, hpad⟩ : ∃ pad, unpack
      ((rfx_rlgr_encode mode data buffer).2.take (rfx_rlgr_encode mode data buffer).1) =
      bitsOf (encode_calls mode data) ++ pad := processed_bytes hwritten
  have hlength := congrArg length hpad
  rw [length_unpack, length_append] at hlength
  obtain ⟨d, hloop, hout⟩ := decode_loop.spec mode data.length _ ⟨param_start, param_start⟩ data
    { bs := rfx_bitstream_attach
        ((rfx_rlgr_encode mode data buffer).2.take (rfx_rlgr_encode mode data buffer).1)
      kp := param_start, krp := param_start, buffer_size := data.length, out := [] } pad hdata
    (Nat.le_refl _) ⟨rfl, rfl, hpad, Int.le_refl _, fun _ => rfl⟩
    (Nat.lt_succ_of_le (hlength ▸ Nat.le_add_right _ _))
  unfold rfx_rlgr_decode
  dsimp only
  rw [hloop, Option.map_some, hout, nil_append]

/-- For both modes, every list of coefficients that does not end with 0, and every buffer with
room for all bits: the decoder gives back as many values as there were, and the same ones. -/
theorem rlgr_round_trip (mode : RLGR_MODE) (data : List Int) (buffer : List UInt8)
    (hcoefficients : ∀ x ∈ data, -16383 ≤ x ∧ x ≤ 16383) (hsome : data ≠ [])
    (hlast : data.getLast hsome ≠ 0)
    (hroom : DropsNoBit (rfx_bitstream_attach buffer) (encode_calls mode data)) :
    rfx_rlgr_decode mode
        ((rfx_rlgr_encode mode data buffer).2.take (rfx_rlgr_encode mode data buffer).1)
        data.length =
      some (data.length, data) := by
  refine Codable.round_trip ⟨hcoefficients, fun hzero => ?_⟩ hroom
  rw [List.getLast?_eq_some_getLast hsome] at hzero
  exact absurd (Option.some.inj hzero) hlast

theorem five_coefficients_round_trip : rfx_rlgr_decode .RLGR3
    ((rfx_rlgr_encode .RLGR3 [0, 0, 5, -1, 3] (replicate 8 0)).2.take
      (rfx_rlgr_encode .RLGR3 [0, 0, 5, -1, 3] (replicate 8 0)).1) 5 =
    some (5, [0, 0, 5, -1, 3]) :=
  rlgr_round_trip .RLGR3 [0, 0, 5, -1, 3] (replicate 8 0) (by decide) (by decide) (by decide)
    (by decide)

/-! ## Zeros at the end

In run-length mode a 0 at the end has the code of a 1: the sign, and the magnitude less one. -/

theorem collect_zeros_append (init : List Int) :
    (∃ n x init', ∀ a, collect_zeros (init ++ [a]) = (n, x, init' ++ [a])) ∨
    (∀ a, collect_zeros (init ++ [a]) = (init.length, a, [])) := by
  induction init with
  | nil =>
    refine .inr fun a => ?_
    simp [collect_zeros]
  | cons x init ih =>
    simp only [cons_append, collect_zeros, length_append, length_singleton, Nat.succ_pos, and_true]
    by_cases hx : x = 0
    · simp only [if_pos hx]
      rcases ih with ⟨n, y, init', hall⟩ | hall
      · exact .inl ⟨n + 1, y, init', fun a => by rw [hall]⟩
      · exact .inr fun a => by rw [hall]; rfl
    · simp only [if_neg hx]
      exact .inl ⟨0, x, init, fun a => rfl⟩

theorem encode_run_last (e : Encoder) {data : List Int} {n : Nat} {data' : List Int}
    {data1 : List Int} (h : collect_zeros data = (n, 0, data'))
    (h1 : collect_zeros data1 = (n, 1, data')) : encode_run e data = encode_run e data1 := by
  unfold encode_run
  rw [h, h1]
  rfl

theorem encode_turn_append (e : Encoder) (init : List Int) :
    (∃ calls e' init', ∀ a, encode_turn mode e (init ++ [a]) = (calls, e', init' ++ [a])) ∨
    ((∀ a, (encode_turn mode e (init ++ [a])).2.2 = []) ∧ (e.kp.k ≠ 0 →
      encode_turn mode e (init ++ [0]) = encode_turn mode e (init ++ [1]))) := by
  unfold encode_turn
  by_cases hk : e.kp.k ≠ 0
  · simp only [if_pos hk]
    rcases collect_zeros_append init with ⟨n, x, init', hall⟩ | hall
    · exact .inl ⟨_, _, init', fun a => by rw [encode_run, hall]⟩
    · refine .inr ⟨fun a => by rw [encode_run, hall], fun _ => ?_⟩
      exact encode_run_last e (hall 0) (hall 1)
  · simp only [if_neg hk]
    cases mode with
    | RLGR1 =>
      cases init with
      | nil => exact .inr ⟨fun a => rfl, fun h => absurd h hk⟩
      | cons x init => exact .inl ⟨_, _, init, fun a => rfl⟩
    | RLGR3 =>
      match init with
      | [] => exact .inr ⟨fun a => rfl, fun h => absurd h hk⟩
      | [x] => exact .inr ⟨fun a => rfl, fun h => absurd h hk⟩
      | x :: y :: init => exact .inl ⟨_, _, init, fun a => rfl⟩

theorem encode_loop_last {mode : RLGR_MODE} (turns : Nat) (e : Encoder) (init : List Int)
    (h : endsInRun mode turns e.kp (init ++ [0]) = true) :
    encode_loop mode turns e (init ++ [0]) = encode_loop mode turns e (init ++ [1]) := by
  induction turns generalizing e init with
  | zero => rfl
  | succ turns ih =>
    rw [endsInRun_succ] at h
    rw [encode_loop, encode_loop, if_pos (by simp), if_pos (by simp)]
    rcases encode_turn_append mode e init with ⟨calls, e', init', hall⟩ | ⟨hlast, hsame⟩
    · rw [hall, if_neg (append_ne_nil_of_right_ne_nil _ (cons_ne_nil _ _))] at h
      rw [hall, hall]
      exact congrArg _ (ih e' init' h)
    · rw [hlast, if_pos rfl] at h
      rw [hsame (of_decide_eq_true h)]

/-- A list of coefficients that ends with 0 comes back exactly if its end is not taken in
run-length mode. -/
theorem trailing_zeros_come_back_iff (mode : RLGR_MODE) (data : List Int) (buffer : List UInt8)
    (hcoefficients : ∀ x ∈ data, -16383 ≤ x ∧ x ≤ 16383) (hsome : data ≠ [])
    (hlast : data.getLast hsome = 0)
    (hroom : DropsNoBit (rfx_bitstream_attach buffer) (encode_calls mode data)) :
    rfx_rlgr_decode mode
        ((rfx_rlgr_encode mode data buffer).2.take (rfx_rlgr_encode mode data buffer).1)
        data.length = some (data.length, data) ↔
      endsInRun mode data.length param_start data = false := by
  refine ⟨fun hback => ?_, fun hend => Codable.round_trip ⟨hcoefficients, fun _ => hend⟩ hroom⟩
  rw [← Bool.not_eq_true]
  intro hrun
  obtain ⟨init, rfl⟩ : ∃ init, data = init ++ [0] :=
    ⟨data.dropLast, by rw [← hlast, dropLast_append_getLast]⟩
  -- The code is the one of the list with a 1 at the end.
  have hlen : (init ++ [0]).length = (init ++ [1]).length := by simp
  have hcalls : encode_calls mode (init ++ [0]) = encode_calls mode (init ++ [1]) := by
    unfold encode_calls
    rw [encode_loop_last _ ⟨param_start, param_start⟩ init hrun, hlen]
  have hone : Codable mode (init ++ [1]).length param_start (init ++ [1]) := by
    refine ⟨fun x hx => ?_, fun hzero => by simp at hzero⟩
    rcases mem_append.mp hx with hx | hx
    · exact hcoefficients x (mem_append_left _ hx)
    · rw [mem_singleton.mp hx]
      exact ⟨by decide, by decide⟩
  rw [hcalls] at hroom
  have hback' := hone.round_trip hroom
  have hcode : rfx_rlgr_encode mode (init ++ [0]) buffer =
      rfx_rlgr_encode mode (init ++ [1]) buffer := by
    rw [rfx_rlgr_encode, rfx_rlgr_encode, hcalls]
  rw [hcode, hlen, hback'] at hback
  simp at hback

theorem zero_behind_five_comes_back : rfx_rlgr_decode .RLGR1
    ((rfx_rlgr_encode .RLGR1 [5, 0] (replicate 4 0)).2.take
      (rfx_rlgr_encode .RLGR1 [5, 0] (replicate 4 0)).1) 2 = some (2, [5, 0]) :=
  (trailing_zeros_come_back_iff .RLGR1 [5, 0] (replicate 4 0) (by decide) (by decide)
    (by decide) (by decide)).mpr (by decide)

/-- A single 0 comes back as 1. -/
theorem single_zero_comes_back_as_one : rfx_rlgr_decode .RLGR1
    ((rfx_rlgr_encode .RLGR1 [0] [0]).2.take (rfx_rlgr_encode .RLGR1 [0] [0]).1) 1 =
      some (1, [1]) := by
  decide

end neutrinordp.rfx
