-- RDP 5.0 decompression is the inverse of the bit codes: for every list of tokens, the
-- packed codes come out of `decompress_rdp_5` as the LZ77 expansion of the tokens.
import CorporateClient.Lib.Bits
import CorporateClient.Lib.Lz77
import CorporateClient.Mppc

open List bytes bits lz77

namespace neutrinordp.mppc

/-! ## The register as a string of bits -/

/-- The bits `x` are in the register and the bits `y` in the current byte. -/
structure Reads (b : Bits) (x y : List Bool) : Prop where
  word : b.d32 = aligned 32 x
  left : b.bits_left = x.length
  word_le : x.length ≤ 32
  byte : b.cur_byte / 2 ^ (8 - y.length) = ofBits y
  byte_lt : b.cur_byte < 256
  cur : b.cur_bits_left = y.length
  byte_le : y.length ≤ 8

/-- The bits of a packet that are still to be read are `view`, and at least the first
`n` of them are in the register. -/
def Holds (b : Bits) (n : Nat) (view : List Bool) : Prop :=
  ∃ x y, Reads b x y ∧ view = x ++ y ++ unpack b.cptr ∧ n ≤ x.length

variable {b : Bits} {n d32 cur_byte v k : Nat} {rest x view y code : List Bool}

theorem Holds.mono {m : Nat} (h : Holds b n view) (hm : m ≤ n) : Holds b m view := by
  obtain ⟨x, y, hr, hv, hn⟩ := h
  exact ⟨x, y, hr, hv, hm.trans hn⟩

theorem Holds.lt (h : Holds b n view) : b.d32 < 2 ^ 32 := by
  obtain ⟨x, y, hr, -, -⟩ := h
  rw [hr.word]
  exact aligned_lt hr.word_le

theorem Holds.le_bits_left (h : Holds b n view) : (n : Int) ≤ b.bits_left := by
  obtain ⟨x, y, hr, -, hn⟩ := h
  rw [hr.left]
  exact Int.ofNat_le.mpr hn

theorem Holds.bits_left_le (h : Holds b n view) : b.bits_left ≤ view.length := by
  obtain ⟨x, y, hr, hv, -⟩ := h
  rw [hr.left, hv, length_append, length_append]
  omega

theorem Holds.split (h : Holds b n (code ++ rest)) (hn : code.length ≤ n) :
    ∃ x y, Reads b (code ++ x) y ∧ rest = x ++ y ++ unpack b.cptr ∧ n ≤ (code ++ x).length := by
  obtain ⟨x, y, hr, hv, hx⟩ := h
  have hcode : x = code ++ x.drop code.length := by
    have htake : x.take code.length = code := by
      have := congrArg (List.take code.length) hv
      rw [take_left, append_assoc, take_append_of_le_length (by omega)] at this
      exact this.symm
    rw [← take_append_drop code.length x, htake]
    simp
  refine ⟨x.drop code.length, y, by rw [← hcode]; exact hr, ?_, by rw [← hcode]; exact hx⟩
  rw [hcode, append_assoc, append_assoc] at hv
  have := append_cancel_left hv
  rw [this, append_assoc]

theorem Holds.peek (h : Holds b n (code ++ rest)) (hn : code.length ≤ n) :
    b.d32 / 2 ^ (32 - code.length) = ofBits code := by
  obtain ⟨x, y, hr, -, -⟩ := h.split hn
  have hle := hr.word_le
  rw [length_append] at hle
  rw [hr.word, aligned_div hle]

theorem Holds.skip (h : Holds b n (code ++ rest)) (hn : code.length ≤ n) :
    Holds (b.skip code.length) (n - code.length) rest := by
  obtain ⟨x, y, hr, hv, hx⟩ := h.split hn
  have hle := hr.word_le
  have hleft := hr.left
  rw [length_append] at hle hx hleft
  refine ⟨x, y, ⟨?_, ?_, by omega, hr.byte, hr.byte_lt, hr.cur, hr.byte_le⟩, hv, by omega⟩
  · have hshift := aligned_shift hle
    rw [← hr.word] at hshift
    exact hshift
  · simp only [Bits.skip, hleft]
    omega

/-! ## More bits -/

theorem fetch.spec (cptr : Bytes) (hword : d32 = aligned 32 x) (hle : x.length ≤ 32)
    (hlt : cur_byte < 256) :
    Holds (fetch d32 x.length cur_byte cptr) x.length (x ++ unpack cptr) := by
  cases cptr with
  | nil =>
    refine ⟨x, [], ⟨hword, rfl, hle, ?_, hlt, rfl, Nat.zero_le _⟩, by simp [fetch], Nat.le_refl _⟩
    exact Nat.div_eq_of_lt hlt
  | cons byte cptr =>
    refine ⟨x, byteBits byte, ⟨hword, rfl, hle, ?_, byte.toNat_lt, ?_, ?_⟩, ?_, Nat.le_refl _⟩
    · rw [length_byteBits, ofBits_byteBits]
      exact Nat.div_one _
    · rw [length_byteBits]
      rfl
    · rw [length_byteBits]
    · simp [fetch, append_assoc]

theorem byte_front {y1 y2 : List Bool} (hy : (y1 ++ y2).length ≤ 8)
    (h : cur_byte / 2 ^ (8 - (y1 ++ y2).length) = ofBits (y1 ++ y2)) :
    cur_byte / 2 ^ (8 - y1.length) = ofBits y1 := by
  rw [length_append] at h hy
  have hpow : 2 ^ (8 - y1.length) = 2 ^ (8 - (y1.length + y2.length)) * 2 ^ y2.length := by
    rw [← Nat.pow_add]
    congr 1
    omega
  rw [hpow, ← Nat.div_div_eq_div_mul, h, ofBits_append, Nat.add_comm,
    Nat.add_mul_div_right _ _ (Nat.two_pow_pos _), Nat.div_eq_of_lt (ofBits_lt y2), Nat.zero_add]

theorem byte_back {y1 y2 : List Bool} (hy : (y1 ++ y2).length ≤ 8)
    (h : cur_byte / 2 ^ (8 - (y1 ++ y2).length) = ofBits (y1 ++ y2)) :
    (cur_byte <<< y1.length) % 256 / 2 ^ (8 - y2.length) = ofBits y2 := by
  rw [length_append] at h hy
  have hbyte : 256 = 2 ^ (8 - y2.length) * 2 ^ y2.length := by
    rw [← Nat.pow_add, Nat.sub_add_cancel (by omega)]
  have hpow : 2 ^ (8 - y2.length) = 2 ^ (8 - (y1.length + y2.length)) * 2 ^ y1.length := by
    rw [← Nat.pow_add]
    congr 1
    omega
  rw [hbyte, Nat.mod_mul_right_div_self, hpow, Nat.shiftLeft_eq,
    Nat.mul_div_mul_right _ _ (Nat.two_pow_pos _), h, ofBits_append, Nat.add_comm,
    Nat.add_mul_mod_self_right, Nat.mod_eq_of_lt (ofBits_lt y2)]

theorem word_append (hword : d32 = aligned 32 x) (hv : v = ofBits y)
    (hle : x.length + y.length ≤ 32) :
    d32 ||| shl32 v (32 - x.length - y.length) = aligned 32 (x ++ y) := by
  have hlt : ofBits y <<< (32 - x.length - y.length) < 4294967296 := by
    have hpow : 4294967296 = 2 ^ (x.length + (y.length + (32 - x.length - y.length))) := by
      rw [← Nat.add_assoc, Nat.sub_sub, Nat.add_sub_cancel' hle]
      rfl
    rw [Nat.shiftLeft_eq, hpow, Nat.pow_add, Nat.pow_add]
    calc ofBits y * 2 ^ (32 - x.length - y.length)
        < 2 ^ y.length * 2 ^ (32 - x.length - y.length) :=
          Nat.mul_lt_mul_of_pos_right (ofBits_lt y) (Nat.two_pow_pos _)
      _ ≤ 2 ^ x.length * (2 ^ y.length * 2 ^ (32 - x.length - y.length)) :=
          Nat.le_mul_of_pos_left _ (Nat.two_pow_pos _)
  rw [hword, hv, shl32, Nat.mod_eq_of_lt hlt, aligned_or hle]

theorem refill_enough (cptr : Bytes) (hword : d32 = aligned 32 x) (hle : x.length ≤ 32)
    (hbyte : cur_byte / 2 ^ (8 - y.length) = ofBits y) (hlt : cur_byte < 256) (hy : y.length ≤ 8)
    (henough : 32 - x.length ≤ y.length) :
    Holds (refill_loop d32 x.length cur_byte y.length (32 - x.length) cptr) 32
      (x ++ y ++ unpack cptr) := by
  unfold refill_loop
  by_cases hfull : x.length = 32
  · rw [if_pos (by omega)]
    exact ⟨x, y, ⟨hword, rfl, hle, hbyte, hlt, rfl, hy⟩, rfl, by omega⟩
  · -- The bits that are missing are the front of `y`.
    obtain ⟨y1, y2, hsplit, hlen⟩ : ∃ y1 y2, y = y1 ++ y2 ∧ y1.length = 32 - x.length :=
      ⟨y.take (32 - x.length), y.drop (32 - x.length), (take_append_drop _ _).symm,
        length_take_of_le henough⟩
    have htmp : (8 - (32 - (x.length : Int))).toNat = 8 - y1.length := by omega
    have htmp' : (32 - (x.length : Int)).toNat = y1.length := by omega
    have hy' : y1.length + y2.length ≤ 8 := by rw [hsplit, length_append] at hy; exact hy
    rw [if_neg (by omega), if_neg (by omega), htmp, htmp']
    rw [hsplit] at hy hbyte
    have hshl : shl32 (ofBits y1) (32 - x.length - y1.length) = ofBits y1 := by
      have hsmall := ofBits_lt y1
      have hpow : 2 ^ y1.length ≤ 2 ^ 8 := Nat.pow_le_pow_right (by omega) (by omega)
      rw [hlen, Nat.sub_self, shl32, Nat.shiftLeft_zero]
      exact Nat.mod_eq_of_lt (by omega)
    have hnew : d32 ||| cur_byte >>> (8 - y1.length) = aligned 32 (x ++ y1) := by
      have happend := word_append hword rfl (show x.length + y1.length ≤ 32 by omega)
      rw [hshl] at happend
      rw [Nat.shiftRight_eq_div_pow, byte_front hy hbyte, happend]
    have hlen1 : (x ++ y1).length = 32 := by rw [length_append]; omega
    by_cases hmore : (y.length : Int) > 32 - x.length
    · rw [if_pos hmore]
      refine ⟨x ++ y1, y2, ⟨hnew, by simp [hlen1], by omega, byte_back hy hbyte,
        Nat.mod_lt _ (by omega), ?_, by omega⟩, by simp [hsplit], by omega⟩
      simp [hsplit]
    · have hnil : y2 = [] := by
        rw [hsplit, length_append] at hmore
        exact length_eq_zero_iff.mp (by omega)
      rw [if_neg hmore]
      have hfetch := fetch.spec cptr hnew (by omega) hlt
      rw [hlen1] at hfetch
      rw [hsplit, hnil, append_nil]
      exact hfetch

theorem refill_loop_short (d32 cur_byte : Nat) (cptr : Bytes)
    (hshort : ¬ 32 - x.length ≤ y.length) :
    refill_loop d32 x.length cur_byte y.length (32 - x.length) cptr =
      match cptr with
      | byte :: cptr =>
        refill_loop (d32 ||| shl32 (cur_byte / 2 ^ (8 - y.length)) (32 - x.length - y.length))
          (x ++ y).length byte.toNat 8 (32 - (x ++ y).length) cptr
      | [] =>
        { d32 := d32 ||| shl32 (cur_byte / 2 ^ (8 - y.length)) (32 - x.length - y.length)
          bits_left := (x ++ y).length, cur_byte, cur_bits_left := 0, cptr := [] } := by
  have htmp : 32 - (x.length : Int) - y.length = 32 - ((x.length : Int) + y.length) := by omega
  have hshift : (32 - ((x.length : Int) + y.length)).toNat = 32 - x.length - y.length := by omega
  rw [refill_loop, if_neg (by omega), if_pos (by omega)]
  simp only [hshift, htmp, Nat.shiftRight_eq_div_pow, length_append, Int.natCast_add]
  cases cptr <;> rfl

theorem refill_loop.spec (cptr : Bytes) (hword : d32 = aligned 32 x) (hle : x.length ≤ 32)
    (hbyte : cur_byte / 2 ^ (8 - y.length) = ofBits y) (hlt : cur_byte < 256) (hy : y.length ≤ 8) :
    Holds (refill_loop d32 x.length cur_byte y.length (32 - x.length) cptr)
      (min 32 (x ++ y ++ unpack cptr).length) (x ++ y ++ unpack cptr) := by
  induction cptr generalizing d32 x cur_byte y with
  | nil =>
    by_cases henough : 32 - x.length ≤ y.length
    · exact (refill_enough [] hword hle hbyte hlt hy henough).mono (Nat.min_le_left _ _)
    · rw [refill_loop_short d32 cur_byte [] henough, word_append hword hbyte (by omega)]
      refine ⟨x ++ y, [], ⟨rfl, rfl, ?_, ?_, hlt, rfl, Nat.zero_le _⟩, by simp, by simp⟩
      · rw [length_append]
        omega
      · exact Nat.div_eq_of_lt hlt
  | cons byte cptr ih =>
    by_cases henough : 32 - x.length ≤ y.length
    · exact (refill_enough _ hword hle hbyte hlt hy henough).mono (Nat.min_le_left _ _)
    · have hnew := word_append hword hbyte (by omega)
      have hwhole : byte.toNat / 2 ^ (8 - (byteBits byte).length) = ofBits (byteBits byte) := by
        rw [length_byteBits, ofBits_byteBits]
        exact Nat.div_one _
      have hnext := ih hnew (by rw [length_append]; omega) hwhole byte.toNat_lt
        (by rw [length_byteBits])
      rw [refill_loop_short d32 cur_byte _ henough]
      rw [length_byteBits, append_assoc] at hnext
      exact hnext

theorem refill.spec (h : Holds b n view) : Holds (refill b) (min 32 view.length) view := by
  obtain ⟨x, y, hr, rfl, -⟩ := h
  have hspec := refill_loop.spec b.cptr hr.word hr.word_le hr.byte hr.byte_lt hr.byte_le
  rw [← hr.left, ← hr.cur] at hspec
  exact hspec

theorem load.spec (tmp : Nat) (cptr : Bytes) (hword : d32 = aligned 32 x)
    (htmp : x.length + tmp = 24) (height : tmp % 8 = 0) :
    Holds (load d32 x.length tmp cptr) (min 32 (x ++ unpack cptr).length) (x ++ unpack cptr) := by
  induction cptr generalizing d32 x tmp with
  | nil =>
    have hfetch := fetch.spec [] hword (by omega) (show 0 < 256 by omega)
    exact hfetch.mono (by simp)
  | cons byte cptr ih =>
    have hlen := length_byteBits byte
    have hshift : 32 - x.length - (byteBits byte).length = tmp := by omega
    have hnew := word_append hword (ofBits_byteBits byte).symm (by omega)
    rw [hshift] at hnew
    have hleft : (x.length : Int) + 8 = (x ++ byteBits byte).length := by
      rw [length_append, hlen]
      rfl
    unfold load
    rw [unpack_cons, ← append_assoc, hleft]
    by_cases hlast : tmp < 8
    · rw [if_pos hlast]
      have hfetch := fetch.spec cptr hnew (by rw [length_append]; omega) (show 0 < 256 by omega)
      refine hfetch.mono ?_
      omega
    · rw [if_neg hlast]
      exact ih _ hnew (by rw [length_append]; omega) (by omega)

/-! ## The bit codes of RDP 5.0 -/

/-- A literal: 0 and seven bits, or 10 and the seven low bits. -/
def literalCode (b : UInt8) : List Bool :=
  if b.toNat < 128 then toBits 8 b.toNat else [true, false] ++ toBits 7 (b.toNat - 128)

def offsetCode (offset : Nat) : List Bool :=
  if offset < 64 then [true, true, true, true, true] ++ toBits 6 offset
  else if offset < 320 then [true, true, true, true, false] ++ toBits 8 (offset - 64)
  else if offset < 2368 then [true, true, true, false] ++ toBits 11 (offset - 320)
  else [true, true, false] ++ toBits 16 (offset - 2368)

/-- A length of match: 0 for 3. A length of `k` bits above its first one has `k - 1` ones,
a zero, and these bits. -/
def lengthCode (length : Nat) : List Bool :=
  if length = 3 then [false]
  else
    let k := Nat.log2 length
    replicate (k - 1) true ++ [false] ++ toBits k (length - 2 ^ k)

def tokenCode : Token UInt8 → List Bool
  | .literal b => literalCode b
  | .copy offset length => offsetCode offset ++ lengthCode length

/-- The tokens that RDP 5.0 can code. -/
def IsToken : Token UInt8 → Prop
  | .literal _ => True
  | .copy offset length => (1 ≤ offset ∧ offset ≤ 65535) ∧ 3 ≤ length ∧ length ≤ 65535

instance (t : Token UInt8) : Decidable (IsToken t) := by
  cases t <;> unfold IsToken <;> infer_instance

/-! ## Offsets -/

theorem offset_hit {header : List Bool} (row : OffsetRow)
    (h : Holds b n (header ++ toBits row.width v ++ rest)) (hheader : header.length = row.header)
    (hv : v < 2 ^ row.width) (hbase : v + row.base < 65536)
    (hn : (header ++ toBits row.width v).length ≤ n) :
    ∃ b', (((b.skip row.header).d32 >>> (32 - row.width) + row.base) % 65536,
        (b.skip row.header).skip row.width) = (v + row.base, b') ∧ Holds b' 0 rest := by
  have hwidth := length_toBits row.width v
  rw [append_assoc] at h
  rw [length_append] at hn
  have hskip := h.skip (by omega)
  have hpeek := hskip.peek (by omega)
  have hdone := hskip.skip (by omega)
  rw [hwidth, ofBits_toBits, Nat.mod_eq_of_lt hv] at hpeek
  rw [hwidth] at hdone
  rw [← hheader, Nat.shiftRight_eq_div_pow, hpeek, Nat.mod_eq_of_lt hbase]
  exact ⟨_, rfl, hdone.mono (Nat.zero_le _)⟩

theorem Holds.header {header value : List Bool} (h : Holds b n (header ++ value ++ rest))
    (hn : (header ++ value).length ≤ n) :
    b.d32 / 2 ^ (32 - header.length) = ofBits header := by
  rw [append_assoc] at h
  rw [length_append] at hn
  exact h.peek (by omega)

theorem find_offset.spec {offset : Nat} (h : Holds b n (offsetCode offset ++ rest))
    (ho : offset ≤ 65535) (hn : (offsetCode offset).length ≤ n) :
    b.d32 / 2 ^ 30 = 3 ∧ ∃ b', find_offset codes_5.offsets b = (offset, b') ∧ Holds b' 0 rest := by
  have m27 : b.d32 &&& 0xf8000000 = b.d32 / 2 ^ 27 * 2 ^ 27 := @and_high _ 32 27 h.lt (by omega)
  have m28 : b.d32 &&& 0xf0000000 = b.d32 / 2 ^ 28 * 2 ^ 28 := @and_high _ 32 28 h.lt (by omega)
  have m29 : b.d32 &&& 0xe0000000 = b.d32 / 2 ^ 29 * 2 ^ 29 := @and_high _ 32 29 h.lt (by omega)
  unfold offsetCode at h hn
  simp only [codes_5, find_offset, m27, m28, m29]
  split_ifs at h hn with h1 h2 h3
  · have htop : b.d32 / 2 ^ 27 = 31 := h.header hn
    obtain ⟨b', hb', hrest⟩ := offset_hit ⟨0xf8000000, 0xf8000000, 5, 6, 0⟩ h rfl
      (by simpa using h1)
      (by simp only; omega) hn
    rw [if_pos (by omega)]
    exact ⟨by omega, b', hb', hrest⟩
  · have htop : b.d32 / 2 ^ 27 = 30 := h.header hn
    obtain ⟨b', hb', hrest⟩ := offset_hit ⟨0xf8000000, 0xf0000000, 5, 8, 64⟩ h rfl
      (by simp only; omega) (by simp only; omega) hn
    rw [if_neg (by omega), if_pos (by omega)]
    rw [Nat.sub_add_cancel (by omega)] at hb'
    exact ⟨by omega, b', hb', hrest⟩
  · have htop : b.d32 / 2 ^ 28 = 14 := h.header hn
    obtain ⟨b', hb', hrest⟩ := offset_hit ⟨0xf0000000, 0xe0000000, 4, 11, 320⟩ h rfl
      (by simp only; omega) (by simp only; omega) hn
    rw [if_neg (by omega), if_neg (by omega), if_pos (by omega)]
    rw [Nat.sub_add_cancel (by omega)] at hb'
    exact ⟨by omega, b', hb', hrest⟩
  · have htop : b.d32 / 2 ^ 29 = 6 := h.header hn
    obtain ⟨b', hb', hrest⟩ := offset_hit ⟨0xe0000000, 0xc0000000, 3, 16, 2368⟩ h rfl
      (by simp only; omega) (by simp only; omega) hn
    rw [if_neg (by omega), if_neg (by omega), if_neg (by omega), if_pos (by omega)]
    rw [Nat.sub_add_cancel (by omega)] at hb'
    exact ⟨by omega, b', hb', hrest⟩

/-! ## Lengths of match -/

/-- The rows for the lengths from 4 on follow one pattern. -/
def lomRow (k : Nat) : LomRow :=
  ⟨2 ^ 32 - 2 ^ (30 - k), 2 ^ 32 - 2 ^ (31 - k), 28 - 2 * k, 2 ^ (k + 2) - 1,
    2 ^ (k + 2), 2 * k + 4⟩

theorem codes_5_lengths :
    codes_5.lengths = ⟨0x80000000, 0, 0, 0, 3, 1⟩ :: (range' 0 14).map lomRow := by
  decide

theorem ofBits_ones (n : Nat) : ofBits (replicate n true) + 1 = 2 ^ n := by
  induction n with
  | zero => rfl
  | succ n ih =>
    rw [replicate_succ, ofBits, length_replicate, Nat.add_assoc, ih, Nat.pow_succ]
    simp only [Bool.toNat_true]
    omega

theorem lomRow_fits {d : Nat} (hd : d < 2 ^ 32) (hk : k ≤ 13) :
    d &&& (lomRow k).mask = (lomRow k).pattern ↔ d / 2 ^ (30 - k) + 2 = 2 ^ (k + 2) := by
  have hmask : d &&& (lomRow k).mask = d / 2 ^ (30 - k) * 2 ^ (30 - k) := and_high hd (by omega)
  have hword : 2 ^ 32 = 2 ^ (k + 2) * 2 ^ (30 - k) := by
    rw [← Nat.pow_add]
    congr 1
    omega
  have hnext : 2 ^ (31 - k) = 2 * 2 ^ (30 - k) := by
    rw [← Nat.pow_succ']
    congr 1
    omega
  have hpos : 0 < 2 ^ (30 - k) := Nat.two_pow_pos _
  have htwo : 2 ≤ 2 ^ (k + 2) := by
    rw [Nat.pow_succ]
    have := Nat.two_pow_pos (k + 1)
    omega
  have hpattern : (lomRow k).pattern = (2 ^ (k + 2) - 2) * 2 ^ (30 - k) := by
    show 2 ^ 32 - 2 ^ (31 - k) = _
    rw [hword, hnext, Nat.sub_mul]
  rw [hmask, hpattern, Nat.mul_left_inj hpos.ne']
  omega

/-- The code of a length from 4 on: `k + 1` ones, a zero and `k + 2` bits. -/
def longCode (k v : Nat) : List Bool := replicate (k + 1) true ++ [false] ++ toBits (k + 2) v

theorem length_longCode (k v : Nat) : (longCode k v).length = 2 * k + 4 := by
  simp only [longCode, length_append, length_replicate, length_singleton, length_toBits]
  omega

section

variable (h : Holds b n (longCode k v ++ rest)) (hn : (longCode k v).length ≤ n) (hk : k ≤ 13)

include h hn hk

theorem lomRow_before {i : Nat} (hi : i < k) : b.d32 &&& (lomRow i).mask ≠ (lomRow i).pattern := by
  have hones : longCode k v ++ rest = replicate (i + 2) true ++
      (replicate (k - 1 - i) true ++ [false] ++ toBits (k + 2) v ++ rest) := by
    have hsum : k + 1 = (i + 2) + (k - 1 - i) := by omega
    rw [longCode, hsum, ← replicate_append_replicate]
    simp only [append_assoc]
  rw [hones] at h
  rw [length_longCode] at hn
  have hpeek := h.peek (by rw [length_replicate]; omega)
  have hvalue := ofBits_ones (i + 2)
  rw [length_replicate] at hpeek
  rw [ne_eq, lomRow_fits h.lt (by omega)]
  have hshift : 32 - (i + 2) = 30 - i := by omega
  rw [hshift] at hpeek
  omega

theorem lomRow_own (hv : v < 2 ^ (k + 2)) :
    b.d32 &&& (lomRow k).mask = (lomRow k).pattern ∧
      (b.d32 >>> (lomRow k).shift &&& (lomRow k).value_mask) + (lomRow k).base =
        2 ^ (k + 2) + v := by
  constructor
  · rw [longCode, append_assoc] at h
    rw [length_longCode] at hn
    have hlen : (replicate (k + 1) true ++ [false]).length = k + 2 := by simp
    have hpeek := h.peek (by omega)
    have hshift : 32 - (k + 2) = 30 - k := by omega
    have hvalue : ofBits (replicate (k + 1) true ++ [false]) + 2 = 2 ^ (k + 2) := by
      have hones := ofBits_ones (k + 1)
      have hzero : ofBits [false] = 0 := rfl
      rw [ofBits_append, hzero, length_singleton, Nat.pow_succ 2 (k + 1)]
      omega
    rw [hlen, hshift] at hpeek
    rw [lomRow_fits (Holds.lt h) hk, hpeek, hvalue]
  · have hpeek := h.peek hn
    have hshift : 32 - (2 * k + 4) = 28 - 2 * k := by omega
    rw [length_longCode, hshift] at hpeek
    show (b.d32 >>> (28 - 2 * k) &&& (2 ^ (k + 2) - 1)) + 2 ^ (k + 2) = 2 ^ (k + 2) + v
    rw [Nat.shiftRight_eq_div_pow, hpeek, Nat.and_two_pow_sub_one_eq_mod, longCode, ofBits_append,
      length_toBits, ofBits_toBits, Nat.mod_eq_of_lt hv, Nat.add_comm (_ * _),
      Nat.add_mul_mod_self_right, Nat.mod_eq_of_lt hv, Nat.add_comm]

theorem find_lom_rows (hv : v < 2 ^ (k + 2)) (m i : Nat) (hi : i ≤ k) (him : k < i + m) :
    find_lom ((range' i m).map lomRow) b = (2 ^ (k + 2) + v, b.skip (2 * k + 4)) := by
  induction m generalizing i with
  | zero => omega
  | succ m ih =>
    rw [range'_succ, map_cons, find_lom]
    by_cases heq : i = k
    · subst heq
      obtain ⟨hfits, hvalue⟩ := lomRow_own h hn hk hv
      rw [if_pos hfits, hvalue]
      rfl
    · rw [if_neg (lomRow_before h hn hk (by omega))]
      exact ih (i + 1) (by omega) (by omega)

end

theorem find_lom.spec {length : Nat} (h : Holds b n (lengthCode length ++ rest)) (h3 : 3 ≤ length)
    (hle : length ≤ 65535) (hn : (lengthCode length).length ≤ n) :
    ∃ b', find_lom codes_5.lengths b = (length, b') ∧ Holds b' 0 rest := by
  have m31 : b.d32 &&& 0x80000000 = b.d32 / 2 ^ 31 * 2 ^ 31 := @and_high _ 32 31 h.lt (by omega)
  rw [codes_5_lengths]
  by_cases hthree : length = 3
  · have hcode : lengthCode length = [false] := if_pos hthree
    rw [hcode] at h hn
    have htop : b.d32 / 2 ^ 31 = 0 := h.peek hn
    rw [find_lom, if_pos (by simp only [m31]; omega)]
    refine ⟨b.skip 1, ?_, (h.skip hn).mono (Nat.zero_le _)⟩
    rw [hthree]
    simp
  · -- The length has its highest bit at `k + 2`.
    have hlow := Nat.log2_self_le (show length ≠ 0 by omega)
    have hhigh := Nat.lt_log2_self (n := length)
    have htwo : 2 ≤ length.log2 := (Nat.le_log2 (by omega)).mpr (by omega)
    have hlog : length.log2 < 16 := (Nat.log2_lt (by omega)).mpr (by omega)
    obtain ⟨k, hk⟩ : ∃ k, length.log2 = k + 2 := ⟨length.log2 - 2, by omega⟩
    have hcode : lengthCode length = longCode k (length - 2 ^ (k + 2)) := by
      unfold lengthCode longCode
      rw [if_neg hthree]
      simp only [hk]
      rfl
    rw [hk] at hlow hhigh
    rw [hcode] at h hn
    have hv : length - 2 ^ (k + 2) < 2 ^ (k + 2) := by
      omega
    have htop : b.d32 / 2 ^ 31 ≠ 0 := by
      have hfirst : longCode k (length - 2 ^ (k + 2)) ++ rest = [true] ++
          (replicate k true ++ [false] ++ toBits (k + 2) (length - 2 ^ (k + 2)) ++ rest) := by
        rfl
      rw [hfirst] at h
      have hpeek : b.d32 / 2 ^ 31 = 1 := h.peek (by rw [length_longCode] at hn; simp; omega)
      omega
    have hrows := find_lom_rows h hn (by omega) hv 14 0 (by omega) (by omega)
    rw [find_lom, if_neg (by simp only [m31]; omega), hrows]
    have hskip := h.skip hn
    rw [length_longCode] at hskip
    refine ⟨b.skip _, ?_, hskip.mono (Nat.zero_le _)⟩
    rw [Nat.add_sub_cancel' hlow]

/-! ## The output -/

/-- The packet has written `out` into the window, from `p` on. -/
structure WritesAt (window : List UInt8) (p : Nat) (out : List UInt8) (w : Writer) : Prop where
  buf : w.history_buf = patch window p out
  ptr : w.history_ptr = p + out.length
  log : w.written = out

section

variable {window : Bytes} {p : Nat} {out : Bytes} {w : Writer}

theorem Writer.store.spec (hw : WritesAt window p out w) (hwindow : p ≤ window.length)
    (bs : Bytes) (hfits : p + out.length + bs.length ≤ RDP6_HISTORY_BUF_SIZE) :
    ∃ w', w.store bs = some w' ∧ WritesAt window p (out ++ bs) w' := by
  have hptr := hw.ptr
  refine ⟨_, dif_pos (by omega), ?_, ?_, ?_⟩
  · show patch w.history_buf w.history_ptr bs = _
    rw [hw.buf, hw.ptr, patch_patch window out bs p hwindow]
  · show w.history_ptr + bs.length = _
    rw [hw.ptr, length_append, Nat.add_assoc]
  · show w.written ++ bs = _
    rw [hw.log]

theorem copied_add (offset m n : Nat) :
    copied window p offset (m + n) out = copied window p offset n
      (copied window p offset m out) := by
  induction m generalizing out with
  | zero => rw [Nat.zero_add]; rfl
  | succ m ih => rw [Nat.succ_add, copied, ih, copied]

variable {offset lom : Nat} (hsize : window.length = RDP6_HISTORY_BUF_SIZE)

include hsize

theorem copy_bytes.spec (hw : WritesAt window p out w) (ho : 1 ≤ offset)
    (hptr : offset ≤ p + out.length) (hfits : p + out.length + lom ≤ RDP6_HISTORY_BUF_SIZE) :
    ∃ w', copy_bytes lom (p + out.length - offset) w = some w' ∧
      WritesAt window p (copied window p offset lom out) w' := by
  induction lom generalizing out w with
  | zero => exact ⟨w, rfl, hw⟩
  | succ lom ih =>
    unfold RDP6_HISTORY_BUF_SIZE at hfits hsize
    have hindex : (p + out.length + window.length - offset) % window.length =
        p + out.length - offset := by
      rw [hsize, Nat.sub_add_comm hptr, Nat.add_mod_right, Nat.mod_eq_of_lt (by omega)]
    have hbyte : w.history_buf.getD (p + out.length - offset) 0 = behind window p offset out := by
      rw [behind, hindex, hw.buf]
      rfl
    obtain ⟨w1, hstore, hw1⟩ := Writer.store.spec hw (by omega) [behind window p offset out]
      (by unfold RDP6_HISTORY_BUF_SIZE; simp; omega)
    have hlen : p + (out ++ [behind window p offset out]).length = p + out.length + 1 := by
      simp; omega
    obtain ⟨w', hcopy, hw'⟩ := ih hw1 (by omega) (by unfold RDP6_HISTORY_BUF_SIZE; omega)
    refine ⟨w', ?_, hw'⟩
    rw [copy_bytes, hbyte, hstore, Option.bind_some, ← Nat.sub_add_comm hptr, ← hlen]
    exact hcopy

theorem copy_to_end.spec (hw : WritesAt window p out w)
    (hptr : p + out.length ≤ offset) (ho : offset ≤ RDP6_HISTORY_BUF_SIZE)
    (hfits : p + out.length + lom ≤ RDP6_HISTORY_BUF_SIZE) :
    ∃ done more w', lom = done + more ∧
      copy_to_end lom (p + out.length + RDP6_HISTORY_BUF_SIZE - offset) w = some (more, w') ∧
      WritesAt window p (copied window p offset done out) w' ∧
      (more = 0 ∨ p + out.length + done = offset) := by
  induction lom generalizing out w with
  | zero => exact ⟨0, 0, w, rfl, rfl, hw, Or.inl rfl⟩
  | succ lom ih =>
    by_cases hend : p + out.length = offset
    · refine ⟨0, lom + 1, w, by omega, ?_, hw, Or.inr (by omega)⟩
      rw [copy_to_end, if_neg (by omega)]
    · have hindex : (p + out.length + window.length - offset) % window.length =
          p + out.length + RDP6_HISTORY_BUF_SIZE - offset := by
        rw [hsize, Nat.mod_eq_of_lt (by omega)]
      have hbyte : w.history_buf.getD (p + out.length + RDP6_HISTORY_BUF_SIZE - offset) 0 =
          behind window p offset out := by
        rw [behind, hindex, hw.buf]
        rfl
      obtain ⟨w1, hstore, hw1⟩ := Writer.store.spec hw (by omega) [behind window p offset out]
        (by simp; omega)
      have hlen : p + (out ++ [behind window p offset out]).length = p + out.length + 1 := by
        simp; omega
      obtain ⟨done, more, w', hsum, hcopy, hw', hstop⟩ := ih hw1 (by omega) (by omega)
      refine ⟨done + 1, more, w', by omega, ?_, hw', by omega⟩
      rw [copy_to_end, if_pos (by omega), hbyte, hstore, Option.bind_some]
      have hnext : p + out.length + RDP6_HISTORY_BUF_SIZE - offset + 1 =
          p + (out ++ [behind window p offset out]).length + RDP6_HISTORY_BUF_SIZE - offset := by
        omega
      rw [hnext]
      exact hcopy

theorem copy_match.spec (hw : WritesAt window p out w) (ho : 1 ≤ offset)
    (hmax : offset ≤ 65535) (hfits : p + out.length + lom ≤ RDP6_HISTORY_BUF_SIZE) :
    ∃ w', copy_match w offset lom = some w' ∧
      WritesAt window p (copied window p offset lom out) w' := by
  unfold copy_match
  rw [hw.ptr]
  by_cases hinside : offset ≤ p + out.length
  · rw [if_pos hinside]
    exact copy_bytes.spec hsize hw ho hinside hfits
  · have hsrc : RDP6_HISTORY_BUF_SIZE - 1 - (offset - (p + out.length)) + 1 =
        p + out.length + RDP6_HISTORY_BUF_SIZE - offset := by
      unfold RDP6_HISTORY_BUF_SIZE
      omega
    obtain ⟨done, more, w1, hsum, hend, hw1, hstop⟩ := copy_to_end.spec hsize hw
      (Nat.le_of_not_le hinside) (by unfold RDP6_HISTORY_BUF_SIZE; omega) hfits
    rw [if_neg hinside, hsrc]
    simp only [hend, Option.bind_some]
    rw [hsum, copied_add]
    rcases hstop with rfl | hstop
    · exact ⟨w1, rfl, hw1⟩
    · have hlen := length_copied window p offset done out
      have hzero : p + (copied window p offset done out).length - offset = 0 := by omega
      have hcopy := copy_bytes.spec hsize hw1 ho (by omega)
        (show p + (copied window p offset done out).length + more ≤ _ by omega)
      rw [hzero] at hcopy
      exact hcopy

omit hsize

/-! ## Tokens -/

theorem length_literalCode (b : UInt8) :
    (literalCode b).length = if b.toNat < 128 then 8 else 9 := by
  unfold literalCode
  split_ifs <;> simp

theorem length_offsetCode (offset : Nat) :
    8 ≤ (offsetCode offset).length ∧ (offsetCode offset).length ≤ 19 := by
  unfold offsetCode
  split_ifs <;> simp

theorem length_lengthCode {length : Nat} (h : length ≤ 65535) :
    (lengthCode length).length ≤ 30 := by
  unfold lengthCode
  split_ifs
  · simp
  · by_cases hzero : length = 0
    · simp [hzero]
    · have hlog : length.log2 < 16 := (Nat.log2_lt hzero).mpr (by omega)
      simp only [length_append, length_replicate, length_singleton, length_toBits]
      omega

theorem length_tokenCode (t : Token UInt8) : 8 ≤ (tokenCode t).length := by
  cases t with
  | literal byte =>
    rw [tokenCode, length_literalCode]
    split_ifs <;> omega
  | copy offset length =>
    have := (length_offsetCode offset).1
    rw [tokenCode, length_append]
    omega

include hsize

theorem decode_literal {b : Bits} {byte : UInt8} {rest : List Bool}
    (h : Holds b (min 32 (literalCode byte ++ rest).length) (literalCode byte ++ rest))
    (hw : WritesAt window p out w) (hfits : p + out.length + 1 ≤ RDP6_HISTORY_BUF_SIZE) :
    ∃ b' w', decode_turn codes_5 b w = some (b', w') ∧ Holds b' (min 32 rest.length) rest ∧
      WritesAt window p (out ++ [byte]) w' := by
  have m31 : b.d32 &&& 0x80000000 = b.d32 / 2 ^ 31 * 2 ^ 31 := @and_high _ 32 31 h.lt (by omega)
  have m30 : b.d32 &&& 0xc0000000 = b.d32 / 2 ^ 30 * 2 ^ 30 := @and_high _ 32 30 h.lt (by omega)
  obtain ⟨w', hstore, hw'⟩ := Writer.store.spec hw (by omega) [byte] hfits
  have hlen := length_literalCode byte
  have hready : (literalCode byte).length ≤ min 32 (literalCode byte ++ rest).length := by
    rw [length_append]
    split_ifs at hlen <;> omega
  unfold decode_turn
  by_cases hsmall : byte.toNat < 128
  · have hcode : literalCode byte = toBits 8 byte.toNat := if_pos hsmall
    rw [hcode] at h hready
    have hpeek : b.d32 / 2 ^ 24 = byte.toNat := by
      have hpeek := h.peek hready
      rw [length_toBits, ofBits_toBits, Nat.mod_eq_of_lt (by omega)] at hpeek
      exact hpeek
    have hskip := h.skip hready
    rw [if_pos (by omega), Nat.shiftRight_eq_div_pow, hpeek, UInt8.ofNat_toNat, hstore]
    exact ⟨_, _, rfl, refill.spec hskip, hw'⟩
  · have hcode : literalCode byte = [true, false] ++ toBits 7 (byte.toNat - 128) := if_neg hsmall
    have hbyte := byte.toNat_lt
    rw [hcode] at h hready
    have htop : b.d32 / 2 ^ 30 = 2 := h.header hready
    rw [append_assoc] at h hready
    rw [length_append, length_toBits] at hready
    have hskip : Holds (b.skip 2) _ _ := h.skip (Nat.le_of_add_right_le hready)
    have hseven := Nat.le_sub_of_add_le' hready
    have hpeek : (b.skip 2).d32 / 2 ^ 25 = byte.toNat - 128 := by
      have hpeek := hskip.peek hseven
      rw [length_toBits, ofBits_toBits, Nat.mod_eq_of_lt (by omega)] at hpeek
      exact hpeek
    have hdone := hskip.skip hseven
    have hor : (byte.toNat - 128) ||| 0x80 = byte.toNat := by
      have hlt : byte.toNat - 128 < 2 ^ 7 := by omega
      have hadd := Nat.two_pow_add_eq_or_of_lt hlt 1
      rw [Nat.mul_one, Nat.lor_comm] at hadd
      exact hadd.symm.trans (by omega)
    rw [if_neg (by omega), if_pos (by omega)]
    simp only [Nat.shiftRight_eq_div_pow, hpeek, hor, UInt8.ofNat_toNat, hstore]
    exact ⟨_, _, rfl, refill.spec hdone, hw'⟩

theorem decode_copy {b : Bits} {offset length : Nat} {rest : List Bool}
    (h : Holds b (min 32 (offsetCode offset ++ (lengthCode length ++ rest)).length)
      (offsetCode offset ++ (lengthCode length ++ rest)))
    (ht : IsToken (.copy offset length)) (hw : WritesAt window p out w)
    (hfits : p + out.length + length ≤ RDP6_HISTORY_BUF_SIZE) :
    ∃ b' w', decode_turn codes_5 b w = some (b', w') ∧ Holds b' (min 32 rest.length) rest ∧
      WritesAt window p (copied window p offset length out) w' := by
  obtain ⟨⟨ho, hmax⟩, h3, hle⟩ := ht
  have m31 : b.d32 &&& 0x80000000 = b.d32 / 2 ^ 31 * 2 ^ 31 := @and_high _ 32 31 h.lt (by omega)
  have m30 : b.d32 &&& 0xc0000000 = b.d32 / 2 ^ 30 * 2 ^ 30 := @and_high _ 32 30 h.lt (by omega)
  obtain ⟨-, hlen⟩ := length_offsetCode offset
  obtain ⟨htop, b1, hoffset, hb1⟩ := find_offset.spec h hmax
    (by rw [length_append]; omega)
  have hfilled := refill.spec hb1
  obtain ⟨b2, hlom, hb2⟩ := find_lom.spec hfilled h3 hle
    (by have := length_lengthCode hle; rw [length_append]; omega)
  obtain ⟨w', hcopy, hw'⟩ := copy_match.spec hsize hw ho hmax hfits
  unfold decode_turn
  rw [m31, m30, if_neg (by omega), if_neg (by omega), decode_match]
  simp only [hoffset]
  rw [if_neg (by omega)]
  simp only [hlom, hcopy]
  exact ⟨_, _, rfl, refill.spec hb2, hw'⟩

theorem decode_turn.spec {b : Bits} {t : Token UInt8} {rest : List Bool}
    (h : Holds b (min 32 (tokenCode t ++ rest).length) (tokenCode t ++ rest)) (ht : IsToken t)
    (hw : WritesAt window p out w) (hfits : p + out.length + t.size ≤ RDP6_HISTORY_BUF_SIZE) :
    ∃ b' w', decode_turn codes_5 b w = some (b', w') ∧ Holds b' (min 32 rest.length) rest ∧
      WritesAt window p (expandToken window p out t) w' := by
  cases t with
  | literal byte => exact decode_literal hsize h hw hfits
  | copy offset length =>
    rw [tokenCode, append_assoc] at h
    exact decode_copy hsize h ht hw hfits

theorem decode_loop.spec {pad : List Bool} (hpad : pad.length < 8) (tokens : List (Token UInt8)) :
    ∀ (fuel : Nat) (b : Bits) (w : Writer) (out : Bytes), tokens.length < fuel →
      (∀ t ∈ tokens, IsToken t) →
      Holds b (min 32 (tokens.flatMap tokenCode ++ pad).length)
        (tokens.flatMap tokenCode ++ pad) →
      WritesAt window p out w →
      p + out.length + (tokens.map Token.size).sum ≤ RDP6_HISTORY_BUF_SIZE →
      ∃ w', decode_loop codes_5 fuel b w = some w' ∧
        WritesAt window p (tokens.foldl (expandToken window p) out) w' := by
  induction tokens with
  | nil =>
    intro fuel b w out hfuel _ hb hw _
    obtain ⟨fuel, rfl⟩ := Nat.exists_eq_add_one.mpr (Nat.zero_lt_of_lt hfuel)
    have hleft : b.bits_left ≤ pad.length := hb.bits_left_le
    exact ⟨w, by rw [decode_loop, if_neg (by omega)], hw⟩
  | cons t tokens ih =>
    intro fuel b w out hfuel ht hb hw hfits
    obtain ⟨fuel, rfl⟩ := Nat.exists_eq_add_one.mpr (Nat.zero_lt_of_lt hfuel)
    rw [flatMap_cons, append_assoc] at hb
    rw [map_cons, sum_cons] at hfits
    have hcode := length_tokenCode t
    have hleft := hb.le_bits_left
    rw [length_append] at hleft
    obtain ⟨b1, w1, hturn, hb1, hw1⟩ := decode_turn.spec hsize hb (ht t mem_cons_self) hw (by omega)
    rw [decode_loop, if_pos (by omega), hturn]
    refine ih fuel b1 w1 _ (Nat.lt_of_succ_lt_succ hfuel) ?_ hb1 hw1 ?_
    · intro t' ht'
      exact ht t' (mem_cons_of_mem t ht')
    · rw [length_expandToken]
      omega

end

/-! ## The packet -/

theorem tokens_le_bytes (tokens : List (Token UInt8)) :
    8 * tokens.length ≤ (tokens.flatMap tokenCode).length := by
  induction tokens with
  | nil => simp
  | cons t tokens ih =>
    have hcode := length_tokenCode t
    rw [flatMap_cons, length_append, length_cons]
    omega

theorem start_packet.spec {mppc : rdp_mppc} {ctype : Nat} (hfront : ctype &&& PACKET_AT_FRONT = 0)
    (hflushed : ctype &&& PACKET_FLUSHED = 0) :
    WritesAt mppc.history_buf mppc.history_ptr [] (start_packet mppc ctype) where
  buf := by
    simp only [start_packet, hflushed]
    exact (patch_nil _ _).symm
  ptr := by simp [start_packet, local_ptr, hflushed, hfront]
  log := rfl

/-- What a packet that codes `tokens` does to a session: the expansion is written at the
write position and nothing else is, and the caller is told where it is. -/
structure Expanded (mppc : rdp_mppc) (tokens : List (Token UInt8)) (d : Decompressed) : Prop where
  roff : d.roff = mppc.history_ptr
  rlen : d.rlen = (expand mppc.history_buf mppc.history_ptr tokens).length
  ptr : d.session.history_ptr = mppc.history_ptr + d.rlen
  buf : d.session.history_buf =
    patch mppc.history_buf mppc.history_ptr (expand mppc.history_buf mppc.history_ptr tokens)

/-- A compressed packet that codes a list of tokens is unpacked to their expansion. -/
theorem decompress_rdp_5_expands_the_tokens (mppc : rdp_mppc) (tokens : List (Token UInt8))
    (ctype : Nat) (htokens : ∀ t ∈ tokens, IsToken t)
    (hfits : mppc.history_ptr + (tokens.map Token.size).sum ≤ RDP6_HISTORY_BUF_SIZE)
    (hcompressed : ctype &&& PACKET_COMPRESSED = PACKET_COMPRESSED)
    (hfront : ctype &&& PACKET_AT_FRONT = 0) (hflushed : ctype &&& PACKET_FLUSHED = 0) :
    ∃ d, decompress_rdp_5 mppc (pack (tokens.flatMap tokenCode)) ctype = some d ∧
      Expanded mppc tokens d := by
  obtain ⟨k, hk, hbits⟩ := unpack_pack _
  have hload := load.spec 24 (pack (tokens.flatMap tokenCode)) (show 0 = aligned 32 [] from rfl)
    rfl rfl
  rw [nil_append, hbits] at hload
  have hbytes := length_unpack (pack (tokens.flatMap tokenCode))
  rw [hbits, length_append, length_replicate] at hbytes
  have hcount := tokens_le_bytes tokens
  obtain ⟨w, hloop, hw⟩ := decode_loop.spec mppc.size (by rwa [length_replicate]) tokens
    ((pack (tokens.flatMap tokenCode)).length + 1) _ _ [] (by omega) htokens hload
    (start_packet.spec hfront hflushed) (by rwa [length_nil, Nat.add_zero])
  have hloop' : decode_loop codes_5 ((pack (tokens.flatMap tokenCode)).length + 1)
      (load 0 0 24 (pack (tokens.flatMap tokenCode))) (start_packet mppc ctype) = some w := hloop
  have hptr := hw.ptr
  have hle := w.ptr_le
  have hold : local_ptr mppc ctype = mppc.history_ptr := by
    simp [local_ptr, hfront, hflushed]
  have hsession : session_ptr mppc ctype = mppc.history_ptr := by
    simp [session_ptr, hfront]
  have hrlen : (((w.history_ptr : Int) - mppc.history_ptr) % 4294967296).toNat =
      (expand mppc.history_buf mppc.history_ptr tokens).length := by
    unfold expand
    unfold RDP6_HISTORY_BUF_SIZE at hle
    omega
  simp only [decompress_rdp_5, decompress_with, hcompressed, ne_eq, not_true, if_false, hloop',
    Option.map_some, hold, hsession]
  exact ⟨_, rfl, rfl, hrlen, hptr.trans (by rw [hrlen]; rfl), hw.buf⟩

def sampleSession : rdp_mppc :=
  mppc_new (replicate RDP6_HISTORY_BUF_SIZE 0) length_replicate

/-- Two literals, and a match that overlaps its own output. -/
def sampleTokens : List (Token UInt8) := [.literal 0x41, .literal 0xc3, .copy 1 5]

theorem decompress_rdp_5_expands_the_tokens_sample :
    ∃ d, decompress_rdp_5 sampleSession (pack (sampleTokens.flatMap tokenCode)) 0x21 = some d ∧
      Expanded sampleSession sampleTokens d :=
  decompress_rdp_5_expands_the_tokens sampleSession sampleTokens 0x21 (by decide) (by decide)
    (by decide) (by decide) (by decide)

end neutrinordp.mppc
