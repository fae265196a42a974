-- The bit stream of the RemoteFX codec (rfx_bitstream.h). Bits go into the bytes of a buffer from
-- the high end, and a read or a write goes over the end of a byte in turns.
import CorporateClient.Lib.Bits

open List bits

namespace neutrinordp.rfx

/-- The buffer has `nbytes` bytes. `bits_left` counts the bits of the byte at `byte_pos` that are
still to come, so it is never 0. -/
structure RFX_BITSTREAM where
  buffer : List UInt8
  byte_pos : Nat
  bits_left : Nat
  some_left : 0 < bits_left
  in_byte : bits_left ≤ 8

def rfx_bitstream_attach (buffer : List UInt8) : RFX_BITSTREAM where
  buffer
  byte_pos := 0
  bits_left := 8
  some_left := by decide
  in_byte := by decide

/-- `b` bits are done, and the byte after the last bit of one is the next. -/
def pass_bits (bs : RFX_BITSTREAM) (b : Nat) : RFX_BITSTREAM :=
  if h : bs.bits_left - b = 0 then
    { bs with bits_left := 8, byte_pos := bs.byte_pos + 1, some_left := by decide
              in_byte := by decide }
  else
    { bs with bits_left := bs.bits_left - b, some_left := Nat.pos_of_ne_zero h
              in_byte := Nat.le_trans (Nat.sub_le _ _) bs.in_byte }

/-- The byte at the position. -/
def current (bs : RFX_BITSTREAM) : UInt8 := bs.buffer.getD bs.byte_pos 0

/-- The loop of a read. A turn takes a bit at least, so there are never more turns than bits. -/
def get_bits_loop : Nat → RFX_BITSTREAM → Nat → Nat → Nat × RFX_BITSTREAM
  | 0, bs, _, n => (n, bs)
  | turns + 1, bs, nbits, n =>
    if bs.byte_pos < bs.buffer.length ∧ 0 < nbits then
      let b := min nbits bs.bits_left
      let n := (n <<< b) % 65536 |||
        (((current bs).toNat >>> (bs.bits_left - b)) &&& (2 ^ b - 1))
      get_bits_loop turns (pass_bits bs b) (nbits - b) n
    else (n, bs)

/-- The next bits as a `uint16`. At the end of the buffer there are fewer. -/
def rfx_bitstream_get_bits (nbits : Nat) (bs : RFX_BITSTREAM) : Nat × RFX_BITSTREAM :=
  get_bits_loop nbits bs nbits 0

/-- The bits of the byte from `bits_left` on down are replaced by `bits`. -/
def put_byte (bs : RFX_BITSTREAM) (bits b : Nat) : UInt8 :=
  let shift := bs.bits_left - b
  UInt8.ofNat (((current bs).toNat &&& (255 ^^^ ((2 ^ b - 1) <<< shift))) |||
    ((bits &&& (2 ^ b - 1)) <<< shift))

def store_byte (bs : RFX_BITSTREAM) (byte : UInt8) : RFX_BITSTREAM :=
  { bs with buffer := bs.buffer.set bs.byte_pos byte }

def put_bits_loop : Nat → RFX_BITSTREAM → Nat → Nat → RFX_BITSTREAM
  | 0, bs, _, _ => bs
  | turns + 1, bs, bits, nbits =>
    if bs.byte_pos < bs.buffer.length ∧ 0 < nbits then
      let b := min nbits bs.bits_left
      let bs := store_byte bs (put_byte bs (bits >>> (nbits - b)) b)
      put_bits_loop turns (pass_bits bs b) bits (nbits - b)
    else bs

/-- The low `nbits` bits of a `uint16`. Bits that do not fit into the buffer are dropped. -/
def rfx_bitstream_put_bits (bs : RFX_BITSTREAM) (bits nbits : Nat) : RFX_BITSTREAM :=
  put_bits_loop nbits bs (bits % 65536) nbits

def rfx_bitstream_eos (bs : RFX_BITSTREAM) : Bool := bs.byte_pos ≥ bs.buffer.length

def rfx_bitstream_left (bs : RFX_BITSTREAM) : Nat :=
  if bs.byte_pos ≥ bs.buffer.length then 0
  else (bs.buffer.length - bs.byte_pos - 1) * 8 + bs.bits_left

def rfx_bitstream_get_processed_bytes (bs : RFX_BITSTREAM) : Nat :=
  if bs.bits_left < 8 then bs.byte_pos + 1 else bs.byte_pos

/-! ## The position -/

def RFX_BITSTREAM.pos (bs : RFX_BITSTREAM) : Nat := 8 * bs.byte_pos + (8 - bs.bits_left)

@[simp] theorem pass_bits_buffer (bs : RFX_BITSTREAM) (b : Nat) :
    (pass_bits bs b).buffer = bs.buffer := by
  unfold pass_bits
  split <;> rfl

theorem length_store_byte (bs : RFX_BITSTREAM) (byte : UInt8) :
    (store_byte bs byte).buffer.length = bs.buffer.length := length_set

variable {bs : RFX_BITSTREAM} {b : Nat} {x : List Bool}

theorem pass_bits_pos (bs : RFX_BITSTREAM) (hb : b ≤ bs.bits_left) :
    (pass_bits bs b).pos = bs.pos + b := by
  have hin := bs.in_byte
  unfold pass_bits RFX_BITSTREAM.pos
  split
  · dsimp only
    omega
  · dsimp only
    omega

/-- The bits that are left to read. -/
def RFX_BITSTREAM.ahead (bs : RFX_BITSTREAM) : List Bool := (unpack bs.buffer).drop bs.pos

theorem pass_bits_ahead (bs : RFX_BITSTREAM) (hb : b ≤ bs.bits_left) :
    (pass_bits bs b).ahead = bs.ahead.drop b := by
  unfold RFX_BITSTREAM.ahead
  rw [pass_bits_buffer, pass_bits_pos bs hb, drop_drop]

theorem length_ahead (bs : RFX_BITSTREAM) : bs.ahead.length = rfx_bitstream_left bs := by
  have hin := bs.in_byte
  unfold RFX_BITSTREAM.ahead rfx_bitstream_left RFX_BITSTREAM.pos
  rw [length_drop, length_unpack]
  split <;> omega

theorem rfx_bitstream_eos_iff (bs : RFX_BITSTREAM) :
    rfx_bitstream_eos bs = true ↔ bs.ahead = [] := by
  have hsome := bs.some_left
  rw [← length_eq_zero_iff, length_ahead]
  unfold rfx_bitstream_eos rfx_bitstream_left
  rw [decide_eq_true_eq]
  split <;> omega

theorem buffer_split (h : bs.byte_pos < bs.buffer.length) :
    bs.buffer = bs.buffer.take bs.byte_pos ++ current bs :: bs.buffer.drop (bs.byte_pos + 1) := by
  unfold current
  rw [getD_eq_getElem _ _ h, getElem_cons_drop, take_append_drop]

theorem ahead_split (h : bs.byte_pos < bs.buffer.length) :
    bs.ahead = (byteBits (current bs)).drop (8 - bs.bits_left) ++
      unpack (bs.buffer.drop (bs.byte_pos + 1)) := by
  have hfront : (unpack (bs.buffer.take bs.byte_pos)).length = 8 * bs.byte_pos := by
    rw [length_unpack, length_take, Nat.min_eq_left (by omega)]
  unfold RFX_BITSTREAM.ahead RFX_BITSTREAM.pos
  conv_lhs => rw [buffer_split h]
  rw [unpack_append, unpack_cons, ← hfront, drop_length_add_append,
    drop_append_of_le_length (by rw [length_byteBits]; omega)]

/-! ## Reads -/

theorem current_bits (h : bs.byte_pos < bs.buffer.length) (hb : b ≤ bs.bits_left) :
    ((current bs).toNat >>> (bs.bits_left - b)) &&& (2 ^ b - 1) = ofBits (bs.ahead.take b) := by
  have hin := bs.in_byte
  have htake : bs.ahead.take b = ((byteBits (current bs)).drop (8 - bs.bits_left)).take b := by
    rw [ahead_split h, take_append_of_le_length (by simp; omega)]
  have hbyte : byteBits (current bs) = (byteBits (current bs)).take (8 - bs.bits_left) ++
      (((byteBits (current bs)).drop (8 - bs.bits_left)).take b ++
        (byteBits (current bs)).drop (8 - bs.bits_left + b)) := by
    rw [← drop_drop, take_append_drop, take_append_drop]
  have hmid := ofBits_mid ((byteBits (current bs)).take (8 - bs.bits_left))
    (((byteBits (current bs)).drop (8 - bs.bits_left)).take b)
    ((byteBits (current bs)).drop (8 - bs.bits_left + b))
  rw [← hbyte, ofBits_byteBits, ← htake] at hmid
  simp only [length_drop, length_take, length_byteBits, htake] at hmid ⊢
  rw [Nat.and_two_pow_sub_one_eq_mod, Nat.shiftRight_eq_div_pow, ← hmid]
  congr 3 <;> omega

theorem get_bits_loop.spec (turns : Nat) (bs : RFX_BITSTREAM) (x rest : List Bool) (n : Nat)
    (hturns : x.length ≤ turns) (hahead : bs.ahead = x ++ rest)
    (hword : (n + 1) * 2 ^ x.length ≤ 65536) :
    ∃ bs', get_bits_loop turns bs x.length n = (n * 2 ^ x.length + ofBits x, bs') ∧
      bs'.ahead = rest := by
  induction turns generalizing bs x n with
  | zero =>
    obtain rfl := length_eq_zero_iff.mp (Nat.le_zero.mp hturns)
    exact ⟨bs, by simp [get_bits_loop, ofBits], by simpa using hahead⟩
  | succ turns ih =>
    unfold get_bits_loop
    by_cases hsome : 0 < x.length
    · have hleft := bs.some_left
      have hmore : bs.byte_pos < bs.buffer.length := by
        by_contra hend
        have hnone : bs.ahead = [] :=
          (rfx_bitstream_eos_iff bs).mp (decide_eq_true (Nat.le_of_not_lt hend))
        rw [hnone] at hahead
        have hlen := congrArg length hahead
        simp only [length_nil, length_append] at hlen
        omega
      rw [if_pos ⟨hmore, hsome⟩]
      dsimp only
      generalize hb : min x.length bs.bits_left = b
      have hble : b ≤ bs.bits_left := by omega
      have hbx : b ≤ x.length := by omega
      have htake : bs.ahead.take b = x.take b := by
        rw [hahead, take_append_of_le_length hbx]
      have hlen : (x.take b).length = b := by simp [hbx]
      have hpow : 2 ^ x.length = 2 ^ b * 2 ^ (x.length - b) := by
        rw [← Nat.pow_add]
        congr 1
        omega
      have hpos := Nat.two_pow_pos (x.length - b)
      have hlt := ofBits_lt (x.take b)
      rw [hlen] at hlt
      -- The word still has room for the bits.
      have hroom : (n + 1) * 2 ^ b * 2 ^ (x.length - b) ≤ 65536 := by
        rw [Nat.mul_assoc, ← hpow]
        exact hword
      have hsmall : n * 2 ^ b < 65536 := by
        have h1 : (n + 1) * 2 ^ b ≤ (n + 1) * 2 ^ b * 2 ^ (x.length - b) :=
          Nat.le_mul_of_pos_right _ hpos
        have h2 : (n + 1) * 2 ^ b = n * 2 ^ b + 2 ^ b := by ring
        omega
      have hor : (n <<< b) % 65536 ||| ofBits (x.take b) = n * 2 ^ b + ofBits (x.take b) := by
        rw [Nat.shiftLeft_eq, Nat.mod_eq_of_lt hsmall, ← Nat.shiftLeft_eq,
          ← Nat.shiftLeft_add_eq_or_of_lt hlt]
      rw [current_bits hmore hble, htake, hor]
      have hdrop : (x.drop b).length = x.length - b := length_drop
      have hnext : (n * 2 ^ b + ofBits (x.take b) + 1) * 2 ^ (x.drop b).length ≤ 65536 := by
        rw [hdrop]
        refine Nat.le_trans (Nat.mul_le_mul_right _ ?_) hroom
        have h2 : (n + 1) * 2 ^ b = n * 2 ^ b + 2 ^ b := by ring
        omega
      obtain ⟨bs', hloop, hrest⟩ := ih _ _
        (n * 2 ^ b + ofBits (x.take b)) (by omega)
        (by rw [pass_bits_ahead bs hble, hahead, drop_append_of_le_length hbx]) hnext
      refine ⟨bs', ?_, hrest⟩
      rw [← hdrop, hloop]
      congr 1
      have hwhole := ofBits_append (x.take b) (x.drop b)
      rw [take_append_drop, hdrop] at hwhole
      rw [hwhole, hdrop, hpow]
      ring
    · obtain rfl := length_eq_zero_iff.mp (Nat.le_zero.mp (Nat.le_of_not_lt hsome))
      exact ⟨bs, by simp [ofBits], by simpa using hahead⟩

theorem rfx_bitstream_get_bits.spec {rest : List Bool} (hahead : bs.ahead = x ++ rest)
    (hlen : x.length ≤ 16) :
    ∃ bs', rfx_bitstream_get_bits x.length bs = (ofBits x, bs') ∧ bs'.ahead = rest := by
  have hword : (0 + 1) * 2 ^ x.length ≤ 65536 := by
    rw [Nat.zero_add, Nat.one_mul]
    exact Nat.pow_le_pow_right (by decide) hlen
  obtain ⟨bs', hloop, hrest⟩ := get_bits_loop.spec x.length bs x rest 0 (Nat.le_refl _) hahead hword
  refine ⟨bs', ?_, hrest⟩
  rw [rfx_bitstream_get_bits, hloop, Nat.zero_mul, Nat.zero_add]

/-! ## Writes -/

/-- The bits written so far stand in front of the position. -/
def Written (bs : RFX_BITSTREAM) (x : List Bool) : Prop :=
  bs.pos = x.length ∧ (unpack bs.buffer).take x.length = x

theorem written_attach (buffer : List UInt8) : Written (rfx_bitstream_attach buffer) [] :=
  ⟨rfl, rfl⟩

theorem rfx_bitstream_left_of_written (h : Written bs x) :
    rfx_bitstream_left bs = 8 * bs.buffer.length - x.length := by
  rw [← length_ahead, RFX_BITSTREAM.ahead, length_drop, length_unpack, h.1]

theorem written_turn (h : Written bs x) (hmore : bs.byte_pos < bs.buffer.length)
    (hb : b ≤ bs.bits_left) (v : Nat) :
    Written (pass_bits (store_byte bs (put_byte bs v b)) b) (x ++ toBits b v) := by
  have hin := bs.in_byte
  have hpos := h.1
  unfold RFX_BITSTREAM.pos at hpos
  have hfront : (unpack (bs.buffer.take bs.byte_pos)).length = 8 * bs.byte_pos := by
    rw [length_unpack, length_take, Nat.min_eq_left (by omega)]
  -- The bits that stood there are the bytes in front and the start of this byte.
  have hx : x = unpack (bs.buffer.take bs.byte_pos) ++
      (byteBits (current bs)).take (8 - bs.bits_left) := by
    have hold := h.2
    rw [buffer_split hmore, unpack_append, unpack_cons, ← hpos, ← hfront,
      take_length_add_append, take_append_of_le_length (by simp)] at hold
    exact hold.symm
  have hbyte : byteBits (put_byte bs v b) = (byteBits (current bs)).take (8 - bs.bits_left) ++
      (toBits b v ++ (byteBits (current bs)).drop (8 - (bs.bits_left - b))) := by
    have hnew := toBits_overwrite (w := 8) (s := bs.bits_left - b) (b := b)
      (c := (current bs).toNat) (v := v) (by omega)
    have hstart : 8 - (bs.bits_left - b) - b = 8 - bs.bits_left := by omega
    rw [hstart] at hnew
    unfold put_byte byteBits
    rw [UInt8.toNat_ofNat', toBits_mod]
    exact hnew
  have hset : (store_byte bs (put_byte bs v b)).buffer = bs.buffer.take bs.byte_pos ++
      put_byte bs v b :: bs.buffer.drop (bs.byte_pos + 1) := by
    unfold store_byte
    rw [set_eq_take_append_cons_drop, if_pos hmore]
  constructor
  · rw [pass_bits_pos (store_byte bs _) hb, length_append, length_toBits,
      ← h.1]
    rfl
  · rw [pass_bits_buffer, hset, unpack_append, unpack_cons, hbyte]
    conv_rhs => rw [hx]
    rw [← append_assoc, ← append_assoc, ← append_assoc, ← hx, append_assoc, take_left']
    rfl

theorem put_bits_loop.spec (turns : Nat) (bs : RFX_BITSTREAM) (x : List Bool) (bits nbits : Nat)
    (hturns : nbits ≤ turns) (h : Written bs x) (hroom : nbits ≤ rfx_bitstream_left bs) :
    Written (put_bits_loop turns bs bits nbits) (x ++ toBits nbits bits) ∧
      (put_bits_loop turns bs bits nbits).buffer.length = bs.buffer.length := by
  induction turns generalizing bs x nbits with
  | zero =>
    obtain rfl := Nat.le_zero.mp hturns
    exact ⟨by simpa [put_bits_loop, toBits] using h, rfl⟩
  | succ turns ih =>
    unfold put_bits_loop
    by_cases hsome : 0 < nbits
    · have hleft := bs.some_left
      have hmore : bs.byte_pos < bs.buffer.length := by
        by_contra hend
        rw [rfx_bitstream_left, if_pos (Nat.le_of_not_lt hend)] at hroom
        omega
      rw [if_pos ⟨hmore, hsome⟩]
      generalize hb : min nbits bs.bits_left = b
      have hble : b ≤ bs.bits_left := by omega
      have hturn := written_turn h hmore hble (bits >>> (nbits - b))
      rw [rfx_bitstream_left_of_written h] at hroom
      have hnext := ih _ _ (nbits - b) (by omega) hturn (by
        rw [rfx_bitstream_left_of_written hturn, pass_bits_buffer, length_store_byte,
          length_append, length_toBits]
        omega)
      rw [pass_bits_buffer, length_store_byte] at hnext
      refine ⟨?_, hnext.2⟩
      have hbits : toBits nbits bits = toBits b (bits >>> (nbits - b)) ++
          toBits (nbits - b) bits := by
        rw [Nat.shiftRight_eq_div_pow, ← toBits_add]
        congr 1
        omega
      rw [hbits, ← append_assoc]
      exact hnext.1
    · obtain rfl := Nat.le_zero.mp (Nat.le_of_not_lt hsome)
      rw [if_neg fun hc => hsome hc.2]
      exact ⟨by simpa [toBits] using h, rfl⟩

theorem rfx_bitstream_put_bits.spec (h : Written bs x) {bits nbits : Nat}
    (hroom : nbits ≤ rfx_bitstream_left bs) (hword : nbits ≤ 16) :
    Written (rfx_bitstream_put_bits bs bits nbits) (x ++ toBits nbits bits) ∧
      (rfx_bitstream_put_bits bs bits nbits).buffer.length = bs.buffer.length := by
  have hlow : toBits nbits (bits % 65536) = toBits nbits bits := by
    rw [← toBits_mod, ← toBits_mod nbits bits]
    congr 1
    exact Nat.mod_mod_of_dvd bits (Nat.pow_dvd_pow 2 hword)
  rw [← hlow]
  exact put_bits_loop.spec nbits bs x _ nbits (Nat.le_refl _) h hroom

end neutrinordp.rfx
