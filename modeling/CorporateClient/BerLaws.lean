-- The basic encoding rules as a whole: each writer with its reader, and with the function that says
-- how long the result will be. All of them agree for the integers under 0xFF80. Above, the size
-- and the writer have other limits, and four bytes come back with their halves swapped.
import CorporateClient.Ber

namespace neutrinordp.ber

open bytes codec stream

/-! ## The other tags and values -/

def BER_CLASS_APPL : UInt8 := 0x40
def BER_TAG_BOOLEAN : UInt8 := 0x01

def ber_read_application_tag (tag : UInt8) (length : Int) : StateM STREAM (Bool × Int) := do
  if tag > 30 then
    let byte ← stream_read_uint8
    if byte ≠ BER_CLASS_APPL ||| BER_CONSTRUCT ||| BER_TAG_MASK then return (false, length)
    else
      let byte ← stream_read_uint8
      if byte ≠ tag then return (false, length)
      else
        let length ← ber_read_length length
        return (true, length)
  else
    let byte ← stream_read_uint8
    if byte ≠ BER_CLASS_APPL ||| BER_CONSTRUCT ||| (BER_TAG_MASK &&& tag) then
      return (false, length)
    else
      let length ← ber_read_length length
      return (true, length)

def ber_write_application_tag (tag : UInt8) (length : Nat) : StateM STREAM Unit := do
  if tag > 30 then
    modify (stream_write_uint8 · (BER_CLASS_APPL ||| BER_CONSTRUCT ||| BER_TAG_MASK).toNat)
    modify (stream_write_uint8 · tag.toNat)
    let _ ← ber_write_length length
  else
    modify (stream_write_uint8 ·
      (BER_CLASS_APPL ||| BER_CONSTRUCT ||| (BER_TAG_MASK &&& tag)).toNat)
    let _ ← ber_write_length length

/-- `length` is what the local variable holds before, and `value` what the caller has. -/
def ber_read_boolean (length : Int) (value : Bool) : StateM STREAM (Bool × Bool) := do
  if ← ber_read_universal_tag BER_TAG_BOOLEAN false then
    let length ← ber_read_length length
    if length ≠ 1 then return (false, value)
    else
      let v ← stream_read_uint8
      return (true, v ≠ 0)
  else return (false, value)

def ber_write_boolean (value : Bool) : StateM STREAM Unit := do
  ber_write_universal_tag BER_TAG_BOOLEAN false
  let _ ← ber_write_length 1
  modify (stream_write_uint8 · (if value then 0xFF else 0))

/-! ## Writers with their readers -/

/-- The writer emits `size` bytes, and the reader takes exactly these and gives `v`. -/
def RoundTrip {α β : Type} (write : StateM STREAM α) (size : Nat) (read : StateM STREAM β)
    (v : β) : Prop :=
  ∃ bs r, Writes out write bs r ∧ bs.length = size ∧ Reads Rest read bs v

variable {length : Nat}

theorem round_trip_length (h : length < 65536) (old : Int) :
    RoundTrip (ber_write_length length) (_ber_skip_length length) (ber_read_length old)
      (length : Int) :=
  ⟨_, _, writes_length length, length_lengthBytes length, reads_length h old⟩

def applicationBytes (tag : UInt8) : List UInt8 :=
  if tag > 30 then [BER_CLASS_APPL ||| BER_CONSTRUCT ||| BER_TAG_MASK, tag]
  else [BER_CLASS_APPL ||| BER_CONSTRUCT ||| (BER_TAG_MASK &&& tag)]

theorem round_trip_application_tag (tag : UInt8) (h : length < 65536) (old : Int) :
    RoundTrip (ber_write_application_tag tag length)
      ((applicationBytes tag).length + _ber_skip_length length)
      (ber_read_application_tag tag old) (true, (length : Int)) := by
  refine ⟨applicationBytes tag ++ lengthBytes length, (), ?_, by simp, ?_⟩
  · unfold ber_write_application_tag applicationBytes
    split
    · exact (writes_byte _).bind ((writes_byte tag).bind ((writes_length length).last (.pure _)))
    · exact (writes_byte _).bind ((writes_length length).last (.pure _))
  · have hlength : Reads Rest (do let length ← ber_read_length old; return (true, length))
        (lengthBytes length) (true, (length : Int)) := (reads_length h old).last (.pure _)
    unfold ber_read_application_tag applicationBytes
    split
    · refine (reads_uint8 _).bind ?_
      refine (reads_uint8 tag).bind ?_
      rw [if_neg (not_not.mpr rfl)]
      exact hlength
    · refine (reads_uint8 _).bind ?_
      rw [if_neg (not_not.mpr rfl)]
      exact hlength

theorem round_trip_contextual_tag (tag : UInt8) (h : length < 65536) (old : Int) (pc : Bool) :
    RoundTrip (ber_write_contextual_tag tag length pc) (ber_skip_contextual_tag length)
      (ber_read_contextual_tag tag old pc) (true, (length : Int)) := by
  refine ⟨header (BER_CLASS_CTXT ||| BER_PC pc ||| (BER_TAG_MASK &&& tag)) length,
    ber_skip_contextual_tag length, ?_, length_header _ _, ?_⟩
  · exact (writes_byte _).bind ((writes_length length).last (.pure _))
  · unfold ber_read_contextual_tag
    apply Reads.bind (a := [_]) (reads_uint8 _)
    rw [if_neg (not_not.mpr rfl)]
    exact (reads_length h old).last (.pure _)

theorem round_trip_sequence_tag (h : length < 65536) (old : Int) :
    RoundTrip (ber_write_sequence_tag length) (ber_skip_sequence_tag length)
      (ber_read_sequence_tag old) (true, (length : Int)) := by
  refine ⟨_, _, writes_sequence_tag length, ?_, reads_sequence_tag h old⟩
  rw [length_header, ber_skip_contextual_tag, ber_skip_sequence_tag, Nat.add_comm]

theorem round_trip_octet_string_tag (h : length < 65536) (old : Int) :
    RoundTrip (ber_write_octet_string_tag length) (ber_skip_sequence_tag length)
      (ber_read_octet_string old) (true, (length : Int)) := by
  refine ⟨_, _, writes_octet_string_tag length, ?_, reads_octet_string h old⟩
  rw [length_header, ber_skip_contextual_tag, ber_skip_sequence_tag, Nat.add_comm]

def booleanTag : UInt8 :=
  BER_CLASS_UNIV ||| BER_PC false ||| (BER_TAG_MASK &&& BER_TAG_BOOLEAN)

theorem round_trip_boolean (value : Bool) (old : Int) (held : Bool) :
    RoundTrip (ber_write_boolean value) 3 (ber_read_boolean old held) (true, value) := by
  refine ⟨[booleanTag] ++ (lengthBytes 1 ++ [UInt8.ofNat (if value then 0xFF else 0)]), (),
    ?_, rfl, ?_⟩
  · exact (writes_byte booleanTag).bind ((writes_length 1).bind (writes_uint8 _))
  · have htag : Reads Rest (ber_read_universal_tag BER_TAG_BOOLEAN false) [booleanTag] true :=
      (reads_uint8 booleanTag).last (.pure _)
    refine htag.bind ?_
    refine (reads_length (show 1 < 65536 by decide) old).bind ?_
    apply (reads_uint8 _).last
    cases value with
    | false => exact .pure _
    | true => exact .pure _

/-! ## Integers -/

/-- The bytes of an integer. -/
def integerBytes (value : Nat) : List UInt8 :=
  if value ≤ 0xFF then header integerTag 1 ++ [UInt8.ofNat value]
  else if value < 0xFF80 then header integerTag 2 ++ be16 value
  else if value < 0xFF8000 then
    header integerTag 3 ++ ([UInt8.ofNat (value >>> 16)] ++ be16 (value &&& 0xFFFF))
  else header integerTag 4 ++ (be16 ((value >>> 16) &&& 0xFFFF) ++ be16 (value &&& 0xFFFF))

/-- What is read back. The halves of four bytes are swapped. -/
def integerRead (value : Nat) : Nat :=
  if value < 0xFF8000 then value else value % 65536 * 65536 + value / 65536

theorem writes_uint32_be (value : Nat) :
    Writes out (modify (stream_write_uint32_be · value))
      (be16 ((value >>> 16) &&& 0xFFFF) ++ be16 (value &&& 0xFFFF)) () := by
  intro s hs
  have htwo := stream_write_write s (be16 ((value >>> 16) &&& 0xFFFF)) (be16 (value &&& 0xFFFF)) hs
  exact congrArg (Prod.mk ()) htwo

theorem writes_any_integer (value : Nat) :
    ∃ r, Writes out (ber_write_integer value) (integerBytes value) r := by
  unfold ber_write_integer integerBytes
  split
  · exact ⟨2, (writes_byte integerTag).bind
      ((writes_length 1).bind ((writes_uint8 value).last (.pure 2)))⟩
  split
  · exact ⟨3, (writes_byte integerTag).bind
      ((writes_length 2).bind ((writes_uint16_be value).last (.pure 3)))⟩
  split
  · exact ⟨4, (writes_byte integerTag).bind ((writes_length 3).bind
      ((writes_uint8 _).bind ((writes_uint16_be _).last (.pure 4))))⟩
  · exact ⟨5, (writes_byte integerTag).bind
      ((writes_length 4).bind ((writes_uint32_be value).last (.pure 5)))⟩

theorem reads_uint32_be (high low : Nat) (hhigh : high < 65536) (hlow : low < 65536) :
    Reads Rest stream_read_uint32_be (be16 high ++ be16 low) (low * 65536 + high) := by
  have hvalue : ((UInt8.ofNat (high >>> 8)).toNat <<< 8) + (UInt8.ofNat high).toNat +
      ((UInt8.ofNat (low >>> 8)).toNat <<< 24) + ((UInt8.ofNat low).toNat <<< 16) =
      low * 65536 + high := by
    simp only [UInt8.toNat_ofNat', Nat.shiftLeft_eq, Nat.shiftRight_eq_div_pow]
    omega
  rw [← hvalue]
  exact (reads_uint8 _).bind ((reads_uint8 _).bind
    ((reads_uint8 _).bind ((reads_uint8 _).last (.pure _))))

theorem reads_any_integer {value : Nat} (h : value < 4294967296) (old : Int) (held : Nat) :
    Reads Rest (ber_read_integer old held) (integerBytes value) (true, integerRead value) := by
  have htag : Reads Rest (ber_read_universal_tag BER_TAG_INTEGER false) [integerTag] true :=
    (reads_uint8 integerTag).last (.pure _)
  have hand : ∀ n, n &&& 0xFFFF = n % 65536 := fun n => Nat.and_two_pow_sub_one_eq_mod n 16
  unfold integerBytes integerRead
  split
  · rw [if_pos (by omega)]
    rename_i hbyte
    exact reads_integer hbyte old held
  split
  · rw [if_pos (by omega)]
    refine htag.bind ((reads_length (show 2 < 65536 by decide) old).bind ?_)
    exact (reads_uint16_be_of_lt (by omega)).last (.pure _)
  split
  · rw [hand]
    have hvalue : value % 65536 + ((UInt8.ofNat (value >>> 16)).toNat <<< 16) = value := by
      simp only [UInt8.toNat_ofNat', Nat.shiftLeft_eq, Nat.shiftRight_eq_div_pow]
      omega
    refine htag.bind ((reads_length (show 3 < 65536 by decide) old).bind ?_)
    refine (reads_uint8 _).bind ((reads_uint16_be_of_lt (Nat.mod_lt _ (by decide))).last ?_)
    rw [hvalue]
    exact .pure _
  · have hhigh : (value >>> 16) % 65536 = value / 65536 := by
      omega
    rw [hand, hand, hhigh]
    refine htag.bind ((reads_length (show 4 < 65536 by decide) old).bind ?_)
    exact (reads_uint32_be _ _ (by omega) (Nat.mod_lt _ (by decide))).last (.pure _)

theorem length_integerBytes (value : Nat) :
    (integerBytes value).length =
      if value ≤ 0xFF then 3 else if value < 0xFF80 then 4
      else if value < 0xFF8000 then 5 else 6 := by
  unfold integerBytes
  split_ifs <;> rfl

/-- The limits at which the writer, the reader and the function for the size agree. -/
def GoodInteger (value : Nat) : Prop :=
  value < 0xFF80 ∨ (0xFF8000 ≤ value ∧ value / 65536 = value % 65536)

instance (value : Nat) : Decidable (GoodInteger value) := by
  unfold GoodInteger
  infer_instance

theorem round_trip_integer {value : Nat} (h : value < 4294967296) (old : Int) (held : Nat) :
    RoundTrip (ber_write_integer value) (ber_skip_integer value) (ber_read_integer old held)
      (true, value) ↔ GoodInteger value := by
  obtain ⟨r, hwrites⟩ := writes_any_integer value
  have hreads := reads_any_integer h old held
  have hsize : (integerBytes value).length = ber_skip_integer value ∧ integerRead value = value ↔
      GoodInteger value := by
    rw [length_integerBytes]
    unfold ber_skip_integer _ber_skip_length integerRead GoodInteger
    split_ifs <;> omega
  rw [← hsize]
  constructor
  · rintro ⟨bs, r', hwrites', hlength, hreads'⟩
    obtain rfl := writes_unique hwrites hwrites'
    have hsame := reads_unique hreads hreads'
    exact ⟨hlength, (Prod.mk.inj hsame).2⟩
  · rintro ⟨hlength, hvalue⟩
    rw [hvalue] at hreads
    exact ⟨_, r, hwrites, hlength, hreads⟩

/-! ## All of it -/

/-- Each writer with its reader and its size, for a value, a length, a tag and a flag. `old` and
`held` are what the variables of the readers hold before. -/
structure SelfConsistent (value length : Nat) (tag : UInt8) (pc flag : Bool) (old : Int)
    (held : Nat) : Prop where
  length_bytes : RoundTrip (ber_write_length length) (_ber_skip_length length) (ber_read_length old)
    (length : Int)
  application_tag : RoundTrip (ber_write_application_tag tag length)
    ((applicationBytes tag).length + _ber_skip_length length) (ber_read_application_tag tag old)
    (true, (length : Int))
  contextual_tag : RoundTrip (ber_write_contextual_tag tag length pc)
    (ber_skip_contextual_tag length) (ber_read_contextual_tag tag old pc) (true, (length : Int))
  sequence_tag : RoundTrip (ber_write_sequence_tag length) (ber_skip_sequence_tag length)
    (ber_read_sequence_tag old) (true, (length : Int))
  sequence : ber_skip_sequence length = ber_skip_sequence_tag length + length
  octet_string_tag : RoundTrip (ber_write_octet_string_tag length) (ber_skip_sequence_tag length)
    (ber_read_octet_string old) (true, (length : Int))
  octet_string : ∀ oct_str : List UInt8, oct_str.length = length →
    ∃ bs, Writes out (ber_write_octet_string oct_str length) bs () ∧
      bs.length = ber_skip_octet_string length
  boolean : RoundTrip (ber_write_boolean flag) 3 (ber_read_boolean old flag.not) (true, flag)
  integer : RoundTrip (ber_write_integer value) (ber_skip_integer value)
    (ber_read_integer old held) (true, value)

/-- The layer is consistent for every length, tag and flag, and for the integers under 0xFF80 and
those of four bytes with two equal halves. -/
theorem ber_is_consistent_exactly_for_good_integers (value : UInt32) (length : UInt16)
    (tag : UInt8) (pc flag : Bool) (old : Int) (held : Nat) :
    SelfConsistent value.toNat length.toNat tag pc flag old held ↔ GoodInteger value.toNat := by
  have hlength := length.toNat_lt
  rw [← round_trip_integer value.toNat_lt old held]
  refine ⟨SelfConsistent.integer, fun hinteger => ?_⟩
  refine ⟨round_trip_length hlength old, round_trip_application_tag tag hlength old,
    round_trip_contextual_tag tag hlength old pc, round_trip_sequence_tag hlength old, rfl,
    round_trip_octet_string_tag hlength old, ?_, round_trip_boolean flag old _, hinteger⟩
  intro oct_str hstring
  refine ⟨_, writes_octet_string oct_str length.toNat, ?_⟩
  rw [List.length_append, length_header, List.length_take, hstring, Nat.min_self,
    ber_skip_contextual_tag, ber_skip_octet_string, Nat.add_comm 1]

/-- The value 0x12345678 comes back as 0x56781234, and 0xFF80 is one byte longer than its size. -/
theorem two_bad_integers :
    (Reads Rest (ber_read_integer 0 0) (integerBytes 0x12345678) (true, 0x56781234) ∧
      ¬ RoundTrip (ber_write_integer 0x12345678) (ber_skip_integer 0x12345678)
        (ber_read_integer 0 0) (true, 0x12345678)) ∧
    ((integerBytes 0xFF80).length = 5 ∧ ber_skip_integer 0xFF80 = 4 ∧
      ¬ RoundTrip (ber_write_integer 0xFF80) (ber_skip_integer 0xFF80) (ber_read_integer 0 0)
        (true, 0xFF80)) := by
  refine ⟨⟨reads_any_integer (by decide) 0 0, ?_⟩, rfl, rfl, ?_⟩
  · rw [round_trip_integer (by decide)]
    decide
  · rw [round_trip_integer (by decide)]
    decide

end neutrinordp.ber
