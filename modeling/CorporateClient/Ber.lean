-- The basic encoding rules (ber.c): tags, lengths and the values that CredSSP needs. A
-- length is one byte, or the byte 0x82 and two more bytes.
import CorporateClient.StreamCodec

namespace neutrinordp.ber

open bytes codec stream

/-! ## Lengths -/

/-- Reads a length. For a form that the code does not know, the length of the caller stays
as it was. -/
def ber_read_length (length : Int) : StateM STREAM Int := do
  let byte ← stream_read_uint8
  if byte &&& 0x80 ≠ 0 then
    let byte := byte &&& 0x7F
    if byte = 1 then
      let v ← stream_read_uint8
      return v.toNat
    else if byte = 2 then
      let v ← stream_read_uint16_be
      return v
    else return length
  else return byte.toNat

def ber_write_length (length : Nat) : StateM STREAM Nat :=
  if length > 0x7F then do
    modify (stream_write_uint8 · 0x82)
    modify (stream_write_uint16_be · length)
    return 3
  else do
    modify (stream_write_uint8 · length)
    return 1

def _ber_skip_length (length : Nat) : Nat := if length > 0x7F then 3 else 1

/-- The length of the content, from the length with the tag. No caller has a length
under 2. -/
def ber_get_content_length (length : Nat) : Nat :=
  if length - 1 > 0x7F then length - 4 else length - 2

/-! ## Tags -/

def BER_CLASS_UNIV : UInt8 := 0x00
def BER_CLASS_CTXT : UInt8 := 0x80
def BER_CONSTRUCT : UInt8 := 0x20
def BER_PRIMITIVE : UInt8 := 0x00
def BER_TAG_MASK : UInt8 := 0x1F
def BER_TAG_INTEGER : UInt8 := 0x02
def BER_TAG_OCTET_STRING : UInt8 := 0x04
def BER_TAG_SEQUENCE : UInt8 := 0x10

def BER_PC (pc : Bool) : UInt8 := if pc then BER_CONSTRUCT else BER_PRIMITIVE

def ber_read_universal_tag (tag : UInt8) (pc : Bool) : StateM STREAM Bool := do
  let byte ← stream_read_uint8
  return byte = BER_CLASS_UNIV ||| BER_PC pc ||| (BER_TAG_MASK &&& tag)

def ber_write_universal_tag (tag : UInt8) (pc : Bool) : StateM STREAM Unit :=
  modify (stream_write_uint8 · (BER_CLASS_UNIV ||| BER_PC pc ||| (BER_TAG_MASK &&& tag)).toNat)

/-- Without the tag, the byte is not taken. -/
def ber_read_contextual_tag (tag : UInt8) (length : Int) (pc : Bool) :
    StateM STREAM (Bool × Int) := do
  let byte ← stream_read_uint8
  if byte ≠ BER_CLASS_CTXT ||| BER_PC pc ||| (BER_TAG_MASK &&& tag) then
    modify fun s => stream_set_pos s (s.pos - 1)
    return (false, length)
  else
    let length ← ber_read_length length
    return (true, length)

def ber_write_contextual_tag (tag : UInt8) (length : Nat) (pc : Bool) : StateM STREAM Nat := do
  modify (stream_write_uint8 · (BER_CLASS_CTXT ||| BER_PC pc ||| (BER_TAG_MASK &&& tag)).toNat)
  let n ← ber_write_length length
  return n + 1

def ber_skip_contextual_tag (length : Nat) : Nat := _ber_skip_length length + 1

/-- Without the tag, the byte is taken, but no length is read. -/
def ber_read_sequence_tag (length : Int) : StateM STREAM (Bool × Int) := do
  let byte ← stream_read_uint8
  if byte ≠ BER_CLASS_UNIV ||| BER_CONSTRUCT ||| BER_TAG_SEQUENCE then return (false, length)
  else
    let length ← ber_read_length length
    return (true, length)

def ber_write_sequence_tag (length : Nat) : StateM STREAM Nat := do
  modify (stream_write_uint8 ·
    (BER_CLASS_UNIV ||| BER_CONSTRUCT ||| (BER_TAG_MASK &&& BER_TAG_SEQUENCE)).toNat)
  let n ← ber_write_length length
  return n + 1

def ber_skip_sequence (length : Nat) : Nat := 1 + _ber_skip_length length + length

def ber_skip_sequence_tag (length : Nat) : Nat := 1 + _ber_skip_length length

/-! ## Values -/

def ber_read_octet_string (length : Int) : StateM STREAM (Bool × Int) := do
  let _ ← ber_read_universal_tag BER_TAG_OCTET_STRING false
  let length ← ber_read_length length
  return (true, length)

/-- Writes the first `length` bytes of `oct_str`. No caller asks for more than there are. -/
def ber_write_octet_string (oct_str : List UInt8) (length : Nat) : StateM STREAM Unit := do
  ber_write_universal_tag BER_TAG_OCTET_STRING false
  let _ ← ber_write_length length
  modify (stream_write · (oct_str.take length))

def ber_write_octet_string_tag (length : Nat) : StateM STREAM Nat := do
  ber_write_universal_tag BER_TAG_OCTET_STRING false
  let _ ← ber_write_length length
  return 1 + _ber_skip_length length

def ber_skip_octet_string (length : Nat) : Nat := 1 + _ber_skip_length length + length

/-- The number that four bytes hold for `stream_read_uint32_be`. -/
def stream_read_uint32_be : StateM STREAM Nat := do
  let a ← stream_read_uint8
  let b ← stream_read_uint8
  let c ← stream_read_uint8
  let d ← stream_read_uint8
  return (a.toNat <<< 8) + b.toNat + (c.toNat <<< 24) + (d.toNat <<< 16)

def stream_write_uint32_be (s : STREAM) (v : Nat) : STREAM :=
  stream_write_uint16_be (stream_write_uint16_be s ((v >>> 16) &&& 0xFFFF)) (v &&& 0xFFFF)

/-- `length` is what the local variable holds before a length is read, and `value` what the
variable of the caller holds. -/
def ber_read_integer (length : Int) (value : Nat) : StateM STREAM (Bool × Nat) := do
  let _ ← ber_read_universal_tag BER_TAG_INTEGER false
  let length ← ber_read_length length
  if length = 1 then
    let v ← stream_read_uint8
    return (true, v.toNat)
  else if length = 2 then
    let v ← stream_read_uint16_be
    return (true, v)
  else if length = 3 then
    let byte ← stream_read_uint8
    let v ← stream_read_uint16_be
    return (true, v + (byte.toNat <<< 16))
  else if length = 4 then
    let v ← stream_read_uint32_be
    return (true, v)
  else return (false, value)

def ber_write_integer (value : Nat) : StateM STREAM Nat := do
  ber_write_universal_tag BER_TAG_INTEGER false
  if value ≤ 0xFF then
    let _ ← ber_write_length 1
    modify (stream_write_uint8 · value)
    return 2
  else if value < 0xFF80 then
    let _ ← ber_write_length 2
    modify (stream_write_uint16_be · value)
    return 3
  else if value < 0xFF8000 then
    let _ ← ber_write_length 3
    modify (stream_write_uint8 · (value >>> 16))
    modify (stream_write_uint16_be · (value &&& 0xFFFF))
    return 4
  else
    let _ ← ber_write_length 4
    modify (stream_write_uint32_be · value)
    return 5

def ber_skip_integer (value : Nat) : Nat :=
  if value ≤ 0xFF then _ber_skip_length 1 + 2
  else if value ≤ 0xFFFF then _ber_skip_length 2 + 3
  else _ber_skip_length 4 + 5

/-! ## What is written, and what is read back -/

/-- The bytes of a length. -/
def lengthBytes (length : Nat) : List UInt8 :=
  if length > 0x7F then 0x82 :: be16 length else [UInt8.ofNat length]

@[simp] theorem length_lengthBytes (length : Nat) :
    (lengthBytes length).length = _ber_skip_length length := by
  unfold lengthBytes _ber_skip_length
  split
  · rfl
  · rfl

theorem writes_length (length : Nat) :
    Writes out (ber_write_length length) (lengthBytes length) (_ber_skip_length length) := by
  unfold ber_write_length lengthBytes _ber_skip_length
  split
  · exact (writes_uint8 0x82).bind ((writes_uint16_be length).last (.pure 3))
  · exact (writes_uint8 length).last (.pure 1)

variable {length : Nat}

theorem reads_length (h : length < 65536) (old : Int) :
    Reads Rest (ber_read_length old) (lengthBytes length) (length : Int) := by
  unfold ber_read_length lengthBytes
  split
  · exact (reads_uint8 0x82).bind ((reads_uint16_be_of_lt h).last (.pure _))
  · rename_i hshort
    have hbyte : (UInt8.ofNat length).toNat = length := by
      rw [UInt8.toNat_ofNat']
      omega
    have hbit : ¬ UInt8.ofNat length &&& 0x80 ≠ 0 := by
      rw [and_0x80, hbyte]
      omega
    apply (reads_uint8 _).last
    rw [if_neg hbit, hbyte]
    exact .pure _

def contextualTag (tag : UInt8) : UInt8 :=
  BER_CLASS_CTXT ||| BER_PC true ||| (BER_TAG_MASK &&& tag)

def sequenceTag : UInt8 := BER_CLASS_UNIV ||| BER_CONSTRUCT ||| BER_TAG_SEQUENCE

def octetStringTag : UInt8 :=
  BER_CLASS_UNIV ||| BER_PC false ||| (BER_TAG_MASK &&& BER_TAG_OCTET_STRING)

def integerTag : UInt8 :=
  BER_CLASS_UNIV ||| BER_PC false ||| (BER_TAG_MASK &&& BER_TAG_INTEGER)

/-- A tag and a length. -/
def header (tag : UInt8) (length : Nat) : List UInt8 := tag :: lengthBytes length

/-- A tag, the length of a content, and the content. -/
def tlv (tag : UInt8) (content : List UInt8) : List UInt8 := header tag content.length ++ content

variable (tag : UInt8)

@[simp] theorem length_header (length : Nat) :
    (header tag length).length = ber_skip_contextual_tag length := by
  unfold header ber_skip_contextual_tag
  rw [List.length_cons, length_lengthBytes]

@[simp] theorem length_tlv (content : Bytes) :
    (tlv tag content).length = ber_skip_contextual_tag content.length + content.length := by
  unfold tlv
  rw [List.length_append, length_header]

theorem writes_contextual_tag (length : Nat) :
    Writes out (ber_write_contextual_tag tag length true) (header (contextualTag tag) length)
      (ber_skip_contextual_tag length) :=
  (writes_byte _).bind ((writes_length length).last (.pure _))

theorem writes_sequence_tag (length : Nat) :
    Writes out (ber_write_sequence_tag length) (header sequenceTag length)
      (ber_skip_contextual_tag length) :=
  (writes_byte sequenceTag).bind ((writes_length length).last (.pure _))

theorem writes_octet_string_tag (length : Nat) :
    Writes out (ber_write_octet_string_tag length) (header octetStringTag length)
      (ber_skip_sequence_tag length) :=
  (writes_byte octetStringTag).bind ((writes_length length).last (.pure _))

theorem writes_octet_string (oct_str : Bytes) (length : Nat) :
    Writes out (ber_write_octet_string oct_str length)
      (header octetStringTag length ++ oct_str.take length) () := by
  exact (writes_byte octetStringTag).bind ((writes_length length).bind (writes_bytes _))

theorem writes_integer {value : Nat} (h : value ≤ 0xFF) :
    Writes out (ber_write_integer value) (header integerTag 1 ++ [UInt8.ofNat value]) 2 := by
  unfold ber_write_integer
  rw [if_pos h]
  exact (writes_byte integerTag).bind
    ((writes_length 1).bind ((writes_uint8 value).last (.pure 2)))

theorem reads_contextual_tag (h : length < 65536) (old : Int) :
    Reads Rest (ber_read_contextual_tag tag old true) (header (contextualTag tag) length)
      (true, (length : Int)) := by
  apply Reads.bind (a := [_]) (reads_uint8 _)
  have htag : ¬ contextualTag tag ≠ BER_CLASS_CTXT ||| BER_PC true ||| (BER_TAG_MASK &&& tag) :=
    not_not.mpr rfl
  rw [if_neg htag]
  exact (reads_length h old).last (.pure _)

theorem reads_sequence_tag (h : length < 65536) (old : Int) :
    Reads Rest (ber_read_sequence_tag old) (header sequenceTag length) (true, (length : Int)) := by
  apply Reads.bind (a := [_]) (reads_uint8 _)
  have htag : ¬ sequenceTag ≠ BER_CLASS_UNIV ||| BER_CONSTRUCT ||| BER_TAG_SEQUENCE :=
    not_not.mpr rfl
  rw [if_neg htag]
  exact (reads_length h old).last (.pure _)

theorem reads_octet_string (h : length < 65536) (old : Int) :
    Reads Rest (ber_read_octet_string old) (header octetStringTag length)
      (true, (length : Int)) := by
  have htag : Reads Rest (ber_read_universal_tag BER_TAG_OCTET_STRING false) [octetStringTag]
      true := (reads_uint8 octetStringTag).last (.pure _)
  exact htag.bind ((reads_length h old).last (.pure _))

theorem reads_integer {value : Nat} (h : value ≤ 0xFF) (old : Int) (held : Nat) :
    Reads Rest (ber_read_integer old held) (header integerTag 1 ++ [UInt8.ofNat value])
      (true, value) := by
  have htag : Reads Rest (ber_read_universal_tag BER_TAG_INTEGER false) [integerTag] true :=
    (reads_uint8 integerTag).last (.pure _)
  have hvalue : (UInt8.ofNat value).toNat = value := by
    rw [UInt8.toNat_ofNat']
    omega
  have hread : Reads Rest (do let v ← stream_read_uint8; return (true, v.toNat))
      [UInt8.ofNat value] (true, value) := by
    apply (reads_uint8 _).last
    rw [hvalue]
    exact .pure _
  exact htag.bind ((reads_length (show 1 < 65536 by decide) old).bind hread)

theorem no_contextual_tag {tag : UInt8} {s : STREAM} {b : UInt8} {bs : Bytes}
    (hs : Rest s (b :: bs)) (h : b ≠ contextualTag tag) (old : Int) :
    ber_read_contextual_tag tag old true s = ((false, old), s) := by
  have hb : byte_at s s.pos = b := hs.byte (a := [b]) 0 rfl
  show (if byte_at s s.pos ≠ contextualTag tag then _ else _ : StateM STREAM (Bool × Int))
    (stream_seek s 1) = _
  rw [hb, if_pos h]
  rfl

/-! ## Reads past the size -/

theorem ignores_size_length (old : Int) : IgnoresSize (ber_read_length old) := by
  apply ignores_size_uint8.bind
  intro byte
  apply IgnoresSize.ite
  · apply IgnoresSize.ite
    · exact ignores_size_uint8.bind fun _ => .pure _
    · apply IgnoresSize.ite
      · exact ignores_size_uint16_be.bind fun _ => .pure _
      · exact .pure _
  · exact .pure _

theorem ignores_size_contextual_tag (old : Int) (pc : Bool) :
    IgnoresSize (ber_read_contextual_tag tag old pc) := by
  apply ignores_size_uint8.bind
  intro byte
  apply IgnoresSize.ite
  · exact IgnoresSize.bind (fun _ _ => rfl) fun _ => .pure _
  · exact (ignores_size_length old).bind fun _ => .pure _

theorem ignores_size_sequence_tag (old : Int) : IgnoresSize (ber_read_sequence_tag old) := by
  apply ignores_size_uint8.bind
  intro byte
  apply IgnoresSize.ite
  · exact .pure _
  · exact (ignores_size_length old).bind fun _ => .pure _

theorem ignores_size_universal_tag (pc : Bool) : IgnoresSize (ber_read_universal_tag tag pc) :=
  ignores_size_uint8.bind fun _ => .pure _

theorem ignores_size_octet_string (old : Int) : IgnoresSize (ber_read_octet_string old) :=
  (ignores_size_universal_tag _ _).bind fun _ => (ignores_size_length old).bind fun _ => .pure _

theorem ignores_size_uint32_be : IgnoresSize stream_read_uint32_be :=
  ignores_size_uint8.bind fun _ => ignores_size_uint8.bind fun _ =>
    ignores_size_uint8.bind fun _ => ignores_size_uint8.bind fun _ => .pure _

theorem ignores_size_integer (old : Int) (value : Nat) :
    IgnoresSize (ber_read_integer old value) := by
  apply (ignores_size_universal_tag _ _).bind
  intro _
  apply (ignores_size_length old).bind
  intro length
  apply IgnoresSize.ite
  · exact ignores_size_uint8.bind fun _ => .pure _
  · apply IgnoresSize.ite
    · exact ignores_size_uint16_be.bind fun _ => .pure _
    · apply IgnoresSize.ite
      · exact ignores_size_uint8.bind fun _ => ignores_size_uint16_be.bind fun _ => .pure _
      · apply IgnoresSize.ite
        · exact ignores_size_uint32_be.bind fun _ => .pure _
        · exact .pure _

end neutrinordp.ber
