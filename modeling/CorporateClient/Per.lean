-- The packed encoding rules (per.c): the constructs of the connection sequence that have a form of
-- their own. The integers of four bytes are written but not read, and the first two components of
-- an object identifier are lost.
import CorporateClient.Ber
import CorporateClient.Headers
import Mathlib.Tactic.IntervalCases

namespace neutrinordp.per

open List bytes codec stream headers

/-! ## The functions -/

def per_write_length (length : Nat) : StateM STREAM Unit :=
  if length > 0x7F then modify (stream_write_uint16_be · (length ||| 0x8000))
  else modify (stream_write_uint8 · length)

/-- A length, for the callers that do not look at the result. `length` is what their variable
holds. -/
def read_length (length : Nat) : StateM STREAM Nat := do
  let result ← per_read_length
  return result.getD length

/-- `length` is what the local variable holds before, and `integer` what the caller has. -/
def per_read_integer (length integer : Nat) : StateM STREAM (Bool × Nat) := do
  let length ← read_length length
  if length = 1 then
    let v ← stream_read_uint8
    return (true, v.toNat)
  else if length = 2 then
    let v ← stream_read_uint16_be
    return (true, v)
  else return (false, integer)

def per_write_integer (integer : Nat) : StateM STREAM Unit := do
  if integer ≤ 0xFF then
    per_write_length 1
    modify (stream_write_uint8 · integer)
  else if integer ≤ 0xFFFF then
    per_write_length 2
    modify (stream_write_uint16_be · integer)
  else
    per_write_length 4
    modify (ber.stream_write_uint32_be · integer)

def per_read_object_identifier (length : Nat) (oid : Fin 6 → UInt8) : StateM STREAM Bool := do
  let length ← read_length length
  if length ≠ 5 then return false
  else
    let t12 ← stream_read_uint8
    let tuple3 ← stream_read_uint8
    let tuple4 ← stream_read_uint8
    let tuple5 ← stream_read_uint8
    let tuple6 ← stream_read_uint8
    return t12 >>> 4 = oid 0 ∧ t12 &&& 0x0F = oid 1 ∧ tuple3 = oid 2 ∧ tuple4 = oid 3 ∧
      tuple5 = oid 4 ∧ tuple6 = oid 5

/-- The first two components are joined with `&`. -/
def per_write_object_identifier (oid : Fin 6 → UInt8) : StateM STREAM Unit := do
  modify (stream_write_uint8 · 5)
  modify (stream_write_uint8 · ((oid 0 <<< 4) &&& (oid 1 &&& 0x0F)).toNat)
  modify (stream_write_uint8 · (oid 2).toNat)
  modify (stream_write_uint8 · (oid 3).toNat)
  modify (stream_write_uint8 · (oid 4).toNat)
  modify (stream_write_uint8 · (oid 5).toNat)

/-- Is this the octet string? `mlength` is what the local variable holds before. -/
def per_read_octet_string (mlength : Nat) (oct_str : List UInt8) (min : Nat) :
    StateM STREAM Bool := do
  let mlength ← read_length mlength
  if mlength + min ≠ oct_str.length then return false
  else
    let a_oct_str ← stream_read oct_str.length
    return a_oct_str = oct_str

def per_write_octet_string (oct_str : List UInt8) (min : Nat) : StateM STREAM Unit := do
  per_write_length (if min ≤ oct_str.length then oct_str.length - min else min)
  oct_str.forM fun byte => modify (stream_write_uint8 · byte.toNat)

/-! ## What is written, and what is read back -/

/-- The writer emits bytes, and the reader takes exactly these and gives `v`. -/
def ReadsBack {α β : Type} (write : StateM STREAM α) (read : StateM STREAM β) (v : β) : Prop :=
  ∃ bs r, Writes out write bs r ∧ Reads Rest read bs v

def lengthBytes (length : Nat) : List UInt8 :=
  if length > 0x7F then be16 (length ||| 0x8000) else [UInt8.ofNat length]

theorem writes_length (length : Nat) :
    Writes out (per_write_length length) (lengthBytes length) () := by
  unfold per_write_length lengthBytes
  split
  · exact writes_uint16_be _
  · exact writes_uint8 _

theorem reads_length {length : Nat} (h : length < 0x8000) :
    Reads Rest per_read_length (lengthBytes length) (some length) := by
  intro s rest hs
  have hleft := hs.get_left
  unfold stream_get_left at hleft
  unfold lengthBytes at hs hleft
  by_cases hlong : length > 0x7F
  · rw [if_pos hlong] at hs hleft
    rw [length_append, length_be16] at hleft
    refine ⟨stream_seek s 2, ?_, hs.seek rfl⟩
    apply per_read_length_be16 s length h (by omega)
    · rw [← Nat.add_zero s.pos]
      exact hs.byte 0 rfl
    · exact hs.byte 1 rfl
  · rw [if_neg hlong] at hs hleft
    rw [length_append, length_singleton] at hleft
    refine ⟨stream_seek s 1, ?_, hs.seek rfl⟩
    have hbyte : byte_at s s.pos = UInt8.ofNat length := by
      exact hs.byte 0 rfl
    have hvalue : (UInt8.ofNat length).toNat = length := by
      rw [UInt8.toNat_ofNat']
      omega
    have hroom : ¬ stream_get_left s < 1 := by
      unfold stream_get_left
      omega
    have hshort : ¬ UInt8.ofNat length &&& 0x80 ≠ 0 := by
      rw [and_0x80, hvalue]
      omega
    unfold per_read_length stream_read_uint8
    simp [hroom, hbyte, hshort, hvalue]

theorem reads_any_length {length : Nat} (h : length < 0x8000) (old : Nat) :
    Reads Rest (read_length old) (lengthBytes length) length :=
  (reads_length h).last (.pure _)

/-! ## Integers -/

def integerBytes (integer : Nat) : List UInt8 :=
  if integer ≤ 0xFF then lengthBytes 1 ++ [UInt8.ofNat integer]
  else if integer ≤ 0xFFFF then lengthBytes 2 ++ be16 integer
  else lengthBytes 4 ++ (be16 ((integer >>> 16) &&& 0xFFFF) ++ be16 (integer &&& 0xFFFF))

theorem writes_integer (integer : Nat) :
    Writes out (per_write_integer integer) (integerBytes integer) () := by
  unfold per_write_integer integerBytes
  split
  · exact (writes_length 1).bind (writes_uint8 integer)
  split
  · exact (writes_length 2).bind (writes_uint16_be integer)
  · refine (writes_length 4).bind ?_
    intro s hs
    exact congrArg (Prod.mk ()) (stream_write_write s _ _ hs)

theorem reads_integer {integer : Nat} (h : integer ≤ 0xFFFF) (old held : Nat) :
    Reads Rest (per_read_integer old held) (integerBytes integer) (true, integer) := by
  unfold integerBytes
  split
  · have hvalue : (UInt8.ofNat integer).toNat = integer := by
      rw [UInt8.toNat_ofNat']
      omega
    refine (reads_any_length (show 1 < 0x8000 by decide) old).bind ?_
    apply (reads_uint8 _).last
    rw [hvalue]
    exact .pure _
  · refine (reads_any_length (show 2 < 0x8000 by decide) old).bind ?_
    exact (reads_uint16_be_of_lt (by omega)).last (.pure _)

theorem refuses_long_integer {integer : Nat} (h : ¬ integer ≤ 0xFFFF) (old held : Nat) :
    ∃ s', per_read_integer old held (stream_of (integerBytes integer)) = ((false, held), s') := by
  have hbytes : integerBytes integer = lengthBytes 4 ++
      (be16 ((integer >>> 16) &&& 0xFFFF) ++ be16 (integer &&& 0xFFFF)) := by
    unfold integerBytes
    rw [if_neg (by omega), if_neg h]
  have hrest := rest_stream_of (integerBytes integer)
  rw [hbytes] at hrest ⊢
  obtain ⟨s', hread, -⟩ := reads_any_length (show 4 < 0x8000 by decide) old _ _ hrest
  refine ⟨s', ?_⟩
  unfold per_read_integer
  rw [run_bind hread]
  rfl

theorem integer_reads_back_iff (integer old held : Nat) :
    ReadsBack (per_write_integer integer) (per_read_integer old held) (true, integer) ↔
      integer ≤ 0xFFFF := by
  constructor
  · rintro ⟨bs, r, hwrites, hreads⟩
    by_contra hlong
    obtain rfl := writes_unique (writes_integer integer) hwrites
    have hrest : Rest (stream_of (integerBytes integer)) (integerBytes integer ++ []) := by
      rw [append_nil]
      exact rest_stream_of _
    obtain ⟨s', hread, -⟩ := hreads _ _ hrest
    obtain ⟨s'', hrefused⟩ := refuses_long_integer hlong old held
    rw [hrefused] at hread
    cases hread
  · exact fun h => ⟨_, (), writes_integer integer, reads_integer h old held⟩

theorem integer16_reads_back {v min : Nat} (hmin : min ≤ v) (hv : v < 65536) :
    ReadsBack (modify (per_write_integer16 · v min)) (per_read_integer16 min) (some v) := by
  have hdiff : (((v : Int) - min) % 65536).toNat = v - min := by omega
  refine ⟨be16 (v - min), (), ?_, ?_⟩
  · intro s _
    unfold per_write_integer16
    rw [hdiff]
    rfl
  · unfold per_read_integer16
    apply (reads_uint16_be_of_lt (by omega)).last
    rw [if_neg (by omega), Nat.sub_add_cancel hmin]
    exact .pure _

/-! ## Object identifiers -/

def oidBytes (oid : Fin 6 → UInt8) : List UInt8 :=
  lengthBytes 5 ++ ([(oid 0 <<< 4) &&& (oid 1 &&& 0x0F)] ++
    ([oid 2] ++ ([oid 3] ++ ([oid 4] ++ [oid 5]))))

theorem writes_object_identifier (oid : Fin 6 → UInt8) :
    Writes out (per_write_object_identifier oid) (oidBytes oid) () :=
  (writes_uint8 5).bind ((writes_byte _).bind ((writes_byte _).bind ((writes_byte _).bind
    ((writes_byte _).bind (writes_byte _)))))

theorem first_tuples_lost (a b : UInt8) : (a <<< 4) &&& (b &&& 0x0F) = 0 := by
  apply UInt8.toBitVec_inj.mp
  ext i hi
  interval_cases i <;> simp

theorem reads_object_identifier (oid : Fin 6 → UInt8) (old : Nat) :
    Reads Rest (per_read_object_identifier old oid) (oidBytes oid)
      (decide (oid 0 = 0 ∧ oid 1 = 0)) := by
  unfold oidBytes
  rw [first_tuples_lost]
  refine (reads_any_length (show 5 < 0x8000 by decide) old).bind ?_
  refine (reads_uint8 _).bind ((reads_uint8 _).bind ((reads_uint8 _).bind ((reads_uint8 _).bind
    ((reads_uint8 _).last ?_))))
  convert Reads.pure _ using 1
  simp [eq_comm]

theorem object_identifier_reads_back_iff (oid : Fin 6 → UInt8) (old : Nat) :
    ReadsBack (per_write_object_identifier oid) (per_read_object_identifier old oid) true ↔
      oid 0 = 0 ∧ oid 1 = 0 := by
  have hreads := reads_object_identifier oid old
  constructor
  · rintro ⟨bs, r, hwrites, hreads'⟩
    obtain rfl := writes_unique (writes_object_identifier oid) hwrites
    exact of_decide_eq_true (reads_unique hreads hreads')
  · intro h
    rw [decide_eq_true h] at hreads
    exact ⟨_, (), writes_object_identifier oid, hreads⟩

/-! ## Octet strings -/

theorem writes_each_byte (bs : Bytes) :
    Writes out (bs.forM fun byte => modify (stream_write_uint8 · byte.toNat)) bs () := by
  have hall : Writes out (bs.forM fun byte => modify (stream_write_uint8 · byte.toNat))
      (bs.flatMap fun b => [b]) () :=
    Writes.forM bs fun b _ => writes_byte b
  rwa [flatMap_singleton'] at hall

theorem octet_string_reads_back {oct_str : Bytes} {min : Nat} (hmin : min ≤ oct_str.length)
    (hlong : oct_str.length ≤ min + 0x7FFF) (old : Nat) :
    ReadsBack (per_write_octet_string oct_str min) (per_read_octet_string old oct_str min)
      true := by
  refine ⟨lengthBytes (oct_str.length - min) ++ oct_str, (), ?_, ?_⟩
  · unfold per_write_octet_string
    rw [if_pos hmin]
    exact (writes_length _).bind (writes_each_byte oct_str)
  · refine (reads_any_length (show oct_str.length - min < 0x8000 by omega) old).bind ?_
    rw [if_neg (by omega)]
    apply (reads_bytes oct_str rfl).last
    rw [decide_eq_true rfl]
    exact .pure _

/-! ## All of it -/

/-- Each construct, written and read again. `old` and `held` are what the variables of the readers
hold before. -/
structure RoundTrips (length integer v min16 : Nat) (oid : Fin 6 → UInt8) (oct_str : List UInt8)
    (min old held : Nat) : Prop where
  length_back : ReadsBack (per_write_length length) per_read_length (some length)
  integer_back : ReadsBack (per_write_integer integer) (per_read_integer old held) (true, integer)
  integer16_back :
    ReadsBack (modify (per_write_integer16 · v min16)) (per_read_integer16 min16) (some v)
  oid_back : ReadsBack (per_write_object_identifier oid) (per_read_object_identifier old oid) true
  octet_string_back :
    ReadsBack (per_write_octet_string oct_str min) (per_read_octet_string old oct_str min) true

/-- Everything comes back exactly for the integers of 16 bits and the object identifiers that start
with two zeros. -/
theorem per_round_trips_exactly_for_short_integers_and_zero_tuples {length : Nat}
    (hlength : length < 0x8000) (integer : UInt32) {v min16 : UInt16} (hmin16 : min16 ≤ v)
    (oid : Fin 6 → UInt8) {oct_str : List UInt8} {min : Nat}
    (hmin : min ≤ oct_str.length) (hlong : oct_str.length ≤ min + 0x7FFF) (old held : Nat) :
    RoundTrips length integer.toNat v.toNat min16.toNat oid oct_str min old held ↔
      integer.toNat ≤ 0xFFFF ∧ oid 0 = 0 ∧ oid 1 = 0 := by
  rw [← integer_reads_back_iff integer.toNat old held, ← object_identifier_reads_back_iff oid old]
  constructor
  · exact fun h => ⟨h.integer_back, h.oid_back⟩
  · rintro ⟨hinteger, hidentifier⟩
    exact ⟨⟨_, (), writes_length length, reads_length hlength⟩, hinteger,
      integer16_reads_back (UInt16.le_iff_toNat_le.mp hmin16) v.toNat_lt, hidentifier,
      octet_string_reads_back hmin hlong old⟩

theorem per_round_trips_for_short_values :
    RoundTrips 300 3389 1003 1001 (fun _ => 0) [68, 117, 99, 97] 4 0 0 :=
  (per_round_trips_exactly_for_short_integers_and_zero_tuples (show 300 < 0x8000 by decide) 3389
    (show (1001 : UInt16) ≤ 1003 by decide) (fun _ => 0)
    (show 4 ≤ [68, 117, 99, 97].length by decide) (by decide) 0 0).mpr (by decide)

/-- An identifier that starts with 1.2. -/
def oneTwo : Fin 6 → UInt8 := fun i => if i = 0 then 1 else if i = 1 then 2 else 0

/-- Neither the integer 65536 nor the identifier comes back. -/
theorem long_integer_and_tuples_do_not_come_back :
    ¬ ReadsBack (per_write_integer 0x10000) (per_read_integer 0 0) (true, 0x10000) ∧
      ¬ ReadsBack (per_write_object_identifier oneTwo) (per_read_object_identifier 0 oneTwo)
        true := by
  rw [integer_reads_back_iff, object_identifier_reads_back_iff]
  decide

end neutrinordp.per
