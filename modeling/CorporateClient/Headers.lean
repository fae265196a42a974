-- The packet headers: TPKT (tpkt.c), X.224 (tpdu.c), the PER integers of MCS
-- (per.c) and the fast-path header (fastpath.c).
import CorporateClient.Stream

namespace neutrinordp.headers

open bytes stream

/-! ## TPKT -/

def tpkt_verify_header (s : STREAM) : Bool := stream_peek_uint8 s == 3

/-- The length of a TPKT packet. It is 0 when the packet is not one. -/
def tpkt_read_header : StateM STREAM Nat := fun s =>
  if stream_peek_uint8 s = 3 then stream_read_uint16_be (stream_seek s 2) else (0, s)

def tpkt_write_header (s : STREAM) (length : Nat) : STREAM :=
  let s := stream_write_uint8 s 3
  let s := stream_write_uint8 s 0
  stream_write_uint16_be s length

/-! ## X.224 -/

def X224_TPDU_CONNECTION_REQUEST : UInt8 := 0xE0
def X224_TPDU_CONNECTION_CONFIRM : UInt8 := 0xD0
def X224_TPDU_DATA : UInt8 := 0xF0

/-- Reads the length indicator and the code, and skips the rest of the header. -/
def tpdu_read_header : StateM STREAM (UInt8 × UInt8) := do
  let li ← stream_read_uint8
  let code ← stream_read_uint8
  modify fun s => stream_seek s (if code = X224_TPDU_DATA then 1 else 5)
  return (li, code)

def tpdu_write_header (s : STREAM) (length : Nat) (code : UInt8) : STREAM :=
  let s := stream_write_uint8 s length
  let s := stream_write_uint8 s code.toNat
  if code = X224_TPDU_DATA then stream_write_uint8 s 0x80
  else stream_write_uint8 (stream_write_uint16 (stream_write_uint16 s 0) 0) 0

def tpdu_read_connection_confirm : StateM STREAM UInt8 := do
  let (li, code) ← tpdu_read_header
  return if code ≠ X224_TPDU_CONNECTION_CONFIRM then 0 else li

def tpdu_write_connection_request (s : STREAM) (length : Nat) : STREAM :=
  tpdu_write_header s length X224_TPDU_CONNECTION_REQUEST

def tpdu_read_data : StateM STREAM UInt8 := do
  let (li, code) ← tpdu_read_header
  return if code ≠ X224_TPDU_DATA then 0 else li

def tpdu_write_data (s : STREAM) : STREAM := tpdu_write_header s 2 X224_TPDU_DATA

/-! ## PER -/

/-- The length, or `none` when the C function returns false. Then it leaves the
length of its caller as it was. -/
def per_read_length : StateM STREAM (Option Nat) := fun s =>
  if stream_get_left s < 1 then (none, s)
  else
    let (byte, s) := stream_read_uint8 s
    if byte &&& 0x80 ≠ 0 then
      if stream_get_left s < 1 then (none, s)
      else
        let (low, s) := stream_read_uint8 s
        (some (((byte &&& 0x7F).toNat <<< 8) + low.toNat), s)
    else (some byte.toNat, s)

def per_read_choice : StateM STREAM UInt8 := stream_read_uint8

def per_write_choice (s : STREAM) (choice : Nat) : STREAM := stream_write_uint8 s choice

/-- The integer above `min`, or `none` when it does not fit 16 bits. -/
def per_read_integer16 (min : Nat) : StateM STREAM (Option Nat) := do
  let integer ← stream_read_uint16_be
  return if integer + min > 0xFFFF then none else some (integer + min)

/-- `integer - min` is negative for a small integer. The two bytes that are
written are its low 16 bits. -/
def per_write_integer16 (s : STREAM) (integer min : Nat) : STREAM :=
  stream_write_uint16_be s (((integer : Int) - min) % 65536).toNat

def per_read_enumerated : StateM STREAM (Option UInt8) := fun s =>
  if stream_get_left s < 1 then (none, s)
  else ((stream_read_uint8 s).map some id)

/-! ## Fast path -/

/-- The length field of a fast-path packet. The C function returns an unset
variable when the length is cut short: this is `none` here. -/
def fastpath_read_header : StateM STREAM (Option Nat) := fun s =>
  per_read_length (stream_seek s 1)

/-! ## The headers, read back -/

theorem tpkt_read_header.spec (s : STREAM) (h : byte_at s s.pos = 3) :
    tpkt_read_header s =
      (ofBe16 (byte_at s (s.pos + 2)) (byte_at s (s.pos + 3)), stream_seek s 4) := by
  simp only [tpkt_read_header, stream_peek_uint8, h, if_true]
  rfl

theorem tpdu_read_data.spec (s : STREAM) (h : byte_at s (s.pos + 1) = X224_TPDU_DATA) :
    tpdu_read_data s = (byte_at s s.pos, stream_seek s 3) := by
  simp only [tpdu_read_data, tpdu_read_header, stream_read_uint8, bind, StateT.bind, modify,
    modifyGet, MonadStateOf.modifyGet, StateT.modifyGet, byte_at_seek, stream_seek_pos,
    h]
  rfl

theorem per_read_length.spec (s : STREAM) (h : s.pos + 2 ≤ s.size) :
    per_read_length s =
      if 128 ≤ (byte_at s s.pos).toNat then
        (some (((byte_at s s.pos).toNat % 128) * 256 + (byte_at s (s.pos + 1)).toNat),
          stream_seek s 2)
      else (some (byte_at s s.pos).toNat, stream_seek s 1) := by
  have h1 : ¬ stream_get_left s < 1 := by simp only [stream_get_left]; omega
  have h2 : ¬ stream_get_left (stream_seek s 1) < 1 := by
    simp only [stream_get_left, stream_seek_size, stream_seek_pos]; omega
  simp only [per_read_length, h1, if_false, stream_read_uint8, and_0x80, h2, and_0x7F,
    Nat.shiftLeft_eq, byte_at_seek, stream_seek_pos]
  rfl

theorem per_read_length_be16 (s : STREAM) (v : Nat) (hv : v < 32768) (h : s.pos + 2 ≤ s.size)
    (h0 : byte_at s s.pos = UInt8.ofNat ((v ||| 0x8000) >>> 8))
    (h1 : byte_at s (s.pos + 1) = UInt8.ofNat (v ||| 0x8000)) :
    per_read_length s = (some v, stream_seek s 2) := by
  have hor : v ||| 0x8000 = 32768 + v := by
    rw [Nat.lor_comm]
    exact (Nat.two_pow_add_eq_or_of_lt (i := 15) hv 1).symm
  have hhigh : (byte_at s s.pos).toNat = 128 + v / 256 := by
    rw [h0, hor, UInt8.toNat_ofNat', Nat.shiftRight_eq_div_pow]
    omega
  have hlow : (byte_at s (s.pos + 1)).toNat = v % 256 := by
    rw [h1, hor, UInt8.toNat_ofNat']
    omega
  rw [per_read_length.spec s h, hhigh, hlow, if_pos (by omega)]
  have hvalue : (128 + v / 256) % 128 * 256 + v % 256 = v := by omega
  rw [hvalue]

end neutrinordp.headers
