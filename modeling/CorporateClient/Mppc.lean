-- The decompressors (mppc.c): RDP 4.0 with offsets up to 8K and RDP 5.0 with offsets up
-- to 64K. They share their body. The codes of the two protocols are tables.
import CorporateClient.Lib.Bytes

open bytes

namespace neutrinordp.mppc

def RDP6_HISTORY_BUF_SIZE : Nat := 65536

def PACKET_COMPRESSED : Nat := 0x20
def PACKET_AT_FRONT : Nat := 0x40
def PACKET_FLUSHED : Nat := 0x80

/-! ## The history -/

/-- The history buffer and the next free slot in it. -/
structure rdp_mppc where
  history_buf : List UInt8
  history_ptr : Nat
  size : history_buf.length = RDP6_HISTORY_BUF_SIZE
  ptr_le : history_ptr ≤ RDP6_HISTORY_BUF_SIZE

/-- A new history. Its memory is not cleared. -/
def mppc_new (memory : List UInt8) (h : memory.length = RDP6_HISTORY_BUF_SIZE) : rdp_mppc where
  history_buf := memory
  history_ptr := 0
  size := h
  ptr_le := Nat.zero_le _

/-- The history while a packet is unpacked. `written` is not in the code: it holds the
bytes that were stored, in order. -/
structure Writer extends rdp_mppc where
  written : List UInt8

/-- Stores bytes at the next free slot. `none` is a store outside of the history, which
the code does not check. -/
def Writer.store (w : Writer) (bs : List UInt8) : Option Writer :=
  if h : w.history_ptr + bs.length ≤ RDP6_HISTORY_BUF_SIZE then
    some {
      history_buf := patch w.history_buf w.history_ptr bs
      history_ptr := w.history_ptr + bs.length
      written := w.written ++ bs
      size := by
        rw [length_patch _ _ _ (by rw [w.size]; exact w.ptr_le), w.size]
        exact Nat.max_eq_left h
      ptr_le := h }
  else none

/-- `lom` bytes from `src` on, one at a time. -/
def copy_bytes : Nat → Nat → Writer → Option Writer
  | 0, _, w => some w
  | lom + 1, src, w =>
    (w.store [w.history_buf.getD src 0]).bind fun w => copy_bytes lom (src + 1) w

/-- The same, but only up to the end of the history. The number is what is left. -/
def copy_to_end : Nat → Nat → Writer → Option (Nat × Writer)
  | 0, _, w => some (0, w)
  | lom + 1, src, w =>
    if src < RDP6_HISTORY_BUF_SIZE then
      (w.store [w.history_buf.getD src 0]).bind fun w => copy_to_end lom (src + 1) w
    else some (lom + 1, w)

/-- A match that starts before the history goes on from its end, and then from its
start. -/
def copy_match (w : Writer) (copy_offset lom : Nat) : Option Writer :=
  if copy_offset ≤ w.history_ptr then copy_bytes lom (w.history_ptr - copy_offset) w
  else
    let src := RDP6_HISTORY_BUF_SIZE - 1 - (copy_offset - w.history_ptr) + 1
    (copy_to_end lom src w).bind fun (lom, w) => copy_bytes lom 0 w

/-! ## The shift register -/

/-- `d32` holds `bits_left` bits at its top, and `cur_byte` the next `cur_bits_left` bits.
`cptr` is what is left of the packet. -/
structure Bits where
  d32 : Nat
  bits_left : Int
  cur_byte : Nat
  cur_bits_left : Nat
  cptr : List UInt8
deriving Repr, DecidableEq

/-- A shift in a word of 32 bits. -/
def shl32 (d n : Nat) : Nat := (d <<< n) % 4294967296

def Bits.skip (b : Bits) (n : Nat) : Bits :=
  { b with d32 := shl32 b.d32 n, bits_left := b.bits_left - n }

/-- Takes the next byte of the packet, if there is one. -/
def fetch (d32 : Nat) (bits_left : Int) (cur_byte : Nat) : List UInt8 → Bits
  | [] => { d32, bits_left, cur_byte, cur_bits_left := 0, cptr := [] }
  | byte :: cptr => { d32, bits_left, cur_byte := byte.toNat, cur_bits_left := 8, cptr }

/-- Loads the first four bytes of a packet into the register. -/
def load (d32 : Nat) (bits_left : Int) (tmp : Nat) : List UInt8 → Bits
  | [] => fetch d32 bits_left 0 []
  | byte :: cptr =>
    let d32 := d32 ||| shl32 byte.toNat tmp
    if tmp < 8 then fetch d32 (bits_left + 8) 0 cptr
    else load d32 (bits_left + 8) (tmp - 8) cptr

/-- The loop that gets more bits. `tmp` is the number of bits that are missing. -/
def refill_loop (d32 : Nat) (bits_left : Int) (cur_byte cur_bits_left : Nat) (tmp : Int)
    (cptr : List UInt8) : Bits :=
  if tmp = 0 then { d32, bits_left, cur_byte, cur_bits_left, cptr }
  else if cur_bits_left < tmp then
    -- All bits of the byte, and then the next byte.
    let i32 := cur_byte >>> (8 - cur_bits_left)
    let d32 := d32 ||| shl32 i32 ((32 - bits_left) - cur_bits_left).toNat
    let bits_left := bits_left + cur_bits_left
    match cptr with
    | byte :: cptr => refill_loop d32 bits_left byte.toNat 8 (tmp - cur_bits_left) cptr
    | [] => { d32, bits_left, cur_byte, cur_bits_left := 0, cptr := [] }
  else if cur_bits_left > tmp then
    -- The first bits of the byte. The other ones move up.
    { d32 := d32 ||| (cur_byte >>> (8 - tmp).toNat)
      bits_left := 32
      cur_byte := (cur_byte <<< tmp.toNat) % 256
      cur_bits_left := cur_bits_left - tmp.toNat
      cptr }
  else fetch (d32 ||| (cur_byte >>> (8 - tmp).toNat)) 32 cur_byte cptr

def refill (b : Bits) : Bits :=
  refill_loop b.d32 b.bits_left b.cur_byte b.cur_bits_left (32 - b.bits_left) b.cptr

/-! ## The codes -/

/-- A copy offset: `header` bits that tell the range, and `width` bits above `base`. -/
structure OffsetRow where
  mask : Nat
  pattern : Nat
  header : Nat
  width : Nat
  base : Nat
deriving Repr, DecidableEq

/-- A length of match: `value_mask` bits at `shift`, above `base`. All of it takes `bits`
bits. -/
structure LomRow where
  mask : Nat
  pattern : Nat
  shift : Nat
  value_mask : Nat
  base : Nat
  bits : Nat
deriving Repr, DecidableEq

structure Codes where
  offsets : List OffsetRow
  lengths : List LomRow
deriving Repr, DecidableEq

def lom_rows : List LomRow :=
  [⟨0x80000000, 0x00000000, 0, 0x00, 3, 1⟩,
   ⟨0xc0000000, 0x80000000, 28, 0x03, 4, 4⟩,
   ⟨0xe0000000, 0xc0000000, 26, 0x07, 8, 6⟩,
   ⟨0xf0000000, 0xe0000000, 24, 0x0f, 16, 8⟩,
   ⟨0xf8000000, 0xf0000000, 22, 0x1f, 32, 10⟩,
   ⟨0xfc000000, 0xf8000000, 20, 0x3f, 64, 12⟩,
   ⟨0xfe000000, 0xfc000000, 18, 0x7f, 128, 14⟩,
   ⟨0xff000000, 0xfe000000, 16, 0xff, 256, 16⟩,
   ⟨0xff800000, 0xff000000, 14, 0x1ff, 512, 18⟩,
   ⟨0xffc00000, 0xff800000, 12, 0x3ff, 1024, 20⟩,
   ⟨0xffe00000, 0xffc00000, 10, 0x7ff, 2048, 22⟩,
   ⟨0xfff00000, 0xffe00000, 8, 0xfff, 4096, 24⟩]

def codes_4 : Codes where
  offsets :=
    [⟨0xf0000000, 0xf0000000, 4, 6, 0⟩,
     ⟨0xf0000000, 0xe0000000, 4, 8, 64⟩,
     ⟨0xe0000000, 0xc0000000, 3, 13, 320⟩]
  lengths := lom_rows

def codes_5 : Codes where
  offsets :=
    [⟨0xf8000000, 0xf8000000, 5, 6, 0⟩,
     ⟨0xf8000000, 0xf0000000, 5, 8, 64⟩,
     ⟨0xf0000000, 0xe0000000, 4, 11, 320⟩,
     ⟨0xe0000000, 0xc0000000, 3, 16, 2368⟩]
  lengths := lom_rows ++
    [⟨0xfff80000, 0xfff00000, 6, 0x1fff, 8192, 26⟩,
     ⟨0xfffc0000, 0xfff80000, 4, 0x3fff, 16384, 28⟩,
     ⟨0xfffe0000, 0xfffc0000, 2, 0x7fff, 32768, 30⟩]

def find_offset : List OffsetRow → Bits → Nat × Bits
  | [], b => (0, b)
  | row :: rows, b =>
    if b.d32 &&& row.mask = row.pattern then
      let b := b.skip row.header
      (((b.d32 >>> (32 - row.width)) + row.base) % 65536, b.skip row.width)
    else find_offset rows b

/-- Without a row that fits, the length stays 0, as the last copy has left it. -/
def find_lom : List LomRow → Bits → Nat × Bits
  | [], b => (0, b)
  | row :: rows, b =>
    if b.d32 &&& row.mask = row.pattern then
      (((b.d32 >>> row.shift) &&& row.value_mask) + row.base, b.skip row.bits)
    else find_lom rows b

/-! ## The main loop -/

/-- A copy offset and a length of match. An offset of 0 has no length behind it. -/
def decode_match (codes : Codes) (b : Bits) (w : Writer) : Option (Bits × Writer) :=
  let (copy_offset, b) := find_offset codes.offsets b
  let b := refill b
  if copy_offset = 0 then some (b, w)
  else
    let (lom, b) := find_lom codes.lengths b
    (copy_match w copy_offset lom).map fun w => (refill b, w)

def decode_turn (codes : Codes) (b : Bits) (w : Writer) : Option (Bits × Writer) :=
  if b.d32 &&& 0x80000000 = 0 then
    (w.store [UInt8.ofNat (b.d32 >>> 24)]).map fun w => (refill (b.skip 8), w)
  else if b.d32 &&& 0xc0000000 = 0x80000000 then
    let b := b.skip 2
    (w.store [UInt8.ofNat ((b.d32 >>> 25) ||| 0x80)]).map fun w => (refill (b.skip 7), w)
  else decode_match codes b w

/-- Each turn takes at least eight bits, so there are no more turns than bytes. -/
def decode_loop (codes : Codes) : Nat → Bits → Writer → Option Writer
  | 0, _, _ => none
  | fuel + 1, b, w =>
    if b.bits_left ≥ 8 then
      (decode_turn codes b w).bind fun (b, w) => decode_loop codes fuel b w
    else some w

/-! ## Packets -/

/-- What a call that returns true leaves behind. `start` and `written` are not in the
code: they say where the output of the packet begins, and what it is. -/
structure Decompressed where
  roff : Nat
  rlen : Nat
  session : rdp_mppc
  start : Nat
  written : List UInt8

/-- The local write pointer at the start of a packet, and `roff`: both flags set both of
them to the front. -/
def local_ptr (mppc : rdp_mppc) (ctype : Nat) : Nat :=
  if ctype &&& PACKET_FLUSHED ≠ 0 then 0
  else if ctype &&& PACKET_AT_FRONT ≠ 0 then 0
  else mppc.history_ptr

theorem local_ptr_le (mppc : rdp_mppc) (ctype : Nat) :
    local_ptr mppc ctype ≤ RDP6_HISTORY_BUF_SIZE := by
  unfold local_ptr
  split_ifs
  · exact Nat.zero_le _
  · exact Nat.zero_le _
  · exact mppc.ptr_le

/-- The write pointer of the session at the start of a packet. Only `PACKET_AT_FRONT`
sets it. -/
def session_ptr (mppc : rdp_mppc) (ctype : Nat) : Nat :=
  if ctype &&& PACKET_AT_FRONT ≠ 0 then 0 else mppc.history_ptr

def start_packet (mppc : rdp_mppc) (ctype : Nat) : Writer where
  history_buf :=
    if ctype &&& PACKET_FLUSHED ≠ 0 then List.replicate RDP6_HISTORY_BUF_SIZE 0
    else mppc.history_buf
  history_ptr := local_ptr mppc ctype
  written := []
  size := by
    split
    · exact List.length_replicate
    · exact mppc.size
  ptr_le := local_ptr_le mppc ctype

open List in
/-- The history of `decompress_rdp_6` behind its flags. `mppc` was slid, and `ptr` is the local
pointer. -/
def start_packet_6 (mppc : rdp_mppc) (ctype ptr : Nat) (h : ptr ≤ RDP6_HISTORY_BUF_SIZE) :
    Writer where
  history_buf :=
    if ctype &&& PACKET_FLUSHED ≠ 0 then replicate RDP6_HISTORY_BUF_SIZE 0
    else mppc.history_buf
  history_ptr := ptr
  written := []
  size := by
    split
    · exact length_replicate
    · exact mppc.size
  ptr_le := h

/-- The common body of the two decompressors. `*roff` is the local pointer. `*rlen` is
its distance from the pointer of the session, in 32 bits. -/
def decompress_with (codes : Codes) (mppc : rdp_mppc) (cbuf : List UInt8) (ctype : Nat) :
    Option Decompressed :=
  let w₀ := start_packet mppc ctype
  let body :=
    if ctype &&& PACKET_COMPRESSED ≠ PACKET_COMPRESSED then w₀.store cbuf
    else decode_loop codes (cbuf.length + 1) (load 0 0 24 cbuf) w₀
  body.map fun w =>
    { roff := local_ptr mppc ctype
      rlen := (((w.history_ptr : Int) - session_ptr mppc ctype) % 4294967296).toNat
      session := w.tordp_mppc
      start := w₀.history_ptr
      written := w.written }

def decompress_rdp_4 : rdp_mppc → List UInt8 → Nat → Option Decompressed := decompress_with codes_4

def decompress_rdp_5 : rdp_mppc → List UInt8 → Nat → Option Decompressed := decompress_with codes_5

end neutrinordp.mppc
