-- The interleaved run-length codec of bitmaps (libfreerdp-codec/bitmap.c and include/bitmap.c).
-- The three instances for 8, 16 and 24 bits differ in the bytes of a pixel only. Nothing in the
-- code looks at the end of its buffers, so the model says where it leaves them.
import CorporateClient.Lib.Bytes

open bytes

namespace neutrinordp.bitmap

/-- What goes wrong: a read at or behind the end of the source, a write behind the end of the
destination or of a plane, a loop that never ends, or a buffer that there is no memory for. -/
inductive Fault
  | srcOverrun
  | dstOverrun
  | planeOverrun
  | endless
  | noBuffer
deriving Repr, DecidableEq

inductive Depth
  | depth8
  | depth16
  | depth24
deriving Repr, DecidableEq

def Depth.bytes : Depth → Nat
  | .depth8 => 1
  | .depth16 => 2
  | .depth24 => 3

def BLACK_PIXEL : Nat := 0x000000
def WHITE_PIXEL : Nat := 0xFFFFFF

/-! ## Order headers -/

inductive Code
  | REGULAR_BG_RUN
  | MEGA_MEGA_BG_RUN
  | REGULAR_FG_RUN
  | MEGA_MEGA_FG_RUN
  | LITE_SET_FG_FG_RUN
  | MEGA_MEGA_SET_FG_RUN
  | LITE_DITHERED_RUN
  | MEGA_MEGA_DITHERED_RUN
  | REGULAR_COLOR_RUN
  | MEGA_MEGA_COLOR_RUN
  | REGULAR_FGBG_IMAGE
  | MEGA_MEGA_FGBG_IMAGE
  | LITE_SET_FG_FGBG_IMAGE
  | MEGA_MEGA_SET_FGBG_IMAGE
  | REGULAR_COLOR_IMAGE
  | MEGA_MEGA_COLOR_IMAGE
  | SPECIAL_FGBG_1
  | SPECIAL_FGBG_2
  | SPECIAL_WHITE
  | SPECIAL_BLACK
deriving Repr, DecidableEq

def Code.value : Code → Nat
  | .REGULAR_BG_RUN => 0x00
  | .MEGA_MEGA_BG_RUN => 0xF0
  | .REGULAR_FG_RUN => 0x01
  | .MEGA_MEGA_FG_RUN => 0xF1
  | .LITE_SET_FG_FG_RUN => 0x0C
  | .MEGA_MEGA_SET_FG_RUN => 0xF6
  | .LITE_DITHERED_RUN => 0x0E
  | .MEGA_MEGA_DITHERED_RUN => 0xF8
  | .REGULAR_COLOR_RUN => 0x03
  | .MEGA_MEGA_COLOR_RUN => 0xF3
  | .REGULAR_FGBG_IMAGE => 0x02
  | .MEGA_MEGA_FGBG_IMAGE => 0xF2
  | .LITE_SET_FG_FGBG_IMAGE => 0x0D
  | .MEGA_MEGA_SET_FGBG_IMAGE => 0xF7
  | .REGULAR_COLOR_IMAGE => 0x04
  | .MEGA_MEGA_COLOR_IMAGE => 0xF4
  | .SPECIAL_FGBG_1 => 0xF9
  | .SPECIAL_FGBG_2 => 0xFA
  | .SPECIAL_WHITE => 0xFD
  | .SPECIAL_BLACK => 0xFE

def whole_codes : List Code :=
  [.MEGA_MEGA_BG_RUN, .MEGA_MEGA_FG_RUN, .MEGA_MEGA_SET_FG_RUN, .MEGA_MEGA_DITHERED_RUN,
    .MEGA_MEGA_COLOR_RUN, .MEGA_MEGA_FGBG_IMAGE, .MEGA_MEGA_SET_FGBG_IMAGE,
    .MEGA_MEGA_COLOR_IMAGE, .SPECIAL_FGBG_1, .SPECIAL_FGBG_2, .SPECIAL_WHITE, .SPECIAL_BLACK]

def regular_codes : List Code :=
  [.REGULAR_BG_RUN, .REGULAR_FG_RUN, .REGULAR_COLOR_RUN, .REGULAR_FGBG_IMAGE, .REGULAR_COLOR_IMAGE]

def lite_codes : List Code := [.LITE_SET_FG_FG_RUN, .LITE_SET_FG_FGBG_IMAGE, .LITE_DITHERED_RUN]

/-- `none` is a header that no case of the decoder handles. -/
def ExtractCodeId (bOrderHdr : UInt8) : Option Code :=
  match whole_codes.find? (·.value = bOrderHdr.toNat) with
  | some code => some code
  | none =>
    match regular_codes.find? (·.value = bOrderHdr.toNat >>> 5) with
    | some code => some code
    | none => lite_codes.find? (·.value = bOrderHdr.toNat >>> 4)

def src_byte (src : List UInt8) (i : Nat) : Except Fault UInt8 :=
  match src[i]? with
  | some b => .ok b
  | none => .error .srcOverrun

theorem src_byte_zero (b : UInt8) (rest : Bytes) : src_byte (b :: rest) 0 = .ok b := rfl

theorem src_byte.inv {src : Bytes} {b : UInt8} (h : src_byte src 0 = .ok b) :
    src = b :: src.drop 1 := by
  cases src with
  | nil => cases h
  | cons b' rest =>
    cases h
    rfl

theorem bind_eq_ok {α β : Type} {x : Except Fault α} {f : α → Except Fault β} {b : β}
    (h : (x >>= f) = .ok b) : ∃ a, x = .ok a ∧ f a = .ok b := by
  cases x with
  | error e => cases h
  | ok a => exact ⟨a, rfl, h⟩

/-- The length of an image in steps of 8, or in the next byte. The second number is what
`pbSrc` moves by. -/
def image_length (mask : UInt8) (src : List UInt8) : Except Fault (Nat × Nat) := do
  let hdr ← src_byte src 0
  let runLength := (hdr &&& mask).toNat
  if runLength = 0 then
    let next ← src_byte src 1
    pure (next.toNat + 1, 2)
  else pure (runLength * 8, 1)

/-- The length of a run, or what the next byte has over `extra`. -/
def run_length (mask : UInt8) (extra : Nat) (src : List UInt8) : Except Fault (Nat × Nat) := do
  let hdr ← src_byte src 0
  let runLength := (hdr &&& mask).toNat
  if runLength = 0 then
    let next ← src_byte src 1
    pure (next.toNat + extra, 2)
  else pure (runLength, 1)

def mega_mega_length (src : List UInt8) : Except Fault (Nat × Nat) := do
  let low ← src_byte src 1
  let high ← src_byte src 2
  pure (ofLe16 low high, 3)

def g_MaskRegularRunLength : UInt8 := 0x1F
def g_MaskLiteRunLength : UInt8 := 0x0F

def ExtractRunLength (code : Code) (src : List UInt8) : Except Fault (Nat × Nat) :=
  match code with
  | .REGULAR_FGBG_IMAGE => image_length g_MaskRegularRunLength src
  | .LITE_SET_FG_FGBG_IMAGE => image_length g_MaskLiteRunLength src
  | .REGULAR_BG_RUN | .REGULAR_FG_RUN | .REGULAR_COLOR_RUN | .REGULAR_COLOR_IMAGE =>
    run_length g_MaskRegularRunLength 32 src
  | .LITE_SET_FG_FG_RUN | .LITE_DITHERED_RUN => run_length g_MaskLiteRunLength 16 src
  | .MEGA_MEGA_BG_RUN | .MEGA_MEGA_FG_RUN | .MEGA_MEGA_SET_FG_RUN | .MEGA_MEGA_DITHERED_RUN
  | .MEGA_MEGA_COLOR_RUN | .MEGA_MEGA_FGBG_IMAGE | .MEGA_MEGA_SET_FGBG_IMAGE
  | .MEGA_MEGA_COLOR_IMAGE => mega_mega_length src
  | .SPECIAL_FGBG_1 | .SPECIAL_FGBG_2 | .SPECIAL_WHITE | .SPECIAL_BLACK => pure (0, 1)

/-! ## Pixels -/

/-- The destination: `width * height` pixels of the depth, and `beyond` pixels of memory behind
them. The decoder does not look for the end of the destination, so it goes on there. -/
structure Target where
  depth : Depth
  width : Nat
  height : Nat
  beyond : Nat
deriving Repr, DecidableEq

def Target.rowDelta (t : Target) : Nat := t.depth.bytes * t.width

def Target.pixels (t : Target) : Nat := t.width * t.height + t.beyond

/-- `pbSrc` has the bytes that are left, and `dest` the pixels in front of `pbDest`. -/
structure Rle where
  pbSrc : List UInt8
  dest : List Nat
  fgPel : Nat
  fInsertFgPel : Bool
  fFirstLine : Bool
deriving Repr, DecidableEq

/-- `DESTWRITEPIXEL` and `DESTNEXTPIXEL`. A pixel is cut to the depth. -/
def put_pixel (t : Target) (v : Nat) (s : Rle) : Except Fault Rle :=
  if s.dest.length < t.pixels then .ok { s with dest := s.dest ++ [v % 2 ^ (8 * t.depth.bytes)] }
  else .error .dstOverrun

/-- `DESTREADPIXEL` at `pbDest - rowDelta`. -/
def above (t : Target) (s : Rle) : Nat := s.dest.getD (s.dest.length - t.width) 0

/-- `SRCREADPIXEL` and `SRCNEXTPIXEL`. -/
def read_pixel (t : Target) (s : Rle) : Except Fault (Nat × Rle) :=
  if s.pbSrc.length < t.depth.bytes then .error .srcOverrun
  else .ok (ofLe (s.pbSrc.take t.depth.bytes), { s with pbSrc := s.pbSrc.drop t.depth.bytes })

def bg_pixel (t : Target) (s : Rle) : Except Fault Rle :=
  put_pixel t (if s.fFirstLine then BLACK_PIXEL else above t s) s

def fg_pixel (t : Target) (s : Rle) : Except Fault Rle :=
  put_pixel t (if s.fFirstLine then s.fgPel else above t s ^^^ s.fgPel) s

/-- `while (runLength > 0)` -/
def rest_loop (step : Rle → Except Fault Rle) : Nat → Rle → Except Fault Rle
  | 0, s => pure s
  | runLength + 1, s => do rest_loop step runLength (← step s)

/-- `while (runLength >= UNROLL_COUNT)`, and the rest. -/
def unroll (step : Rle → Except Fault Rle) : Nat → Rle → Except Fault Rle
  | runLength + 4, s => do
    let s ← step s
    let s ← step s
    let s ← step s
    let s ← step s
    unroll step runLength s
  | runLength, s => rest_loop step runLength s

/-- `g_MaskBit0` to `g_MaskBit7` -/
def mask_bits : List UInt8 := [0x01, 0x02, 0x04, 0x08, 0x10, 0x20, 0x40, 0x80]

/-- A pixel for each bit, until there are `cBits`. -/
def write_bits (t : Target) (bitmask : UInt8) : List UInt8 → Nat → Rle → Except Fault Rle
  | [], _, s => pure s
  | mask :: masks, cBits, s => do
    let s ← if bitmask &&& mask ≠ 0 then fg_pixel t s else bg_pixel t s
    if cBits - 1 > 0 then write_bits t bitmask masks (cBits - 1) s else pure s

/-- `WRITEFGBGIMAGE`, and `WRITEFIRSTLINEFGBGIMAGE` on the first line. -/
def WRITEFGBGIMAGE (t : Target) (bitmask : UInt8) (cBits : Nat) (s : Rle) : Except Fault Rle :=
  write_bits t bitmask mask_bits cBits s

def g_MaskSpecialFgBg1 : UInt8 := 0x03
def g_MaskSpecialFgBg2 : UInt8 := 0x05

/-! ## Orders -/

/-- The run length, and `pbSrc` behind it. -/
def order_length (code : Code) (s : Rle) : Except Fault (Nat × Rle) := do
  let (runLength, advance) ← ExtractRunLength code s.pbSrc
  pure (runLength, { s with pbSrc := s.pbSrc.drop advance })

/-- A run length is a `uint32`, so 0 less one is large. -/
def insert_fg (t : Target) (runLength : Nat) (s : Rle) : Except Fault (Nat × Rle) :=
  if s.fInsertFgPel then do
    let s ← fg_pixel t s
    pure ((runLength + 4294967295) % 4294967296, s)
  else pure (runLength, s)

def background (t : Target) (code : Code) (s : Rle) : Except Fault Rle := do
  let (runLength, s) ← order_length code s
  let (runLength, s) ← insert_fg t runLength s
  let s ← unroll (bg_pixel t) runLength s
  pure { s with fInsertFgPel := true }

def set_fg (t : Target) (set : Bool) (s : Rle) : Except Fault Rle :=
  if set then do
    let (fgPel, s) ← read_pixel t s
    pure { s with fgPel }
  else pure s

def foreground (t : Target) (code : Code) (set : Bool) (s : Rle) : Except Fault Rle := do
  let (runLength, s) ← order_length code s
  let s ← set_fg t set s
  unroll (fg_pixel t) runLength s

def dithered (t : Target) (code : Code) (s : Rle) : Except Fault Rle := do
  let (runLength, s) ← order_length code s
  let (pixelA, s) ← read_pixel t s
  let (pixelB, s) ← read_pixel t s
  unroll (fun s => do put_pixel t pixelB (← put_pixel t pixelA s)) runLength s

def color_run (t : Target) (code : Code) (s : Rle) : Except Fault Rle := do
  let (runLength, s) ← order_length code s
  let (pixelA, s) ← read_pixel t s
  unroll (put_pixel t pixelA) runLength s

def image_loop (t : Target) : Nat → Nat → Rle → Except Fault Rle
  | 0, _, s => pure s
  | turns + 1, runLength, s =>
    if runLength > 8 then do
      let bitmask ← src_byte s.pbSrc 0
      let s ← WRITEFGBGIMAGE t bitmask 8 { s with pbSrc := s.pbSrc.drop 1 }
      image_loop t turns (runLength - 8) s
    else if runLength > 0 then do
      let bitmask ← src_byte s.pbSrc 0
      WRITEFGBGIMAGE t bitmask runLength { s with pbSrc := s.pbSrc.drop 1 }
    else pure s

def fgbg_image (t : Target) (code : Code) (set : Bool) (s : Rle) : Except Fault Rle := do
  let (runLength, s) ← order_length code s
  let s ← set_fg t set s
  image_loop t (runLength + 1) runLength s

def color_image (t : Target) (code : Code) (s : Rle) : Except Fault Rle := do
  let (runLength, s) ← order_length code s
  unroll (fun s => do
    let (temp, s) ← read_pixel t s
    put_pixel t temp s) runLength s

/-- An order without a length. -/
def special (f : Rle → Except Fault Rle) (s : Rle) : Except Fault Rle :=
  f { s with pbSrc := s.pbSrc.drop 1 }

def rle_order (t : Target) (code : Code) (s : Rle) : Except Fault Rle :=
  match code with
  | .REGULAR_BG_RUN | .MEGA_MEGA_BG_RUN => background t code s
  | .REGULAR_FG_RUN | .MEGA_MEGA_FG_RUN =>
    foreground t code false { s with fInsertFgPel := false }
  | .LITE_SET_FG_FG_RUN | .MEGA_MEGA_SET_FG_RUN =>
    foreground t code true { s with fInsertFgPel := false }
  | .LITE_DITHERED_RUN | .MEGA_MEGA_DITHERED_RUN =>
    dithered t code { s with fInsertFgPel := false }
  | .REGULAR_COLOR_RUN | .MEGA_MEGA_COLOR_RUN =>
    color_run t code { s with fInsertFgPel := false }
  | .REGULAR_FGBG_IMAGE | .MEGA_MEGA_FGBG_IMAGE =>
    fgbg_image t code false { s with fInsertFgPel := false }
  | .LITE_SET_FG_FGBG_IMAGE | .MEGA_MEGA_SET_FGBG_IMAGE =>
    fgbg_image t code true { s with fInsertFgPel := false }
  | .REGULAR_COLOR_IMAGE | .MEGA_MEGA_COLOR_IMAGE =>
    color_image t code { s with fInsertFgPel := false }
  | .SPECIAL_FGBG_1 =>
    special (WRITEFGBGIMAGE t g_MaskSpecialFgBg1 8) { s with fInsertFgPel := false }
  | .SPECIAL_FGBG_2 =>
    special (WRITEFGBGIMAGE t g_MaskSpecialFgBg2 8) { s with fInsertFgPel := false }
  | .SPECIAL_WHITE => special (put_pixel t WHITE_PIXEL) { s with fInsertFgPel := false }
  | .SPECIAL_BLACK => special (put_pixel t BLACK_PIXEL) { s with fInsertFgPel := false }

/-- The end of the first line is seen at the start of an order. The offset is cast to `uint32`. -/
def watch_first_line (t : Target) (s : Rle) : Rle :=
  if s.fFirstLine ∧ t.depth.bytes * s.dest.length % 4294967296 ≥ t.rowDelta then
    { s with fFirstLine := false, fInsertFgPel := false }
  else s

/-- A header that no case handles moves nothing, so the loop meets it again. -/
def rle_turn (t : Target) (s : Rle) : Except Fault Rle := do
  let s := watch_first_line t s
  match ExtractCodeId (← src_byte s.pbSrc 0) with
  | some code => rle_order t code s
  | none => pure { s with fInsertFgPel := false }

/-- Every order takes a byte at least, so a loop with more turns than bytes does not end. -/
def rle_loop (t : Target) : Nat → Rle → Except Fault Rle
  | 0, _ => .error .endless
  | turns + 1, s => if s.pbSrc.length > 0 then do rle_loop t turns (← rle_turn t s) else pure s

def rle_start (pbSrcBuffer : List UInt8) : Rle where
  pbSrc := pbSrcBuffer
  dest := []
  fgPel := WHITE_PIXEL
  fInsertFgPel := false
  fFirstLine := true

def RLEDECOMPRESS (t : Target) (pbSrcBuffer : List UInt8) : Except Fault Rle :=
  rle_loop t (pbSrcBuffer.length + 1) (rle_start pbSrcBuffer)

end neutrinordp.bitmap
