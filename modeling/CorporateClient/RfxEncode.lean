-- The encoder of a RemoteFX tile (rfx_encode.c). Pixels of an image become three planes, and each
-- plane a code that is written to a stream. A code never goes past the end of the stream: what
-- does not fit is cut off.
import CorporateClient.RfxMessage
import CorporateClient.Stream

namespace neutrinordp.rfx

open List stream

/-! ## From the image to the buffers -/

section image

variable (pixel_format : RFX_PIXEL_FORMAT) (palette : Option (Nat → UInt8))

def palette_pixel (palette : Nat → UInt8) (idx : Nat) : Pixel :=
  ((palette idx).toNat, (palette (idx + 1)).toNat, (palette (idx + 2)).toNat)

def planar_idx (src : Nat → UInt8) (x : Nat) : Nat :=
  let shift := 7 - x % 8
  let bit := fun i => ((src (4 * (x / 8) + i)).toNat >>> shift) &&& 1
  bit 0 ||| (bit 1 <<< 1) ||| (bit 2 <<< 2) ||| (bit 3 <<< 3)

def pixel_565 (lo hi : Nat) : Nat × Nat × Nat :=
  ((hi &&& 0xF8) ||| (hi >>> 5), ((hi &&& 0x07) <<< 5) ||| ((lo &&& 0xE0) >>> 3),
    ((lo &&& 0x1F) <<< 3) ||| ((lo >>> 2) &&& 0x07))

/-- The pixel of a row. There is none if a palette is needed and not there. -/
def row_pixel (src : Nat → UInt8) (x : Nat) : Option Pixel :=
  let byte := fun i => ((src i).toNat : Int)
  match pixel_format with
  | .BGRA => some (byte (4 * x + 2), byte (4 * x + 1), byte (4 * x))
  | .RGBA => some (byte (4 * x), byte (4 * x + 1), byte (4 * x + 2))
  | .BGR => some (byte (3 * x + 2), byte (3 * x + 1), byte (3 * x))
  | .RGB => some (byte (3 * x), byte (3 * x + 1), byte (3 * x + 2))
  | .BGR565_LE =>
    let (b, g, r) := pixel_565 (src (2 * x)).toNat (src (2 * x + 1)).toNat
    some (r, g, b)
  | .RGB565_LE =>
    let (r, g, b) := pixel_565 (src (2 * x)).toNat (src (2 * x + 1)).toNat
    some (r, g, b)
  | .PALETTE4_PLANER => palette.map fun palette => palette_pixel palette (planar_idx src x * 3)
  | .PALETTE8 => palette.map fun palette => palette_pixel palette ((src x).toNat * 3)

def pixel_back (before : Nat → Pixel) (out : List Pixel) (back : Nat) : Pixel :=
  if back ≤ out.length then out.getD (out.length - back) (0, 0, 0) else before (back - out.length)

def format_row (before : Nat → Pixel) (src : Nat → UInt8) (width : Nat) (out : List Pixel) :
    List Pixel :=
  let out := out ++ (range width).filterMap (row_pixel pixel_format palette src)
  out ++ replicate (64 - width) (pixel_back before out 1)

def format_rows (before : Nat → Pixel) (image : Memory) (rgb_data : Int) (width height : Nat)
    (rowstride : Int) : List Pixel :=
  let out := (range height).foldl (fun out (y : Nat) =>
    format_row pixel_format palette before (fun i => image (rgb_data + y * rowstride + i)) width
      out) []
  out ++ (replicate (64 - height) ((range 64).map fun i =>
    pixel_back before out (64 - i))).flatten

end image

theorem length_overwrite {α : Type} (values : List α) {old : List α} (h : old.length = 4096) :
    ((overwrite values old).take 4096).length = 4096 := by
  unfold overwrite
  rw [length_take, length_append, length_drop, h]
  omega

def Plane.overwrite (values : List Int) (plane : Plane) : Plane :=
  ⟨(rfx.overwrite values plane.1).take 4096, length_overwrite values plane.2⟩

def rfx_encode_format_rgb (context : RFX_CONTEXT) (image : Memory) (rgb_data : Int)
    (width height : Nat) (rowstride : Int) : Buffers :=
  let out := format_rows context.pixel_format context.palette context.before_buffers image
    rgb_data width height rowstride
  { y_r := .overwrite (out.map (·.1)) context.buffers.y_r
    cb_g := .overwrite (out.map (·.2.1)) context.buffers.cb_g
    cr_b := .overwrite (out.map (·.2.2)) context.buffers.cr_b }

def rgb_to_ycbcr : Pixel → Pixel
  | (r, g, b) =>
    let y := (r * 9798 + g * 19235 + b * 3735) >>> (10 : Nat)
    let cb := (r * -5535 + g * -10868 + b * 16403) >>> (10 : Nat)
    let cr := (r * 16377 + g * -13714 + b * -2663) >>> (10 : Nat)
    (MINMAX (y - 4096) (-4096) 4095, MINMAX cb (-4096) 4095, MINMAX cr (-4096) 4095)

def rfx_encode_rgb_to_ycbcr (b : Buffers) : Buffers :=
  .of_pixels (b.pixels.map rgb_to_ycbcr) (by rw [length_map, b.length_pixels])

/-! ## The steps for one plane -/

/-- `*dst -= n1`, with the value that was in front. -/
def difference_from (n1 : Int) : List Int → List Int
  | [] => []
  | n2 :: rest => sint16 (n2 - n1) :: difference_from n2 rest

def rfx_differential_encode : List Int → List Int
  | [] => []
  | n1 :: rest => n1 :: difference_from n1 rest

theorem length_difference_from (n1 : Int) (l : List Int) :
    (difference_from n1 l).length = l.length := by
  induction l generalizing n1 with
  | nil => rfl
  | cons n2 rest ih => rw [difference_from, length_cons, length_cons, ih]

theorem length_rfx_differential_encode (l : List Int) :
    (rfx_differential_encode l).length = l.length := by
  cases l with
  | nil => rfl
  | cons n1 rest =>
    rw [rfx_differential_encode, length_cons, length_cons, length_difference_from]

theorem length_map_block (offset size : Nat) (f : Int → Int) (buffer : List Int) :
    (map_block offset size f buffer).length = buffer.length := by
  unfold map_block
  rw [length_append, length_append, length_map, length_take, length_take, length_drop, length_drop]
  omega

theorem length_encode_block (buffer : List Int) (offset size factor : Nat) :
    (rfx_quantization_encode_block buffer offset size factor).length = buffer.length := by
  unfold rfx_quantization_encode_block
  split_ifs
  · rfl
  · exact length_map_block _ _ _ _

theorem length_rfx_quantization_encode (buffer : List Int) (q : List Nat) :
    (rfx_quantization_encode buffer q).length = buffer.length := by
  have hfold : ∀ (blocks : List (Nat × Nat × Nat)) (buffer : List Int),
      (blocks.foldl (fun buffer block => rfx_quantization_encode_block buffer block.1 block.2.1
        (quant_factor q block.2.2)) buffer).length = buffer.length := by
    intro blocks
    induction blocks with
    | nil => intro buffer; rfl
    | cons block blocks ih =>
      intro buffer
      rw [foldl_cons, ih, length_encode_block]
  unfold rfx_quantization_encode quantize_blocks
  rw [length_encode_block, hfold]

theorem length_rfx_dwt_2d_encode (buffer : List Int) :
    (rfx_dwt_2d_encode buffer).length = 4096 := by
  rw [rfx_dwt_2d_encode_eq, encode_block_eq, length_append, length_append,
    length_append, length_bands, length_bands, length_bands, low_band, length_grid]

theorem length_in_block (offset : Nat) (f : List Int → List Int) (hf : ∀ l, (f l).length = l.length)
    (buffer : List Int) : (in_block offset f buffer).length = buffer.length := by
  unfold in_block
  rw [length_append, hf, ← length_append, take_append_drop]

/-- The coefficients of a plane, as they are coded. -/
def coefficients (quantization_values : List Nat) (data : List Int) : Plane :=
  ⟨in_block 4032 rfx_differential_encode
      (rfx_quantization_encode (rfx_dwt_2d_encode data) quantization_values), by
    rw [length_in_block _ _ length_rfx_differential_encode, length_rfx_quantization_encode,
      length_rfx_dwt_2d_encode]⟩

/-- The code goes to the buffer that starts at the position of the stream. -/
def rfx_encode_component (mode : RLGR_MODE) (quantization_values : List Nat) (data : Plane)
    (buffer : List UInt8) : Plane × Nat × List UInt8 :=
  let data := coefficients quantization_values data.1
  (data, rfx_rlgr_encode mode data.1 buffer)

/-- A code at the position of a stream: the plane, the stream behind the code, and the code. Its
length is the size that C gives back. -/
def put_component (mode : RLGR_MODE) (quantization_values : List Nat) (data : Plane) (s : STREAM) :
    Plane × STREAM × List UInt8 :=
  let encoded := rfx_encode_component mode quantization_values data s.left
  let size := encoded.2.1
  let buffer := encoded.2.2
  (encoded.1, stream_seek (stream_poke s s.pos buffer) size, buffer.take size)

def encode_to_stream (mode : RLGR_MODE) (quantization_values : List Nat) (data : Plane)
    (s : STREAM) : Plane × STREAM × List UInt8 :=
  put_component mode quantization_values data (stream_check_size s 4096)

def rfx_encode_rgb (context : RFX_CONTEXT) (image : Memory) (rgb_data : Int) (width height : Nat)
    (rowstride : Int) (quants : TileQuants) (s : STREAM) : Buffers × STREAM × TileCode :=
  let b := rfx_encode_format_rgb context image rgb_data width height rowstride
  let b := rfx_encode_rgb_to_ycbcr b
  let (y_r, s, Y) := encode_to_stream context.mode quants.y b.y_r s
  let (cb_g, s, Cb) := encode_to_stream context.mode quants.cb b.cb_g s
  let (cr_b, s, Cr) := encode_to_stream context.mode quants.cr b.cr_b s
  ({ y_r, cb_g, cr_b }, s, { Y, Cb, Cr })

end neutrinordp.rfx
