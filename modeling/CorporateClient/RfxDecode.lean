-- The decoder of a RemoteFX tile (rfx_decode.c, rfx_quantization.c, rfx_differential.c). Three
-- codes become three planes of 4096 coefficients, and these the pixels of the tile. The planes are
-- buffers of the codec: a tile is decoded over what the tile before left there.
import CorporateClient.RfxSse2

open List

namespace neutrinordp.rfx

inductive RFX_PIXEL_FORMAT
  | BGRA
  | RGBA
  | BGR
  | RGB
  | BGR565_LE
  | RGB565_LE
  | PALETTE4_PLANER
  | PALETTE8
deriving Repr, DecidableEq

/-- A cast to `sint32`. -/
def sint32 (v : Int) : Int := (BitVec.ofInt 32 v).toInt

def MINMAX (v l h : Int) : Int := if v < l then l else if v > h then h else v

/-! ## The steps for one plane -/

/-- `*dst += *src`, with the sum in front. -/
def differential_from (src : Int) : List Int → List Int
  | [] => []
  | dst :: rest => sint16 (dst + src) :: differential_from (sint16 (dst + src)) rest

def rfx_differential_decode : List Int → List Int
  | [] => []
  | src :: rest => src :: differential_from src rest

/-- A shift by more than 31 bits is undefined in C. Here it gives 0, as no bit is left. -/
def rfx_quantization_decode_block (buffer : List Int) (offset buffer_size factor : Nat) :
    List Int :=
  if factor = 0 then buffer
  else map_block offset buffer_size (fun v => sint16 (v * 2 ^ factor)) buffer

def rfx_quantization_decode (buffer : List Int) (quantization_values : List Nat) : List Int :=
  quant_blocks.foldl (fun buffer block => rfx_quantization_decode_block buffer block.1 block.2.1
    (quant_factor quantization_values block.2.2)) (rfx_quantization_decode_block buffer 0 4096 5)

/-- The coefficients or samples of a tile. -/
abbrev Plane := { l : List Int // l.length = 4096 }

/-- Values are stored from the start of a buffer on, and the others stay. -/
def overwrite {α : Type} (values old : List α) : List α := values ++ old.drop values.length

/-- The values that `rfx_rlgr_decode` stores for a tile. -/
def rlgr_values (mode : RLGR_MODE) (data : List UInt8) : List Int :=
  match rfx_rlgr_decode mode data 4096 with
  | some (_, values) => values
  | none => []

theorem length_rfx_dwt_2d_decode (buffer : List Int) :
    (rfx_dwt_2d_decode buffer).length = 4096 := by
  unfold rfx_dwt_2d_decode
  rw [in_block_zero, rfx_dwt_2d_decode_block, length_grid]

def rfx_decode_component (mode : RLGR_MODE) (quantization_values : List Nat) (data : List UInt8)
    (buffer : Plane) : Plane :=
  let buffer := overwrite (rlgr_values mode data) buffer.1
  let buffer := in_block 4032 rfx_differential_decode buffer
  let buffer := rfx_quantization_decode buffer quantization_values
  ⟨rfx_dwt_2d_decode buffer, length_rfx_dwt_2d_decode buffer⟩

/-! ## Pixels -/

/-- The buffers of the codec. -/
structure Buffers where
  y_r : Plane
  cb_g : Plane
  cr_b : Plane

abbrev Pixel := Int × Int × Int

def Buffers.pixels (b : Buffers) : List Pixel := b.y_r.1.zip (b.cb_g.1.zip b.cr_b.1)

theorem Buffers.length_pixels (b : Buffers) : b.pixels.length = 4096 := by
  unfold Buffers.pixels
  rw [length_zip, length_zip, b.y_r.2, b.cb_g.2, b.cr_b.2]
  rfl

def Buffers.of_pixels (p : List Pixel) (h : p.length = 4096) : Buffers where
  y_r := ⟨p.map (·.1), by rw [length_map, h]⟩
  cb_g := ⟨p.map (·.2.1), by rw [length_map, h]⟩
  cr_b := ⟨p.map (·.2.2), by rw [length_map, h]⟩

def ycbcr_to_rgb : Pixel → Pixel
  | (y, cb, cr) =>
    let y := sint32 ((y + 4096) <<< (16 : Nat))
    let r := sint32 (y + cr * 91947)
    let g := sint32 (y - cb * 22544 - cr * 46792)
    let b := sint32 (y + cb * 115998)
    (MINMAX (r >>> (21 : Nat)) 0 255, MINMAX (g >>> (21 : Nat)) 0 255,
      MINMAX (b >>> (21 : Nat)) 0 255)

def rfx_decode_ycbcr_to_rgb (b : Buffers) : Buffers :=
  .of_pixels (b.pixels.map ycbcr_to_rgb) (by rw [length_map, b.length_pixels])

/-- The bytes of a pixel. There are none in the formats that the decoder does not know. -/
def format_pixel (pixel_format : RFX_PIXEL_FORMAT) : Pixel → List UInt8
  | (r, g, b) =>
    match pixel_format with
    | .BGRA => [UInt8.ofInt b, UInt8.ofInt g, UInt8.ofInt r, 0xFF]
    | .RGBA => [UInt8.ofInt r, UInt8.ofInt g, UInt8.ofInt b, 0xFF]
    | .BGR => [UInt8.ofInt b, UInt8.ofInt g, UInt8.ofInt r]
    | .RGB => [UInt8.ofInt r, UInt8.ofInt g, UInt8.ofInt b]
    | _ => []

def rfx_decode_format_rgb (b : Buffers) (pixel_format : RFX_PIXEL_FORMAT) (dst : List UInt8) :
    List UInt8 :=
  overwrite (b.pixels.flatMap (format_pixel pixel_format)) dst

/-- The codes of a tile. -/
structure TileCode where
  Y : List UInt8
  Cb : List UInt8
  Cr : List UInt8
deriving DecidableEq

/-- The quantization values of the three planes. -/
structure TileQuants where
  y : List Nat
  cb : List Nat
  cr : List Nat

def rfx_decode_rgb (mode : RLGR_MODE) (pixel_format : RFX_PIXEL_FORMAT) (code : TileCode)
    (quants : TileQuants) (b : Buffers) (rgb_buffer : List UInt8) : Buffers × List UInt8 :=
  let b : Buffers :=
    { y_r := rfx_decode_component mode quants.y code.Y b.y_r
      cb_g := rfx_decode_component mode quants.cb code.Cb b.cb_g
      cr_b := rfx_decode_component mode quants.cr code.Cr b.cr_b }
  let b := rfx_decode_ycbcr_to_rgb b
  (b, rfx_decode_format_rgb b pixel_format rgb_buffer)

end neutrinordp.rfx
