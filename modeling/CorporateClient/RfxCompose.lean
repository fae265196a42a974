-- RemoteFX messages as they are written (rfx.c). The lengths of the tiles and of the tileset are
-- known only when their codes are there, so they are put in later.
import CorporateClient.RfxEncode
import CorporateClient.StreamCodec

namespace neutrinordp.rfx

open stream

def rfx_default_quantization_values : List Nat := [6, 6, 6, 6, 7, 7, 8, 8, 8, 9]

/-! ## The header -/

def rfx_compose_message_sync (s : STREAM) : STREAM :=
  let s := stream_write_uint16 s WBT_SYNC
  let s := stream_write_uint32 s 12
  let s := stream_write_uint32 s WF_MAGIC
  stream_write_uint16 s WF_VERSION_1_0

def rfx_compose_message_codec_versions (s : STREAM) : STREAM :=
  let s := stream_write_uint16 s WBT_CODEC_VERSIONS
  let s := stream_write_uint32 s 10
  let s := stream_write_uint8 s 1
  let s := stream_write_uint8 s 1
  stream_write_uint16 s WF_VERSION_1_0

def rfx_compose_message_channels (context : RFX_CONTEXT) (s : STREAM) : STREAM :=
  let s := stream_write_uint16 s WBT_CHANNELS
  let s := stream_write_uint32 s 12
  let s := stream_write_uint8 s 1
  let s := stream_write_uint8 s 0
  let s := stream_write_uint16 s context.width
  stream_write_uint16 s context.height

def clw_entropy (mode : RLGR_MODE) : Nat :=
  if mode = .RLGR1 then CLW_ENTROPY_RLGR1 else CLW_ENTROPY_RLGR3

def context_properties (context : RFX_CONTEXT) : Nat :=
  context.flags ||| (COL_CONV_ICT <<< 3) ||| (CLW_XFORM_DWT_53_A <<< 5) |||
    (clw_entropy context.mode <<< 9) ||| (SCALAR_QUANTIZATION <<< 13)

def tileset_properties (context : RFX_CONTEXT) : Nat :=
  (1 ||| (context.flags <<< 1) ||| (COL_CONV_ICT <<< 4) ||| (CLW_XFORM_DWT_53_A <<< 6) |||
    (clw_entropy context.mode <<< 10) ||| (SCALAR_QUANTIZATION <<< 14)) % 65536

def rfx_compose_message_context (context : RFX_CONTEXT) (s : STREAM) : RFX_CONTEXT × STREAM :=
  let s := stream_write_uint16 s WBT_CONTEXT
  let s := stream_write_uint32 s 13
  let s := stream_write_uint8 s 1
  let s := stream_write_uint8 s 0
  let s := stream_write_uint8 s 0
  let s := stream_write_uint16 s CT_TILE_64x64
  let s := stream_write_uint16 s (context_properties context)
  ({ context with properties := tileset_properties context }, s)

def rfx_compose_message_header (context : RFX_CONTEXT) (s : STREAM) : RFX_CONTEXT × STREAM :=
  let s := stream_check_size s (12 + 10 + 12 + 13)
  let s := rfx_compose_message_sync s
  let (context, s) := rfx_compose_message_context context s
  let s := rfx_compose_message_codec_versions s
  let s := rfx_compose_message_channels context s
  ({ context with header_processed := true }, s)

/-! ## The frame -/

/-- `frame_idx` is a `uint32`. -/
def rfx_compose_message_frame_begin (context : RFX_CONTEXT) (s : STREAM) : RFX_CONTEXT × STREAM :=
  let s := stream_check_size s 14
  let s := stream_write_uint16 s WBT_FRAME_BEGIN
  let s := stream_write_uint32 s 14
  let s := stream_write_uint8 s 1
  let s := stream_write_uint8 s 0
  let s := stream_write_uint32 s context.frame_idx
  let s := stream_write_uint16 s 1
  ({ context with frame_idx := (context.frame_idx + 1) % 4294967296 }, s)

def write_rect (s : STREAM) (rect : RFX_RECT) : STREAM :=
  let s := stream_write_uint16 s rect.x.toNat
  let s := stream_write_uint16 s rect.y.toNat
  let s := stream_write_uint16 s rect.width.toNat
  stream_write_uint16 s rect.height.toNat

def rfx_compose_message_region (rects : List RFX_RECT) (s : STREAM) : STREAM :=
  let size := 15 + rects.length * 8
  let s := stream_check_size s size
  let s := stream_write_uint16 s WBT_REGION
  let s := stream_write_uint32 s size
  let s := stream_write_uint8 s 1
  let s := stream_write_uint8 s 0
  let s := stream_write_uint8 s 1
  let s := stream_write_uint16 s rects.length
  let s := rects.foldl write_rect s
  let s := stream_write_uint16 s CBT_REGION
  stream_write_uint16 s 1

def rfx_compose_message_frame_end (s : STREAM) : STREAM :=
  let s := stream_check_size s 8
  let s := stream_write_uint16 s WBT_FRAME_END
  let s := stream_write_uint32 s 8
  let s := stream_write_uint8 s 1
  stream_write_uint8 s 0

/-! ## Tiles -/

/-- The image of a message: where its first pixel is, and how far its rows are apart. -/
structure Image where
  memory : Memory
  width : Nat
  height : Nat
  rowstride : Int

/-- The quantization tables of a message, and the indices of those that its planes use. -/
structure QuantSet where
  numQuants : Nat
  quantVals : List Nat
  behind : Nat → Nat
  quantIdxY : Nat
  quantIdxCb : Nat
  quantIdxCr : Nat

def QuantSet.tile_quants (q : QuantSet) : TileQuants where
  y := quant_values q.quantVals q.behind q.quantIdxY
  cb := quant_values q.quantVals q.behind q.quantIdxCb
  cr := quant_values q.quantVals q.behind q.quantIdxCr

/-- The fields in front of the codes. The lengths are left out. -/
def tile_start (q : QuantSet) (xIdx yIdx : Nat) (s : STREAM) : STREAM :=
  let s := stream_write_uint16 s CBT_TILE
  let s := stream_seek s 4
  let s := stream_write_uint8 s q.quantIdxY
  let s := stream_write_uint8 s q.quantIdxCb
  let s := stream_write_uint8 s q.quantIdxCr
  let s := stream_write_uint16 s xIdx
  let s := stream_write_uint16 s yIdx
  stream_seek s 6

/-- The lengths, when the codes are there. -/
def tile_end (start_pos : Nat) (code : TileCode) (s : STREAM) : STREAM :=
  let end_pos := stream_get_pos s
  let s := stream_set_pos s (start_pos + 2)
  let s := stream_write_uint32 s (19 + code.Y.length + code.Cb.length + code.Cr.length)
  let s := stream_set_pos s (start_pos + 13)
  let s := stream_write_uint16 s code.Y.length
  let s := stream_write_uint16 s code.Cb.length
  let s := stream_write_uint16 s code.Cr.length
  stream_set_pos s end_pos

def tile_done (context : RFX_CONTEXT) (start_pos : Nat) (encoded : Buffers × STREAM × TileCode) :
    RFX_CONTEXT × STREAM × TileCode :=
  ({ context with buffers := encoded.1 }, tile_end start_pos encoded.2.2 encoded.2.1, encoded.2.2)

def put_tile (context : RFX_CONTEXT) (image : Image) (rgb_data : Int)
    (tile_width tile_height : Nat) (q : QuantSet) (xIdx yIdx : Nat) (s : STREAM) :
    RFX_CONTEXT × STREAM × TileCode :=
  tile_done context (stream_get_pos s)
    (rfx_encode_rgb context image.memory rgb_data tile_width tile_height image.rowstride
      q.tile_quants (tile_start q xIdx yIdx s))

def rfx_compose_message_tile (context : RFX_CONTEXT) (image : Image) (rgb_data : Int)
    (tile_width tile_height : Nat) (q : QuantSet) (xIdx yIdx : Nat) (s : STREAM) :
    RFX_CONTEXT × STREAM × TileCode :=
  put_tile context image rgb_data tile_width tile_height q xIdx yIdx (stream_check_size s 19)

def Image.numTilesX (image : Image) : Nat := (image.width + 63) / 64

def Image.numTilesY (image : Image) : Nat := (image.height + 63) / 64

/-- The tiles row by row, each as its column and its row. -/
def Image.tiles (image : Image) : List (Nat × Nat) :=
  (List.range image.numTilesY).flatMap fun yIdx =>
    (List.range image.numTilesX).map fun xIdx => (xIdx, yIdx)

def compose_tile_at (image : Image) (q : QuantSet) (xIdx yIdx : Nat) (context : RFX_CONTEXT)
    (s : STREAM) : RFX_CONTEXT × STREAM × TileCode :=
  rfx_compose_message_tile context image
    (yIdx * 64 * image.rowstride + xIdx * 8 * context.bits_per_pixel)
    (if xIdx < image.numTilesX - 1 then 64 else image.width - xIdx * 64)
    (if yIdx < image.numTilesY - 1 then 64 else image.height - yIdx * 64) q xIdx yIdx s

def add_code (code : TileCode) (rest : RFX_CONTEXT × STREAM × List TileCode) :
    RFX_CONTEXT × STREAM × List TileCode :=
  (rest.1, rest.2.1, code :: rest.2.2)

def compose_tiles (image : Image) (q : QuantSet) :
    List (Nat × Nat) → RFX_CONTEXT → STREAM → RFX_CONTEXT × STREAM × List TileCode
  | [], context, s => (context, s, [])
  | (xIdx, yIdx) :: tiles, context, s =>
    let tile := compose_tile_at image q xIdx yIdx context s
    add_code tile.2.2 (compose_tiles image q tiles tile.1 tile.2.1)

def quant_set (context : RFX_CONTEXT) : QuantSet :=
  if context.num_quants = 0 then
    { numQuants := 1, quantVals := rfx_default_quantization_values
      behind := context.behind_quants, quantIdxY := 0, quantIdxCb := 0, quantIdxCr := 0 }
  else
    { numQuants := context.num_quants, quantVals := context.quants
      behind := context.behind_quants, quantIdxY := context.quant_idx_y
      quantIdxCb := context.quant_idx_cb, quantIdxCr := context.quant_idx_cr }

/-- Two values go to a byte, the low one first. -/
def QuantSet.bytes (q : QuantSet) : List UInt8 :=
  (List.range (q.numQuants * 5)).map fun i =>
    UInt8.ofNat (q.quantVals.getD (2 * i) (q.behind (2 * i)) +
      (q.quantVals.getD (2 * i + 1) (q.behind (2 * i + 1)) <<< 4))

/-- The fields in front of the tiles. The sizes are left out. -/
def tileset_start (properties numTiles : Nat) (q : QuantSet) (s : STREAM) : STREAM :=
  let s := stream_write_uint16 s WBT_EXTENSION
  let s := stream_seek s 4
  let s := stream_write_uint8 s 1
  let s := stream_write_uint8 s 0
  let s := stream_write_uint16 s CBT_TILESET
  let s := stream_write_uint16 s 0
  let s := stream_write_uint16 s properties
  let s := stream_write_uint8 s q.numQuants
  let s := stream_write_uint8 s 0x40
  let s := stream_write_uint16 s numTiles
  let s := stream_seek s 4
  stream_write s q.bytes

/-- The sizes, when the tiles are there. -/
def tileset_end (start_pos size tilesDataSize : Nat) (s : STREAM) : STREAM :=
  let end_pos := stream_get_pos s
  let s := stream_set_pos s (start_pos + 2)
  let s := stream_write_uint32 s (size + tilesDataSize)
  let s := stream_set_pos s (start_pos + 18)
  let s := stream_write_uint32 s tilesDataSize
  stream_set_pos s end_pos

def tileset_done (start_pos size end_pos : Nat) (composed : RFX_CONTEXT × STREAM × List TileCode) :
    RFX_CONTEXT × STREAM × List TileCode :=
  (composed.1, tileset_end start_pos size (stream_get_pos composed.2.1 - end_pos) composed.2.1,
    composed.2.2)

def put_tileset (context : RFX_CONTEXT) (image : Image) (q : QuantSet) (s : STREAM) :
    RFX_CONTEXT × STREAM × List TileCode :=
  let numTiles := image.numTilesX * image.numTilesY
  let start := tileset_start context.properties numTiles q s
  tileset_done (stream_get_pos s) (22 + q.numQuants * 5) (stream_get_pos start)
    (compose_tiles image q image.tiles context start)

def rfx_compose_message_tileset (context : RFX_CONTEXT) (image : Image) (s : STREAM) :
    RFX_CONTEXT × STREAM × List TileCode :=
  let q := quant_set context
  put_tileset context image q (stream_check_size s (22 + q.numQuants * 5))

def frame_done (composed : RFX_CONTEXT × STREAM × List TileCode) :
    RFX_CONTEXT × STREAM × List TileCode :=
  (composed.1, rfx_compose_message_frame_end composed.2.1, composed.2.2)

def rfx_compose_message_data (context : RFX_CONTEXT) (rects : List RFX_RECT) (image : Image)
    (s : STREAM) : RFX_CONTEXT × STREAM × List TileCode :=
  let frame := rfx_compose_message_frame_begin context s
  frame_done (rfx_compose_message_tileset frame.1 image
    (rfx_compose_message_region rects frame.2))

def sends_header (context : RFX_CONTEXT) : Bool :=
  context.frame_idx = 0 ∧ context.header_processed = false

def rfx_compose_message (context : RFX_CONTEXT) (rects : List RFX_RECT) (image : Image)
    (s : STREAM) : RFX_CONTEXT × STREAM × List TileCode :=
  if sends_header context then
    let header := rfx_compose_message_header context s
    rfx_compose_message_data header.1 rects image header.2
  else rfx_compose_message_data context rects image s

end neutrinordp.rfx
