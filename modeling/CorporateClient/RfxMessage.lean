-- RemoteFX messages as they are read (rfx.c, rfx_pool.c). A message is a row of blocks, each with
-- its type and its length. The reader jumps by these lengths and never looks at the end of the
-- message inside a block, so it is modelled over the memory around the message. The tiles of a
-- message come from a pool, and go back to it when the message is freed.
import CorporateClient.RfxDecode
import CorporateClient.Lib.Bytes

open bytes

namespace neutrinordp.rfx

def WF_MAGIC : Nat := 0xCACCACCA
def WF_VERSION_1_0 : Nat := 0x0100
def WBT_SYNC : Nat := 0xCCC0
def WBT_CODEC_VERSIONS : Nat := 0xCCC1
def WBT_CHANNELS : Nat := 0xCCC2
def WBT_CONTEXT : Nat := 0xCCC3
def WBT_FRAME_BEGIN : Nat := 0xCCC4
def WBT_FRAME_END : Nat := 0xCCC5
def WBT_REGION : Nat := 0xCCC6
def WBT_EXTENSION : Nat := 0xCCC7
def CBT_REGION : Nat := 0xCAC1
def CBT_TILESET : Nat := 0xCAC2
def CBT_TILE : Nat := 0xCAC3
def CT_TILE_64x64 : Nat := 0x0040
def COL_CONV_ICT : Nat := 1
def CLW_XFORM_DWT_53_A : Nat := 1
def CLW_ENTROPY_RLGR1 : Nat := 1
def CLW_ENTROPY_RLGR3 : Nat := 4
def SCALAR_QUANTIZATION : Nat := 1

/-! ## The pool -/

structure RFX_RECT where
  x : UInt16
  y : UInt16
  width : UInt16
  height : UInt16
deriving Repr, DecidableEq

structure RFX_TILE where
  x : UInt16
  y : UInt16
  data : List UInt8
deriving Repr, DecidableEq

/-- A tile is known by its number: `allocated` of them exist. `tiles` are those that are not in
use, the next one first, and `heap` has what stands in the memory of each. -/
structure RFX_POOL where
  tiles : List Nat
  allocated : Nat
  heap : Nat → RFX_TILE

def RFX_POOL.store (pool : RFX_POOL) (i : Nat) (tile : RFX_TILE) : RFX_POOL :=
  { pool with heap := fun j => if j = i then tile else pool.heap j }

def rfx_pool_put_tile (pool : RFX_POOL) (tile : Nat) : RFX_POOL :=
  { pool with tiles := tile :: pool.tiles }

def rfx_pool_get_tile (pool : RFX_POOL) : Nat × RFX_POOL :=
  match pool.tiles with
  | [] =>
    (pool.allocated,
      { pool.store pool.allocated ⟨0, 0, (pool.heap pool.allocated).data⟩ with
        allocated := pool.allocated + 1 })
  | tile :: tiles => (tile, { pool with tiles })

def rfx_pool_put_tiles (pool : RFX_POOL) (tiles : List Nat) : RFX_POOL :=
  tiles.foldl rfx_pool_put_tile pool

def rfx_pool_get_tiles : Nat → RFX_POOL → List Nat × RFX_POOL
  | 0, pool => ([], pool)
  | count + 1, pool =>
    let (tile, pool) := rfx_pool_get_tile pool
    let (tiles, pool) := rfx_pool_get_tiles count pool
    (tile :: tiles, pool)

/-! ## The codec and its messages -/

/-- The fields of `RFX_CONTEXT` and of its private part. `behind_quants` is what stands in memory
behind the quantization values, and `before_buffers` what stands in front of the buffers. -/
structure RFX_CONTEXT where
  flags : Nat
  properties : Nat
  width : Nat
  height : Nat
  mode : RLGR_MODE
  version : Nat
  codec_id : Nat
  codec_version : Nat
  pixel_format : RFX_PIXEL_FORMAT
  bits_per_pixel : Nat
  palette : Option (Nat → UInt8)
  frame_idx : Nat
  header_processed : Bool
  num_quants : Nat
  quants : List Nat
  quant_idx_y : Nat
  quant_idx_cb : Nat
  quant_idx_cr : Nat
  pool : RFX_POOL
  buffers : Buffers
  behind_quants : Nat → Nat
  before_buffers : Nat → Pixel

/-- `num_tiles` and `tiles` are set at different times. A message without tiles has `NULL`, which
is the empty list here. -/
structure RFX_MESSAGE where
  num_rects : Nat
  rects : List RFX_RECT
  num_tiles : Nat
  tiles : List Nat
deriving Repr, DecidableEq

def rfx_message_new : RFX_MESSAGE := ⟨0, [], 0, []⟩

def zero_buffers : Buffers where
  y_r := ⟨List.replicate 4096 0, List.length_replicate⟩
  cb_g := ⟨List.replicate 4096 0, List.length_replicate⟩
  cr_b := ⟨List.replicate 4096 0, List.length_replicate⟩

/-- A new codec. Its memory is zero, and its pool is empty. What stands in the memory of the tiles
to come, and around the other arrays, is not known. -/
def rfx_context_new (heap : Nat → RFX_TILE) (behind_quants : Nat → Nat)
    (before_buffers : Nat → Pixel) : RFX_CONTEXT where
  flags := 0
  properties := 0
  width := 0
  height := 0
  mode := .RLGR1
  version := 0
  codec_id := 0
  codec_version := 0
  pixel_format := .BGRA
  bits_per_pixel := 32
  palette := none
  frame_idx := 0
  header_processed := false
  num_quants := 0
  quants := []
  quant_idx_y := 0
  quant_idx_cb := 0
  quant_idx_cr := 0
  pool := ⟨[], 0, heap⟩
  buffers := zero_buffers
  behind_quants
  before_buffers

/-! ## Blocks -/

/-- The memory, with the message from index 0 on. -/
abbrev Memory := Int → UInt8

section reader

variable (m : Memory)

def uint8_at (p : Int) : Nat := (m p).toNat

def uint16_at (p : Int) : Nat := ofLe16 (m p) (m (p + 1))

def uint32_at (p : Int) : Nat := ofLe32 (m p) (m (p + 1)) (m (p + 2)) (m (p + 3))

def bytes_at (p : Int) (n : Nat) : List UInt8 := (List.range n).map fun i : Nat => m (p + i)

/-- The version is kept, also when it is not the known one. -/
def rfx_process_message_sync (p : Int) (context : RFX_CONTEXT) : RFX_CONTEXT :=
  if uint32_at m p ≠ WF_MAGIC then context else { context with version := uint16_at m (p + 4) }

/-- `codec_version` takes one of its two bytes. -/
def rfx_process_message_codec_versions (p : Int) (context : RFX_CONTEXT) : RFX_CONTEXT :=
  if uint8_at m p ≠ 1 then context
  else { context with codec_id := uint8_at m (p + 1), codec_version := uint8_at m (p + 2) }

def rfx_process_message_channels (p : Int) (context : RFX_CONTEXT) : RFX_CONTEXT :=
  if uint8_at m p < 1 then context
  else { context with width := uint16_at m (p + 2), height := uint16_at m (p + 4) }

def rfx_process_message_context (p : Int) (context : RFX_CONTEXT) : RFX_CONTEXT :=
  let properties := uint16_at m (p + 3)
  let entropy := (properties &&& 0x1E00) >>> 9
  { context with
    properties
    flags := properties &&& 0x0007
    mode := if entropy = CLW_ENTROPY_RLGR1 then .RLGR1
      else if entropy = CLW_ENTROPY_RLGR3 then .RLGR3 else context.mode }

def rect_at (p : Int) : RFX_RECT where
  x := UInt16.ofNat (uint16_at m p)
  y := UInt16.ofNat (uint16_at m (p + 2))
  width := UInt16.ofNat (uint16_at m (p + 4))
  height := UInt16.ofNat (uint16_at m (p + 6))

def rfx_process_message_region (p : Int) (message : RFX_MESSAGE) : RFX_MESSAGE :=
  let num_rects := uint16_at m (p + 1)
  if num_rects < 1 then { message with num_rects }
  else
    { message with
      num_rects, rects := (List.range num_rects).map fun i : Nat => rect_at m (p + 3 + 8 * i) }

def quant_values (quants : List Nat) (behind : Nat → Nat) (quantIdx : Nat) : List Nat :=
  (List.range 10).map fun i => quants.getD (quantIdx * 10 + i) (behind (quantIdx * 10 + i))

/-- `context->quants + (quantIdx * 10)` -/
def RFX_CONTEXT.quant_values (context : RFX_CONTEXT) (quantIdx : Nat) : List Nat :=
  rfx.quant_values context.quants context.behind_quants quantIdx

/-- `x` and `y` are `uint16`. -/
def rfx_process_message_tile (p : Int) (context : RFX_CONTEXT) (tile : Nat) : RFX_CONTEXT :=
  let quants : TileQuants :=
    { y := context.quant_values (uint8_at m p)
      cb := context.quant_values (uint8_at m (p + 1))
      cr := context.quant_values (uint8_at m (p + 2)) }
  let xIdx := uint16_at m (p + 3)
  let yIdx := uint16_at m (p + 5)
  let YLen := uint16_at m (p + 7)
  let CbLen := uint16_at m (p + 9)
  let CrLen := uint16_at m (p + 11)
  let code : TileCode :=
    { Y := bytes_at m (p + 13) YLen
      Cb := bytes_at m (p + 13 + YLen) CbLen
      Cr := bytes_at m (p + 13 + YLen + CbLen) CrLen }
  let decoded := rfx_decode_rgb context.mode context.pixel_format code quants context.buffers
    (context.pool.heap tile).data
  { context with
    buffers := decoded.1
    pool := context.pool.store tile
      ⟨UInt16.ofNat (xIdx * 64), UInt16.ofNat (yIdx * 64), decoded.2⟩ }

def quants_at (p : Int) (numQuant : Nat) : List Nat :=
  (bytes_at m p (5 * numQuant)).flatMap fun quant => [quant.toNat &&& 0x0F, quant.toNat >>> 4]

def tile_loop : List Nat → Int → RFX_CONTEXT → RFX_CONTEXT
  | [], _, context => context
  | tile :: tiles, p, context =>
    if uint16_at m p ≠ CBT_TILE then context
    else tile_loop tiles (sint32 (p + uint32_at m (p + 2)))
      (rfx_process_message_tile m (p + 6) context tile)

def rfx_process_message_tileset (p : Int) (context : RFX_CONTEXT) (message : RFX_MESSAGE) :
    RFX_CONTEXT × RFX_MESSAGE :=
  if uint16_at m p ≠ CBT_TILESET then (context, message)
  else
    let context := { context with num_quants := uint8_at m (p + 6) }
    if context.num_quants < 1 then (context, message)
    else
      let message := { message with num_tiles := uint16_at m (p + 8) }
      if message.num_tiles < 1 then (context, message)
      else
        let context := { context with quants := quants_at m (p + 14) context.num_quants }
        let taken := rfx_pool_get_tiles message.num_tiles context.pool
        let message := { message with tiles := taken.1 }
        let context := { context with pool := taken.2 }
        (tile_loop m message.tiles (p + 14 + 5 * context.num_quants) context, message)

/-- The reader between two blocks. -/
structure Parse where
  p : Int
  context : RFX_CONTEXT
  message : RFX_MESSAGE

/-- A block whose body starts at `body`. The next one is at `pos`. -/
def process_block (blockType : Nat) (body pos : Int) (s : Parse) : Parse :=
  let s := { s with p := pos }
  if blockType = WBT_SYNC then { s with context := rfx_process_message_sync m body s.context }
  else if blockType = WBT_CODEC_VERSIONS then
    { s with context := rfx_process_message_codec_versions m body s.context }
  else if blockType = WBT_CHANNELS then
    { s with context := rfx_process_message_channels m body s.context }
  else if blockType = WBT_CONTEXT then
    { s with context := rfx_process_message_context m body s.context }
  else if blockType = WBT_REGION then
    { s with message := rfx_process_message_region m body s.message }
  else if blockType = WBT_EXTENSION then
    let (context, message) := rfx_process_message_tileset m body s.context s.message
    { s with context, message }
  else s

/-- A turn of the loop, or `none` at a block without length. The blocks of a channel have two more
bytes in front. `pos` is an `int`. -/
def process_turn (s : Parse) : Option Parse :=
  let blockType := uint16_at m s.p
  let blockLen := uint32_at m (s.p + 2)
  if blockLen = 0 then none
  else
    let body := if blockType ≥ WBT_CONTEXT ∧ blockType ≤ WBT_EXTENSION then s.p + 8 else s.p + 6
    some (process_block m blockType body (sint32 (s.p + blockLen)) s)

/-- A block may lead back to an earlier one, so the loop need not end: `none` is a loop that has
not ended after some turns. -/
def process_loop (size : Int) : Nat → Parse → Option Parse
  | 0, _ => none
  | turns + 1, s =>
    if size - s.p > 6 then
      match process_turn m s with
      | none => some { s with p := s.p + 6 }
      | some s => process_loop size turns s
    else some s

def rfx_process_message (turns : Nat) (length : Nat) (context : RFX_CONTEXT) : Option Parse :=
  process_loop m (sint32 length) turns ⟨0, context, rfx_message_new⟩

end reader

/-- As many tiles go back as `num_tiles` says. -/
def rfx_message_free (context : RFX_CONTEXT) (message : RFX_MESSAGE) : RFX_CONTEXT :=
  { context with pool := rfx_pool_put_tiles context.pool (message.tiles.take message.num_tiles) }

def memory_of (bs : List UInt8) : Memory := fun i => bs.getD i.toNat 0

/-- A new codec whose heap is empty. -/
def quietContext : RFX_CONTEXT :=
  rfx_context_new (fun _ => ⟨0, 0, []⟩) (fun _ => 0) fun _ => (0, 0, 0)

end neutrinordp.rfx
