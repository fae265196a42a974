-- The primary drawing orders (orders.c, primary.h). An order carries only the fields that
-- its flags name. The client holds one record for each type of order, reads the fields
-- over it, and hands the record to the callback of the type.
import CorporateClient.Stream
import Mathlib.Logic.Function.Basic

namespace neutrinordp.orders

open stream

/-! ## Flags -/

def ORDER_BOUNDS : UInt8 := 0x04
def ORDER_TYPE_CHANGE : UInt8 := 0x08
def ORDER_DELTA_COORDINATES : UInt8 := 0x10
def ORDER_ZERO_BOUNDS_DELTAS : UInt8 := 0x20
def ORDER_ZERO_FIELD_BYTE_BIT0 : UInt8 := 0x40
def ORDER_ZERO_FIELD_BYTE_BIT1 : UInt8 := 0x80

def BOUND_LEFT : UInt8 := 0x01
def BOUND_TOP : UInt8 := 0x02
def BOUND_RIGHT : UInt8 := 0x04
def BOUND_BOTTOM : UInt8 := 0x08
def BOUND_DELTA_LEFT : UInt8 := 0x10
def BOUND_DELTA_TOP : UInt8 := 0x20
def BOUND_DELTA_RIGHT : UInt8 := 0x40
def BOUND_DELTA_BOTTOM : UInt8 := 0x80

def CACHED_BRUSH : Nat := 0x80

/-- `fieldFlags & ORDER_FIELD_01` is field 1, and so on. -/
def flagged (fieldFlags n : Nat) : Bool := fieldFlags.testBit (n - 1)

/-! ## Records

A `uint32` is a number, since no order computes with one. A `sint32` has 32 bits: the
coordinates add up. -/

structure rdpBounds where
  left : Int32
  top : Int32
  right : Int32
  bottom : Int32
deriving DecidableEq, Inhabited

/-- `data` holds the bytes that the pointer leads to, and none for a null pointer. The
array `p8x8` is only used through it. -/
structure rdpBrush where
  x : Nat
  y : Nat
  bpp : Nat
  style : Nat
  hatch : Nat
  index : Nat
  data : List UInt8
deriving DecidableEq, Inhabited

structure ORDER_INFO where
  orderType : Nat
  fieldFlags : Nat
  bounds : rdpBounds
  deltaCoordinates : Bool
deriving DecidableEq, Inhabited

structure DSTBLT_ORDER where
  nLeftRect : Int32
  nTopRect : Int32
  nWidth : Int32
  nHeight : Int32
  bRop : Nat
deriving DecidableEq, Inhabited

structure PATBLT_ORDER where
  nLeftRect : Int32
  nTopRect : Int32
  nWidth : Int32
  nHeight : Int32
  bRop : Nat
  backColor : Nat
  foreColor : Nat
  brush : rdpBrush
deriving DecidableEq, Inhabited

structure SCRBLT_ORDER where
  nLeftRect : Int32
  nTopRect : Int32
  nWidth : Int32
  nHeight : Int32
  bRop : Nat
  nXSrc : Int32
  nYSrc : Int32
deriving DecidableEq, Inhabited

structure OPAQUE_RECT_ORDER where
  nLeftRect : Int32
  nTopRect : Int32
  nWidth : Int32
  nHeight : Int32
  color : Nat
deriving DecidableEq, Inhabited

structure DRAW_NINE_GRID_ORDER where
  srcLeft : Int32
  srcTop : Int32
  srcRight : Int32
  srcBottom : Int32
  bitmapId : Nat
deriving DecidableEq, Inhabited

structure DELTA_RECT where
  left : Int32
  top : Int32
  width : Int32
  height : Int32
deriving DecidableEq, Inhabited

/-- `rectangles` is an array of 45. An entry 45 was written behind it. -/
structure MULTI_DSTBLT_ORDER where
  nLeftRect : Int32
  nTopRect : Int32
  nWidth : Int32
  nHeight : Int32
  bRop : Nat
  numRectangles : Nat
  cbData : Nat
  rectangles : List DELTA_RECT
deriving DecidableEq, Inhabited

structure MULTI_PATBLT_ORDER where
  nLeftRect : Int32
  nTopRect : Int32
  nWidth : Int32
  nHeight : Int32
  bRop : Nat
  backColor : Nat
  foreColor : Nat
  brush : rdpBrush
  numRectangles : Nat
  cbData : Nat
  rectangles : List DELTA_RECT
deriving DecidableEq, Inhabited

structure MULTI_SCRBLT_ORDER where
  nLeftRect : Int32
  nTopRect : Int32
  nWidth : Int32
  nHeight : Int32
  bRop : Nat
  nXSrc : Int32
  nYSrc : Int32
  numRectangles : Nat
  cbData : Nat
  rectangles : List DELTA_RECT
deriving DecidableEq, Inhabited

structure MULTI_OPAQUE_RECT_ORDER where
  nLeftRect : Int32
  nTopRect : Int32
  nWidth : Int32
  nHeight : Int32
  color : Nat
  numRectangles : Nat
  cbData : Nat
  rectangles : List DELTA_RECT
deriving DecidableEq, Inhabited

structure MULTI_DRAW_NINE_GRID_ORDER where
  srcLeft : Int32
  srcTop : Int32
  srcRight : Int32
  srcBottom : Int32
  bitmapId : Nat
  nDeltaEntries : Nat
  cbData : Nat
  codeDeltaList : List UInt8
deriving DecidableEq, Inhabited

structure LINE_TO_ORDER where
  backMode : Nat
  nXStart : Int32
  nYStart : Int32
  nXEnd : Int32
  nYEnd : Int32
  backColor : Nat
  bRop2 : Nat
  penStyle : Nat
  penWidth : Nat
  penColor : Nat
deriving DecidableEq, Inhabited

structure DELTA_POINT where
  x : Int32
  y : Int32
deriving DecidableEq, Inhabited

structure POLYLINE_ORDER where
  xStart : Int32
  yStart : Int32
  bRop2 : Nat
  penColor : Nat
  numPoints : Nat
  cbData : Nat
  points : List DELTA_POINT
deriving DecidableEq, Inhabited

structure MEMBLT_ORDER where
  cacheId : Nat
  colorIndex : Nat
  nLeftRect : Int32
  nTopRect : Int32
  nWidth : Int32
  nHeight : Int32
  bRop : Nat
  nXSrc : Int32
  nYSrc : Int32
  cacheIndex : Nat
deriving DecidableEq, Inhabited

structure MEM3BLT_ORDER where
  cacheId : Nat
  colorIndex : Nat
  nLeftRect : Int32
  nTopRect : Int32
  nWidth : Int32
  nHeight : Int32
  bRop : Nat
  nXSrc : Int32
  nYSrc : Int32
  backColor : Nat
  foreColor : Nat
  brush : rdpBrush
  cacheIndex : Nat
deriving DecidableEq, Inhabited

structure SAVE_BITMAP_ORDER where
  savedBitmapPosition : Nat
  nLeftRect : Int32
  nTopRect : Int32
  nRightRect : Int32
  nBottomRect : Int32
  operation : Nat
deriving DecidableEq, Inhabited

/-- `data` is the part of the array that is in use: `cbData` bytes. -/
structure GLYPH_INDEX_ORDER where
  cacheId : Nat
  flAccel : Nat
  ulCharInc : Nat
  fOpRedundant : Nat
  backColor : Nat
  foreColor : Nat
  bkLeft : Int32
  bkTop : Int32
  bkRight : Int32
  bkBottom : Int32
  opLeft : Int32
  opTop : Int32
  opRight : Int32
  opBottom : Int32
  brush : rdpBrush
  x : Int32
  y : Int32
  cbData : Nat
  data : List UInt8
deriving DecidableEq, Inhabited

structure FAST_INDEX_ORDER where
  cacheId : Nat
  flAccel : Nat
  ulCharInc : Nat
  backColor : Nat
  foreColor : Nat
  bkLeft : Int32
  bkTop : Int32
  bkRight : Int32
  bkBottom : Int32
  opLeft : Int32
  opTop : Int32
  opRight : Int32
  opBottom : Int32
  x : Int32
  y : Int32
  cbData : Nat
  data : List UInt8
deriving DecidableEq, Inhabited

structure GLYPH_DATA_V2 where
  cacheIndex : Nat
  x : Int
  y : Int
  cx : Nat
  cy : Nat
  cb : Nat
  aj : List UInt8
deriving DecidableEq, Inhabited

structure FAST_GLYPH_ORDER where
  cacheId : Nat
  flAccel : Nat
  ulCharInc : Nat
  backColor : Nat
  foreColor : Nat
  bkLeft : Int32
  bkTop : Int32
  bkRight : Int32
  bkBottom : Int32
  opLeft : Int32
  opTop : Int32
  opRight : Int32
  opBottom : Int32
  x : Int32
  y : Int32
  cbData : Nat
  data : List UInt8
  glyph_data : Option GLYPH_DATA_V2
deriving DecidableEq, Inhabited

structure POLYGON_SC_ORDER where
  xStart : Int32
  yStart : Int32
  bRop2 : Nat
  fillMode : Nat
  brushColor : Nat
  nDeltaEntries : Nat
  cbData : Nat
  codeDeltaList : List UInt8
deriving DecidableEq, Inhabited

structure POLYGON_CB_ORDER where
  xStart : Int32
  yStart : Int32
  bRop2 : Nat
  fillMode : Nat
  backColor : Nat
  foreColor : Nat
  brush : rdpBrush
  nDeltaEntries : Nat
  cbData : Nat
  codeDeltaList : List UInt8
deriving DecidableEq, Inhabited

structure ELLIPSE_SC_ORDER where
  leftRect : Int32
  topRect : Int32
  rightRect : Int32
  bottomRect : Int32
  bRop2 : Nat
  fillMode : Nat
  color : Nat
deriving DecidableEq, Inhabited

structure ELLIPSE_CB_ORDER where
  leftRect : Int32
  topRect : Int32
  rightRect : Int32
  bottomRect : Int32
  bRop2 : Nat
  fillMode : Nat
  backColor : Nat
  foreColor : Nat
  brush : rdpBrush
deriving DecidableEq, Inhabited

/-! ## Values on the wire -/

/-- `none` is an access outside of an array, which the code does not check. -/
abbrev Reader (α : Type) := StateT STREAM Option α

def Reader.of {α : Type} (read : StateM STREAM α) : Reader α := fun s => some (read s)

def read_byte : StateM STREAM Nat := do
  let byte ← stream_read_uint8
  return byte.toNat

def update_read_coord (coord : Int32) (delta : Bool) : StateM STREAM Int32 := do
  if delta then
    let lsi8 ← stream_read_uint8
    return coord + (Int8.ofNat lsi8.toNat).toInt32
  else
    let lsi16 ← stream_read_uint16
    return (Int16.ofNat lsi16).toInt32

def stream_read_sint16 : StateM STREAM Int32 := do
  let v ← stream_read_uint16
  return (Int16.ofNat v).toInt32

def update_read_color : StateM STREAM Nat := do
  let red ← stream_read_uint8
  let green ← stream_read_uint8
  let blue ← stream_read_uint8
  return red.toNat ||| (green.toNat <<< 8) ||| (blue.toNat <<< 16)

def update_read_2byte_unsigned : StateM STREAM Nat := do
  let byte ← stream_read_uint8
  let value := byte.toNat &&& 0x7F
  if byte &&& 0x80 ≠ 0 then
    let low ← stream_read_uint8
    return (value <<< 8) ||| low.toNat
  else return value

def update_read_2byte_signed : StateM STREAM Int := do
  let byte ← stream_read_uint8
  let negative := byte &&& 0x40 ≠ 0
  let value := byte.toNat &&& 0x3F
  let value ←
    if byte &&& 0x80 ≠ 0 then
      let low ← stream_read_uint8
      pure ((value <<< 8) ||| low.toNat)
    else pure value
  return if negative then -(value : Int) else value

def update_read_delta : StateM STREAM Int32 := do
  let byte ← stream_read_uint8
  let value : Int32 :=
    if byte &&& 0x40 ≠ 0 then Int32.ofNat byte.toNat ||| -64 else Int32.ofNat (byte.toNat &&& 0x3F)
  if byte &&& 0x80 ≠ 0 then
    let low ← stream_read_uint8
    return (value <<< 8) ||| Int32.ofNat low.toNat
  else return value

def read_delta_unless (flags mask : UInt8) (zero : Int32) : StateM STREAM Int32 :=
  if ~~~flags &&& mask ≠ 0 then update_read_delta else pure zero

/-- The rectangles from number `i` on, behind the rectangle `prev`. Each one has four zero
bits. -/
def delta_rects_loop (zeroBits : List UInt8) :
    Nat → Nat → DELTA_RECT → UInt8 → StateM STREAM (List DELTA_RECT)
  | 0, _, _, _ => pure []
  | n + 1, i, prev, flags => do
    let flags := if (i - 1) % 2 = 0 then zeroBits.getD ((i - 1) / 2) 0 else flags
    let left ← read_delta_unless flags 0x80 0
    let top ← read_delta_unless flags 0x40 0
    let width ← read_delta_unless flags 0x20 prev.width
    let height ← read_delta_unless flags 0x10 prev.height
    let rect : DELTA_RECT := { left := left + prev.left, top := top + prev.top, width, height }
    let rest ← delta_rects_loop zeroBits n (i + 1) rect (flags <<< 4)
    return rect :: rest

/-- Entry 0 of the array is cleared, and the rectangles are read into the entries from 1
on. With 45 rectangles, the last one is behind the array. -/
def update_read_delta_rects (rectangles : List DELTA_RECT) (number : Nat) :
    Reader (List DELTA_RECT) :=
  let number := if number > 45 then 45 else number
  Reader.of do
    let zeroBits ← stream_read ((number + 1) / 2)
    let rects ← delta_rects_loop zeroBits number 1 default 0
    return default :: rects ++ (rectangles.take 45).drop (number + 1)

/-- The points from number `i` on. Each one has two zero bits. -/
def delta_points_loop (zeroBits : List UInt8) :
    Nat → Nat → UInt8 → StateM STREAM (List DELTA_POINT)
  | 0, _, _ => pure []
  | n + 1, i, flags => do
    let flags := if i % 4 = 0 then zeroBits.getD (i / 4) 0 else flags
    let x ← read_delta_unless flags 0x80 0
    let y ← read_delta_unless flags 0x40 0
    let rest ← delta_points_loop zeroBits n (i + 1) (flags <<< 2)
    return { x, y } :: rest

def update_read_delta_points (number : Nat) : StateM STREAM (List DELTA_POINT) := do
  let zeroBits ← stream_read ((number + 3) / 4)
  delta_points_loop zeroBits number 0 0

/-! ## Fields -/

/-- A value that is read only when its flag is set. -/
def field {α : Type} (fieldFlags n : Nat) (old : α) (read : Reader α) : Reader α :=
  if flagged fieldFlags n then read else pure old

def ORDER_INFO.coord (orderInfo : ORDER_INFO) (n : Nat) (old : Int32) : Reader Int32 :=
  field orderInfo.fieldFlags n old (Reader.of (update_read_coord old orderInfo.deltaCoordinates))

/-- The reads that do not look at the old value. -/
def ORDER_INFO.read {α : Type} (orderInfo : ORDER_INFO) (n : Nat) (value : StateM STREAM α)
    (old : α) : Reader α :=
  field orderInfo.fieldFlags n old (Reader.of value)

def BMF_BPP : List Nat := [0, 1, 0, 8, 16, 24, 32]

/-- The index and the bits of a brush. Only a cached brush gets new ones. The code does not
check the index into the table. -/
def read_cached (style hatch : Nat) (old : Nat × Nat) : Reader (Nat × Nat) := fun s =>
  if style &&& CACHED_BRUSH ≠ 0 then
    (BMF_BPP[style &&& 0x0F]?).map fun bpp => ((hatch, if bpp = 0 then 1 else bpp), s)
  else some (old, s)

def read_pattern (hatch : Nat) : StateM STREAM (List UInt8) := do
  let rows ← stream_read 7
  return UInt8.ofNat hatch :: rows.reverse

def update_read_brush (brush : rdpBrush) (fieldFlags : Nat) : Reader rdpBrush := do
  let x ← field fieldFlags 1 brush.x (Reader.of read_byte)
  let y ← field fieldFlags 2 brush.y (Reader.of read_byte)
  let style ← field fieldFlags 3 brush.style (Reader.of read_byte)
  let hatch ← field fieldFlags 4 brush.hatch (Reader.of read_byte)
  let (index, bpp) ← read_cached style hatch (brush.index, brush.bpp)
  let data ← field fieldFlags 5 brush.data (Reader.of (read_pattern hatch))
  return { x, y, bpp, style, hatch, index, data }

def ORDER_INFO.brush (orderInfo : ORDER_INFO) (shift : Nat) (old : rdpBrush) : Reader rdpBrush :=
  update_read_brush old ((orderInfo.fieldFlags >>> shift) % 256)

def ORDER_INFO.rects (orderInfo : ORDER_INFO) (n numRectangles : Nat)
    (old : Nat × List DELTA_RECT) : Reader (Nat × List DELTA_RECT) :=
  field orderInfo.fieldFlags n old do
    let cbData ← Reader.of stream_read_uint16
    let rectangles ← update_read_delta_rects old.2 numRectangles
    return (cbData, rectangles)

/-! ## Orders -/

def update_read_dstblt_order (orderInfo : ORDER_INFO) (dstblt : DSTBLT_ORDER) :
    Reader DSTBLT_ORDER := do
  let nLeftRect ← orderInfo.coord 1 dstblt.nLeftRect
  let nTopRect ← orderInfo.coord 2 dstblt.nTopRect
  let nWidth ← orderInfo.coord 3 dstblt.nWidth
  let nHeight ← orderInfo.coord 4 dstblt.nHeight
  let bRop ← orderInfo.read 5 read_byte dstblt.bRop
  return { nLeftRect, nTopRect, nWidth, nHeight, bRop }

def update_read_patblt_order (orderInfo : ORDER_INFO) (patblt : PATBLT_ORDER) :
    Reader PATBLT_ORDER := do
  let nLeftRect ← orderInfo.coord 1 patblt.nLeftRect
  let nTopRect ← orderInfo.coord 2 patblt.nTopRect
  let nWidth ← orderInfo.coord 3 patblt.nWidth
  let nHeight ← orderInfo.coord 4 patblt.nHeight
  let bRop ← orderInfo.read 5 read_byte patblt.bRop
  let backColor ← orderInfo.read 6 update_read_color patblt.backColor
  let foreColor ← orderInfo.read 7 update_read_color patblt.foreColor
  let brush ← orderInfo.brush 7 patblt.brush
  return { nLeftRect, nTopRect, nWidth, nHeight, bRop, backColor, foreColor, brush }

def update_read_scrblt_order (orderInfo : ORDER_INFO) (scrblt : SCRBLT_ORDER) :
    Reader SCRBLT_ORDER := do
  let nLeftRect ← orderInfo.coord 1 scrblt.nLeftRect
  let nTopRect ← orderInfo.coord 2 scrblt.nTopRect
  let nWidth ← orderInfo.coord 3 scrblt.nWidth
  let nHeight ← orderInfo.coord 4 scrblt.nHeight
  let bRop ← orderInfo.read 5 read_byte scrblt.bRop
  let nXSrc ← orderInfo.coord 6 scrblt.nXSrc
  let nYSrc ← orderInfo.coord 7 scrblt.nYSrc
  return { nLeftRect, nTopRect, nWidth, nHeight, bRop, nXSrc, nYSrc }

def ORDER_INFO.color_byte (orderInfo : ORDER_INFO) (n mask shift : Nat) (color : Nat) :
    Reader Nat :=
  field orderInfo.fieldFlags n color do
    let byte ← Reader.of stream_read_uint8
    return (color &&& mask) ||| (byte.toNat <<< shift)

def update_read_opaque_rect_order (orderInfo : ORDER_INFO) (opaque_rect : OPAQUE_RECT_ORDER) :
    Reader OPAQUE_RECT_ORDER := do
  let nLeftRect ← orderInfo.coord 1 opaque_rect.nLeftRect
  let nTopRect ← orderInfo.coord 2 opaque_rect.nTopRect
  let nWidth ← orderInfo.coord 3 opaque_rect.nWidth
  let nHeight ← orderInfo.coord 4 opaque_rect.nHeight
  let color ← orderInfo.color_byte 5 0xFFFFFF00 0 opaque_rect.color
  let color ← orderInfo.color_byte 6 0xFFFF00FF 8 color
  let color ← orderInfo.color_byte 7 0xFF00FFFF 16 color
  return { nLeftRect, nTopRect, nWidth, nHeight, color }

def update_read_draw_nine_grid_order (orderInfo : ORDER_INFO)
    (draw_nine_grid : DRAW_NINE_GRID_ORDER) : Reader DRAW_NINE_GRID_ORDER := do
  let srcLeft ← orderInfo.coord 1 draw_nine_grid.srcLeft
  let srcTop ← orderInfo.coord 2 draw_nine_grid.srcTop
  let srcRight ← orderInfo.coord 3 draw_nine_grid.srcRight
  let srcBottom ← orderInfo.coord 4 draw_nine_grid.srcBottom
  let bitmapId ← orderInfo.read 5 stream_read_uint16 draw_nine_grid.bitmapId
  return { srcLeft, srcTop, srcRight, srcBottom, bitmapId }

def update_read_multi_dstblt_order (orderInfo : ORDER_INFO) (multi_dstblt : MULTI_DSTBLT_ORDER) :
    Reader MULTI_DSTBLT_ORDER := do
  let nLeftRect ← orderInfo.coord 1 multi_dstblt.nLeftRect
  let nTopRect ← orderInfo.coord 2 multi_dstblt.nTopRect
  let nWidth ← orderInfo.coord 3 multi_dstblt.nWidth
  let nHeight ← orderInfo.coord 4 multi_dstblt.nHeight
  let bRop ← orderInfo.read 5 read_byte multi_dstblt.bRop
  let numRectangles ← orderInfo.read 6 read_byte multi_dstblt.numRectangles
  let (cbData, rectangles) ←
    orderInfo.rects 7 numRectangles (multi_dstblt.cbData, multi_dstblt.rectangles)
  return { nLeftRect, nTopRect, nWidth, nHeight, bRop, numRectangles, cbData, rectangles }

def update_read_multi_patblt_order (orderInfo : ORDER_INFO) (multi_patblt : MULTI_PATBLT_ORDER) :
    Reader MULTI_PATBLT_ORDER := do
  let nLeftRect ← orderInfo.coord 1 multi_patblt.nLeftRect
  let nTopRect ← orderInfo.coord 2 multi_patblt.nTopRect
  let nWidth ← orderInfo.coord 3 multi_patblt.nWidth
  let nHeight ← orderInfo.coord 4 multi_patblt.nHeight
  let bRop ← orderInfo.read 5 read_byte multi_patblt.bRop
  let backColor ← orderInfo.read 6 update_read_color multi_patblt.backColor
  let foreColor ← orderInfo.read 7 update_read_color multi_patblt.foreColor
  let brush ← orderInfo.brush 7 multi_patblt.brush
  let numRectangles ← orderInfo.read 13 read_byte multi_patblt.numRectangles
  let (cbData, rectangles) ←
    orderInfo.rects 14 numRectangles (multi_patblt.cbData, multi_patblt.rectangles)
  return { nLeftRect, nTopRect, nWidth, nHeight, bRop, backColor, foreColor, brush,
           numRectangles, cbData, rectangles }

def update_read_multi_scrblt_order (orderInfo : ORDER_INFO) (multi_scrblt : MULTI_SCRBLT_ORDER) :
    Reader MULTI_SCRBLT_ORDER := do
  let nLeftRect ← orderInfo.coord 1 multi_scrblt.nLeftRect
  let nTopRect ← orderInfo.coord 2 multi_scrblt.nTopRect
  let nWidth ← orderInfo.coord 3 multi_scrblt.nWidth
  let nHeight ← orderInfo.coord 4 multi_scrblt.nHeight
  let bRop ← orderInfo.read 5 read_byte multi_scrblt.bRop
  let nXSrc ← orderInfo.coord 6 multi_scrblt.nXSrc
  let nYSrc ← orderInfo.coord 7 multi_scrblt.nYSrc
  let numRectangles ← orderInfo.read 8 read_byte multi_scrblt.numRectangles
  let (cbData, rectangles) ←
    orderInfo.rects 9 numRectangles (multi_scrblt.cbData, multi_scrblt.rectangles)
  return { nLeftRect, nTopRect, nWidth, nHeight, bRop, nXSrc, nYSrc, numRectangles, cbData,
           rectangles }

def update_read_multi_opaque_rect_order (orderInfo : ORDER_INFO)
    (multi_opaque_rect : MULTI_OPAQUE_RECT_ORDER) : Reader MULTI_OPAQUE_RECT_ORDER := do
  let nLeftRect ← orderInfo.coord 1 multi_opaque_rect.nLeftRect
  let nTopRect ← orderInfo.coord 2 multi_opaque_rect.nTopRect
  let nWidth ← orderInfo.coord 3 multi_opaque_rect.nWidth
  let nHeight ← orderInfo.coord 4 multi_opaque_rect.nHeight
  let color ← orderInfo.color_byte 5 0xFFFFFF00 0 multi_opaque_rect.color
  let color ← orderInfo.color_byte 6 0xFFFF00FF 8 color
  let color ← orderInfo.color_byte 7 0xFF00FFFF 16 color
  let numRectangles ← orderInfo.read 8 read_byte multi_opaque_rect.numRectangles
  let (cbData, rectangles) ←
    orderInfo.rects 9 numRectangles (multi_opaque_rect.cbData, multi_opaque_rect.rectangles)
  return { nLeftRect, nTopRect, nWidth, nHeight, color, numRectangles, cbData, rectangles }

/-- A code delta list is skipped. Only its size is stored. -/
def read_code_deltas (size : StateM STREAM Nat) : StateM STREAM Nat := do
  let cbData ← size
  modify fun s => stream_seek s cbData
  return cbData

def update_read_multi_draw_nine_grid_order (orderInfo : ORDER_INFO)
    (multi_draw_nine_grid : MULTI_DRAW_NINE_GRID_ORDER) : Reader MULTI_DRAW_NINE_GRID_ORDER := do
  let srcLeft ← orderInfo.coord 1 multi_draw_nine_grid.srcLeft
  let srcTop ← orderInfo.coord 2 multi_draw_nine_grid.srcTop
  let srcRight ← orderInfo.coord 3 multi_draw_nine_grid.srcRight
  let srcBottom ← orderInfo.coord 4 multi_draw_nine_grid.srcBottom
  let bitmapId ← orderInfo.read 5 stream_read_uint16 multi_draw_nine_grid.bitmapId
  let nDeltaEntries ← orderInfo.read 6 read_byte multi_draw_nine_grid.nDeltaEntries
  let cbData ← orderInfo.read 7 (read_code_deltas stream_read_uint16) multi_draw_nine_grid.cbData
  return { srcLeft, srcTop, srcRight, srcBottom, bitmapId, nDeltaEntries, cbData,
           codeDeltaList := multi_draw_nine_grid.codeDeltaList }

def update_read_line_to_order (orderInfo : ORDER_INFO) (line_to : LINE_TO_ORDER) :
    Reader LINE_TO_ORDER := do
  let backMode ← orderInfo.read 1 stream_read_uint16 line_to.backMode
  let nXStart ← orderInfo.coord 2 line_to.nXStart
  let nYStart ← orderInfo.coord 3 line_to.nYStart
  let nXEnd ← orderInfo.coord 4 line_to.nXEnd
  let nYEnd ← orderInfo.coord 5 line_to.nYEnd
  let backColor ← orderInfo.read 6 update_read_color line_to.backColor
  let bRop2 ← orderInfo.read 7 read_byte line_to.bRop2
  let penStyle ← orderInfo.read 8 read_byte line_to.penStyle
  let penWidth ← orderInfo.read 9 read_byte line_to.penWidth
  let penColor ← orderInfo.read 10 update_read_color line_to.penColor
  return { backMode, nXStart, nYStart, nXEnd, nYEnd, backColor, bRop2, penStyle, penWidth,
           penColor }

def read_points (numPoints : Nat) : StateM STREAM (Nat × List DELTA_POINT) := do
  let cbData ← read_byte
  let points ← update_read_delta_points numPoints
  return (cbData, points)

def update_read_polyline_order (orderInfo : ORDER_INFO) (polyline : POLYLINE_ORDER) :
    Reader POLYLINE_ORDER := do
  let xStart ← orderInfo.coord 1 polyline.xStart
  let yStart ← orderInfo.coord 2 polyline.yStart
  let bRop2 ← orderInfo.read 3 read_byte polyline.bRop2
  -- The index of a brush, which is not used.
  orderInfo.read 4 (modify fun s => stream_seek s 2) ()
  let penColor ← orderInfo.read 5 update_read_color polyline.penColor
  let numPoints ← orderInfo.read 6 read_byte polyline.numPoints
  let (cbData, points) ←
    orderInfo.read 7 (read_points numPoints) (polyline.cbData, polyline.points)
  return { xStart, yStart, bRop2, penColor, numPoints, cbData, points }

def update_read_memblt_order (orderInfo : ORDER_INFO) (memblt : MEMBLT_ORDER) :
    Reader MEMBLT_ORDER := do
  let cacheId ← orderInfo.read 1 stream_read_uint16 memblt.cacheId
  let nLeftRect ← orderInfo.coord 2 memblt.nLeftRect
  let nTopRect ← orderInfo.coord 3 memblt.nTopRect
  let nWidth ← orderInfo.coord 4 memblt.nWidth
  let nHeight ← orderInfo.coord 5 memblt.nHeight
  let bRop ← orderInfo.read 6 read_byte memblt.bRop
  let nXSrc ← orderInfo.coord 7 memblt.nXSrc
  let nYSrc ← orderInfo.coord 8 memblt.nYSrc
  let cacheIndex ← orderInfo.read 9 stream_read_uint16 memblt.cacheIndex
  return { cacheId := cacheId &&& 0xFF, colorIndex := cacheId >>> 8, nLeftRect, nTopRect, nWidth,
           nHeight, bRop, nXSrc, nYSrc, cacheIndex }

def update_read_mem3blt_order (orderInfo : ORDER_INFO) (mem3blt : MEM3BLT_ORDER) :
    Reader MEM3BLT_ORDER := do
  let cacheId ← orderInfo.read 1 stream_read_uint16 mem3blt.cacheId
  let nLeftRect ← orderInfo.coord 2 mem3blt.nLeftRect
  let nTopRect ← orderInfo.coord 3 mem3blt.nTopRect
  let nWidth ← orderInfo.coord 4 mem3blt.nWidth
  let nHeight ← orderInfo.coord 5 mem3blt.nHeight
  let bRop ← orderInfo.read 6 read_byte mem3blt.bRop
  let nXSrc ← orderInfo.coord 7 mem3blt.nXSrc
  let nYSrc ← orderInfo.coord 8 mem3blt.nYSrc
  let backColor ← orderInfo.read 9 update_read_color mem3blt.backColor
  let foreColor ← orderInfo.read 10 update_read_color mem3blt.foreColor
  let brush ← orderInfo.brush 10 mem3blt.brush
  let cacheIndex ← orderInfo.read 16 stream_read_uint16 mem3blt.cacheIndex
  return { cacheId := cacheId &&& 0xFF, colorIndex := cacheId >>> 8, nLeftRect, nTopRect, nWidth,
           nHeight, bRop, nXSrc, nYSrc, backColor, foreColor, brush, cacheIndex }

def update_read_save_bitmap_order (orderInfo : ORDER_INFO) (save_bitmap : SAVE_BITMAP_ORDER) :
    Reader SAVE_BITMAP_ORDER := do
  let savedBitmapPosition ← orderInfo.read 1 stream_read_uint32 save_bitmap.savedBitmapPosition
  let nLeftRect ← orderInfo.coord 2 save_bitmap.nLeftRect
  let nTopRect ← orderInfo.coord 3 save_bitmap.nTopRect
  let nRightRect ← orderInfo.coord 4 save_bitmap.nRightRect
  let nBottomRect ← orderInfo.coord 5 save_bitmap.nBottomRect
  let operation ← orderInfo.read 6 read_byte save_bitmap.operation
  return { savedBitmapPosition, nLeftRect, nTopRect, nRightRect, nBottomRect, operation }

def read_data : StateM STREAM (Nat × List UInt8) := do
  let cbData ← read_byte
  let data ← stream_read cbData
  return (cbData, data)

def update_read_glyph_index_order (orderInfo : ORDER_INFO) (glyph_index : GLYPH_INDEX_ORDER) :
    Reader GLYPH_INDEX_ORDER := do
  let cacheId ← orderInfo.read 1 read_byte glyph_index.cacheId
  let flAccel ← orderInfo.read 2 read_byte glyph_index.flAccel
  let ulCharInc ← orderInfo.read 3 read_byte glyph_index.ulCharInc
  let fOpRedundant ← orderInfo.read 4 read_byte glyph_index.fOpRedundant
  let backColor ← orderInfo.read 5 update_read_color glyph_index.backColor
  let foreColor ← orderInfo.read 6 update_read_color glyph_index.foreColor
  let bkLeft ← orderInfo.read 7 stream_read_sint16 glyph_index.bkLeft
  let bkTop ← orderInfo.read 8 stream_read_sint16 glyph_index.bkTop
  let bkRight ← orderInfo.read 9 stream_read_sint16 glyph_index.bkRight
  let bkBottom ← orderInfo.read 10 stream_read_sint16 glyph_index.bkBottom
  let opLeft ← orderInfo.read 11 stream_read_sint16 glyph_index.opLeft
  let opTop ← orderInfo.read 12 stream_read_sint16 glyph_index.opTop
  let opRight ← orderInfo.read 13 stream_read_sint16 glyph_index.opRight
  let opBottom ← orderInfo.read 14 stream_read_sint16 glyph_index.opBottom
  let brush ← orderInfo.brush 14 glyph_index.brush
  let x ← orderInfo.read 20 stream_read_sint16 glyph_index.x
  let y ← orderInfo.read 21 stream_read_sint16 glyph_index.y
  let (cbData, data) ← orderInfo.read 22 read_data (glyph_index.cbData, glyph_index.data)
  return { cacheId, flAccel, ulCharInc, fOpRedundant, backColor, foreColor, bkLeft, bkTop,
           bkRight, bkBottom, opLeft, opTop, opRight, opBottom, brush, x, y, cbData, data }

/-- Two bytes: `ulCharInc` and `flAccel`. -/
def read_char_inc : StateM STREAM (Nat × Nat) := do
  let ulCharInc ← read_byte
  let flAccel ← read_byte
  return (ulCharInc, flAccel)

def update_read_fast_index_order (orderInfo : ORDER_INFO) (fast_index : FAST_INDEX_ORDER) :
    Reader FAST_INDEX_ORDER := do
  let cacheId ← orderInfo.read 1 read_byte fast_index.cacheId
  let (ulCharInc, flAccel) ←
    orderInfo.read 2 read_char_inc (fast_index.ulCharInc, fast_index.flAccel)
  let backColor ← orderInfo.read 3 update_read_color fast_index.backColor
  let foreColor ← orderInfo.read 4 update_read_color fast_index.foreColor
  let bkLeft ← orderInfo.coord 5 fast_index.bkLeft
  let bkTop ← orderInfo.coord 6 fast_index.bkTop
  let bkRight ← orderInfo.coord 7 fast_index.bkRight
  let bkBottom ← orderInfo.coord 8 fast_index.bkBottom
  let opLeft ← orderInfo.coord 9 fast_index.opLeft
  let opTop ← orderInfo.coord 10 fast_index.opTop
  let opRight ← orderInfo.coord 11 fast_index.opRight
  let opBottom ← orderInfo.coord 12 fast_index.opBottom
  let x ← orderInfo.coord 13 fast_index.x
  let y ← orderInfo.coord 14 fast_index.y
  let (cbData, data) ← orderInfo.read 15 read_data (fast_index.cbData, fast_index.data)
  return { cacheId, flAccel, ulCharInc, backColor, foreColor, bkLeft, bkTop, bkRight, bkBottom,
           opLeft, opTop, opRight, opBottom, x, y, cbData, data }

def read_glyph (cacheIndex : Nat) : StateM STREAM GLYPH_DATA_V2 := do
  let x ← update_read_2byte_signed
  let y ← update_read_2byte_signed
  let cx ← update_read_2byte_unsigned
  let cy ← update_read_2byte_unsigned
  let cb := ((cx + 7) / 8) * cy
  let cb := cb + (if cb % 4 > 0 then 4 - cb % 4 else 0)
  let aj ← stream_read cb
  return { cacheIndex, x, y, cx, cy, cb, aj }

/-- A block of bytes. When it has more than one byte, there is a glyph behind the first
one. The glyph is read only if the last one was taken. -/
def read_glyph_data (old : Option GLYPH_DATA_V2) :
    StateM STREAM (Nat × List UInt8 × Option GLYPH_DATA_V2) := do
  let cbData ← read_byte
  let phold ← get
  let data ← stream_read cbData
  let glyph_data :=
    if cbData > 1 ∧ old = none then
      some (read_glyph (data.getD 0 0).toNat (stream_seek phold 1)).1
    else old
  set (stream_seek phold cbData)
  return (cbData, data, glyph_data)

def update_read_fast_glyph_order (orderInfo : ORDER_INFO) (fast_glyph : FAST_GLYPH_ORDER) :
    Reader FAST_GLYPH_ORDER := do
  let cacheId ← orderInfo.read 1 read_byte fast_glyph.cacheId
  let (ulCharInc, flAccel) ←
    orderInfo.read 2 read_char_inc (fast_glyph.ulCharInc, fast_glyph.flAccel)
  let backColor ← orderInfo.read 3 update_read_color fast_glyph.backColor
  let foreColor ← orderInfo.read 4 update_read_color fast_glyph.foreColor
  let bkLeft ← orderInfo.coord 5 fast_glyph.bkLeft
  let bkTop ← orderInfo.coord 6 fast_glyph.bkTop
  let bkRight ← orderInfo.coord 7 fast_glyph.bkRight
  let bkBottom ← orderInfo.coord 8 fast_glyph.bkBottom
  let opLeft ← orderInfo.coord 9 fast_glyph.opLeft
  let opTop ← orderInfo.coord 10 fast_glyph.opTop
  let opRight ← orderInfo.coord 11 fast_glyph.opRight
  let opBottom ← orderInfo.coord 12 fast_glyph.opBottom
  let x ← orderInfo.coord 13 fast_glyph.x
  let y ← orderInfo.coord 14 fast_glyph.y
  let (cbData, data, glyph_data) ← orderInfo.read 15 (read_glyph_data fast_glyph.glyph_data)
    (fast_glyph.cbData, fast_glyph.data, fast_glyph.glyph_data)
  return { cacheId, flAccel, ulCharInc, backColor, foreColor, bkLeft, bkTop, bkRight, bkBottom,
           opLeft, opTop, opRight, opBottom, x, y, cbData, data, glyph_data }

def update_read_polygon_sc_order (orderInfo : ORDER_INFO) (polygon_sc : POLYGON_SC_ORDER) :
    Reader POLYGON_SC_ORDER := do
  let xStart ← orderInfo.coord 1 polygon_sc.xStart
  let yStart ← orderInfo.coord 2 polygon_sc.yStart
  let bRop2 ← orderInfo.read 3 read_byte polygon_sc.bRop2
  let fillMode ← orderInfo.read 4 read_byte polygon_sc.fillMode
  let brushColor ← orderInfo.read 5 update_read_color polygon_sc.brushColor
  let nDeltaEntries ← orderInfo.read 6 read_byte polygon_sc.nDeltaEntries
  let cbData ← orderInfo.read 7 (read_code_deltas read_byte) polygon_sc.cbData
  return { xStart, yStart, bRop2, fillMode, brushColor, nDeltaEntries, cbData,
           codeDeltaList := polygon_sc.codeDeltaList }

def update_read_polygon_cb_order (orderInfo : ORDER_INFO) (polygon_cb : POLYGON_CB_ORDER) :
    Reader POLYGON_CB_ORDER := do
  let xStart ← orderInfo.coord 1 polygon_cb.xStart
  let yStart ← orderInfo.coord 2 polygon_cb.yStart
  let bRop2 ← orderInfo.read 3 read_byte polygon_cb.bRop2
  let fillMode ← orderInfo.read 4 read_byte polygon_cb.fillMode
  let backColor ← orderInfo.read 5 update_read_color polygon_cb.backColor
  let foreColor ← orderInfo.read 6 update_read_color polygon_cb.foreColor
  let brush ← orderInfo.brush 6 polygon_cb.brush
  let nDeltaEntries ← orderInfo.read 12 read_byte polygon_cb.nDeltaEntries
  let cbData ← orderInfo.read 13 (read_code_deltas read_byte) polygon_cb.cbData
  return { xStart, yStart, bRop2, fillMode, backColor, foreColor, brush, nDeltaEntries, cbData,
           codeDeltaList := polygon_cb.codeDeltaList }

def update_read_ellipse_sc_order (orderInfo : ORDER_INFO) (ellipse_sc : ELLIPSE_SC_ORDER) :
    Reader ELLIPSE_SC_ORDER := do
  let leftRect ← orderInfo.coord 1 ellipse_sc.leftRect
  let topRect ← orderInfo.coord 2 ellipse_sc.topRect
  let rightRect ← orderInfo.coord 3 ellipse_sc.rightRect
  let bottomRect ← orderInfo.coord 4 ellipse_sc.bottomRect
  let bRop2 ← orderInfo.read 5 read_byte ellipse_sc.bRop2
  let fillMode ← orderInfo.read 6 read_byte ellipse_sc.fillMode
  let color ← orderInfo.read 7 update_read_color ellipse_sc.color
  return { leftRect, topRect, rightRect, bottomRect, bRop2, fillMode, color }

def update_read_ellipse_cb_order (orderInfo : ORDER_INFO) (ellipse_cb : ELLIPSE_CB_ORDER) :
    Reader ELLIPSE_CB_ORDER := do
  let leftRect ← orderInfo.coord 1 ellipse_cb.leftRect
  let topRect ← orderInfo.coord 2 ellipse_cb.topRect
  let rightRect ← orderInfo.coord 3 ellipse_cb.rightRect
  let bottomRect ← orderInfo.coord 4 ellipse_cb.bottomRect
  let bRop2 ← orderInfo.read 5 read_byte ellipse_cb.bRop2
  let fillMode ← orderInfo.read 6 read_byte ellipse_cb.fillMode
  let backColor ← orderInfo.read 7 update_read_color ellipse_cb.backColor
  let foreColor ← orderInfo.read 8 update_read_color ellipse_cb.foreColor
  let brush ← orderInfo.brush 8 ellipse_cb.brush
  return { leftRect, topRect, rightRect, bottomRect, bRop2, fillMode, backColor, foreColor, brush }

/-! ## The types of orders -/

inductive ORDER_TYPE
  | DSTBLT | PATBLT | SCRBLT | DRAW_NINE_GRID | MULTI_DRAW_NINE_GRID | LINE_TO | OPAQUE_RECT
  | SAVE_BITMAP | MEMBLT | MEM3BLT | MULTI_DSTBLT | MULTI_PATBLT | MULTI_SCRBLT
  | MULTI_OPAQUE_RECT | FAST_INDEX | POLYGON_SC | POLYGON_CB | POLYLINE | FAST_GLYPH | ELLIPSE_SC
  | ELLIPSE_CB | GLYPH_INDEX
deriving Repr, DecidableEq

def ORDER_TYPE.Record : ORDER_TYPE → Type
  | .DSTBLT => DSTBLT_ORDER
  | .PATBLT => PATBLT_ORDER
  | .SCRBLT => SCRBLT_ORDER
  | .DRAW_NINE_GRID => DRAW_NINE_GRID_ORDER
  | .MULTI_DRAW_NINE_GRID => MULTI_DRAW_NINE_GRID_ORDER
  | .LINE_TO => LINE_TO_ORDER
  | .OPAQUE_RECT => OPAQUE_RECT_ORDER
  | .SAVE_BITMAP => SAVE_BITMAP_ORDER
  | .MEMBLT => MEMBLT_ORDER
  | .MEM3BLT => MEM3BLT_ORDER
  | .MULTI_DSTBLT => MULTI_DSTBLT_ORDER
  | .MULTI_PATBLT => MULTI_PATBLT_ORDER
  | .MULTI_SCRBLT => MULTI_SCRBLT_ORDER
  | .MULTI_OPAQUE_RECT => MULTI_OPAQUE_RECT_ORDER
  | .FAST_INDEX => FAST_INDEX_ORDER
  | .POLYGON_SC => POLYGON_SC_ORDER
  | .POLYGON_CB => POLYGON_CB_ORDER
  | .POLYLINE => POLYLINE_ORDER
  | .FAST_GLYPH => FAST_GLYPH_ORDER
  | .ELLIPSE_SC => ELLIPSE_SC_ORDER
  | .ELLIPSE_CB => ELLIPSE_CB_ORDER
  | .GLYPH_INDEX => GLYPH_INDEX_ORDER

/-- The type with a number. The other numbers are not drawn. -/
def ORDER_TYPE.of (orderType : Nat) : Option ORDER_TYPE :=
  match orderType with
  | 0x00 => some .DSTBLT
  | 0x01 => some .PATBLT
  | 0x02 => some .SCRBLT
  | 0x07 => some .DRAW_NINE_GRID
  | 0x08 => some .MULTI_DRAW_NINE_GRID
  | 0x09 => some .LINE_TO
  | 0x0A => some .OPAQUE_RECT
  | 0x0B => some .SAVE_BITMAP
  | 0x0D => some .MEMBLT
  | 0x0E => some .MEM3BLT
  | 0x0F => some .MULTI_DSTBLT
  | 0x10 => some .MULTI_PATBLT
  | 0x11 => some .MULTI_SCRBLT
  | 0x12 => some .MULTI_OPAQUE_RECT
  | 0x13 => some .FAST_INDEX
  | 0x14 => some .POLYGON_SC
  | 0x15 => some .POLYGON_CB
  | 0x16 => some .POLYLINE
  | 0x18 => some .FAST_GLYPH
  | 0x19 => some .ELLIPSE_SC
  | 0x1A => some .ELLIPSE_CB
  | 0x1B => some .GLYPH_INDEX
  | _ => none

def PRIMARY_DRAWING_ORDER_FIELD_BYTES : List UInt8 :=
  [1, 2, 1, 0, 0, 0, 0, 1, 1, 2, 1, 1, 0, 2, 3, 1, 2, 2, 2, 2, 1, 2, 1, 0, 2, 1, 2, 3]

def ORDER_TYPE.update_read (orderInfo : ORDER_INFO) :
    (t : ORDER_TYPE) → t.Record → Reader t.Record
  | .DSTBLT => update_read_dstblt_order orderInfo
  | .PATBLT => update_read_patblt_order orderInfo
  | .SCRBLT => update_read_scrblt_order orderInfo
  | .DRAW_NINE_GRID => update_read_draw_nine_grid_order orderInfo
  | .MULTI_DRAW_NINE_GRID => update_read_multi_draw_nine_grid_order orderInfo
  | .LINE_TO => update_read_line_to_order orderInfo
  | .OPAQUE_RECT => update_read_opaque_rect_order orderInfo
  | .SAVE_BITMAP => update_read_save_bitmap_order orderInfo
  | .MEMBLT => update_read_memblt_order orderInfo
  | .MEM3BLT => update_read_mem3blt_order orderInfo
  | .MULTI_DSTBLT => update_read_multi_dstblt_order orderInfo
  | .MULTI_PATBLT => update_read_multi_patblt_order orderInfo
  | .MULTI_SCRBLT => update_read_multi_scrblt_order orderInfo
  | .MULTI_OPAQUE_RECT => update_read_multi_opaque_rect_order orderInfo
  | .FAST_INDEX => update_read_fast_index_order orderInfo
  | .POLYGON_SC => update_read_polygon_sc_order orderInfo
  | .POLYGON_CB => update_read_polygon_cb_order orderInfo
  | .POLYLINE => update_read_polyline_order orderInfo
  | .FAST_GLYPH => update_read_fast_glyph_order orderInfo
  | .ELLIPSE_SC => update_read_ellipse_sc_order orderInfo
  | .ELLIPSE_CB => update_read_ellipse_cb_order orderInfo
  | .GLYPH_INDEX => update_read_glyph_index_order orderInfo

structure rdpPrimaryUpdate where
  order_info : ORDER_INFO
  records : (t : ORDER_TYPE) → t.Record

def field_flags_loop : Nat → Nat → Nat → StateM STREAM Nat
  | 0, _, fieldFlags => pure fieldFlags
  | n + 1, i, fieldFlags => do
    let byte ← stream_read_uint8
    field_flags_loop n (i + 1) ((fieldFlags ||| (byte.toNat <<< (i * 8))) % 4294967296)

/-- `fieldBytes` is a byte: with no field bytes, one byte less is 255. -/
def update_read_field_flags (flags fieldBytes : UInt8) : StateM STREAM Nat :=
  let fieldBytes := if flags &&& ORDER_ZERO_FIELD_BYTE_BIT0 ≠ 0 then fieldBytes - 1 else fieldBytes
  let fieldBytes :=
    if flags &&& ORDER_ZERO_FIELD_BYTE_BIT1 ≠ 0 then
      if fieldBytes > 1 then fieldBytes - 2 else 0
    else fieldBytes
  field_flags_loop fieldBytes.toNat 0 0

def read_bound (flags full delta : UInt8) (bound : Int32) : StateM STREAM Int32 :=
  if flags &&& full ≠ 0 then update_read_coord bound false
  else if flags &&& delta ≠ 0 then update_read_coord bound true
  else pure bound

def update_read_bounds (bounds : rdpBounds) : StateM STREAM rdpBounds := do
  let flags ← stream_read_uint8
  let left ← read_bound flags BOUND_LEFT BOUND_DELTA_LEFT bounds.left
  let top ← read_bound flags BOUND_TOP BOUND_DELTA_TOP bounds.top
  let right ← read_bound flags BOUND_RIGHT BOUND_DELTA_RIGHT bounds.right
  let bottom ← read_bound flags BOUND_BOTTOM BOUND_DELTA_BOTTOM bounds.bottom
  return { left, top, right, bottom }

/-- The header of an order: its type, its flags and its bounds. The code does not check the
index into the table. -/
def read_order_info (flags : UInt8) (orderInfo : ORDER_INFO) : Reader ORDER_INFO := do
  let orderType ←
    if flags &&& ORDER_TYPE_CHANGE ≠ 0 then Reader.of read_byte else pure orderInfo.orderType
  let fieldBytes ← fun s => (PRIMARY_DRAWING_ORDER_FIELD_BYTES[orderType]?).map (·, s)
  let fieldFlags ← Reader.of (update_read_field_flags flags fieldBytes)
  let bounds ←
    if flags &&& ORDER_BOUNDS ≠ 0 ∧ flags &&& ORDER_ZERO_BOUNDS_DELTAS = 0 then
      Reader.of (update_read_bounds orderInfo.bounds)
    else pure orderInfo.bounds
  return { orderType, fieldFlags, bounds,
           deltaCoordinates := flags &&& ORDER_DELTA_COORDINATES ≠ 0 }

/-- The callbacks of the user interface. They work on a context, and may also change the
record that they get: a glyph is taken out of it, a brush is looked up. -/
structure PrimaryCallbacks (κ : Type) where
  SetBounds : Option rdpBounds → κ → κ
  draw : (t : ORDER_TYPE) → t.Record → κ → t.Record × κ

structure rdpUpdate (κ : Type) where
  context : κ
  primary : rdpPrimaryUpdate

/-- What was read of an order. It is not in the code: `body` is where the fields begin, and
`record` is what the callback gets. -/
structure Received where
  info : ORDER_INFO
  body : STREAM
  record : Option (Sigma ORDER_TYPE.Record)

def ORDER_INFO.behind (orderInfo : ORDER_INFO) (n numRectangles : Nat)
    (rectangles : List DELTA_RECT) : Option DELTA_RECT :=
  if flagged orderInfo.fieldFlags n ∧ numRectangles ≥ 45 then rectangles[45]? else none

/-- Behind an array of rectangles are the first four fields of the next record. -/
def spill (orderInfo : ORDER_INFO) (records : (t : ORDER_TYPE) → t.Record) :
    (t : ORDER_TYPE) → t.Record → (t : ORDER_TYPE) → t.Record
  | .MULTI_DSTBLT, (r : MULTI_DSTBLT_ORDER) =>
    (orderInfo.behind 7 r.numRectangles r.rectangles).elim records fun rect =>
      Function.update records .MULTI_PATBLT
        { (records .MULTI_PATBLT : MULTI_PATBLT_ORDER) with
          nLeftRect := rect.left, nTopRect := rect.top, nWidth := rect.width
          nHeight := rect.height }
  | .MULTI_PATBLT, (r : MULTI_PATBLT_ORDER) =>
    (orderInfo.behind 14 r.numRectangles r.rectangles).elim records fun rect =>
      Function.update records .MULTI_SCRBLT
        { (records .MULTI_SCRBLT : MULTI_SCRBLT_ORDER) with
          nLeftRect := rect.left, nTopRect := rect.top, nWidth := rect.width
          nHeight := rect.height }
  | .MULTI_SCRBLT, (r : MULTI_SCRBLT_ORDER) =>
    (orderInfo.behind 9 r.numRectangles r.rectangles).elim records fun rect =>
      Function.update records .MULTI_OPAQUE_RECT
        { (records .MULTI_OPAQUE_RECT : MULTI_OPAQUE_RECT_ORDER) with
          nLeftRect := rect.left, nTopRect := rect.top, nWidth := rect.width
          nHeight := rect.height }
  | .MULTI_OPAQUE_RECT, (r : MULTI_OPAQUE_RECT_ORDER) =>
    (orderInfo.behind 9 r.numRectangles r.rectangles).elim records fun rect =>
      Function.update records .MULTI_DRAW_NINE_GRID
        { (records .MULTI_DRAW_NINE_GRID : MULTI_DRAW_NINE_GRID_ORDER) with
          srcLeft := rect.left, srcTop := rect.top, srcRight := rect.width
          srcBottom := rect.height }
  | _, _ => records

def set_bounds {κ : Type} (callbacks : PrimaryCallbacks κ) (flags : UInt8)
    (bounds : Option rdpBounds) (context : κ) : κ :=
  if flags &&& ORDER_BOUNDS ≠ 0 then callbacks.SetBounds bounds context else context

def update_recv_primary_order {κ : Type} (callbacks : PrimaryCallbacks κ) (flags : UInt8)
    (update : rdpUpdate κ) : Reader (Received × rdpUpdate κ) := do
  let info ← read_order_info flags update.primary.order_info
  let body ← get
  let records := update.primary.records
  let context := set_bounds callbacks flags (some info.bounds) update.context
  match ORDER_TYPE.of info.orderType with
  | none =>
    return (⟨info, body, none⟩,
      { context := set_bounds callbacks flags none context, primary := ⟨info, records⟩ })
  | some t =>
    let record ← t.update_read info (records t)
    let records := spill info records t record
    let (after, context) := callbacks.draw t record context
    return (⟨info, body, some ⟨t, record⟩⟩,
      { context := set_bounds callbacks flags none context
        primary := ⟨info, Function.update records t after⟩ })

end neutrinordp.orders
