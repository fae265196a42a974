-- The planar codec of 32-bit bitmaps (libfreerdp-codec/bitmap.c): planes of bytes, each one raw
-- or in rows of segments. The planes are put together from the buffer `temp` or from the source.
import CorporateClient.BitmapRle

namespace neutrinordp.bitmap

/-! ## Planes of segments -/

/-- A row of a plane: `out` at its start, the end of the plane, and whether `last_line` is 0. -/
structure RowPlace where
  width : Nat
  start : Nat
  limit : Nat
  first : Bool
deriving Repr, DecidableEq

structure RowState where
  input : List UInt8
  temp : List UInt8
  indexw : Nat
  color : Int
deriving Repr, DecidableEq

/-- `collen` and `replen` of a code. -/
def segment_code (code : UInt8) : Nat × Nat :=
  let replen := code.toNat &&& 0xf
  let collen := (code.toNat >>> 4) &&& 0xf
  let revcode := (replen <<< 4) ||| collen
  if revcode ≤ 47 ∧ revcode ≥ 16 then (0, revcode) else (collen, replen)

def segment_color (first : Bool) (x : UInt8) : Int :=
  if first then x.toNat
  else if x &&& 1 ≠ 0 then -((x.toNat >>> 1 : Nat) + 1 : Int)
  else (x.toNat >>> 1 : Nat)

def put_out (a : RowPlace) (s : RowState) : Except Fault RowState :=
  let i := a.start + s.indexw
  if i < a.limit ∧ i < s.temp.length then
    let last := if a.first then 0 else (s.temp.getD (i - a.width) 0).toNat
    .ok { s with temp := s.temp.set i (UInt8.ofInt (last + s.color)), indexw := s.indexw + 1 }
  else .error .planeOverrun

/-- `while (collen > 0)` -/
def literal_loop (a : RowPlace) : Nat → RowState → Except Fault RowState
  | 0, s => pure s
  | collen + 1, s => do
    let x ← src_byte s.input 0
    let s ← put_out a { s with input := s.input.drop 1, color := segment_color a.first x }
    literal_loop a collen s

/-- `while (replen > 0)` -/
def repeat_loop (a : RowPlace) : Nat → RowState → Except Fault RowState
  | 0, s => pure s
  | replen + 1, s => do repeat_loop a replen (← put_out a s)

def segment (a : RowPlace) (s : RowState) : Except Fault RowState := do
  let code ← src_byte s.input 0
  let s ← literal_loop a (segment_code code).1 { s with input := s.input.drop 1 }
  repeat_loop a (segment_code code).2 s

/-- `while (indexw < width)`. Each turn takes a byte, so there are no more turns than bytes. -/
def row_loop (a : RowPlace) : Nat → RowState → Except Fault RowState
  | 0, _ => .error .endless
  | turns + 1, s => if s.indexw < a.width then do row_loop a turns (← segment a s) else pure s

def row_place (width height base indexh : Nat) : RowPlace where
  width
  start := base + indexh * width
  limit := base + width * height
  first := indexh = 0

/-- `while (indexh < height)`, with the rows that are left. -/
def rows_loop (width height base : Nat) :
    Nat → List UInt8 → List UInt8 → Except Fault (List UInt8 × List UInt8)
  | 0, input, temp => pure (input, temp)
  | left + 1, input, temp => do
    let s ← row_loop (row_place width height base (height - (left + 1))) (input.length + 1)
      ⟨input, temp, 0, 0⟩
    rows_loop width height base left s.input s.temp

/-- The bytes that were taken, and `temp` with the plane at `base`. -/
def process_rle_plane (input : List UInt8) (width height base : Nat) (temp : List UInt8) :
    Except Fault (Nat × List UInt8) := do
  let (rest, temp) ← rows_loop width height base height input temp
  pure (input.length - rest.length, temp)

/-! ## Pixels of four planes -/

/-- A plane is in `temp` or in the source. -/
inductive PlanePtr
  | temp (offset : Nat)
  | source (offset : Nat)
deriving Repr, DecidableEq

def read_plane (srcData temp : List UInt8) : PlanePtr → Nat → Except Fault UInt8
  | .temp p, offset =>
    match temp[p + offset]? with
    | some b => .ok b
    | none => .error .planeOverrun
  | .source p, offset => src_byte srcData (p + offset)

def plane_pixel (srcData temp : List UInt8) (planes : List PlanePtr) (offset : Nat) :
    Except Fault Nat :=
  planes.foldlM (fun pixel p => do
    let b ← read_plane srcData temp p offset
    pure ((pixel <<< 8) ||| b.toNat)) 0

def put_dst (dstData : List Nat) (i pixel : Nat) : Except Fault (List Nat) :=
  if i < dstData.length then .ok (dstData.set i pixel) else .error .dstOverrun

def unsplit_row (srcData temp : List UInt8) (planes : List PlanePtr) :
    Nat → Nat → Nat → List Nat → Except Fault (List Nat)
  | 0, _, _, dstData => pure dstData
  | left + 1, dst32, offset, dstData => do
    let pixel ← plane_pixel srcData temp planes offset
    unsplit_row srcData temp planes left (dst32 + 1) (offset + 1) (← put_dst dstData dst32 pixel)

def unsplit_rows (srcData temp : List UInt8) (planes : List PlanePtr) (width height : Nat) :
    Nat → List Nat → Except Fault (List Nat)
  | 0, dstData => pure dstData
  | left + 1, dstData => do
    let jndex := height - (left + 1)
    let dstData ← unsplit_row srcData temp planes width (width * height - (jndex + 1) * width)
      (jndex * width) dstData
    unsplit_rows srcData temp planes width height left dstData

def unsplit4 (srcData temp : List UInt8) (planes : List PlanePtr) (width height : Nat)
    (dstData : List Nat) : Except Fault (List Nat) :=
  unsplit_rows srcData temp planes width height height dstData

/-- `srcData` is an offset here. -/
structure Unpack where
  srcData : Nat
  total_processed : Nat
  temp : List UInt8
  planes : List PlanePtr
deriving Repr, DecidableEq

/-- A plane in segments goes to its place in `temp`, and a raw one stays in the source. -/
def unpack_plane (src : List UInt8) (width height : Nat) (RLE : Bool) (u : Unpack) (k : Nat) :
    Except Fault Unpack :=
  if RLE then do
    let (bytes_processed, temp) ← process_rle_plane (src.drop u.srcData) width height
      (k * (width * height)) u.temp
    pure { srcData := u.srcData + bytes_processed
           total_processed := u.total_processed + bytes_processed
           temp, planes := u.planes ++ [.temp (k * (width * height))] }
  else
    pure { srcData := u.srcData + width * height
           total_processed := u.total_processed + width * height
           temp := u.temp, planes := u.planes ++ [.source u.srcData] }

def fill_plane (n : Nat) (u : Unpack) : Except Fault Unpack :=
  if n ≤ u.temp.length then
    .ok { u with temp := List.replicate n 0xff ++ u.temp.drop n, planes := u.planes ++ [.temp 0] }
  else .error .planeOverrun

def unpack_planes (srcData : List UInt8) (width height : Nat) (code : UInt8) (temp : List UInt8) :
    Except Fault Unpack := do
  let RLE := decide (code &&& 0x10 ≠ 0)
  let start : Unpack := ⟨1, 1, temp, []⟩
  let u ← if code &&& 0x20 = 0 then unpack_plane srcData width height RLE start 0
    else fill_plane (width * height) start
  [1, 2, 3].foldlM (unpack_plane srcData width height RLE) u

def bitmap_decompress4 (srcData : List UInt8) (dstData : List Nat) (width height : Nat)
    (temp : List UInt8) : Except Fault (Bool × List Nat) := do
  let code ← src_byte srcData 0
  let u ← unpack_planes srcData width height code temp
  let total_processed := if code &&& 0x10 ≠ 0 then u.total_processed else u.total_processed + 1
  let dstData ← unsplit4 srcData u.temp u.planes width height dstData
  pure (decide (srcData.length = total_processed), dstData)

end neutrinordp.bitmap
