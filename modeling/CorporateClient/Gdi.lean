-- Drawing on bitmaps (libfreerdp-gdi): regions, clipping and the raster operations for 32 bits per
-- pixel. A bitmap is an array of pixels, row by row; an access outside of an array, through a null
-- pointer, or with memcpy on overlapping ranges has no result.
import CorporateClient.Lib.Raster

open raster

namespace neutrinordp.gdi

/-! ## Objects -/

structure GDI_BITMAP where
  width : Nat
  height : Nat
  data : Nat → UInt32

/-- The bitmaps, by the handles of the device contexts. -/
abbrev Memory := Nat → GDI_BITMAP

structure GDI_RECT where
  left : Int
  top : Int
  right : Int
  bottom : Int

structure GDI_RGN where
  x : Int
  y : Int
  w : Int
  h : Int
  null : Bool

inductive BrushStyle
  | SOLID
  | NULL
  | HATCHED
  | PATTERN
  deriving DecidableEq

structure GDI_BRUSH where
  style : BrushStyle
  pattern : GDI_BITMAP
  color : UInt32

structure GDI_DC where
  selectedObject : Nat
  bytesPerPixel : Nat
  textColor : UInt32
  brush : GDI_BRUSH
  clip : GDI_RGN
  alpha : Bool
  invert : Bool

/-! ## Regions and clipping -/

def gdi_CRgnToRect (x y w h : Int) : GDI_RECT where
  left := x
  top := y
  right := x + w - 1
  bottom := y + h - 1

def gdi_RgnToRect (rgn : GDI_RGN) : GDI_RECT := gdi_CRgnToRect rgn.x rgn.y rgn.w rgn.h

/-- The corner and size of an operation, and the corner in the source. -/
structure Coords where
  x : Int
  y : Int
  w : Int
  h : Int
  srcx : Int
  srcy : Int

/-- `gdi_RectToCRgn`. The corner in the source stays. -/
def gdi_RectToCRgn (rect : GDI_RECT) (c : Coords) : Coords :=
  { c with
    x := rect.left
    y := rect.top
    w := rect.right - rect.left + 1
    h := rect.bottom - rect.top + 1 }

def clip_rect (hBmp : GDI_BITMAP) (hdc : GDI_DC) : GDI_RECT :=
  let bmp := gdi_CRgnToRect 0 0 hBmp.width hBmp.height
  if hdc.clip.null then bmp
  else
    let clip := gdi_RgnToRect hdc.clip
    { left := if clip.left < bmp.left then bmp.left else clip.left
      right := if clip.right > bmp.right then bmp.right else clip.right
      top := if clip.top < bmp.top then bmp.top else clip.top
      bottom := if clip.bottom > bmp.bottom then bmp.bottom else clip.bottom }

/-- Is there something to draw, and where? -/
def gdi_ClipCoords (hBmp : GDI_BITMAP) (hdc : GDI_DC) (c : Coords) : Bool × Coords :=
  let clip := clip_rect hBmp hdc
  let coords := gdi_CRgnToRect c.x c.y c.w c.h
  if coords.right ≥ clip.left ∧ coords.left ≤ clip.right ∧
      coords.bottom ≥ clip.top ∧ coords.top ≤ clip.bottom then
    let dx := if coords.left < clip.left then (clip.left - coords.left) + 1 else 0
    let dy := if coords.top < clip.top then (clip.top - coords.top) + 1 else 0
    let drawn : GDI_RECT :=
      { left := if coords.left < clip.left then clip.left else coords.left
        right := if coords.right > clip.right then clip.right else coords.right
        top := if coords.top < clip.top then clip.top else coords.top
        bottom := if coords.bottom > clip.bottom then clip.bottom else coords.bottom }
    let srcx := if dx > 0 then c.srcx + (dx - 1) else c.srcx
    let srcy := if dy > 0 then c.srcy + (dy - 1) else c.srcy
    (true, gdi_RectToCRgn drawn { c with srcx := srcx, srcy := srcy })
  else (false, gdi_RectToCRgn ⟨0, 0, 0, 0⟩ c)

def gdi_CopyOverlap (x y width height srcx srcy : Int) : Bool :=
  let dst := gdi_CRgnToRect x y width height
  let src := gdi_CRgnToRect srcx srcy width height
  dst.right > src.left ∧ dst.left < src.right ∧ dst.bottom > src.top ∧ dst.top < src.bottom

/-! ## Pixels -/

/-- `none` is the null pointer. -/
def gdi_get_bitmap_pointer (hBmp : GDI_BITMAP) (x y : Int) : Option Nat :=
  if x ≥ 0 ∧ x < hBmp.width ∧ y ≥ 0 ∧ y < hBmp.height then
    some (y.toNat * hBmp.width + x.toNat)
  else none

def GDI_BITMAP.size (hBmp : GDI_BITMAP) : Nat := hBmp.width * hBmp.height

/-- The memory with other pixels in one bitmap. -/
def withData (m : Memory) (id : Nat) (data : Nat → UInt32) : Memory :=
  Function.update m id { m id with data := data }

def load (m : Memory) (id p : Nat) : Option UInt32 :=
  if p < (m id).size then some ((m id).data p) else none

def store (m : Memory) (id p : Nat) (v : UInt32) : Option Memory :=
  if p < (m id).size then some (withData m id (Function.update (m id).data p v)) else none

/-- `n` pixels from `p` on are set to `v`. -/
def memset (m : Memory) (id p : Nat) (v : UInt32) (n : Int) : Option Memory :=
  if 0 ≤ n ∧ p + n.toNat ≤ (m id).size then
    some (withData m id (setRange (m id).data p n.toNat fun _ _ => v))
  else none

/-- The pixels of a copy, with the ranges inside their bitmaps. -/
def copied (m : Memory) (dst dstp src srcp : Nat) (n : Int) : Option Memory :=
  if 0 ≤ n ∧ dstp + n.toNat ≤ (m dst).size ∧ srcp + n.toNat ≤ (m src).size then
    some (withData m dst (if dst = src then copyRange (m dst).data dstp srcp n.toNat
      else setRange (m dst).data dstp n.toNat fun j _ => (m src).data (srcp + j)))
  else none

/-- Not on overlapping ranges. -/
def memcpy (m : Memory) (dst dstp src srcp : Nat) (n : Int) : Option Memory :=
  if dst = src ∧ dstp < srcp + n.toNat ∧ srcp < dstp + n.toNat then none
  else copied m dst dstp src srcp n

def memmove (m : Memory) (dst dstp src srcp : Nat) (n : Int) : Option Memory :=
  copied m dst dstp src srcp n

def gdi_get_color_32bpp (hdc : GDI_DC) (color : UInt32) : UInt32 :=
  let a : UInt32 := 0xFF
  let b := (color &&& 0xFF0000) >>> 16
  let g := (color &&& 0xFF00) >>> 8
  let r := color &&& 0xFF
  if hdc.invert then (a <<< 24) ||| (b <<< 16) ||| (g <<< 8) ||| r
  else (a <<< 24) ||| (r <<< 16) ||| (g <<< 8) ||| b

def gdi_get_brush_pointer (hdcBrush : GDI_DC) (x y : Nat) : Option UInt32 :=
  if hdcBrush.brush.style = .PATTERN then
    let hBmpBrush := hdcBrush.brush.pattern
    if hBmpBrush.width = 0 ∨ hBmpBrush.height = 0 then none
    else some (hBmpBrush.data ((y % hBmpBrush.height) * hBmpBrush.width + x % hBmpBrush.width))
  else some hdcBrush.textColor

/-! ## Loops -/

def rows_down (nHeight : Int) (row : Memory → Nat → Option Memory) (m : Memory) : Option Memory :=
  (List.range nHeight.toNat).foldlM row m

def rows_up (nHeight : Int) (row : Memory → Nat → Option Memory) (m : Memory) : Option Memory :=
  (List.range nHeight.toNat).reverse.foldlM row m

/-- The pixels of one row, once the pointers are known. The operation gets the column, the pixel of
the source and the pixel that is there. -/
def src_row (m : Memory) (dst dstp src : Nat) (srcp : Option Nat) (nWidth : Int)
    (f : Nat → UInt32 → UInt32 → Option UInt32) : Option Memory :=
  (List.range nWidth.toNat).foldlM (fun m x => do
    let srcp ← srcp
    let s ← load m src (srcp + x)
    let d ← load m dst (dstp + x)
    let v ← f x s d
    store m dst (dstp + x) v) m

def dst_row (m : Memory) (dst dstp : Nat) (nWidth : Int) (f : Nat → UInt32 → Option UInt32) :
    Option Memory :=
  (List.range nWidth.toNat).foldlM (fun m x => do
    let d ← load m dst (dstp + x)
    let v ← f x d
    store m dst (dstp + x) v) m

/-- The loop of the operations that read a source. -/
def src_loop (m : Memory) (hdcDest hdcSrc : GDI_DC) (c : Coords)
    (f : Nat → Nat → UInt32 → UInt32 → Option UInt32) : Option Memory :=
  rows_down c.h (fun m y =>
    let srcp := gdi_get_bitmap_pointer (m hdcSrc.selectedObject) c.srcx (c.srcy + y)
    match gdi_get_bitmap_pointer (m hdcDest.selectedObject) c.x (c.y + y) with
    | some dstp =>
      src_row m hdcDest.selectedObject dstp hdcSrc.selectedObject srcp c.w fun x => f x y
    | none => some m) m

/-- The loop of the operations that do not. -/
def dst_loop (m : Memory) (hdcDest : GDI_DC) (c : Coords)
    (f : Nat → Nat → UInt32 → Option UInt32) : Option Memory :=
  rows_down c.h (fun m y =>
    match gdi_get_bitmap_pointer (m hdcDest.selectedObject) c.x (c.y + y) with
    | some dstp => dst_row m hdcDest.selectedObject dstp c.w fun x => f x y
    | none => some m) m

def memset_loop (m : Memory) (hdcDest : GDI_DC) (c : Coords) (v : UInt32) : Option Memory :=
  rows_down c.h (fun m y =>
    match gdi_get_bitmap_pointer (m hdcDest.selectedObject) c.x (c.y + y) with
    | some dstp => memset m hdcDest.selectedObject dstp v c.w
    | none => some m) m

/-! ## Fills and raster operations -/

def FillRect_32bpp (m : Memory) (hdc : GDI_DC) (rect : GDI_RECT) (hbr : GDI_BRUSH) :
    Option Memory :=
  let c := gdi_RectToCRgn rect ⟨0, 0, 0, 0, 0, 0⟩
  let (draw, c) := gdi_ClipCoords (m hdc.selectedObject) hdc c
  if draw = false then some m
  else dst_loop m hdc c fun _ _ _ => some (gdi_get_color_32bpp hdc hbr.color)

def BitBlt_BLACKNESS_32bpp (m : Memory) (hdcDest : GDI_DC) (c : Coords) : Option Memory :=
  if hdcDest.alpha then dst_loop m hdcDest c fun _ _ _ => some 0xFF000000
  else memset_loop m hdcDest c 0

def BitBlt_WHITENESS_32bpp (m : Memory) (hdcDest : GDI_DC) (c : Coords) : Option Memory :=
  memset_loop m hdcDest c 0xFFFFFFFF

def copy_row (copy : Memory → Nat → Nat → Nat → Nat → Int → Option Memory)
    (hdcDest hdcSrc : GDI_DC) (c : Coords) (m : Memory) (y : Nat) : Option Memory :=
  match gdi_get_bitmap_pointer (m hdcSrc.selectedObject) c.srcx (c.srcy + y),
      gdi_get_bitmap_pointer (m hdcDest.selectedObject) c.x (c.y + y) with
  | some srcp, some dstp => copy m hdcDest.selectedObject dstp hdcSrc.selectedObject srcp c.w
  | _, _ => some m

def BitBlt_SRCCOPY (m : Memory) (hdcDest hdcSrc : GDI_DC) (c : Coords) : Option Memory :=
  if hdcDest.selectedObject ≠ hdcSrc.selectedObject ∨
      gdi_CopyOverlap c.x c.y c.w c.h c.srcx c.srcy = false then
    rows_down c.h (copy_row memcpy hdcDest hdcSrc c) m
  else if c.srcy < c.y then rows_up c.h (copy_row memmove hdcDest hdcSrc c) m
  else if c.srcy > c.y ∨ c.srcx > c.x then rows_down c.h (copy_row memmove hdcDest hdcSrc c) m
  else rows_down c.h (copy_row memmove hdcDest hdcSrc c) m

def BitBlt_SRCCOPY_16bpp : Memory → GDI_DC → GDI_DC → Coords → Option Memory := BitBlt_SRCCOPY

def BitBlt_SRCCOPY_32bpp : Memory → GDI_DC → GDI_DC → Coords → Option Memory := BitBlt_SRCCOPY

def BitBlt_NOTSRCCOPY_32bpp (m : Memory) (hdcDest hdcSrc : GDI_DC) (c : Coords) : Option Memory :=
  src_loop m hdcDest hdcSrc c fun _ _ s _ => some (~~~s)

def BitBlt_DSTINVERT_32bpp (m : Memory) (hdcDest : GDI_DC) (c : Coords) : Option Memory :=
  dst_loop m hdcDest c fun _ _ d => some (~~~d)

def BitBlt_SRCERASE_32bpp (m : Memory) (hdcDest hdcSrc : GDI_DC) (c : Coords) : Option Memory :=
  src_loop m hdcDest hdcSrc c fun _ _ s d => some (s &&& ~~~d)

def BitBlt_NOTSRCERASE_32bpp (m : Memory) (hdcDest hdcSrc : GDI_DC) (c : Coords) : Option Memory :=
  src_loop m hdcDest hdcSrc c fun _ _ s d => some (~~~s &&& ~~~d)

def BitBlt_SRCINVERT_32bpp (m : Memory) (hdcDest hdcSrc : GDI_DC) (c : Coords) : Option Memory :=
  src_loop m hdcDest hdcSrc c fun _ _ s d => some (d ^^^ s)

def BitBlt_SRCAND_32bpp (m : Memory) (hdcDest hdcSrc : GDI_DC) (c : Coords) : Option Memory :=
  src_loop m hdcDest hdcSrc c fun _ _ s d => some (d &&& s)

def BitBlt_SRCPAINT_32bpp (m : Memory) (hdcDest hdcSrc : GDI_DC) (c : Coords) : Option Memory :=
  src_loop m hdcDest hdcSrc c fun _ _ s d => some (d ||| s)

/-- The source is a glyph with one byte for each pixel. The three colour bytes are mixed, and the
fourth one is skipped. -/
def BitBlt_DSPDxax_32bpp (m : Memory) (hdcDest hdcSrc : GDI_DC) (c : Coords) : Option Memory :=
  let color32 := gdi_get_color_32bpp hdcDest hdcDest.textColor
  if hdcSrc.bytesPerPixel ≠ 1 then some m
  else
    src_loop m hdcDest hdcSrc c fun _ _ s d =>
      let s := s &&& 0xFF
      let s := s ||| (s <<< 8) ||| (s <<< 16)
      some ((s &&& color32) ||| (~~~s &&& d))

def BitBlt_SPna_32bpp (m : Memory) (hdcDest hdcSrc : GDI_DC) (c : Coords) : Option Memory :=
  src_loop m hdcDest hdcSrc c fun x y s _ => do
    let p ← gdi_get_brush_pointer hdcDest x y
    return s &&& ~~~p

def BitBlt_DSna_32bpp (m : Memory) (hdcDest hdcSrc : GDI_DC) (c : Coords) : Option Memory :=
  src_loop m hdcDest hdcSrc c fun _ _ s d => some (~~~s &&& d)

def BitBlt_PDxn_32bpp (m : Memory) (hdcDest : GDI_DC) (c : Coords) : Option Memory :=
  dst_loop m hdcDest c fun x y d => do
    let p ← gdi_get_brush_pointer hdcDest x y
    return d ^^^ ~~~p

def BitBlt_MERGECOPY_32bpp (m : Memory) (hdcDest hdcSrc : GDI_DC) (c : Coords) : Option Memory :=
  src_loop m hdcDest hdcSrc c fun x y s _ => do
    let p ← gdi_get_brush_pointer hdcDest x y
    return s &&& p

def BitBlt_MERGEPAINT_32bpp (m : Memory) (hdcDest hdcSrc : GDI_DC) (c : Coords) : Option Memory :=
  src_loop m hdcDest hdcSrc c fun _ _ s d => some (~~~s ||| d)

def BitBlt_PATCOPY_32bpp (m : Memory) (hdcDest : GDI_DC) (c : Coords) : Option Memory :=
  if hdcDest.brush.style = .SOLID then
    dst_loop m hdcDest c fun _ _ _ => some (gdi_get_color_32bpp hdcDest hdcDest.brush.color)
  else
    dst_loop m hdcDest c fun x y _ => gdi_get_brush_pointer hdcDest x y

def BitBlt_PATINVERT_32bpp (m : Memory) (hdcDest : GDI_DC) (c : Coords) : Option Memory :=
  if hdcDest.brush.style = .SOLID then
    dst_loop m hdcDest c fun _ _ d => some (d ^^^ gdi_get_color_32bpp hdcDest hdcDest.brush.color)
  else
    dst_loop m hdcDest c fun x y d => do
      let p ← gdi_get_brush_pointer hdcDest x y
      return p ^^^ d

def BitBlt_PATPAINT_32bpp (m : Memory) (hdcDest hdcSrc : GDI_DC) (c : Coords) : Option Memory :=
  src_loop m hdcDest hdcSrc c fun x y s d => do
    let p ← gdi_get_brush_pointer hdcDest x y
    return d ||| (p ||| ~~~s)

/-! ## The two switches -/

/-- The raster operations that have a name. -/
inductive Rop
  | SRCCOPY
  | SRCPAINT
  | SRCAND
  | SRCINVERT
  | SRCERASE
  | NOTSRCCOPY
  | NOTSRCERASE
  | MERGECOPY
  | MERGEPAINT
  | PATCOPY
  | PATPAINT
  | PATINVERT
  | DSTINVERT
  | BLACKNESS
  | WHITENESS
  | DSPDxax
  | SPna
  | DSna
  | PDxn
  deriving DecidableEq

/-- The codes of the header. -/
def Rop.code : Rop → Nat
  | .SRCCOPY => 0x00CC0020
  | .SRCPAINT => 0x00EE0086
  | .SRCAND => 0x008800C6
  | .SRCINVERT => 0x00660046
  | .SRCERASE => 0x00440328
  | .NOTSRCCOPY => 0x00330008
  | .NOTSRCERASE => 0x001100A6
  | .MERGECOPY => 0x00C000CA
  | .MERGEPAINT => 0x00BB0226
  | .PATCOPY => 0x00F00021
  | .PATPAINT => 0x00FB0A09
  | .PATINVERT => 0x005A0049
  | .DSTINVERT => 0x00550009
  | .BLACKNESS => 0x00000042
  | .WHITENESS => 0x00FF0062
  | .DSPDxax => 0x00E20746
  | .SPna => 0x000C0324
  | .DSna => 0x00220326
  | .PDxn => 0x00A50065

/-- The operations without a source, and the ones with it. -/
inductive Blt
  | dst (draw : Memory → GDI_DC → Coords → Option Memory)
  | src (draw : Memory → GDI_DC → GDI_DC → Coords → Option Memory)

/-- The switch of `BitBlt_32bpp`. -/
def BitBlt_switch : Rop → Option Blt
  | .BLACKNESS => some (.dst BitBlt_BLACKNESS_32bpp)
  | .WHITENESS => some (.dst BitBlt_WHITENESS_32bpp)
  | .SRCCOPY => some (.src BitBlt_SRCCOPY_32bpp)
  | .SPna => some (.src BitBlt_SPna_32bpp)
  | .DSna => some (.src BitBlt_DSna_32bpp)
  | .DSPDxax => some (.src BitBlt_DSPDxax_32bpp)
  | .NOTSRCCOPY => some (.src BitBlt_NOTSRCCOPY_32bpp)
  | .DSTINVERT => some (.dst BitBlt_DSTINVERT_32bpp)
  | .SRCERASE => some (.src BitBlt_SRCERASE_32bpp)
  | .NOTSRCERASE => some (.src BitBlt_NOTSRCERASE_32bpp)
  | .SRCINVERT => some (.src BitBlt_SRCINVERT_32bpp)
  | .SRCAND => some (.src BitBlt_SRCAND_32bpp)
  | .SRCPAINT => some (.src BitBlt_SRCPAINT_32bpp)
  | .MERGECOPY => some (.src BitBlt_MERGECOPY_32bpp)
  | .MERGEPAINT => some (.src BitBlt_MERGEPAINT_32bpp)
  | .PATCOPY => some (.dst BitBlt_PATCOPY_32bpp)
  | .PATINVERT => some (.dst BitBlt_PATINVERT_32bpp)
  | .PATPAINT => some (.src BitBlt_PATPAINT_32bpp)
  | .PDxn => none

/-- The switch of `PatBlt_32bpp`. -/
def PatBlt_switch : Rop → Option (Memory → GDI_DC → Coords → Option Memory)
  | .PATCOPY => some BitBlt_PATCOPY_32bpp
  | .PATINVERT => some BitBlt_PATINVERT_32bpp
  | .DSTINVERT => some BitBlt_DSTINVERT_32bpp
  | .BLACKNESS => some BitBlt_BLACKNESS_32bpp
  | .WHITENESS => some BitBlt_WHITENESS_32bpp
  | .PDxn => some BitBlt_PDxn_32bpp
  | _ => none

/-- The result code and the memory. Operations that are not in the switch have the code 1, and a
null source is not read by those that need none. -/
def BitBlt_32bpp (m : Memory) (hdcDest : GDI_DC) (c : Coords) (hdcSrc : Option GDI_DC)
    (rop : Rop) : Option (Nat × Memory) :=
  let (draw, c) := gdi_ClipCoords (m hdcDest.selectedObject) hdcDest c
  if draw = false then some (0, m)
  else
    match BitBlt_switch rop with
    | some (.dst blt) => do
      let m ← blt m hdcDest c
      return (0, m)
    | some (.src blt) => do
      let hdcSrc ← hdcSrc
      let m ← blt m hdcDest hdcSrc c
      return (0, m)
    | none => some (1, m)

def PatBlt_32bpp (m : Memory) (hdc : GDI_DC) (c : Coords) (rop : Rop) : Option (Nat × Memory) :=
  let (draw, c) := gdi_ClipCoords (m hdc.selectedObject) hdc c
  if draw = false then some (0, m)
  else
    match PatBlt_switch rop with
    | some blt => do
      let m ← blt m hdc c
      return (0, m)
    | none => some (1, m)

end neutrinordp.gdi
