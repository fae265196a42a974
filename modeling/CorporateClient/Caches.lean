-- The caches of the drawing orders (libfreerdp-cache: bitmap.c, glyph.c, brush.c, pointer.c). As
-- long as every put finds its slot and no get names the slot behind the last one, they are maps
-- that own their objects.
import CorporateClient.Lib.BoundedMap
import Mathlib.Tactic.Ring

open bounded

namespace neutrinordp.caches

variable {α : Type}

/-- The loops that free the entries count with `int`. -/
def toInt (n : Nat) : Nat := (Int.bmod n (2 ^ 32)).toNat

theorem toInt_of_lt {n : Nat} (h : n < 2 ^ 31) : toInt n = n := by
  unfold toInt
  rw [Int.bmod_eq_of_le (by omega) (by omega)]
  rfl

/-! ## The bitmap cache -/

/-- A counted array of objects. -/
structure Cell (α : Type) where
  number : Nat
  entries : List (Option α)

abbrev BITMAP_V2_CELL := Cell

structure rdpBitmapCache (α : Type) where
  maxCells : Nat
  cells : List (BITMAP_V2_CELL α)

def BITMAP_CACHE_WAITING_LIST_INDEX : Nat := 0x7FFF

/-- The store into an array. `none` is a store outside of it. -/
def store {β : Type} (entries : List β) (index : Nat) (entry : β) : Option (List β) :=
  if index < entries.length then some (entries.set index entry) else none

/-- `cells[id].entries[index] = object`. -/
def store_in_cell (cells : List (Cell α)) (id : Nat) (cell : Cell α) (index : Nat) (object : α) :
    Option (List (Cell α)) := do
  let entries ← store cell.entries index (some object)
  store cells id { cell with entries := entries }

def bitmap_cache_get (bitmap_cache : rdpBitmapCache α) (id index : Nat) : Option (Option α) :=
  if id > bitmap_cache.maxCells then some none
  else do
    let cell ← bitmap_cache.cells[id]?
    if index = BITMAP_CACHE_WAITING_LIST_INDEX then cell.entries[cell.number]?
    else if index > cell.number then some none
    else cell.entries[index]?

def bitmap_cache_put (bitmap_cache : rdpBitmapCache α) (id index : Nat) (bitmap : α) :
    Option (rdpBitmapCache α) :=
  if id > bitmap_cache.maxCells then some bitmap_cache
  else do
    let cell ← bitmap_cache.cells[id]?
    if index = BITMAP_CACHE_WAITING_LIST_INDEX then
      let cells ← store_in_cell bitmap_cache.cells id cell cell.number bitmap
      return { bitmap_cache with cells := cells }
    else if index > cell.number then some bitmap_cache
    else
      let cells ← store_in_cell bitmap_cache.cells id cell index bitmap
      return { bitmap_cache with cells := cells }

/-- What the three orders do with the cache once the bitmap is made: the bitmap that is there is
freed. -/
def update_gdi_cache_bitmap (bitmap_cache : rdpBitmapCache α) (cacheId cacheIndex : Nat)
    (bitmap : α) : Option (rdpBitmapCache α × List α) := do
  let prevBitmap ← bitmap_cache_get bitmap_cache cacheId cacheIndex
  let bitmap_cache ← bitmap_cache_put bitmap_cache cacheId cacheIndex bitmap
  return (bitmap_cache, prevBitmap.toList)

/-- The sizes are set here, whatever the settings are. -/
def bitmapCacheV2CellInfo : List Nat := [600, 600, 2048, 4096, 2048]

def bitmap_cache_new : rdpBitmapCache α where
  maxCells := 5
  cells := bitmapCacheV2CellInfo.map fun number =>
    { number := number, entries := List.replicate (number + 1) none }

def bitmap_cache_free (bitmap_cache : rdpBitmapCache α) : List α :=
  (bitmap_cache.cells.take (toInt bitmap_cache.maxCells)).flatMap fun cell =>
    objects (cell.entries.take (toInt cell.number + 1))

/-! ## The glyph cache -/

abbrev GLYPH_CACHE := Cell

structure rdpGlyphCache (α : Type) where
  glyphCache : List (GLYPH_CACHE α)

def glyph_cache_get (glyph_cache : rdpGlyphCache α) (id index : Nat) : Option (Option α) :=
  if id > 9 then some none
  else do
    let cell ← glyph_cache.glyphCache[id]?
    if index > cell.number then some none
    else cell.entries[index]?

/-- The glyph that is there is freed. -/
def glyph_cache_put (glyph_cache : rdpGlyphCache α) (id index : Nat) (glyph : α) :
    Option (rdpGlyphCache α × List α) :=
  if id > 9 then some (glyph_cache, [])
  else do
    let cell ← glyph_cache.glyphCache[id]?
    if index > cell.number then some (glyph_cache, [])
    else
      let prevGlyph ← cell.entries[index]?
      let cells ← store_in_cell glyph_cache.glyphCache id cell index glyph
      return ({ glyphCache := cells }, prevGlyph.toList)

/-- The settings the caches are created with. -/
structure Settings where
  cacheEntries : Fin 10 → UInt16
  pointer_cache_size : UInt32

/-- The numbers of entries of the ten glyph caches. -/
def Settings.glyphNumbers (settings : Settings) : List Nat :=
  List.ofFn fun i => (settings.cacheEntries i).toNat

def glyph_cache_new (settings : Settings) : rdpGlyphCache α where
  glyphCache := settings.glyphNumbers.map fun number =>
    { number := number, entries := List.replicate number none }

def glyph_cache_free (glyph_cache : rdpGlyphCache α) : List α :=
  (glyph_cache.glyphCache.take 10).flatMap fun cell =>
    objects (cell.entries.take (toInt cell.number))

/-! ## The brush cache -/

structure BRUSH_ENTRY (α : Type) where
  bpp : Nat
  entry : Option α

structure rdpBrushCache (α : Type) where
  maxEntries : Nat
  maxMonoEntries : Nat
  entries : List (BRUSH_ENTRY α)
  monoEntries : List (BRUSH_ENTRY α)

/-- The brush, and what `*bpp` is afterwards. -/
def brush_cache_get (brush : rdpBrushCache α) (index bpp : Nat) : Option (Option α × Nat) :=
  if bpp = 1 then
    if index > brush.maxMonoEntries then some (none, bpp)
    else do
      let entry ← brush.monoEntries[index]?
      return (entry.entry, entry.bpp)
  else
    if index ≥ brush.maxEntries then some (none, bpp)
    else do
      let entry ← brush.entries[index]?
      return (entry.entry, entry.bpp)

/-- The brush that is there is freed. -/
def brush_cache_put (brush : rdpBrushCache α) (index : Nat) (entry : α) (bpp : Nat) :
    Option (rdpBrushCache α × List α) :=
  if bpp = 1 then
    if index ≥ brush.maxMonoEntries then some (brush, [])
    else do
      let prevEntry ← brush.monoEntries[index]?
      let entries ← store brush.monoEntries index { bpp := bpp, entry := some entry }
      return ({ brush with monoEntries := entries }, prevEntry.entry.toList)
  else
    if index ≥ brush.maxEntries then some (brush, [])
    else do
      let prevEntry ← brush.entries[index]?
      let entries ← store brush.entries index { bpp := bpp, entry := some entry }
      return ({ brush with entries := entries }, prevEntry.entry.toList)

def brush_cache_new : rdpBrushCache α where
  maxEntries := 64
  maxMonoEntries := 64
  entries := List.replicate 64 { bpp := 0, entry := none }
  monoEntries := List.replicate 64 { bpp := 0, entry := none }

def brush_cache_free (brush : rdpBrushCache α) : List α :=
  objects ((brush.entries.take (toInt brush.maxEntries)).map BRUSH_ENTRY.entry) ++
    objects ((brush.monoEntries.take (toInt brush.maxMonoEntries)).map BRUSH_ENTRY.entry)

/-! ## The pointer cache -/

structure rdpPointerCache (α : Type) where
  cacheSize : Nat
  entries : List (Option α)

def pointer_cache_get (pointer_cache : rdpPointerCache α) (index : Nat) : Option (Option α) :=
  if index ≥ pointer_cache.cacheSize then some none
  else pointer_cache.entries[index]?

/-- The pointer that is there is freed. -/
def pointer_cache_put (pointer_cache : rdpPointerCache α) (index : Nat) (pointer : α) :
    Option (rdpPointerCache α × List α) :=
  if index ≥ pointer_cache.cacheSize then some (pointer_cache, [])
  else do
    let prevPointer ← pointer_cache.entries[index]?
    let entries ← store pointer_cache.entries index (some pointer)
    return ({ pointer_cache with entries := entries }, prevPointer.toList)

def pointer_cache_new (settings : Settings) : rdpPointerCache α where
  cacheSize := settings.pointer_cache_size.toNat
  entries := List.replicate settings.pointer_cache_size.toNat none

def pointer_cache_free (pointer_cache : rdpPointerCache α) : List α :=
  objects (pointer_cache.entries.take (toInt pointer_cache.cacheSize))

/-! ## The four together -/

structure rdpCache (α : Type) where
  bitmap : rdpBitmapCache α
  glyph : rdpGlyphCache α
  brush : rdpBrushCache α
  pointer : rdpPointerCache α

def cache_new (settings : Settings) : rdpCache α where
  bitmap := bitmap_cache_new
  glyph := glyph_cache_new settings
  brush := brush_cache_new
  pointer := pointer_cache_new settings

def cache_free (cache : rdpCache α) : List α :=
  bitmap_cache_free cache.bitmap ++ glyph_cache_free cache.glyph ++ brush_cache_free cache.brush ++
    pointer_cache_free cache.pointer

/-- What an order names: the values of the wire. -/
inductive Request
  | bitmap (id index : Nat)
  | glyph (id index : Nat)
  | brush (bpp index : Nat)
  | pointer (index : Nat)

/-- What an object is held under. The depth of a brush only says if it is one of the mono ones. -/
inductive Key
  | bitmap (id index : Nat)
  | glyph (id index : Nat)
  | brush (mono : Bool) (index : Nat)
  | pointer (index : Nat)
  deriving DecidableEq

def Request.key : Request → Key
  | .bitmap id index => .bitmap id index
  | .glyph id index => .glyph id index
  | .brush bpp index => .brush (bpp = 1) index
  | .pointer index => .pointer index

def cache_get (cache : rdpCache α) : Request → Option (Option α)
  | .bitmap id index => bitmap_cache_get cache.bitmap id index
  | .glyph id index => glyph_cache_get cache.glyph id index
  | .brush bpp index => (brush_cache_get cache.brush index bpp).map Prod.fst
  | .pointer index => pointer_cache_get cache.pointer index

def cache_put (cache : rdpCache α) : Request → α → Option (rdpCache α × List α)
  | .bitmap id index, object => do
    let (bitmap, freed) ← update_gdi_cache_bitmap cache.bitmap id index object
    return ({ cache with bitmap := bitmap }, freed)
  | .glyph id index, object => do
    let (glyph, freed) ← glyph_cache_put cache.glyph id index object
    return ({ cache with glyph := glyph }, freed)
  | .brush bpp index, object => do
    let (brush, freed) ← brush_cache_put cache.brush index object bpp
    return ({ cache with brush := brush }, freed)
  | .pointer index, object => do
    let (pointer, freed) ← pointer_cache_put cache.pointer index object
    return ({ cache with pointer := pointer }, freed)

def machine (α : Type) : Machine Request α (rdpCache α) where
  get := cache_get
  put := cache_put
  free := cache_free

end neutrinordp.caches
