-- The drawing caches are maps that own their objects, for all requests but those that a put
-- refuses or that name the slot behind the last one.
import CorporateClient.Caches

open List bounded bounded.Machine

namespace neutrinordp.caches

variable {α : Type}

/-! ## Stores -/

variable {index id extra : Nat} {settings : Settings} {numbers : List Nat}

theorem store.spec {β : Type} {entries : List β} (h : index < entries.length) (entry : β) :
    store entries index entry = some (entries.set index entry) :=
  if_pos h

/-- Cells with these numbers, and `extra` more slots in each. -/
structure Cells (extra : Nat) (numbers : List Nat) (cells : List (Cell α)) : Prop where
  numbers : cells.map Cell.number = numbers
  full : ∀ cell ∈ cells, cell.entries.length = cell.number + extra

/-- The slots of the cells. -/
def rows (cells : List (Cell α)) : List (List (Option α)) := cells.map Cell.entries

/-- All objects in the cells. -/
def cellObjects (cells : List (Cell α)) : List α := cells.flatMap fun cell => objects cell.entries

variable {cells : List (Cell α)} {cell : Cell α} {cache : rdpBitmapCache α}
  {h : Nat × Nat → Option α}

theorem Cells.at (h : Cells extra numbers cells) (hid : id < numbers.length) :
    ∃ cell, cells[id]? = some cell ∧ cell.number = numbers.getD id 0 ∧
      cell.entries.length = numbers.getD id 0 + extra := by
  have hlt : id < cells.length := by
    rw [← h.numbers, length_map] at hid
    exact hid
  have hcell : cells[id]? = some cells[id] := List.getElem?_eq_getElem hlt
  have hnumber : cells[id].number = numbers.getD id 0 := by
    rw [← h.numbers, getD_eq_getElem?_getD, List.getElem?_map, hcell]
    rfl
  refine ⟨cells[id], hcell, hnumber, ?_⟩
  rw [h.full _ (getElem_mem hlt), hnumber]

theorem row_of_cell (hcell : cells[id]? = some cell) : (rows cells)[id]? = some cell.entries := by
  rw [rows, List.getElem?_map, hcell]
  rfl

theorem slot_of_cell (hcell : cells[id]? = some cell) (hindex : index < cell.entries.length) :
    cell.entries[index]? = some (slot (rows cells) id index) := by
  have hread : cell.entries[index]? = some cell.entries[index] := List.getElem?_eq_getElem hindex
  rw [slot_eq (row_of_cell hcell) hread, hread]

theorem Cells.freed (h : Cells extra numbers cells) (bound : Nat → Nat)
    (hbound : ∀ number ∈ numbers, bound number = number + extra) :
    ((cells.take numbers.length).flatMap fun cell =>
      objects (cell.entries.take (bound cell.number))) = cellObjects cells := by
  have hall : cells.take numbers.length = cells := by
    rw [← h.numbers, length_map, take_length]
  rw [hall]
  apply flatMap_congr
  intro cell hcell
  have hmem : cell.number ∈ numbers := by
    rw [← h.numbers]
    exact mem_map_of_mem hcell
  rw [hbound _ hmem, ← h.full cell hcell, take_length]

theorem store_in_cell.spec (h : Cells extra numbers cells) {old : Option α}
    (hcell : cells[id]? = some cell) (hold : cell.entries[index]? = some old) (object : α) :
    ∃ cells', store_in_cell cells id cell index object = some cells' ∧
      Cells extra numbers cells' ∧
      rows cells' = (rows cells).set id (cell.entries.set index (some object)) ∧
      (old.toList ++ cellObjects cells').Perm (object :: cellObjects cells) := by
  have hid : id < cells.length := (List.getElem?_eq_some_iff.mp hcell).1
  have hindex : index < cell.entries.length := (List.getElem?_eq_some_iff.mp hold).1
  have hmem : cell ∈ cells := mem_of_getElem? hcell
  let new : Cell α := { cell with entries := cell.entries.set index (some object) }
  refine ⟨cells.set id new, ?_, ⟨?_, ?_⟩, map_set, ?_⟩
  · unfold store_in_cell
    rw [store.spec hindex, Option.bind_eq_bind, Option.bind_some, store.spec hid]
  · obtain ⟨hlt, rfl⟩ := List.getElem?_eq_some_iff.mp hcell
    rw [map_set, ← h.numbers]
    have hsame : new.number = (cells.map Cell.number).get ⟨id, by rwa [length_map]⟩ := by
      rw [get_eq_getElem, getElem_map]
    rw [hsame]
    exact set_getElem_self _
  · intro c hc
    rcases mem_or_eq_of_mem_set hc with hc | rfl
    · exact h.full c hc
    · rw [length_set]
      exact h.full cell hmem
  · have hcells := flatMap_set (fun cell : Cell α => objects cell.entries) cells id cell new hcell
    have hentries : List.Perm (_ ++ _) ([object] ++ _) := objects_set hold object
    exact exchange_nested hentries hcells

theorem cells_new (extra : Nat) (numbers : List Nat) :
    Cells extra numbers (numbers.map fun number =>
      ({ number := number, entries := replicate (number + extra) none } : Cell α)) := by
  constructor
  · rw [map_map]
    exact map_id _
  · intro cell hcell
    obtain ⟨number, -, rfl⟩ := mem_map.mp hcell
    exact length_replicate

theorem rows_new (extra : Nat) (numbers : List Nat) :
    ∀ row ∈ rows (numbers.map fun number =>
      ({ number := number, entries := replicate (number + extra) none } : Cell α)),
      ∀ x ∈ row, x = none := by
  intro row hrow x hx
  rw [rows, map_map] at hrow
  obtain ⟨number, -, rfl⟩ := mem_map.mp hrow
  exact eq_of_mem_replicate hx

theorem cellObjects_new (extra : Nat) (numbers : List Nat) :
    cellObjects (numbers.map fun number =>
      ({ number := number, entries := replicate (number + extra) none } : Cell α)) = [] := by
  apply flatMap_eq_nil_iff.mpr
  intro cell hcell
  apply objects_of_empty
  exact rows_new extra numbers _ (mem_map_of_mem hcell)

/-! ## Each cache as a map -/

/-- The number of bitmaps in a cell. -/
def bitmapNumber (id : Nat) : Nat := bitmapCacheV2CellInfo.getD id 0

/-- The slot of a bitmap. The waiting list has the last one of its cell. -/
def bitmapPlace (key : Nat × Nat) : Option (Nat × Nat) :=
  if key.1 < 5 then
    if key.2 = BITMAP_CACHE_WAITING_LIST_INDEX then some (key.1, bitmapNumber key.1)
    else if key.2 < bitmapNumber key.1 then some key
    else none
  else none

theorem bitmapPlace_apart : Apart bitmapPlace := by
  rintro ⟨id, index⟩ ⟨id', index'⟩ p h h'
  unfold bitmapPlace at h h'
  split_ifs at h h' <;> grind

structure BitmapRep (cache : rdpBitmapCache α) (h : Nat × Nat → Option α) : Prop where
  maxCells : cache.maxCells = 5
  cells : Cells 1 bitmapCacheV2CellInfo cache.cells
  stands : Stands bitmapPlace (rows cache.cells) h

/-- The gets that stay inside the cells and off the slot of the waiting list. -/
def BitmapGet (id index : Nat) : Prop := id ≠ 5 ∧ (id < 5 → index ≠ bitmapNumber id)

/-- The puts that are not refused, and keep off the slot of the waiting list. -/
def BitmapPut (id index : Nat) : Prop :=
  id < 5 ∧ (index < bitmapNumber id ∨ index = BITMAP_CACHE_WAITING_LIST_INDEX)

theorem BitmapPut.get (h : BitmapPut id index) : BitmapGet id index := by
  obtain ⟨hid, hindex⟩ := h
  refine ⟨by omega, fun _ => ?_⟩
  rcases hindex with hindex | rfl
  · omega
  · revert id
    decide

theorem bitmap_cache_get.spec (hrep : BitmapRep cache h) (hget : BitmapGet id index) :
    bitmap_cache_get cache id index = some (h (id, index)) := by
  unfold bitmap_cache_get
  rw [hrep.maxCells, hrep.stands]
  by_cases hid : id < 5
  · obtain ⟨cell, hcell, hnumber, hlength⟩ :=
      hrep.cells.at (show id < bitmapCacheV2CellInfo.length from hid)
    have hnumber : cell.number = bitmapNumber id := hnumber
    have hoff := hget.2 hid
    rw [if_neg (by omega), hcell, bitmapPlace, if_pos hid, Option.bind_eq_bind, Option.bind_some,
      hnumber]
    by_cases hwaiting : index = BITMAP_CACHE_WAITING_LIST_INDEX
    · rw [if_pos hwaiting, if_pos hwaiting, slot_of_cell hcell (by omega)]
      rfl
    rw [if_neg hwaiting, if_neg hwaiting]
    by_cases hindex : index < bitmapNumber id
    · rw [if_neg (by omega), if_pos hindex, slot_of_cell hcell (by omega)]
      rfl
    · rw [if_pos (by omega), if_neg hindex]
      rfl
  · have hout : id > 5 := by
      have := hget.1
      omega
    rw [if_pos hout, bitmapPlace, if_neg hid]
    rfl

theorem BitmapRep.freed
    (hrep : BitmapRep cache h) : bitmap_cache_free cache = cellObjects cache.cells := by
  have hbound : ∀ number ∈ bitmapCacheV2CellInfo, toInt number + 1 = number + 1 := by decide
  unfold bitmap_cache_free
  rw [hrep.maxCells]
  exact hrep.cells.freed (fun number => toInt number + 1) hbound

theorem bitmap_cache_put.spec (hrep : BitmapRep cache h) (hput : BitmapPut id index) (bitmap : α) :
    ∃ cell slot old, cache.cells[id]? = some cell ∧ cell.entries[slot]? = some old ∧
      bitmapPlace (id, index) = some (id, slot) ∧
      bitmap_cache_put cache id index bitmap =
        (store_in_cell cache.cells id cell slot bitmap).map fun cells =>
          { cache with cells := cells } := by
  obtain ⟨hid, hindex⟩ := hput
  obtain ⟨cell, hcell, hnumber, hlength⟩ :=
    hrep.cells.at (show id < bitmapCacheV2CellInfo.length from hid)
  have hnumber : cell.number = bitmapNumber id := hnumber
  unfold bitmap_cache_put bitmapPlace
  simp only [hrep.maxCells, show ¬ id > 5 by omega, hid, hcell, Option.bind_eq_bind,
    Option.bind_some, if_false, if_true]
  by_cases hwaiting : index = BITMAP_CACHE_WAITING_LIST_INDEX
  · refine ⟨cell, cell.number, _, rfl, slot_of_cell hcell (by omega), ?_, ?_⟩
    · rw [if_pos hwaiting, hnumber]
    · rw [if_pos hwaiting]
      exact Option.map_eq_bind.symm
  · have hindex : index < bitmapNumber id := hindex.resolve_right hwaiting
    refine ⟨cell, index, _, rfl, slot_of_cell hcell (by omega), ?_, ?_⟩
    · rw [if_neg hwaiting, if_pos hindex]
    · rw [if_neg hwaiting, if_neg (by omega)]
      exact Option.map_eq_bind.symm

theorem update_gdi_cache_bitmap.spec (hrep : BitmapRep cache h) (hput : BitmapPut id index)
    (bitmap : α) :
    Puts BitmapRep bitmap_cache_free cache h (id, index) bitmap
      (update_gdi_cache_bitmap cache id index bitmap) := by
  obtain ⟨cell, slot, old, hcell, hold, hplace, hresult⟩ := bitmap_cache_put.spec hrep hput bitmap
  obtain ⟨cells', hstore, hcells', hrows', hfree⟩ := store_in_cell.spec hrep.cells hcell hold bitmap
  have hrow := row_of_cell hcell
  have hheld : h (id, index) = old := by
    rw [hrep.stands, hplace, Option.bind_some, slot_eq hrow hold]
  have hrep' : BitmapRep { cache with cells := cells' }
      (Function.update h (id, index) (some bitmap)) := by
    refine ⟨hrep.maxCells, hcells', ?_⟩
    rw [hrows']
    exact hrep.stands.set bitmapPlace_apart hplace hrow (List.getElem?_eq_some_iff.mp hold).1 bitmap
  refine ⟨_, old.toList, ?_, hrep', ?_⟩
  · unfold update_gdi_cache_bitmap
    rw [bitmap_cache_get.spec hrep hput.get, hheld, hresult, hstore]
    rfl
  · rw [hrep'.freed, hrep.freed]
    exact hfree

theorem bitmap_cache_new.spec (α : Type) :
    BitmapRep (bitmap_cache_new : rdpBitmapCache α) (fun _ => none) ∧
      bitmap_cache_free (bitmap_cache_new : rdpBitmapCache α) = [] := by
  have hrep : BitmapRep (bitmap_cache_new : rdpBitmapCache α) (fun _ => none) :=
    ⟨rfl, cells_new 1 _, .empty _ (rows_new 1 _)⟩
  exact ⟨hrep, hrep.freed.trans (cellObjects_new 1 _)⟩

/-! ### Glyphs -/

def glyphPlace (settings : Settings) (key : Nat × Nat) : Option (Nat × Nat) :=
  if key.1 ≤ 9 ∧ key.2 < settings.glyphNumbers.getD key.1 0 then some key else none

theorem glyphPlace_apart (settings : Settings) : Apart (glyphPlace settings) := by
  intro k k' p h h'
  unfold glyphPlace at h h'
  split_ifs at h h'
  exact (Option.some.inj h).trans (Option.some.inj h').symm

structure GlyphRep (settings : Settings) (cache : rdpGlyphCache α) (h : Nat × Nat → Option α) :
    Prop where
  cells : Cells 0 settings.glyphNumbers cache.glyphCache
  stands : Stands (glyphPlace settings) (rows cache.glyphCache) h

def GlyphGet (settings : Settings) (id index : Nat) : Prop :=
  id ≤ 9 → index ≠ settings.glyphNumbers.getD id 0

def GlyphPut (settings : Settings) (id index : Nat) : Prop :=
  id ≤ 9 ∧ index < settings.glyphNumbers.getD id 0

theorem length_glyphNumbers (settings : Settings) : settings.glyphNumbers.length = 10 := length_ofFn

variable {cache : rdpGlyphCache α}

theorem GlyphRep.freed (hrep : GlyphRep settings cache h) :
    glyph_cache_free cache = cellObjects cache.glyphCache := by
  have hbound : ∀ number ∈ settings.glyphNumbers, toInt number = number + 0 := by
    intro number hnumber
    obtain ⟨i, rfl⟩ := mem_ofFn.mp hnumber
    have := (settings.cacheEntries i).toNat_lt
    exact toInt_of_lt (by omega)
  have hfreed := hrep.cells.freed toInt hbound
  rwa [length_glyphNumbers] at hfreed

theorem glyph_cache_get.spec (hrep : GlyphRep settings cache h)
    (hget : GlyphGet settings id index) :
    glyph_cache_get cache id index = some (h (id, index)) := by
  unfold glyph_cache_get
  rw [hrep.stands]
  by_cases hid : id ≤ 9
  · obtain ⟨cell, hcell, hnumber, hlength⟩ :=
      hrep.cells.at (show id < settings.glyphNumbers.length by rw [length_glyphNumbers]; omega)
    have hoff := hget hid
    rw [if_neg (by omega), hcell, Option.bind_eq_bind, Option.bind_some, hnumber, glyphPlace]
    by_cases hindex : index < settings.glyphNumbers.getD id 0
    · rw [if_neg (by omega), if_pos ⟨hid, hindex⟩, slot_of_cell hcell (by omega)]
      rfl
    · rw [if_pos (by omega), if_neg (fun hboth => hindex hboth.2)]
      rfl
  · rw [if_pos (by omega), glyphPlace, if_neg (fun hboth => hid hboth.1)]
    rfl

theorem glyph_cache_put.spec (hrep : GlyphRep settings cache h)
    (hput : GlyphPut settings id index) (glyph : α) :
    Puts (GlyphRep settings) glyph_cache_free cache h (id, index) glyph
      (glyph_cache_put cache id index glyph) := by
  obtain ⟨hid, hindex⟩ := hput
  obtain ⟨cell, hcell, hnumber, hlength⟩ :=
    hrep.cells.at (show id < settings.glyphNumbers.length by rw [length_glyphNumbers]; omega)
  have hold := slot_of_cell hcell (show index < cell.entries.length by omega)
  obtain ⟨cells', hstore, hcells', hrows', hfree⟩ := store_in_cell.spec hrep.cells hcell hold glyph
  have hplace : glyphPlace settings (id, index) = some (id, index) := if_pos ⟨hid, hindex⟩
  have hrep' : GlyphRep settings ⟨cells'⟩ (Function.update h (id, index) (some glyph)) := by
    refine ⟨hcells', ?_⟩
    rw [hrows']
    exact hrep.stands.set (glyphPlace_apart settings) hplace (row_of_cell hcell) (by omega) glyph
  refine ⟨_, (slot (rows cache.glyphCache) id index).toList, ?_, hrep', ?_⟩
  · unfold glyph_cache_put
    rw [if_neg (by omega), hcell, Option.bind_eq_bind, Option.bind_some, if_neg (by omega), hold,
      hstore]
    rfl
  · rw [hrep'.freed, hrep.freed]
    exact hfree

theorem glyph_cache_new.spec (α : Type) (settings : Settings) :
    GlyphRep settings (glyph_cache_new settings : rdpGlyphCache α) (fun _ => none) ∧
      glyph_cache_free (glyph_cache_new settings : rdpGlyphCache α) = [] := by
  have hrep : GlyphRep settings (glyph_cache_new settings : rdpGlyphCache α) (fun _ => none) :=
    ⟨cells_new 0 _, .empty _ (rows_new 0 _)⟩
  exact ⟨hrep, hrep.freed.trans (cellObjects_new 0 _)⟩

/-! ### Brushes -/

/-- The mono brushes are in the second row. -/
def brushRow (mono : Bool) : Nat := if mono then 1 else 0

def brushPlace (key : Bool × Nat) : Option (Nat × Nat) :=
  if key.2 < 64 then some (brushRow key.1, key.2) else none

theorem brushPlace_apart : Apart brushPlace := by
  rintro ⟨mono, index⟩ ⟨mono', index'⟩ p h h'
  unfold brushPlace at h h'
  split_ifs at h h'
  cases h
  cases mono <;> cases mono' <;> simp_all [brushRow]

def brushRows (cache : rdpBrushCache α) : List (List (Option α)) :=
  [cache.entries.map BRUSH_ENTRY.entry, cache.monoEntries.map BRUSH_ENTRY.entry]

structure BrushRep (cache : rdpBrushCache α) (h : Bool × Nat → Option α) : Prop where
  maxEntries : cache.maxEntries = 64
  maxMonoEntries : cache.maxMonoEntries = 64
  entries : cache.entries.length = 64
  monoEntries : cache.monoEntries.length = 64
  stands : Stands brushPlace (brushRows cache) h

/-- The mono brushes have a slot 64 for the gets only. -/
def BrushGet (bpp index : Nat) : Prop := bpp = 1 → index ≠ 64

theorem entry_of_brush {entries : List (BRUSH_ENTRY α)} (h : index < entries.length) :
    entries[index]? = some entries[index] ∧
      (entries.map BRUSH_ENTRY.entry)[index]? = some entries[index].entry := by
  rw [List.getElem?_map, List.getElem?_eq_getElem h]
  exact ⟨rfl, rfl⟩

variable {h : Bool × Nat → Option α}

variable {cache : rdpBrushCache α}

theorem brush_cache_get.spec (hrep : BrushRep cache h) {bpp : Nat} (hget : BrushGet bpp index) :
    (brush_cache_get cache index bpp).map Prod.fst = some (h (bpp = 1, index)) := by
  unfold brush_cache_get
  rw [hrep.maxEntries, hrep.maxMonoEntries, hrep.stands, brushPlace]
  by_cases hindex : index < 64
  · rw [if_pos hindex, Option.bind_some]
    by_cases hmono : bpp = 1
    · obtain ⟨hentry, hrow⟩ := entry_of_brush (hrep.monoEntries.symm ▸ hindex)
      rw [if_pos hmono, if_neg (by omega), hentry, hmono, slot_eq rfl hrow]
      rfl
    · obtain ⟨hentry, hrow⟩ := entry_of_brush (hrep.entries.symm ▸ hindex)
      rw [if_neg hmono, if_neg (by omega), hentry, decide_eq_false hmono, slot_eq rfl hrow]
      rfl
  · rw [if_neg hindex]
    by_cases hmono : bpp = 1
    · have hoff := hget hmono
      rw [if_pos hmono, if_pos (by omega)]
      rfl
    · rw [if_neg hmono, if_pos (by omega)]
      rfl

theorem BrushRep.freed (hrep : BrushRep cache h) :
    brush_cache_free cache = objects (cache.entries.map BRUSH_ENTRY.entry) ++
      objects (cache.monoEntries.map BRUSH_ENTRY.entry) := by
  have h64 : toInt 64 = 64 := toInt_of_lt (by decide)
  unfold brush_cache_free
  rw [hrep.maxEntries, hrep.maxMonoEntries, h64, take_of_length_le hrep.entries.le,
    take_of_length_le hrep.monoEntries.le]

theorem brush_cache_put.spec (hrep : BrushRep cache h) (bpp : Nat) (hput : index < 64) (brush : α) :
    Puts BrushRep brush_cache_free cache h (decide (bpp = 1), index) brush
      (brush_cache_put cache index brush bpp) := by
  unfold brush_cache_put
  have hplace : brushPlace (decide (bpp = 1), index) = some (brushRow (bpp = 1), index) :=
    if_pos hput
  let new : BRUSH_ENTRY α := ⟨bpp, some brush⟩
  by_cases hmono : bpp = 1
  · have hindex : index < cache.monoEntries.length := by rwa [hrep.monoEntries]
    obtain ⟨hentry, hrow⟩ := entry_of_brush hindex
    have hset : brushRows { cache with monoEntries := cache.monoEntries.set index new } =
        (brushRows cache).set (brushRow (bpp = 1))
          ((cache.monoEntries.map BRUSH_ENTRY.entry).set index (some brush)) := by
      rw [hmono]
      simp only [brushRows, map_set]
      rfl
    have hrep' : BrushRep { cache with monoEntries := cache.monoEntries.set index new }
        (Function.update h (decide (bpp = 1), index) (some brush)) := by
      refine ⟨hrep.maxEntries, hrep.maxMonoEntries, hrep.entries, ?_, ?_⟩
      · rw [length_set, hrep.monoEntries]
      · rw [hset]
        apply hrep.stands.set brushPlace_apart hplace
        · rw [hmono]
          rfl
        · rwa [length_map]
    refine ⟨_, cache.monoEntries[index].entry.toList, ?_, hrep', ?_⟩
    · rw [if_pos hmono, hrep.maxMonoEntries, if_neg (by omega), hentry, store.spec hindex,
        ← hrep.maxMonoEntries]
      rfl
    · rw [hrep'.freed, hrep.freed, map_set]
      exact exchange_right (objects_set hrow brush) _
  · have hindex : index < cache.entries.length := by rwa [hrep.entries]
    obtain ⟨hentry, hrow⟩ := entry_of_brush hindex
    have hset : brushRows { cache with entries := cache.entries.set index new } =
        (brushRows cache).set (brushRow (bpp = 1))
          ((cache.entries.map BRUSH_ENTRY.entry).set index (some brush)) := by
      rw [decide_eq_false hmono]
      simp only [brushRows, map_set]
      rfl
    have hrep' : BrushRep { cache with entries := cache.entries.set index new }
        (Function.update h (decide (bpp = 1), index) (some brush)) := by
      refine ⟨hrep.maxEntries, hrep.maxMonoEntries, ?_, hrep.monoEntries, ?_⟩
      · rw [length_set, hrep.entries]
      · rw [hset]
        apply hrep.stands.set brushPlace_apart hplace
        · rw [decide_eq_false hmono]
          rfl
        · rwa [length_map]
    refine ⟨_, cache.entries[index].entry.toList, ?_, hrep', ?_⟩
    · rw [if_neg hmono, hrep.maxEntries, if_neg (by omega), hentry, store.spec hindex,
        ← hrep.maxEntries]
      rfl
    · rw [hrep'.freed, hrep.freed, map_set]
      exact exchange_left (objects_set hrow brush) _

theorem brush_cache_new.spec (α : Type) :
    BrushRep (brush_cache_new : rdpBrushCache α) (fun _ => none) ∧
      brush_cache_free (brush_cache_new : rdpBrushCache α) = [] := by
  have hrows : ∀ row ∈ brushRows (brush_cache_new : rdpBrushCache α), ∀ x ∈ row, x = none := by
    intro row hrow x hx
    simp only [brushRows, brush_cache_new, map_replicate, mem_cons, not_mem_nil,
      or_false, or_self] at hrow
    subst hrow
    exact eq_of_mem_replicate hx
  have hrep : BrushRep (brush_cache_new : rdpBrushCache α) (fun _ => none) :=
    ⟨rfl, rfl, length_replicate, length_replicate, .empty _ hrows⟩
  refine ⟨hrep, ?_⟩
  rw [hrep.freed, objects_of_empty (hrows _ mem_cons_self),
    objects_of_empty (hrows _ (mem_cons_of_mem _ mem_cons_self))]
  rfl

/-! ### Pointers -/

def pointerPlace (settings : Settings) (index : Nat) : Option (Nat × Nat) :=
  if index < settings.pointer_cache_size.toNat then some (0, index) else none

theorem pointerPlace_apart (settings : Settings) : Apart (pointerPlace settings) := by
  intro k k' p h h'
  unfold pointerPlace at h h'
  split_ifs at h h'
  rw [← h] at h'
  simpa using h'.symm

structure PointerRep (settings : Settings) (cache : rdpPointerCache α) (h : Nat → Option α) :
    Prop where
  cacheSize : cache.cacheSize = settings.pointer_cache_size.toNat
  entries : cache.entries.length = settings.pointer_cache_size.toNat
  stands : Stands (pointerPlace settings) [cache.entries] h

section

variable {cache : rdpPointerCache α} {h : Nat → Option α} (hrep : PointerRep settings cache h)

include hrep

theorem pointer_cache_get.spec (index : Nat) : pointer_cache_get cache index = some (h index) := by
  unfold pointer_cache_get
  rw [hrep.cacheSize, hrep.stands, pointerPlace]
  by_cases hindex : index < settings.pointer_cache_size.toNat
  · have hlt : index < cache.entries.length := by rwa [hrep.entries]
    rw [if_neg (by omega), if_pos hindex, Option.bind_some, List.getElem?_eq_getElem hlt,
      slot_eq rfl (List.getElem?_eq_getElem hlt)]
  · rw [if_pos (by omega), if_neg hindex]
    rfl

theorem PointerRep.freed (hsize : settings.pointer_cache_size.toNat < 2 ^ 31) :
    pointer_cache_free cache = objects cache.entries := by
  unfold pointer_cache_free
  rw [hrep.cacheSize, toInt_of_lt hsize, take_of_length_le hrep.entries.le]

theorem pointer_cache_put.spec (hsize : settings.pointer_cache_size.toNat < 2 ^ 31)
    (hput : index < settings.pointer_cache_size.toNat) (pointer : α) :
    Puts (PointerRep settings) pointer_cache_free cache h index pointer
      (pointer_cache_put cache index pointer) := by
  have hlt : index < cache.entries.length := by rwa [hrep.entries]
  have hold := List.getElem?_eq_getElem hlt
  have hrep' : PointerRep settings
      { cache with entries := cache.entries.set index (some pointer) }
      (Function.update h index (some pointer)) := by
    refine ⟨hrep.cacheSize, ?_, ?_⟩
    · rw [length_set, hrep.entries]
    · exact hrep.stands.set (pointerPlace_apart settings) (if_pos hput) rfl hlt pointer
  refine ⟨_, cache.entries[index].toList, ?_, hrep', ?_⟩
  · unfold pointer_cache_put
    rw [hrep.cacheSize, if_neg (by omega), hold, store.spec hlt, ← hrep.cacheSize]
    rfl
  · rw [hrep'.freed hsize, hrep.freed hsize]
    exact objects_set hold pointer

end

theorem pointer_cache_new.spec (α : Type) (settings : Settings) :
    PointerRep settings (pointer_cache_new settings : rdpPointerCache α) (fun _ => none) ∧
      pointer_cache_free (pointer_cache_new settings : rdpPointerCache α) = [] := by
  refine ⟨⟨rfl, length_replicate, .empty _ ?_⟩, ?_⟩
  · intro row hrow x hx
    obtain rfl := mem_singleton.mp hrow
    exact eq_of_mem_replicate hx
  · apply objects_of_empty
    intro x hx
    exact eq_of_mem_replicate (mem_of_mem_take hx)

/-! ## The four together -/

/-- A request for which the cache does what it is for. A put is not refused, and no request names
the slot behind the last one of a cell, of a glyph cache or of the mono brushes. -/
def Proper (settings : Settings) : Op Request α → Prop
  | .get (.bitmap id index) => BitmapGet id index
  | .get (.glyph id index) => GlyphGet settings id index
  | .get (.brush bpp index) => BrushGet bpp index
  | .get (.pointer _) => True
  | .put (.bitmap id index) _ => BitmapPut id index
  | .put (.glyph id index) _ => GlyphPut settings id index
  | .put (.brush _ index) _ => index < 64
  | .put (.pointer index) _ => index < settings.pointer_cache_size.toNat

structure CacheRep (settings : Settings) (cache : rdpCache α) (h : Key → Option α) : Prop where
  bitmap : BitmapRep cache.bitmap fun k => h (.bitmap k.1 k.2)
  glyph : GlyphRep settings cache.glyph fun k => h (.glyph k.1 k.2)
  brush : BrushRep cache.brush fun k => h (.brush k.1 k.2)
  pointer : PointerRep settings cache.pointer fun k => h (.pointer k)

theorem kept_apart {κ κ' : Type} [DecidableEq κ'] {f : κ → κ'} {k : κ'}
    {Rep : (κ → Option α) → Prop} {h : κ' → Option α} {x : Option α} (hrep : Rep fun j => h (f j))
    (hf : ∀ j, f j ≠ k := by simp [Request.key]) : Rep fun j => Function.update h k x (f j) := by
  rwa [funext fun j => Function.update_of_ne (hf j) x h]

theorem bitmap_injective : Function.Injective fun k : Nat × Nat => Key.bitmap k.1 k.2 := by
  rintro ⟨a, b⟩ ⟨c, d⟩ h
  cases h
  rfl

theorem glyph_injective : Function.Injective fun k : Nat × Nat => Key.glyph k.1 k.2 := by
  rintro ⟨a, b⟩ ⟨c, d⟩ h
  cases h
  rfl

theorem brush_injective : Function.Injective fun k : Bool × Nat => Key.brush k.1 k.2 := by
  rintro ⟨a, b⟩ ⟨c, d⟩ h
  cases h
  rfl

theorem pointer_injective : Function.Injective Key.pointer := by
  intro a b h
  cases h
  rfl

theorem cache_put.spec (hsize : settings.pointer_cache_size.toNat < 2 ^ 31) {cache : rdpCache α}
    {h : Key → Option α} (hrep : CacheRep settings cache h) {request : Request} {object : α}
    (hput : Proper settings (.put request object)) :
    Puts (CacheRep settings) cache_free cache h request.key object
      (cache_put cache request object) := by
  cases request with
  | bitmap id index =>
    obtain ⟨bitmap, freed, hresult, hrep', hfree⟩ :=
      update_gdi_cache_bitmap.spec hrep.bitmap hput object
    rw [← Function.update_comp_eq_of_injective' _ bitmap_injective] at hrep'
    refine ⟨{ cache with bitmap := bitmap }, freed, ?_, ⟨hrep', ?_, ?_, ?_⟩, ?_⟩
    · simp only [cache_put, hresult, Option.bind_eq_bind, Option.bind_some]
      rfl
    · exact kept_apart hrep.glyph
    · exact kept_apart hrep.brush
    · exact kept_apart hrep.pointer
    · exact exchange_left (exchange_left (exchange_left hfree _) _) _
  | glyph id index =>
    obtain ⟨glyph, freed, hresult, hrep', hfree⟩ := glyph_cache_put.spec hrep.glyph hput object
    rw [← Function.update_comp_eq_of_injective' _ glyph_injective] at hrep'
    refine ⟨{ cache with glyph := glyph }, freed, ?_, ⟨?_, hrep', ?_, ?_⟩, ?_⟩
    · simp only [cache_put, hresult, Option.bind_eq_bind, Option.bind_some]
      rfl
    · exact kept_apart hrep.bitmap
    · exact kept_apart hrep.brush
    · exact kept_apart hrep.pointer
    · exact exchange_left (exchange_left (exchange_right hfree _) _) _
  | brush bpp index =>
    obtain ⟨brush, freed, hresult, hrep', hfree⟩ := brush_cache_put.spec hrep.brush bpp hput object
    rw [← Function.update_comp_eq_of_injective' _ brush_injective] at hrep'
    refine ⟨{ cache with brush := brush }, freed, ?_, ⟨?_, ?_, hrep', ?_⟩, ?_⟩
    · simp only [cache_put, hresult, Option.bind_eq_bind, Option.bind_some]
      rfl
    · exact kept_apart hrep.bitmap
    · exact kept_apart hrep.glyph
    · exact kept_apart hrep.pointer
    · exact exchange_left (exchange_right hfree _) _
  | pointer index =>
    obtain ⟨pointer, freed, hresult, hrep', hfree⟩ :=
      pointer_cache_put.spec hrep.pointer hsize hput object
    rw [← Function.update_comp_eq_of_injective' _ pointer_injective] at hrep'
    refine ⟨{ cache with pointer := pointer }, freed, ?_, ⟨?_, ?_, ?_, hrep'⟩, ?_⟩
    · simp only [cache_put, hresult, Option.bind_eq_bind, Option.bind_some]
      rfl
    · exact kept_apart hrep.bitmap
    · exact kept_apart hrep.glyph
    · exact kept_apart hrep.brush
    · exact exchange_right hfree _

theorem machine_lawful (hsize : settings.pointer_cache_size.toNat < 2 ^ 31) :
    (machine α).Lawful Request.key (Proper settings) (CacheRep settings) where
  get := by
    intro cache h request hrep hget
    cases request with
    | bitmap id index => exact bitmap_cache_get.spec hrep.bitmap hget
    | glyph id index => exact glyph_cache_get.spec hrep.glyph hget
    | brush bpp index => exact brush_cache_get.spec hrep.brush hget
    | pointer index => exact pointer_cache_get.spec hrep.pointer index
  put := fun _ _ _ _ hrep hput => cache_put.spec hsize hrep hput

/-- The caches with the settings behave as maps that own their objects, for these requests: no
access is outside the slots, each get returns what was put last under its key, and the objects
that were put are those that were freed, before or with the caches. -/
def BoundedMaps (settings : Settings) (ops : List (Op Request α)) : Prop :=
  ∃ cache freed, (machine α).run (cache_new settings) ops =
      some (cache, answers Request.key (fun _ => none) ops, freed) ∧
    (freed ++ cache_free cache).Perm (puts ops)

theorem cache_new.spec (α : Type) (settings : Settings) :
    CacheRep settings (cache_new settings : rdpCache α) (fun _ => none) ∧
      cache_free (cache_new settings : rdpCache α) = [] := by
  have hbitmap := bitmap_cache_new.spec α
  have hglyph := glyph_cache_new.spec α settings
  have hbrush := brush_cache_new.spec α
  have hpointer := pointer_cache_new.spec α settings
  refine ⟨⟨hbitmap.1, hglyph.1, hbrush.1, hpointer.1⟩, ?_⟩
  simp [cache_free, cache_new, hbitmap.2, hglyph.2, hbrush.2, hpointer.2]

theorem caches_are_maps_for_proper_requests (settings : Settings)
    (hsize : settings.pointer_cache_size.toNat < 2 ^ 31) (ops : List (Op Request α))
    (hops : ∀ op ∈ ops, Proper settings op) : BoundedMaps settings ops := by
  obtain ⟨hrep, hempty⟩ := cache_new.spec α settings
  obtain ⟨cache, freed, hrun, -, hfree⟩ := (machine_lawful hsize).run ops _ _ hrep hops
  refine ⟨cache, freed, hrun, ?_⟩
  have hall : (freed ++ cache_free cache).Perm
      (puts ops ++ cache_free (cache_new settings : rdpCache α)) := hfree
  rwa [hempty, append_nil] at hall

/-- Small caches. -/
def small : Settings where
  cacheEntries := fun _ => 2
  pointer_cache_size := 3

/-- Two bitmaps under the index of the waiting list, and a pointer. -/
theorem caches_are_maps_for_three_puts :
    BoundedMaps small [.put (.bitmap 0 0x7FFF) 1, .put (.bitmap 0 0x7FFF) 2,
      .get (.bitmap 0 0x7FFF), .put (.pointer 2) 3, .get (.pointer 7)] := by
  apply caches_are_maps_for_proper_requests small (by decide)
  simp only [forall_mem_cons]
  refine ⟨⟨by decide, .inr rfl⟩, ⟨by decide, .inr rfl⟩, ⟨by decide, by decide⟩, ?_, trivial, ?_⟩
  · exact (by decide : 2 < 3)
  · exact forall_mem_nil _

theorem not_maps_of_outside {ops : List (Op Request α)}
    (h : (machine α).run (cache_new settings) ops = none) : ¬ BoundedMaps settings ops := by
  rintro ⟨cache, freed, hrun, -⟩
  rw [h] at hrun
  cases hrun

/-- Cell 5 is not there, a bitmap of the waiting list is found under index 600, glyph 2 of 2 is
stored outside, mono brush 64 of 64 is read outside, and a pointer that is refused is not freed. -/
theorem caches_are_not_maps :
    ¬ BoundedMaps small ([.get (.bitmap 5 0)] : List (Op Request Nat)) ∧
      ¬ BoundedMaps small [.put (.bitmap 0 0x7FFF) 1, .get (.bitmap 0 600)] ∧
      ¬ BoundedMaps small [.put (.glyph 0 2) 1] ∧
      ¬ BoundedMaps small ([.get (.brush 1 64)] : List (Op Request Nat)) ∧
      ¬ BoundedMaps small [.put (.pointer 3) 1] := by
  refine ⟨not_maps_of_outside rfl, ?_, not_maps_of_outside rfl, not_maps_of_outside rfl, ?_⟩
  · rintro ⟨cache, freed, hrun, -⟩
    have hfound : ((machine Nat).run (cache_new small)
        [.put (.bitmap 0 0x7FFF) 1, .get (.bitmap 0 600)]).map (·.2.1) = some [some 1] := by
      decide +kernel
    rw [hrun] at hfound
    cases hfound
  · rintro ⟨cache, freed, hrun, hfree⟩
    cases hrun
    rw [(cache_new.spec Nat small).2] at hfree
    cases nil_perm.mp hfree

end neutrinordp.caches
