-- The updates that a server sends (update.c): bitmaps, palettes, pointers and sounds.
-- The drawing orders have their own reader, which is a parameter here.
import CorporateClient.Stream

namespace neutrinordp.update

open bytes stream

/-! ## The records -/

/-- `bitmapDataStream` is the place of the pixels in the stream. -/
structure BITMAP_DATA where
  destLeft : Nat
  destTop : Nat
  destRight : Nat
  destBottom : Nat
  width : Nat
  height : Nat
  bitsPerPixel : Nat
  flags : Nat
  bitmapLength : Nat
  cbCompFirstRowSize : Nat
  cbCompMainBodySize : Nat
  cbScanWidth : Nat
  cbUncompressedSize : Nat
  compressed : Bool
  bitmapDataStream : Nat
deriving Repr, DecidableEq, Inhabited

/-- The array `rectangles` has `count` entries. It grows and never shrinks. -/
structure BITMAP_UPDATE where
  number : Nat
  rectangles : List BITMAP_DATA
deriving Repr, DecidableEq, Inhabited

structure PALETTE_ENTRY where
  red : UInt8
  green : UInt8
  blue : UInt8
deriving Repr, DecidableEq, Inhabited

structure PALETTE_UPDATE where
  number : Nat
  entries : List PALETTE_ENTRY
deriving Repr, DecidableEq, Inhabited

structure PLAY_SOUND_UPDATE where
  duration : Nat
  frequency : Nat
deriving Repr, DecidableEq, Inhabited

structure POINTER_POSITION_UPDATE where
  xPos : Nat
  yPos : Nat
deriving Repr, DecidableEq, Inhabited

structure POINTER_COLOR_UPDATE where
  cacheIndex : Nat
  xPos : Nat
  yPos : Nat
  width : Nat
  height : Nat
  lengthAndMask : Nat
  lengthXorMask : Nat
  xorMaskData : List UInt8
  andMaskData : List UInt8
deriving Repr, DecidableEq, Inhabited

structure POINTER_NEW_UPDATE where
  xorBpp : Nat
  colorPtrAttr : POINTER_COLOR_UPDATE
deriving Repr, DecidableEq, Inhabited

/-- The records of all pointer messages. `system` and `cached` have one number each. -/
structure rdpPointerUpdate where
  pointer_position : POINTER_POSITION_UPDATE
  pointer_system : Nat
  pointer_color : POINTER_COLOR_UPDATE
  pointer_new : POINTER_NEW_UPDATE
  pointer_cached : Nat
deriving Repr, DecidableEq, Inhabited

/-- The state of the updates. `context` is what the callbacks work on. -/
structure rdpUpdate (κ : Type) where
  context : κ
  bitmap_update : BITMAP_UPDATE
  palette_update : PALETTE_UPDATE
  play_sound : PLAY_SOUND_UPDATE
  pointer : rdpPointerUpdate
deriving Repr, DecidableEq

/-- The callbacks of the user interface, and the reader of one drawing order. The
reader is `none` when it runs outside of its buffers. -/
structure UpdateCallbacks (κ : Type) where
  BeginPaint : κ → κ
  EndPaint : κ → κ
  Synchronize : κ → κ
  BitmapUpdate : BITMAP_UPDATE → κ → κ
  Palette : PALETTE_UPDATE → κ → κ
  PlaySound : PLAY_SOUND_UPDATE → κ → κ
  PointerPosition : POINTER_POSITION_UPDATE → κ → κ
  PointerSystem : Nat → κ → κ
  PointerColor : POINTER_COLOR_UPDATE → κ → κ
  PointerNew : POINTER_NEW_UPDATE → κ → κ
  PointerCached : Nat → κ → κ
  update_recv_order : κ → STREAM → Option (κ × STREAM)

def BITMAP_COMPRESSION : Nat := 0x0001
def NO_BITMAP_COMPRESSION_HDR : Nat := 0x0400

def UPDATE_TYPE_ORDERS : Nat := 0x0000
def UPDATE_TYPE_BITMAP : Nat := 0x0001
def UPDATE_TYPE_PALETTE : Nat := 0x0002
def UPDATE_TYPE_SYNCHRONIZE : Nat := 0x0003

def PTR_MSG_TYPE_SYSTEM : Nat := 0x0001
def PTR_MSG_TYPE_POSITION : Nat := 0x0003
def PTR_MSG_TYPE_COLOR : Nat := 0x0006
def PTR_MSG_TYPE_CACHED : Nat := 0x0007
def PTR_MSG_TYPE_POINTER : Nat := 0x0008

/-! ## The readers -/

/-- Moves the stream without a read. -/
def skip (n : Nat) : StateM STREAM Unit := modify fun s => stream_seek s n

/-- Reads over an old record. The four sizes of the compression header stay as they
were when the rectangle has none. -/
def update_read_bitmap_data (bitmap_data : BITMAP_DATA) : StateM STREAM BITMAP_DATA := do
  let destLeft ← stream_read_uint16
  let destTop ← stream_read_uint16
  let destRight ← stream_read_uint16
  let destBottom ← stream_read_uint16
  let width ← stream_read_uint16
  let height ← stream_read_uint16
  let bitsPerPixel ← stream_read_uint16
  let flags ← stream_read_uint16
  let bitmapLength ← stream_read_uint16
  let bitmap_data := { bitmap_data with
    destLeft, destTop, destRight, destBottom, width, height, bitsPerPixel, flags, bitmapLength
    compressed := flags &&& BITMAP_COMPRESSION ≠ 0 }
  let bitmap_data ←
    if flags &&& BITMAP_COMPRESSION ≠ 0 ∧ flags &&& NO_BITMAP_COMPRESSION_HDR = 0 then do
      let cbCompFirstRowSize ← stream_read_uint16
      let cbCompMainBodySize ← stream_read_uint16
      let cbScanWidth ← stream_read_uint16
      let cbUncompressedSize ← stream_read_uint16
      pure { bitmap_data with
        cbCompFirstRowSize, cbCompMainBodySize, cbScanWidth, cbUncompressedSize
        bitmapLength := cbCompMainBodySize }
    else pure bitmap_data
  let bitmapDataStream := (← get).pos
  skip bitmap_data.bitmapLength
  return { bitmap_data with bitmapDataStream }

/-- `none` is a fault. The new size of the array is kept in 16 bits, so it is too small
for 32768 rectangles or more. -/
def update_read_bitmap (bitmap_update : BITMAP_UPDATE) (s : STREAM) :
    Option (BITMAP_UPDATE × STREAM) :=
  let (number, s) := stream_read_uint16 s
  let count := bitmap_update.rectangles.length
  let grown := if number > count then number * 2 % 65536 else count
  if grown < number then none
  else
    let rectangles := bitmap_update.rectangles ++ List.replicate (grown - count) default
    let (read, s) := (rectangles.take number).mapM update_read_bitmap_data s
    some ({ number, rectangles := read ++ rectangles.drop number }, s)

def update_read_palette_entry : StateM STREAM PALETTE_ENTRY := do
  let blue ← stream_read_uint8
  let green ← stream_read_uint8
  let red ← stream_read_uint8
  return { red, green, blue }

def update_read_palette (palette_update : PALETTE_UPDATE) : StateM STREAM PALETTE_UPDATE := do
  skip 2
  let number ← stream_read_uint32
  let number := min number 256
  let read ← (List.replicate number ()).mapM fun _ => update_read_palette_entry
  return { number, entries := read ++ palette_update.entries.drop number }

def update_read_synchronize : StateM STREAM Unit := skip 2

def update_read_play_sound : StateM STREAM PLAY_SOUND_UPDATE := do
  let duration ← stream_read_uint32
  let frequency ← stream_read_uint32
  return { duration, frequency }

def update_read_pointer_position : StateM STREAM POINTER_POSITION_UPDATE := do
  let xPos ← stream_read_uint16
  let yPos ← stream_read_uint16
  return { xPos, yPos }

def update_read_pointer_system : StateM STREAM Nat := stream_read_uint32

def read_mask (length : Nat) (old : List UInt8) : StateM STREAM (List UInt8) :=
  if length > 0 then stream_read length else pure old

def update_read_pointer_color (pointer_color : POINTER_COLOR_UPDATE) :
    StateM STREAM POINTER_COLOR_UPDATE := do
  let cacheIndex ← stream_read_uint16
  let xPos ← stream_read_uint16
  let yPos ← stream_read_uint16
  let width ← stream_read_uint16
  let height ← stream_read_uint16
  let lengthAndMask ← stream_read_uint16
  let lengthXorMask ← stream_read_uint16
  let xorMaskData ← read_mask lengthXorMask pointer_color.xorMaskData
  let andMaskData ← read_mask lengthAndMask pointer_color.andMaskData
  modify fun s => if stream_get_left s > 0 then stream_seek s 1 else s
  return { cacheIndex, width, height, lengthAndMask, lengthXorMask, xorMaskData, andMaskData
           xPos := if xPos ≥ width then 0 else xPos
           yPos := if yPos ≥ height then 0 else yPos }

def update_read_pointer_new (pointer_new : POINTER_NEW_UPDATE) :
    StateM STREAM POINTER_NEW_UPDATE := do
  let xorBpp ← stream_read_uint16
  let colorPtrAttr ← update_read_pointer_color pointer_new.colorPtrAttr
  return { xorBpp, colorPtrAttr }

def update_read_pointer_cached : StateM STREAM Nat := stream_read_uint16

/-! ## Updates with their callbacks -/

section

variable {κ : Type} (h : UpdateCallbacks κ)

/-- Reads `numberOrders` drawing orders. -/
def recv_orders : Nat → κ → STREAM → Option (κ × STREAM)
  | 0, context, s => some (context, s)
  | numberOrders + 1, context, s =>
    (h.update_recv_order context s).bind fun (context, s) => recv_orders numberOrders context s

def update_recv_orders (update : rdpUpdate κ) (s : STREAM) : Option (rdpUpdate κ × STREAM) :=
  let (numberOrders, s) := stream_read_uint16 (stream_seek s 2)
  (recv_orders h numberOrders update.context (stream_seek s 2)).map fun (context, s) =>
    ({ update with context }, s)

def update_recv_bitmap (update : rdpUpdate κ) (s : STREAM) : Option (rdpUpdate κ × STREAM) :=
  (update_read_bitmap update.bitmap_update s).map fun (bitmap_update, s) =>
    ({ update with bitmap_update, context := h.BitmapUpdate bitmap_update update.context }, s)

def update_recv_palette (update : rdpUpdate κ) (s : STREAM) : rdpUpdate κ × STREAM :=
  let (palette_update, s) := update_read_palette update.palette_update s
  ({ update with palette_update, context := h.Palette palette_update update.context }, s)

def update_recv_synchronize (update : rdpUpdate κ) (s : STREAM) : rdpUpdate κ × STREAM :=
  ({ update with context := h.Synchronize update.context }, (update_read_synchronize s).2)

def update_recv_play_sound (update : rdpUpdate κ) (s : STREAM) : rdpUpdate κ :=
  let (play_sound, _) := update_read_play_sound s
  { update with play_sound, context := h.PlaySound play_sound update.context }

def recv_pointer_position (update : rdpUpdate κ) (s : STREAM) : rdpUpdate κ × STREAM :=
  let (pointer_position, s) := update_read_pointer_position s
  ({ update with
     pointer := { update.pointer with pointer_position }
     context := h.PointerPosition pointer_position update.context }, s)

def recv_pointer_system (update : rdpUpdate κ) (s : STREAM) : rdpUpdate κ × STREAM :=
  let (pointer_system, s) := update_read_pointer_system s
  ({ update with
     pointer := { update.pointer with pointer_system }
     context := h.PointerSystem pointer_system update.context }, s)

def recv_pointer_color (update : rdpUpdate κ) (s : STREAM) : rdpUpdate κ × STREAM :=
  let (pointer_color, s) := update_read_pointer_color update.pointer.pointer_color s
  ({ update with
     pointer := { update.pointer with pointer_color }
     context := h.PointerColor pointer_color update.context }, s)

def recv_pointer_new (update : rdpUpdate κ) (s : STREAM) : rdpUpdate κ × STREAM :=
  let (pointer_new, s) := update_read_pointer_new update.pointer.pointer_new s
  ({ update with
     pointer := { update.pointer with pointer_new }
     context := h.PointerNew pointer_new update.context }, s)

def recv_pointer_cached (update : rdpUpdate κ) (s : STREAM) : rdpUpdate κ × STREAM :=
  let (pointer_cached, s) := update_read_pointer_cached s
  ({ update with
     pointer := { update.pointer with pointer_cached }
     context := h.PointerCached pointer_cached update.context }, s)

def update_recv_pointer (update : rdpUpdate κ) (s : STREAM) : rdpUpdate κ × STREAM :=
  let (messageType, s) := stream_read_uint16 s
  let s := stream_seek s 2
  if messageType = PTR_MSG_TYPE_POSITION then recv_pointer_position h update s
  else if messageType = PTR_MSG_TYPE_SYSTEM then recv_pointer_system h update s
  else if messageType = PTR_MSG_TYPE_COLOR then recv_pointer_color h update s
  else if messageType = PTR_MSG_TYPE_POINTER then recv_pointer_new h update s
  else if messageType = PTR_MSG_TYPE_CACHED then recv_pointer_cached h update s
  else (update, s)

/-- The switch of `update_recv` over the update types. -/
def update_by_type (updateType : Nat) (update : rdpUpdate κ) (s : STREAM) :
    Option (rdpUpdate κ × STREAM) :=
  if updateType = UPDATE_TYPE_ORDERS then update_recv_orders h update s
  else if updateType = UPDATE_TYPE_BITMAP then update_recv_bitmap h update s
  else if updateType = UPDATE_TYPE_PALETTE then some (update_recv_palette h update s)
  else if updateType = UPDATE_TYPE_SYNCHRONIZE then some (update_recv_synchronize h update s)
  else some (update, s)

/-- The first part of `update_recv`: one update, between `BeginPaint` and `EndPaint`. -/
def update_body (update : rdpUpdate κ) (s : STREAM) : Option (rdpUpdate κ × STREAM) :=
  let (updateType, s) := stream_read_uint16 s
  (update_by_type h updateType { update with context := h.BeginPaint update.context } s).map
    fun (update, s) => ({ update with context := h.EndPaint update.context }, s)

end

/-! ## The room for the rectangles -/

/-- The array has an entry for every rectangle that is written, and it does not shrink. -/
structure Roomy (old new : BITMAP_UPDATE) : Prop where
  number : new.number ≤ new.rectangles.length
  written : ∀ i < new.number, i < new.rectangles.length
  grows : old.rectangles.length ≤ new.rectangles.length

/-- Bitmap updates, one after another, are read with room for their rectangles. -/
def ReadWithRoom : BITMAP_UPDATE → List STREAM → Prop
  | _, [] => True
  | old, s :: updates => ∃ new s', update_read_bitmap old s = some (new, s') ∧ Roomy old new ∧
      ReadWithRoom new updates

/-- Each number of rectangles fits into the array as the numbers before have made it, or its
double fits into 16 bits. -/
def Holdable : Nat → List Nat → Prop
  | _, [] => True
  | count, number :: numbers => (number ≤ count ∨ number ≤ 32767) ∧
      Holdable (if number > count then number * 2 else count) numbers

theorem length_mapM {σ α β : Type} (f : α → StateM σ β) (l : List α) (s : σ) :
    (l.mapM f s).1.length = l.length := by
  induction l generalizing s with
  | nil => rfl
  | cons a l ih =>
    rw [List.mapM_cons]
    exact congrArg Nat.succ (ih (f a s).2)

theorem update_read_bitmap.spec (old : BITMAP_UPDATE) (s : STREAM) {number count : Nat}
    (hnumber : (stream_read_uint16 s).1 = number) (hcount : old.rectangles.length = count) :
    if number ≤ count ∨ number ≤ 32767 then
      ∃ new s', update_read_bitmap old s = some (new, s') ∧ Roomy old new ∧
        new.rectangles.length = if number > count then number * 2 else count
    else update_read_bitmap old s = none := by
  have hbytes : number < 65536 := hnumber ▸ ofLe16_lt _ _
  have hread : stream_read_uint16 s = (number, stream_seek s 2) := Prod.ext hnumber rfl
  unfold update_read_bitmap
  rw [hread]
  dsimp only
  rw [hcount]
  by_cases hroom : number ≤ count ∨ number ≤ 32767
  · have hgrown : (if number > count then number * 2 % 65536 else count) =
        if number > count then number * 2 else count := by
      split_ifs <;> omega
    rw [if_pos hroom, hgrown]
    generalize hsize : (if number > count then number * 2 else count) = size
    have hfits : number ≤ size ∧ count ≤ size := by
      split_ifs at hsize <;> omega
    rw [if_neg (by omega)]
    generalize hgot : List.mapM update_read_bitmap_data _ _ = got
    have hlength := congrArg (fun r => r.1.length) hgot
    simp only [length_mapM, List.length_take, List.length_append, List.length_replicate, hcount]
      at hlength
    have hall : (got.1 ++ (old.rectangles ++ List.replicate (size - count) default).drop
        number).length = size := by
      simp only [List.length_append, List.length_drop, List.length_replicate, hcount]
      omega
    refine ⟨_, _, rfl, ⟨?_, ?_, ?_⟩, hall⟩
    · rw [hall]
      exact hfits.1
    · intro i hi
      rw [hall]
      exact hi.trans_le hfits.1
    · rw [hall, hcount]
      exact hfits.2
  · rw [if_neg hroom, if_pos]
    split_ifs <;> omega

/-- The array keeps up with the updates exactly as long as no doubled number is cut off. -/
theorem rectangles_have_room_iff (old : BITMAP_UPDATE) (updates : List STREAM) :
    ReadWithRoom old updates ↔
      Holdable old.rectangles.length (updates.map fun s => (stream_read_uint16 s).1) := by
  induction updates generalizing old with
  | nil => exact Iff.rfl
  | cons s updates ih =>
    have hread := update_read_bitmap.spec old s rfl rfl
    simp only [List.map_cons, Holdable]
    by_cases hroom : (stream_read_uint16 s).1 ≤ old.rectangles.length ∨
        (stream_read_uint16 s).1 ≤ 32767
    · rw [if_pos hroom] at hread
      obtain ⟨new, s', hread, hnew, hgrown⟩ := hread
      rw [← hgrown, ← ih new, and_iff_right hroom]
      constructor
      · rintro ⟨new', s'', hread', -, hrest⟩
        obtain ⟨rfl, rfl⟩ := Prod.mk.inj (Option.some.inj (hread.symm.trans hread'))
        exact hrest
      · intro hrest
        exact ⟨new, s', hread, hnew, hrest⟩
    · rw [if_neg hroom] at hread
      constructor
      · rintro ⟨new', s'', hread', -⟩
        rw [hread] at hread'
        cases hread'
      · intro h
        exact absurd h.1 hroom

/-- With 2¹⁵ rectangles the array is resized to no entries. -/
theorem rectangles_of_half_the_numbers_are_outside :
    ¬ ReadWithRoom ⟨0, List.replicate 64 default⟩ [stream_of [0x00, 0x80]] := by
  rintro ⟨new, s', hread, -⟩
  cases hread

end neutrinordp.update
