-- When the planar codec stays inside its buffers. A plane that is read to its end is a list of
-- rows of segments, and the other way round.
import CorporateClient.BitmapPlanes

open List bytes

namespace neutrinordp.bitmap

/-! ## Segments and rows -/

/-- A code with the bytes behind it. -/
structure Segment where
  code : UInt8
  literals : List UInt8
deriving Repr, DecidableEq

def Segment.encode (seg : Segment) : List UInt8 := seg.code :: seg.literals

def Segment.size (seg : Segment) : Nat := (segment_code seg.code).1 + (segment_code seg.code).2

def Segment.Valid (seg : Segment) : Prop := seg.literals.length = (segment_code seg.code).1

/-- The segments from an index on: each one starts inside the row, and they end at its end or
behind it. -/
def Covers (width : Nat) : Nat → List Segment → Prop
  | i, [] => width ≤ i
  | i, seg :: segs => i < width ∧ seg.Valid ∧ Covers width (i + seg.size) segs

def rowBytes (row : List Segment) : List UInt8 := row.flatMap Segment.encode

def rowSize (row : List Segment) : Nat := (row.map Segment.size).sum

/-- The end of what may be written. -/
def RowPlace.room (a : RowPlace) (s : RowState) : Nat := min a.limit s.temp.length

/-- Bytes were taken and pixels were written, all inside the plane. -/
structure Moves (a : RowPlace) (s s' : RowState) (bytes : List UInt8) (n : Nat) : Prop where
  input : s.input = bytes ++ s'.input
  index : s'.indexw = s.indexw + n
  inside : 0 < n → a.start + s.indexw + n ≤ a.room s
  length : s'.temp.length = s.temp.length

theorem Moves.refl (a : RowPlace) (s : RowState) : Moves a s s [] 0 := ⟨rfl, rfl, nofun, rfl⟩

variable {a : RowPlace} {s s' : RowState} {width height offset base : Nat}
    {temp rest srcData input : Bytes}

theorem Moves.room {b : Bytes} {n : Nat} (h : Moves a s s' b n) : a.room s' = a.room s := by
  rw [RowPlace.room, h.length]
  rfl

theorem Moves.trans {s1 s2 : RowState} {b b' : Bytes} {n n' : Nat} (h : Moves a s s1 b n)
    (h' : Moves a s1 s2 b' n') : Moves a s s2 (b ++ b') (n + n') := by
  have hroom := h.room
  have hin := h.inside
  have hin' := h'.inside
  rw [hroom, h.index] at hin'
  refine ⟨?_, ?_, ?_, h'.length.trans h.length⟩
  · rw [h.input, h'.input, append_assoc]
  · rw [h'.index, h.index, Nat.add_assoc]
  · omega

theorem put_out.spec (h : a.start + s.indexw + 1 ≤ a.room s) :
    ∃ s', put_out a s = .ok s' ∧ Moves a s s' [] 1 := by
  unfold RowPlace.room at h
  unfold put_out
  rw [if_pos (by omega)]
  refine ⟨_, rfl, rfl, rfl, fun _ => ?_, length_set⟩
  unfold RowPlace.room
  omega

theorem put_out.inv (h : put_out a s = .ok s') : Moves a s s' [] 1 := by
  unfold put_out at h
  dsimp only at h
  split at h
  · rename_i hin
    cases h
    refine ⟨rfl, rfl, fun _ => ?_, length_set⟩
    unfold RowPlace.room
    omega
  · cases h

theorem repeat_loop.spec (n : Nat) (s : RowState) (h : 0 < n → a.start + s.indexw + n ≤ a.room s) :
    ∃ s', repeat_loop a n s = .ok s' ∧ Moves a s s' [] n := by
  induction n generalizing s with
  | zero => exact ⟨s, rfl, Moves.refl a s⟩
  | succ n ih =>
    obtain ⟨s1, hput, hmoves⟩ := put_out.spec (a := a) (s := s) (by omega)
    have hroom := hmoves.room
    have hindex := hmoves.index
    obtain ⟨s2, hloop, hmoves'⟩ := ih s1 (by omega)
    refine ⟨s2, ?_, ?_⟩
    · rw [repeat_loop, hput]
      exact hloop
    · rw [Nat.add_comm n 1]
      exact hmoves.trans hmoves'

theorem repeat_loop.inv (n : Nat) (h : repeat_loop a n s = .ok s') : Moves a s s' [] n := by
  induction n generalizing s with
  | zero =>
    cases h
    exact Moves.refl a _
  | succ n ih =>
    obtain ⟨s1, hput, hloop⟩ := bind_eq_ok h
    rw [Nat.add_comm n 1]
    exact (put_out.inv hput).trans (ih hloop)

theorem take_moves {b : UInt8} (c : Int) (h : s.input = b :: rest) :
    Moves a s { s with input := rest, color := c } [b] 0 :=
  ⟨h, rfl, nofun, rfl⟩

theorem literal_loop.spec (literals : Bytes) (s : RowState) (rest : Bytes)
    (hinput : s.input = literals ++ rest)
    (h : 0 < literals.length → a.start + s.indexw + literals.length ≤ a.room s) :
    ∃ s', literal_loop a literals.length s = .ok s' ∧ s'.input = rest ∧
      Moves a s s' literals literals.length := by
  induction literals generalizing s with
  | nil => exact ⟨s, rfl, hinput, Moves.refl a s⟩
  | cons b literals ih =>
    rw [length_cons] at h ⊢
    have htake := take_moves (a := a) (segment_color a.first b) hinput
    obtain ⟨s1, hput, hmoves⟩ := put_out.spec (a := a)
      (s := { s with input := literals ++ rest, color := segment_color a.first b })
      (by have := h (by omega); show a.start + s.indexw + 1 ≤ a.room s; omega)
    have hroom : a.room s1 = a.room s := hmoves.room
    have hindex : s1.indexw = s.indexw + 1 := hmoves.index
    obtain ⟨s2, hloop, hrest, hmoves'⟩ := ih s1 hmoves.input.symm (by omega)
    refine ⟨s2, ?_, hrest, ?_⟩
    · rw [literal_loop, hinput]
      show (put_out a { s with input := literals ++ rest, color := segment_color a.first b }).bind
        (literal_loop a literals.length) = _
      rw [hput]
      exact hloop
    · have hall := (htake.trans hmoves).trans hmoves'
      rw [Nat.zero_add, Nat.add_comm 1] at hall
      exact hall

theorem literal_loop.inv (n : Nat) (h : literal_loop a n s = .ok s') :
    ∃ literals, literals.length = n ∧ Moves a s s' literals n := by
  induction n generalizing s with
  | zero =>
    cases h
    exact ⟨[], rfl, Moves.refl a _⟩
  | succ n ih =>
    obtain ⟨b, hbyte, h⟩ := bind_eq_ok h
    obtain ⟨s1, hput, hloop⟩ := bind_eq_ok h
    obtain ⟨literals, hlen, hmoves⟩ := ih hloop
    have htake := take_moves (a := a) (segment_color a.first b) (src_byte.inv hbyte)
    refine ⟨b :: literals, by rw [length_cons, hlen], ?_⟩
    have hall := (htake.trans (put_out.inv hput)).trans hmoves
    rw [Nat.zero_add, Nat.add_comm 1] at hall
    exact hall

theorem segment.spec {seg : Segment} (hv : seg.Valid) (hinput : s.input = seg.encode ++ rest)
    (h : 0 < seg.size → a.start + s.indexw + seg.size ≤ a.room s) :
    ∃ s', segment a s = .ok s' ∧ s'.input = rest ∧ Moves a s s' seg.encode seg.size := by
  obtain ⟨code, literals⟩ := seg
  unfold Segment.Valid at hv
  unfold Segment.size Segment.encode at *
  dsimp only at *
  have htake := take_moves (a := a) s.color hinput
  obtain ⟨s1, hlit, hrest, hmoves⟩ := literal_loop.spec (a := a) literals
    { s with input := literals ++ rest } rest rfl
    (by show _ → a.start + s.indexw + _ ≤ a.room s; omega)
  have hroom : a.room s1 = a.room s := hmoves.room
  have hindex : s1.indexw = s.indexw + literals.length := hmoves.index
  obtain ⟨s2, hrep, hmoves'⟩ := repeat_loop.spec (a := a) (segment_code code).2 s1 (by omega)
  refine ⟨s2, ?_, ?_, ?_⟩
  · unfold segment
    rw [hinput]
    show (literal_loop a (segment_code code).1 { s with input := literals ++ rest }).bind
      (repeat_loop a (segment_code code).2) = _
    rw [← hv, hlit]
    exact hrep
  · rw [← hrest, hmoves'.input]
    rfl
  · have hall := (htake.trans hmoves).trans hmoves'
    rw [Nat.zero_add, hv, append_nil] at hall
    exact hall

theorem segment.inv (h : segment a s = .ok s') :
    ∃ seg : Segment, seg.Valid ∧ Moves a s s' seg.encode seg.size := by
  obtain ⟨code, hcode, h⟩ := bind_eq_ok h
  obtain ⟨s1, hlit, hrep⟩ := bind_eq_ok h
  obtain ⟨literals, hlen, hmoves⟩ := literal_loop.inv _ hlit
  have htake := take_moves (a := a) s.color (src_byte.inv hcode)
  refine ⟨⟨code, literals⟩, hlen, ?_⟩
  have hall := (htake.trans hmoves).trans (repeat_loop.inv _ hrep)
  rw [Nat.zero_add, append_nil] at hall
  exact hall

theorem row_loop.spec (row : List Segment) (turns : Nat) (s : RowState) (rest : Bytes)
    (hturns : row.length < turns) (hinput : s.input = rowBytes row ++ rest)
    (hcovers : Covers a.width s.indexw row)
    (h : 0 < rowSize row → a.start + s.indexw + rowSize row ≤ a.room s) :
    ∃ s', row_loop a turns s = .ok s' ∧ s'.input = rest ∧
      Moves a s s' (rowBytes row) (rowSize row) := by
  induction row generalizing turns s with
  | nil =>
    obtain ⟨turns, rfl⟩ : ∃ k, turns = k + 1 := ⟨turns - 1, by omega⟩
    rw [row_loop, if_neg (Nat.not_lt.mpr hcovers)]
    exact ⟨s, rfl, hinput, Moves.refl a s⟩
  | cons seg row ih =>
    obtain ⟨turns, rfl⟩ : ∃ k, turns = k + 1 := ⟨turns - 1, by omega⟩
    obtain ⟨hlt, hv, hcovers⟩ := hcovers
    rw [rowBytes, flatMap_cons, append_assoc] at hinput
    rw [rowSize, map_cons, sum_cons] at h
    rw [length_cons] at hturns
    obtain ⟨s1, hseg, hrest, hmoves⟩ := segment.spec (a := a) hv hinput (by omega)
    have hroom := hmoves.room
    have hindex := hmoves.index
    rw [← hindex] at hcovers
    obtain ⟨s2, hloop, hrest', hmoves'⟩ := ih turns s1 (by omega) hrest hcovers
      (by unfold rowSize; omega)
    refine ⟨s2, ?_, hrest', hmoves.trans hmoves'⟩
    rw [row_loop, if_pos hlt, hseg]
    exact hloop

theorem row_loop.inv (turns : Nat) (h : row_loop a turns s = .ok s') :
    ∃ row, Covers a.width s.indexw row ∧ Moves a s s' (rowBytes row) (rowSize row) := by
  induction turns generalizing s with
  | zero => cases h
  | succ turns ih =>
    unfold row_loop at h
    split at h
    · rename_i hlt
      obtain ⟨s1, hseg, hloop⟩ := bind_eq_ok h
      obtain ⟨seg, hv, hmoves⟩ := segment.inv hseg
      obtain ⟨row, hcovers, hmoves'⟩ := ih hloop
      rw [hmoves.index] at hcovers
      exact ⟨seg :: row, ⟨hlt, hv, hcovers⟩, hmoves.trans hmoves'⟩
    · rename_i hge
      cases h
      exact ⟨[], Nat.not_lt.mp hge, Moves.refl a _⟩

/-! ## Planes -/

/-- The rows from a row on stay inside the plane. A row may go over its end into the next. -/
def RowsFit (width height : Nat) : Nat → List (List Segment) → Prop
  | r, [] => r = height
  | r, row :: rows => r < height ∧ Covers width 0 row ∧
    r * width + rowSize row ≤ width * height ∧ RowsFit width height (r + 1) rows

/-- Every row ends where it should. -/
def RowsExact (width height : Nat) (rows : List (List Segment)) : Prop :=
  rows.length = height ∧ ∀ row ∈ rows, Covers width 0 row ∧ rowSize row = width

def planeBytes (rows : List (List Segment)) : List UInt8 := rows.flatMap rowBytes

theorem rowsFit_of_exact (rows : List (List Segment)) (r : Nat) (hlen : r + rows.length = height)
    (h : ∀ row ∈ rows, Covers width 0 row ∧ rowSize row = width) :
    RowsFit width height r rows := by
  induction rows generalizing r with
  | nil => exact hlen
  | cons row rows ih =>
    rw [length_cons] at hlen
    obtain ⟨hcovers, hsize⟩ := h row mem_cons_self
    have hrow : (r + 1) * width ≤ height * width := Nat.mul_le_mul_right width (by omega)
    rw [Nat.succ_mul, Nat.mul_comm height] at hrow
    refine ⟨by omega, hcovers, by omega, ih (r + 1) (by omega) fun row' hrow' => ?_⟩
    exact h row' (mem_cons_of_mem row hrow')

variable {rows : List (List Segment)}

theorem RowsExact.fit (h : RowsExact width height rows) : RowsFit width height 0 rows :=
  rowsFit_of_exact rows 0 (by rw [Nat.zero_add]; exact h.1) h.2

theorem length_le_rowBytes (row : List Segment) : row.length ≤ (rowBytes row).length := by
  unfold rowBytes
  induction row with
  | nil => exact Nat.le_refl 0
  | cons seg row ih =>
    rw [flatMap_cons, length_append, Segment.encode, length_cons, length_cons]
    omega

theorem Covers.le {row : List Segment} {i : Nat} (h : Covers width i row) :
    width ≤ i + rowSize row := by
  induction row generalizing i with
  | nil => exact h
  | cons seg row ih =>
    have hle := ih h.2.2
    rw [rowSize, map_cons, sum_cons, ← rowSize, ← Nat.add_assoc]
    exact hle

theorem rows_loop.spec (base : Nat) (rows : List (List Segment)) (r left : Nat)
    (input temp rest : Bytes) (hleft : r + left = height) (hfit : RowsFit width height r rows)
    (hinput : input = planeBytes rows ++ rest)
    (htemp : 0 < width * height → base + width * height ≤ temp.length) :
    ∃ temp', rows_loop width height base left input temp = .ok (rest, temp') ∧
      temp'.length = temp.length := by
  induction rows generalizing r left input temp with
  | nil =>
    have hend : r = height := hfit
    obtain rfl : left = 0 := by omega
    exact ⟨temp, by rw [rows_loop, hinput]; rfl, rfl⟩
  | cons row rows ih =>
    obtain ⟨hlt, hcovers, hin, hfit⟩ := hfit
    obtain ⟨left, rfl⟩ : ∃ k, left = k + 1 := ⟨left - 1, by omega⟩
    have hr : height - (left + 1) = r := by omega
    rw [planeBytes, flatMap_cons, append_assoc] at hinput
    have hturns : row.length < input.length + 1 := by
      have hle := length_le_rowBytes row
      rw [hinput, length_append]
      omega
    obtain ⟨s, hloop, hrest, hmoves⟩ := row_loop.spec (a := row_place width height base r) row
      (input.length + 1) ⟨input, temp, 0, 0⟩ _ hturns hinput hcovers
      (by
        intro hpos
        show base + r * width + 0 + rowSize row ≤ min (base + width * height) temp.length
        omega)
    obtain ⟨temp', hrows, hlen⟩ := ih (r + 1) left s.input s.temp (by omega) hfit hrest
      (by rw [hmoves.length]; exact htemp)
    refine ⟨temp', ?_, hlen.trans hmoves.length⟩
    rw [rows_loop, hr, hloop]
    exact hrows

theorem rows_loop.inv (r left : Nat) {temp' : Bytes} (hleft : r + left = height)
    (h : rows_loop width height base left input temp = .ok (rest, temp')) :
    ∃ rows, RowsFit width height r rows ∧ input = planeBytes rows ++ rest ∧
      temp'.length = temp.length ∧
      (0 < left → 0 < width → base + width * height ≤ temp.length) := by
  induction left generalizing r input temp with
  | zero =>
    cases h
    exact ⟨[], hleft, rfl, rfl, nofun⟩
  | succ left ih =>
    obtain ⟨s, hloop, hrows⟩ := bind_eq_ok h
    rw [show height - (left + 1) = r by omega] at hloop
    obtain ⟨row, hcovers, hmoves⟩ := row_loop.inv _ hloop
    obtain ⟨rows, hfit, hinput, hlen, htemp⟩ := ih (r + 1) (by omega) hrows
    have hin : 0 < rowSize row →
        base + r * width + 0 + rowSize row ≤ min (base + width * height) temp.length :=
      hmoves.inside
    have hcover : width ≤ 0 + rowSize row := hcovers.le
    have hlength : s.temp.length = temp.length := hmoves.length
    refine ⟨row :: rows, ⟨by omega, hcovers, ?_, hfit⟩, ?_, hlen.trans hlength, ?_⟩
    · by_cases hpos : 0 < rowSize row
      · omega
      · obtain rfl : width = 0 := by omega
        omega
    · rw [planeBytes, flatMap_cons, append_assoc, ← planeBytes, ← hinput]
      exact hmoves.input
    · intro _ hwidth
      rw [hlength] at htemp
      by_cases hlast : 0 < left
      · exact htemp hlast hwidth
      · have hend : width * height = r * width + width := by
          rw [Nat.mul_comm, ← hleft, show r + (left + 1) = r + 1 by omega, Nat.succ_mul]
        omega

theorem process_rle_plane.spec (hfit : RowsFit width height 0 rows)
    (hinput : input = planeBytes rows ++ rest)
    (htemp : 0 < width * height → base + width * height ≤ temp.length) :
    ∃ temp', process_rle_plane input width height base temp =
        .ok ((planeBytes rows).length, temp') ∧ temp'.length = temp.length := by
  obtain ⟨temp', hrows, hlen⟩ := rows_loop.spec base rows 0 height input temp rest
    (Nat.zero_add _) hfit hinput htemp
  refine ⟨temp', ?_, hlen⟩
  unfold process_rle_plane
  rw [hrows]
  show Except.ok (input.length - rest.length, temp') = _
  rw [hinput, length_append, Nat.add_sub_cancel]

theorem process_rle_plane.inv {n : Nat} {temp' : Bytes}
    (h : process_rle_plane input width height base temp = .ok (n, temp')) :
    ∃ rows rest, RowsFit width height 0 rows ∧ input = planeBytes rows ++ rest ∧
      n = (planeBytes rows).length ∧ temp'.length = temp.length ∧
      (0 < width * height → base + width * height ≤ temp.length) := by
  obtain ⟨⟨rest, t⟩, hrows, h⟩ := bind_eq_ok h
  cases h
  obtain ⟨rows, hfit, hinput, hlen, htemp⟩ := rows_loop.inv 0 height (Nat.zero_add _) hrows
  refine ⟨rows, rest, hfit, hinput, ?_, hlen, fun hpos => ?_⟩
  · rw [hinput, length_append, Nat.add_sub_cancel]
  · exact htemp (Nat.pos_of_mul_pos_left hpos) (Nat.pos_of_mul_pos_right hpos)

/-! ## Pixels -/

def Readable (srcData temp : List UInt8) (offset : Nat) (p : PlanePtr) : Prop :=
  ∃ b, read_plane srcData temp p offset = .ok b

theorem readable_temp {p : Nat} (h : p + offset < temp.length) :
    Readable srcData temp offset (.temp p) :=
  ⟨temp.get ⟨p + offset, h⟩, by rw [read_plane, List.getElem?_eq_getElem h]; rfl⟩

theorem readable_source {p : Nat} :
    Readable srcData temp offset (.source p) ↔ p + offset < srcData.length := by
  constructor
  · rintro ⟨b, hb⟩
    by_contra hlt
    rw [read_plane, src_byte, List.getElem?_eq_none (by omega)] at hb
    cases hb
  · intro hlt
    exact ⟨srcData.get ⟨p + offset, hlt⟩,
      by rw [read_plane, src_byte, List.getElem?_eq_getElem hlt]; rfl⟩

theorem plane_pixel.spec {planes : List PlanePtr}
    (h : ∀ p ∈ planes, Readable srcData temp offset p) :
    ∃ v, plane_pixel srcData temp planes offset = .ok v := by
  unfold plane_pixel
  generalize 0 = pixel
  induction planes generalizing pixel with
  | nil => exact ⟨pixel, rfl⟩
  | cons p planes ih =>
    obtain ⟨b, hb⟩ := h p mem_cons_self
    obtain ⟨v, hv⟩ := ih (forall_mem_cons.mp h).2 _
    refine ⟨v, ?_⟩
    rw [foldlM_cons, hb]
    exact hv

theorem plane_pixel.inv {planes : List PlanePtr} {v : Nat}
    (h : plane_pixel srcData temp planes offset = .ok v) :
    ∀ p ∈ planes, Readable srcData temp offset p := by
  unfold plane_pixel at h
  generalize 0 = pixel at h
  induction planes generalizing pixel with
  | nil => exact forall_mem_nil _
  | cons p planes ih =>
    obtain ⟨pixel', hstep, hrest⟩ := bind_eq_ok h
    obtain ⟨b, hb, -⟩ := bind_eq_ok hstep
    exact forall_mem_cons.mpr ⟨⟨b, hb⟩, ih pixel' hrest⟩

section unsplit

variable {srcData temp : Bytes} {planes : List PlanePtr}

theorem unsplit_row.spec (left dst32 offset : Nat) (dst : List Nat)
    (hdst : dst32 + left ≤ dst.length)
    (h : ∀ i, offset ≤ i → i < offset + left → ∀ p ∈ planes, Readable srcData temp i p) :
    ∃ dst', unsplit_row srcData temp planes left dst32 offset dst = .ok dst' ∧
      dst'.length = dst.length := by
  induction left generalizing dst32 offset dst with
  | zero => exact ⟨dst, rfl, rfl⟩
  | succ left ih =>
    obtain ⟨v, hv⟩ := plane_pixel.spec (h offset (Nat.le_refl _) (by omega))
    obtain ⟨dst', hrest, hlen⟩ := ih (dst32 + 1) (offset + 1) (dst.set dst32 v)
      (by rw [length_set]; omega) fun i hi hi' => h i (by omega) (by omega)
    refine ⟨dst', ?_, hlen.trans length_set⟩
    rw [unsplit_row, hv]
    show (put_dst dst dst32 v).bind (unsplit_row srcData temp planes left (dst32 + 1)
      (offset + 1)) = _
    rw [put_dst, if_pos (by omega)]
    exact hrest

theorem unsplit_row.inv (left dst32 offset : Nat) {dst dst' : List Nat}
    (h : unsplit_row srcData temp planes left dst32 offset dst = .ok dst') :
    ∀ i, offset ≤ i → i < offset + left → ∀ p ∈ planes, Readable srcData temp i p := by
  induction left generalizing dst32 offset dst with
  | zero =>
    intro i hi hi'
    omega
  | succ left ih =>
    obtain ⟨v, hv, h⟩ := bind_eq_ok h
    obtain ⟨dst1, -, h⟩ := bind_eq_ok h
    intro i hi hi'
    by_cases hfirst : i = offset
    · rw [hfirst]
      exact plane_pixel.inv hv
    · exact ih _ _ h i (by omega) (by omega)

theorem unsplit_rows.spec {width height : Nat} (left : Nat) (dst : List Nat) (hleft : left ≤ height)
    (hdst : dst.length = width * height)
    (h : ∀ i < width * height, ∀ p ∈ planes, Readable srcData temp i p) :
    ∃ dst', unsplit_rows srcData temp planes width height left dst = .ok dst' := by
  induction left generalizing dst with
  | zero => exact ⟨dst, rfl⟩
  | succ left ih =>
    have hrow : (height - (left + 1) + 1) * width ≤ height * width :=
      Nat.mul_le_mul_right width (by omega)
    rw [Nat.mul_comm height] at hrow
    have hsucc : (height - (left + 1) + 1) * width = (height - (left + 1)) * width + width :=
      Nat.succ_mul _ _
    obtain ⟨dst1, hone, hlen⟩ : ∃ dst1, unsplit_row srcData temp planes width
        (width * height - (height - (left + 1) + 1) * width) ((height - (left + 1)) * width) dst =
          .ok dst1 ∧ dst1.length = dst.length :=
      unsplit_row.spec _ _ _ dst (by omega) fun i _ hi => h i (by omega)
    obtain ⟨dst', hrest⟩ := ih dst1 (by omega) (hlen.trans hdst)
    refine ⟨dst', ?_⟩
    rw [unsplit_rows, hone]
    exact hrest

theorem unsplit_rows.inv {width height : Nat} (left : Nat) {dst dst' : List Nat}
    (hleft : left ≤ height)
    (h : unsplit_rows srcData temp planes width height left dst = .ok dst') :
    ∀ i, (height - left) * width ≤ i → i < width * height →
      ∀ p ∈ planes, Readable srcData temp i p := by
  induction left generalizing dst with
  | zero =>
    intro i hi hi'
    rw [Nat.sub_zero, Nat.mul_comm] at hi
    omega
  | succ left ih =>
    obtain ⟨dst1, hone, hrest⟩ := bind_eq_ok h
    have hrow := unsplit_row.inv _ _ _ hone
    have hsucc : (height - (left + 1) + 1) * width = (height - (left + 1)) * width + width :=
      Nat.succ_mul _ _
    intro i hi hi'
    by_cases hin : i < (height - (left + 1)) * width + width
    · exact hrow i hi hin
    · refine ih (by omega) hrest i ?_ hi'
      rw [show height - left = height - (left + 1) + 1 by omega]
      omega

end unsplit

/-! ## Four planes -/

/-- Planes of segments were taken from the source and put into `temp`. -/
structure Unpacked (src : List UInt8) (n : Nat) (ks : List Nat) (bytes : List UInt8)
    (u u' : Unpack) : Prop where
  source : src.drop u.srcData = bytes ++ src.drop u'.srcData
  total : u'.total_processed = u.total_processed + bytes.length
  length : u'.temp.length = u.temp.length
  planes : u'.planes = u.planes ++ ks.map fun k => .temp (k * n)

theorem Unpacked.refl (src : Bytes) (n : Nat) (u : Unpack) : Unpacked src n [] [] u u :=
  ⟨rfl, rfl, rfl, (append_nil _).symm⟩

variable {u u' : Unpack} {src : Bytes} {width height n k : Nat}

theorem Unpacked.trans {ks : List Nat} {b b' : Bytes} {u1 u2 : Unpack}
    (h : Unpacked src n [k] b u u1) (h' : Unpacked src n ks b' u1 u2) :
    Unpacked src n (k :: ks) (b ++ b') u u2 := by
  refine ⟨?_, ?_, h'.length.trans h.length, ?_⟩
  · rw [h.source, h'.source, append_assoc]
  · rw [h'.total, h.total, length_append, Nat.add_assoc]
  · rw [h'.planes, h.planes, append_assoc]
    rfl

theorem unpack_plane.spec {rest : Bytes}
    (hfit : RowsFit width height 0 rows) (hsrc : src.drop u.srcData = planeBytes rows ++ rest)
    (htemp : 0 < width * height → k * (width * height) + width * height ≤ u.temp.length) :
    ∃ u', unpack_plane src width height true u k = .ok u' ∧ src.drop u'.srcData = rest ∧
      Unpacked src (width * height) [k] (planeBytes rows) u u' := by
  obtain ⟨temp, hplane, hlen⟩ := process_rle_plane.spec hfit hsrc htemp
  have hrest : src.drop (u.srcData + (planeBytes rows).length) = rest := by
    rw [← drop_drop, hsrc, drop_left]
  unfold unpack_plane
  rw [if_pos rfl, hplane]
  exact ⟨_, rfl, hrest, ⟨by rw [hsrc]; exact congrArg _ hrest.symm, rfl, hlen, rfl⟩⟩

theorem unpack_plane.inv (h : unpack_plane src width height true u k = .ok u') :
    ∃ rows, RowsFit width height 0 rows ∧
      Unpacked src (width * height) [k] (planeBytes rows) u u' ∧
      (0 < width * height → k * (width * height) + width * height ≤ u.temp.length) := by
  obtain ⟨⟨n, temp⟩, hplane, h⟩ := bind_eq_ok h
  cases h
  obtain ⟨rows, rest, hfit, hsrc, rfl, hlen, htemp⟩ := process_rle_plane.inv hplane
  have hrest : src.drop (u.srcData + (planeBytes rows).length) = rest := by
    rw [← drop_drop, hsrc, drop_left]
  exact ⟨rows, hfit, ⟨by rw [hsrc]; exact congrArg _ hrest.symm, rfl, hlen, rfl⟩, htemp⟩

theorem rle_planes.spec (src rest : Bytes) (ks : List Nat)
    (planes : List (List (List Segment))) (u : Unpack) (hcount : planes.length = ks.length)
    (hfit : ∀ rows ∈ planes, RowsFit width height 0 rows)
    (hsrc : src.drop u.srcData = planes.flatMap planeBytes ++ rest)
    (htemp : ∀ k ∈ ks, k * (width * height) + width * height ≤ u.temp.length) :
    ∃ u', ks.foldlM (unpack_plane src width height true) u = .ok u' ∧ src.drop u'.srcData = rest ∧
      Unpacked src (width * height) ks (planes.flatMap planeBytes) u u' := by
  induction ks generalizing planes u with
  | nil =>
    obtain rfl := length_eq_zero_iff.mp hcount
    exact ⟨u, rfl, hsrc, Unpacked.refl src _ u⟩
  | cons k ks ih =>
    cases planes with
    | nil => cases hcount
    | cons rows planes =>
      rw [flatMap_cons, append_assoc] at hsrc
      obtain ⟨u1, hone, hrest, hunpacked⟩ := unpack_plane.spec (hfit rows mem_cons_self) hsrc
        fun _ => htemp k mem_cons_self
      obtain ⟨u2, hall, hrest', hunpacked'⟩ := ih planes u1 (Nat.succ.inj hcount)
        (forall_mem_cons.mp hfit).2 hrest
        (fun k' hk' => by rw [hunpacked.length]; exact htemp k' (mem_cons_of_mem k hk'))
      refine ⟨u2, ?_, hrest', hunpacked.trans hunpacked'⟩
      rw [foldlM_cons, hone]
      exact hall

theorem rle_planes.inv (ks : List Nat)
    (h : ks.foldlM (unpack_plane src width height true) u = .ok u') :
    ∃ planes : List (List (List Segment)), planes.length = ks.length ∧
      (∀ rows ∈ planes, RowsFit width height 0 rows) ∧
      Unpacked src (width * height) ks (planes.flatMap planeBytes) u u' ∧
      ∀ k ∈ ks, 0 < width * height → k * (width * height) + width * height ≤ u.temp.length := by
  induction ks generalizing u with
  | nil =>
    cases h
    exact ⟨[], rfl, forall_mem_nil _, Unpacked.refl src _ _,
      forall_mem_nil _⟩
  | cons k ks ih =>
    obtain ⟨u1, hone, hall⟩ := bind_eq_ok h
    obtain ⟨rows, hrows, hunpacked, hk⟩ := unpack_plane.inv hone
    obtain ⟨planes, hcount, hfit, hunpacked', hks⟩ := ih hall
    refine ⟨rows :: planes, by rw [length_cons, hcount, length_cons], ?_,
      hunpacked.trans hunpacked', ?_⟩
    · exact forall_mem_cons.mpr ⟨hrows, hfit⟩
    · intro k' hk'
      rcases mem_cons.mp hk' with rfl | hk'
      · exact hk
      · rw [← hunpacked.length]
        exact hks k' hk'

/-- The planes that stand in the source. -/
def planeCount (code : UInt8) : Nat := if code &&& 0x20 = 0 then 4 else 3

/-- The planes of a source in segments: every row exact and nothing left over. -/
def ExactPlanes (width height count : Nat) (data : List UInt8) : Prop :=
  ∃ planes : List (List (List Segment)), planes.length = count ∧
    (∀ rows ∈ planes, RowsExact width height rows) ∧
    data = planes.flatMap planeBytes

/-- The planes can be read, and there are bytes behind them. -/
def PlanesAndMore (width height count : Nat) (data : List UInt8) : Prop :=
  ∃ (planes : List (List (List Segment))) (rest : List UInt8), planes.length = count ∧
    (∀ rows ∈ planes, RowsFit width height 0 rows) ∧ rest ≠ [] ∧ data =
      planes.flatMap planeBytes ++ rest

/-- A source of the planar codec. Behind raw planes there is one more byte. -/
def WellFormed32 (width height : Nat) (srcData : List UInt8) : Prop :=
  ∃ code data, srcData = code :: data ∧
    if code &&& 0x10 ≠ 0 then ExactPlanes width height (planeCount code) data
    else data.length = planeCount code * (width * height) + 1

/-- A source that the planar codec can be given. -/
def Safe32 (width height room : Nat) (srcData : List UInt8) : Prop :=
  ∃ code data, srcData = code :: data ∧
    if code &&& 0x10 ≠ 0 then 4 * (width * height) ≤ room ∧
      (ExactPlanes width height (planeCount code) data ∨
        PlanesAndMore width height (planeCount code) data)
    else planeCount code * (width * height) ≤ data.length ∧
      (code &&& 0x20 ≠ 0 → width * height ≤ room)

theorem fill_plane.inv (h : fill_plane n u = .ok u') :
    n ≤ u.temp.length ∧ u'.srcData = u.srcData ∧ u'.total_processed = u.total_processed ∧
      u'.temp.length = u.temp.length ∧ u'.planes = u.planes ++ [.temp 0] := by
  unfold fill_plane at h
  split at h
  · rename_i hroom
    cases h
    refine ⟨hroom, rfl, rfl, ?_, rfl⟩
    rw [length_append, length_replicate, length_drop]
    omega
  · cases h

theorem fill_plane.spec (h : n ≤ u.temp.length) : ∃ u', fill_plane n u = .ok u' := ⟨_, if_pos h⟩

section segments

variable {width height : Nat} {code : UInt8} {data temp : Bytes} {u : Unpack}

theorem unpack_planes_alpha {rle : Bool} (hrle : decide (code &&& 0x10 ≠ 0) = rle)
    (halpha : code &&& 0x20 = 0) :
    unpack_planes (code :: data) width height code temp =
      [0, 1, 2, 3].foldlM (unpack_plane (code :: data) width height rle) ⟨1, 1, temp, []⟩ := by
  unfold unpack_planes
  rw [if_pos halpha, hrle]
  rfl

theorem unpack_planes_no_alpha {rle : Bool} (hrle : decide (code &&& 0x10 ≠ 0) = rle)
    (halpha : code &&& 0x20 ≠ 0) :
    unpack_planes (code :: data) width height code temp =
      (fill_plane (width * height) ⟨1, 1, temp, []⟩).bind
        ([1, 2, 3].foldlM (unpack_plane (code :: data) width height rle)) := by
  unfold unpack_planes
  rw [if_neg halpha, hrle]
  rfl

/-- What is known of planes that were unpacked into `temp`. -/
structure InTemp (n : Nat) (temp bytes : List UInt8) (u : Unpack) : Prop where
  total : u.total_processed = 1 + bytes.length
  length : u.temp.length = temp.length
  planes : ∀ p ∈ u.planes, ∃ k < 4, p = .temp (k * n)

theorem Unpacked.inTemp {src bytes : Bytes} {n : Nat} {ks : List Nat} {u0 : Unpack}
    (h : Unpacked src n ks bytes u0 u) (htotal : u0.total_processed = 1)
    (hlength : u0.temp.length = temp.length) (hks : ∀ k ∈ ks, k < 4)
    (hplanes : ∀ p ∈ u0.planes, ∃ k < 4, p = .temp (k * n)) : InTemp n temp bytes u := by
  refine ⟨by rw [h.total, htotal], h.length.trans hlength, ?_⟩
  intro p hp
  rw [h.planes] at hp
  rcases mem_append.mp hp with hp | hp
  · exact hplanes p hp
  · obtain ⟨k, hk, rfl⟩ := mem_map.mp hp
    exact ⟨k, hks k hk, rfl⟩

theorem temp_zero (n : Nat) : ∀ p ∈ [PlanePtr.temp 0], ∃ k < 4, p = .temp (k * n) := by
  intro p hp
  rw [mem_singleton.mp hp]
  exact ⟨0, by decide, by rw [Nat.zero_mul]⟩

theorem small_index {ks : List Nat} {n room : Nat} (hks : ∀ k ∈ ks, k < 4) (hroom : 4 * n ≤ room) :
    ∀ k ∈ ks, k * n + n ≤ room := by
  intro k hk
  have hle := Nat.mul_le_mul_right n (Nat.succ_le_of_lt (hks k hk))
  rw [Nat.succ_mul] at hle
  omega

theorem unpack_planes.spec {rest : Bytes} {planes : List (List (List Segment))}
    (hrle : code &&& 0x10 ≠ 0) (hcount : planes.length = planeCount code)
    (hfit : ∀ rows ∈ planes, RowsFit width height 0 rows)
    (hdata : data = planes.flatMap planeBytes ++ rest)
    (hroom : 4 * (width * height) ≤ temp.length) :
    ∃ u, unpack_planes (code :: data) width height code temp = .ok u ∧
      InTemp (width * height) temp (planes.flatMap planeBytes) u := by
  unfold planeCount at hcount
  by_cases halpha : code &&& 0x20 = 0
  · rw [if_pos halpha] at hcount
    have hks : ∀ k ∈ [0, 1, 2, 3], k < 4 := by decide
    obtain ⟨u, hall, -, hunpacked⟩ := rle_planes.spec (code :: data) rest [0, 1, 2, 3] planes
      ⟨1, 1, temp, []⟩ hcount hfit hdata (small_index hks hroom)
    exact ⟨u, by rw [unpack_planes_alpha (decide_eq_true hrle) halpha, hall],
      hunpacked.inTemp rfl rfl hks (forall_mem_nil _)⟩
  · rw [if_neg halpha] at hcount
    have hks : ∀ k ∈ [1, 2, 3], k < 4 := by decide
    obtain ⟨u0, hfill⟩ := fill_plane.spec (n := width * height) (u := ⟨1, 1, temp, []⟩)
      (show width * height ≤ temp.length by omega)
    obtain ⟨-, hsrc, htotal, hlen, hplanes⟩ := fill_plane.inv hfill
    obtain ⟨u, hall, -, hunpacked⟩ := rle_planes.spec (code :: data) rest [1, 2, 3] planes u0
      hcount hfit (by rw [hsrc]; exact hdata) (by rw [hlen]; exact small_index hks hroom)
    refine ⟨u, by rw [unpack_planes_no_alpha (decide_eq_true hrle) halpha, hfill]; exact hall,
      hunpacked.inTemp htotal hlen hks ?_⟩
    rw [hplanes]
    exact temp_zero _

theorem unpack_planes.inv (hrle : code &&& 0x10 ≠ 0)
    (h : unpack_planes (code :: data) width height code temp = .ok u) :
    ∃ (planes : List (List (List Segment))) (rest : Bytes),
      planes.length = planeCount code ∧ (∀ rows ∈ planes, RowsFit width height 0 rows) ∧
      data = planes.flatMap planeBytes ++ rest ∧ 4 * (width * height) ≤ temp.length ∧
      InTemp (width * height) temp (planes.flatMap planeBytes) u := by
  unfold planeCount
  by_cases halpha : code &&& 0x20 = 0
  · rw [unpack_planes_alpha (decide_eq_true hrle) halpha] at h
    obtain ⟨planes, hcount, hfit, hunpacked, htemp⟩ := rle_planes.inv _ h
    have hthree := htemp 3 (by decide)
    rw [if_pos halpha]
    refine ⟨planes, _, hcount, hfit, hunpacked.source, ?_,
      hunpacked.inTemp rfl rfl (by decide) (forall_mem_nil _)⟩
    dsimp only at hthree
    omega
  · rw [unpack_planes_no_alpha (decide_eq_true hrle) halpha] at h
    obtain ⟨u0, hfill, h⟩ := bind_eq_ok h
    obtain ⟨-, hsrc, htotal, hlen, hplanes⟩ := fill_plane.inv hfill
    obtain ⟨planes, hcount, hfit, hunpacked, htemp⟩ := rle_planes.inv _ h
    have hthree := htemp 3 (by decide)
    have hsource := hunpacked.source
    rw [hsrc] at hsource
    rw [hlen] at hthree
    rw [if_neg halpha]
    refine ⟨planes, _, hcount, hfit, hsource, ?_, hunpacked.inTemp htotal hlen (by decide) ?_⟩
    · dsimp only at hthree
      omega
    · rw [hplanes]
      exact temp_zero _

theorem InTemp.readable {n i : Nat} {bytes srcData : Bytes} (h : InTemp n temp bytes u)
    (hroom : 4 * n ≤ temp.length) (hi : i < n) :
    ∀ p ∈ u.planes, Readable srcData u.temp i p := by
  intro p hp
  obtain ⟨k, hk, rfl⟩ := h.planes p hp
  apply readable_temp
  have hle := Nat.mul_le_mul_right n (Nat.succ_le_of_lt hk)
  rw [Nat.succ_mul] at hle
  rw [h.length]
  omega

theorem raw_planes (src : Bytes) (width height : Nat) (ks : List Nat) (u : Unpack) :
    ks.foldlM (unpack_plane src width height false) u = .ok
      { srcData := u.srcData + ks.length * (width * height)
        total_processed := u.total_processed + ks.length * (width * height)
        temp := u.temp
        planes := u.planes ++ (range ks.length).map fun k =>
          .source (u.srcData + k * (width * height)) } := by
  induction ks generalizing u with
  | nil =>
    rw [length_nil, Nat.zero_mul, range_zero, map_nil, append_nil]
    rfl
  | cons k ks ih =>
    refine (ih _).trans ?_
    rw [length_cons, range_succ_eq_map, map_cons, map_map, Nat.zero_mul]
    simp [Nat.succ_mul, Nat.add_assoc, Nat.add_comm, Function.comp_def]

/-- What is known of planes that are read from the source. -/
structure InSource (n count : Nat) (srcData : List UInt8) (u : Unpack) : Prop where
  total : u.total_processed = 1 + count * n
  readable : ∀ i < n, (∀ p ∈ u.planes, Readable srcData u.temp i p) ↔
    ∀ k < count, 1 + k * n + i < srcData.length

theorem raw_inSource {src : Bytes} {ks : List Nat} {u0 : Unpack} {front : List PlanePtr}
    (h : ks.foldlM (unpack_plane src width height false) u0 = .ok u) (hsrc : u0.srcData = 1)
    (htotal : u0.total_processed = 1) (hfront : u0.planes = front)
    (hread : ∀ i < width * height, ∀ p ∈ front, Readable src u0.temp i p) :
    InSource (width * height) ks.length src u := by
  rw [raw_planes, hsrc, htotal, hfront] at h
  cases h
  refine ⟨rfl, fun i hi => ?_⟩
  constructor
  · intro hall k hk
    exact readable_source.mp (hall _ (mem_append_right _
      (mem_map.mpr ⟨k, mem_range.mpr hk, rfl⟩)))
  · intro hall p hp
    rcases mem_append.mp hp with hp | hp
    · exact hread i hi p hp
    · obtain ⟨k, hk, rfl⟩ := mem_map.mp hp
      exact readable_source.mpr (hall k (mem_range.mp hk))

theorem unpack_raw.inv (hraw : ¬ code &&& 0x10 ≠ 0)
    (h : unpack_planes (code :: data) width height code temp = .ok u) :
    (code &&& 0x20 ≠ 0 → width * height ≤ temp.length) ∧
      InSource (width * height) (planeCount code) (code :: data) u := by
  unfold planeCount
  by_cases halpha : code &&& 0x20 = 0
  · rw [unpack_planes_alpha (decide_eq_false hraw) halpha] at h
    rw [if_pos halpha]
    exact ⟨fun hno => absurd halpha hno,
      raw_inSource h rfl rfl rfl fun _ _ => forall_mem_nil _⟩
  · rw [unpack_planes_no_alpha (decide_eq_false hraw) halpha] at h
    obtain ⟨u0, hfill, h⟩ := bind_eq_ok h
    obtain ⟨hroom, hsrc, htotal, hlen, hplanes⟩ := fill_plane.inv hfill
    rw [if_neg halpha]
    refine ⟨fun _ => hroom, raw_inSource h hsrc htotal hplanes fun i hi p hp => ?_⟩
    rw [nil_append, mem_singleton] at hp
    rw [hp]
    exact readable_temp (by rw [hlen]; show 0 + i < temp.length; dsimp only at hroom; omega)

theorem unpack_raw.spec (hraw : ¬ code &&& 0x10 ≠ 0)
    (hroom : code &&& 0x20 ≠ 0 → width * height ≤ temp.length) :
    ∃ u, unpack_planes (code :: data) width height code temp = .ok u := by
  by_cases halpha : code &&& 0x20 = 0
  · rw [unpack_planes_alpha (decide_eq_false hraw) halpha, raw_planes]
    exact ⟨_, rfl⟩
  · obtain ⟨u0, hfill⟩ := fill_plane.spec (u := ⟨1, 1, temp, []⟩) (hroom halpha)
    rw [unpack_planes_no_alpha (decide_eq_false hraw) halpha, hfill]
    exact ⟨_, raw_planes _ _ _ _ _⟩

theorem InSource.all_iff {n count : Nat} {srcData : Bytes} (hcount : 1 ≤ count)
    (hsrc : 1 ≤ srcData.length) (h : InSource n count srcData u) :
    (∀ i < n, ∀ p ∈ u.planes, Readable srcData u.temp i p) ↔ 1 + count * n ≤ srcData.length := by
  constructor
  · intro hall
    by_cases hn : n = 0
    · rw [hn, Nat.mul_zero]
      exact hsrc
    · have hlast := (h.readable (n - 1) (by omega)).mp (hall (n - 1) (by omega))
        (count - 1) (by omega)
      have hmul : count * n = (count - 1) * n + n := by
        rw [← Nat.succ_mul, Nat.succ_eq_add_one, Nat.sub_add_cancel hcount]
      omega
  · intro hlen i hi
    refine (h.readable i hi).mpr fun k hk => ?_
    have hle := Nat.mul_le_mul_right n (Nat.succ_le_of_lt hk)
    rw [Nat.succ_mul] at hle
    omega

end segments

theorem planeCount_pos (code : UInt8) : 1 ≤ planeCount code := by
  unfold planeCount
  split <;> decide

variable {width height : Nat} {temp : Bytes} {dstData : List Nat}

theorem bitmap_decompress4.spec {code : UInt8} {data : Bytes} {u : Unpack}
    (hdst : dstData.length = width * height)
    (hunpack : unpack_planes (code :: data) width height code temp = .ok u)
    (hread : ∀ i < width * height, ∀ p ∈ u.planes, Readable (code :: data) u.temp i p) :
    ∃ dst, bitmap_decompress4 (code :: data) dstData width height temp =
      .ok (decide ((code :: data).length =
        if code &&& 0x10 ≠ 0 then u.total_processed else u.total_processed + 1), dst) := by
  obtain ⟨dst, hall⟩ := unsplit_rows.spec height dstData (Nat.le_refl _) hdst hread
  refine ⟨dst, ?_⟩
  unfold bitmap_decompress4 unsplit4
  show (unpack_planes (code :: data) width height code temp).bind _ = _
  rw [hunpack]
  show (unsplit_rows _ _ _ _ _ _ _).bind _ = _
  rw [hall]
  rfl

theorem bitmap_decompress4.inv {srcData : Bytes} {dst : List Nat} {ok : Bool}
    (h : bitmap_decompress4 srcData dstData width height temp = .ok (ok, dst)) :
    ∃ code data u, srcData = code :: data ∧
      unpack_planes (code :: data) width height code temp = .ok u ∧
      (∀ i < width * height, ∀ p ∈ u.planes, Readable (code :: data) u.temp i p) ∧
      ok = decide ((code :: data).length =
        if code &&& 0x10 ≠ 0 then u.total_processed else u.total_processed + 1) := by
  obtain ⟨code, hcode, h⟩ := bind_eq_ok h
  obtain ⟨u, hunpack, h⟩ := bind_eq_ok h
  obtain ⟨d, hall, h⟩ := bind_eq_ok h
  cases h
  have hsrc := src_byte.inv hcode
  rw [hsrc] at hunpack hall
  refine ⟨code, srcData.drop 1, u, hsrc, hunpack, fun i hi => ?_, by rw [← hsrc]⟩
  have hrows := unsplit_rows.inv height (Nat.le_refl _) hall i
  rw [Nat.sub_self, Nat.zero_mul] at hrows
  exact hrows (Nat.zero_le _) hi

theorem bitmap_decompress4_iff {srcData : Bytes} (hdst : dstData.length = width * height) :
    (∃ ok dst, bitmap_decompress4 srcData dstData width height temp = .ok (ok, dst) ∧
      (¬ WellFormed32 width height srcData → ok = false)) ↔
      Safe32 width height temp.length srcData := by
  constructor
  · rintro ⟨ok, dst, hrun, hreport⟩
    obtain ⟨code, data, u, rfl, hunpack, hread, hok⟩ := bitmap_decompress4.inv hrun
    refine ⟨code, data, rfl, ?_⟩
    by_cases hrle : code &&& 0x10 ≠ 0
    · obtain ⟨planes, rest, hcount, hfit, hdata, hroom, hin⟩ := unpack_planes.inv hrle hunpack
      rw [if_pos hrle, hin.total, length_cons, hdata, length_append] at hok
      rw [if_pos hrle]
      refine ⟨hroom, ?_⟩
      cases rest with
      | cons b rest => exact .inr ⟨planes, b :: rest, hcount, hfit, cons_ne_nil _ _, hdata⟩
      | nil =>
        have htrue : ok = true := by
          rw [hok, length_nil]
          exact decide_eq_true (by omega)
        obtain ⟨code', data', heq, hwell⟩ := by_contra fun hno =>
          Bool.false_ne_true ((hreport hno).symm.trans htrue)
        cases heq
        rw [if_pos hrle] at hwell
        exact .inl hwell
    · obtain ⟨hroom, hin⟩ := unpack_raw.inv hrle hunpack
      have hlen := (hin.all_iff (planeCount_pos code) (by rw [length_cons]; omega)).mp hread
      rw [if_neg hrle]
      rw [length_cons] at hlen
      exact ⟨by omega, hroom⟩
  · rintro ⟨code, data, rfl, hsafe⟩
    by_cases hrle : code &&& 0x10 ≠ 0
    · rw [if_pos hrle] at hsafe
      obtain ⟨hroom, hplanes⟩ := hsafe
      have hsplit : ∃ (planes : List (List (List Segment))) (rest : Bytes),
          planes.length = planeCount code ∧ (∀ rows ∈ planes, RowsFit width height 0 rows) ∧
          data = planes.flatMap planeBytes ++ rest ∧
          (rest = [] → ExactPlanes width height (planeCount code) data) := by
        rcases hplanes with hexact | ⟨planes, rest, hcount, hfit, hne, hdata⟩
        · obtain ⟨planes, hcount, hrows, hdata⟩ := hexact
          exact ⟨planes, [], hcount, fun rows hr => (hrows rows hr).fit,
            by rw [hdata, append_nil], fun _ => ⟨planes, hcount, hrows, hdata⟩⟩
        · exact ⟨planes, rest, hcount, hfit, hdata, fun hnil => absurd hnil hne⟩
      obtain ⟨planes, rest, hcount, hfit, hdata, hexact⟩ := hsplit
      obtain ⟨u, hunpack, hin⟩ := unpack_planes.spec hrle hcount hfit hdata hroom
      obtain ⟨dst, hrun⟩ := bitmap_decompress4.spec hdst hunpack fun i hi => hin.readable hroom hi
      refine ⟨_, dst, hrun, fun hbad => ?_⟩
      rw [if_pos hrle, hin.total, length_cons, hdata, length_append]
      apply decide_eq_false
      intro hlen
      have hnil : rest = [] := length_eq_zero_iff.mp (by omega)
      exact hbad ⟨code, data, rfl, by rw [if_pos hrle]; exact hexact hnil⟩
    · rw [if_neg hrle] at hsafe
      obtain ⟨u, hunpack⟩ : ∃ u, unpack_planes (code :: data) width height code temp = .ok u :=
        unpack_raw.spec hrle hsafe.2
      obtain ⟨-, hin⟩ := unpack_raw.inv hrle hunpack
      have hread := (hin.all_iff (planeCount_pos code) (by rw [length_cons]; omega)).mpr
        (by rw [length_cons]; omega)
      obtain ⟨dst, hrun⟩ := bitmap_decompress4.spec hdst hunpack hread
      refine ⟨_, dst, hrun, fun hbad => ?_⟩
      rw [if_neg hrle, hin.total, length_cons]
      apply decide_eq_false
      intro hlen
      exact hbad ⟨code, data, rfl, by rw [if_neg hrle]; omega⟩

end neutrinordp.bitmap
