-- What the fields of a primary order are, type by type, and that the readers follow it: a
-- field with its flag gets the value on the wire, and a field without it is kept.
import CorporateClient.Lib.Fields
import CorporateClient.Orders

namespace neutrinordp.orders

open bytes fields stream

/-! ## What a value on the wire says -/

/-- A delta is a signed byte behind the old value. A full coordinate is a signed number of
two bytes. -/
def coordOnWire (delta : Bool) (old : Int32) (s : STREAM) : Int32 × STREAM :=
  if delta then (old + Int32.ofInt (Int8.ofNat (byte_at s s.pos).toNat).toInt, stream_seek s 1)
  else
    (Int32.ofInt (Int16.ofNat (ofLe16 (byte_at s s.pos) (byte_at s (s.pos + 1)))).toInt,
      stream_seek s 2)

def byteOnWire (s : STREAM) : Nat × STREAM := ((byte_at s s.pos).toNat, stream_seek s 1)

def uint16OnWire (s : STREAM) : Nat × STREAM :=
  (ofLe16 (byte_at s s.pos) (byte_at s (s.pos + 1)), stream_seek s 2)

def uint32OnWire (s : STREAM) : Nat × STREAM :=
  (ofLe32 (byte_at s s.pos) (byte_at s (s.pos + 1)) (byte_at s (s.pos + 2))
    (byte_at s (s.pos + 3)), stream_seek s 4)

def sint16OnWire (s : STREAM) : Int32 × STREAM := coordOnWire false 0 s

def colorOnWire (s : STREAM) : Nat × STREAM :=
  ((byte_at s s.pos).toNat + 256 * (byte_at s (s.pos + 1)).toNat +
    65536 * (byte_at s (s.pos + 2)).toNat, stream_seek s 3)

/-- Two bytes that are not used. -/
def skipOnWire (s : STREAM) : Unit × STREAM := ((), stream_seek s 2)

def charIncOnWire (s : STREAM) : (Nat × Nat) × STREAM :=
  (((byte_at s s.pos).toNat, (byte_at s (s.pos + 1)).toNat), stream_seek s 2)

/-- The rows 7 to 1 of a pattern. -/
def rowsOnWire (s : STREAM) : List UInt8 × STREAM :=
  ((bytes_at s s.pos 7).reverse, stream_seek s 7)

/-- The bytes behind a size, and the size. -/
def blockOnWire (size : STREAM → Nat × STREAM) (s : STREAM) : (Nat × List UInt8) × STREAM :=
  let (n, s) := size s
  ((n, bytes_at s s.pos n), stream_seek s n)

/-- A block of bytes, with the glyph in it when it has more than one byte. -/
def glyphOnWire (s : STREAM) : (Nat × List UInt8 × Option GLYPH_DATA_V2) × STREAM :=
  let ((n, data), rest) := blockOnWire byteOnWire s
  let glyph := (read_glyph (data.getD 0 0).toNat (stream_seek s 2)).1
  ((n, data, if n > 1 then some glyph else none), rest)

section

variable {R : Type}

def coordField (delta : Bool) (n : Nat) (get : R → Int32) : Field STREAM R :=
  .value n get (coordOnWire delta)

def plainField {α : Type} (onWire : STREAM → α × STREAM) (n : Nat) (get : R → α) : Field STREAM R :=
  .value n get fun _ => onWire

def byteField (n : Nat) (get : R → Nat) : Field STREAM R := plainField byteOnWire n get

def colorField (n : Nat) (get : R → Nat) : Field STREAM R := plainField colorOnWire n get

/-- The five fields of a brush, behind the `shift` first fields of its order. -/
def brushFields (shift : Nat) (get : R → rdpBrush) : List (Field STREAM R) :=
  [byteField (shift + 1) fun r => (get r).x,
   byteField (shift + 2) fun r => (get r).y,
   byteField (shift + 3) fun r => (get r).style,
   byteField (shift + 4) fun r => (get r).hatch,
   plainField rowsOnWire (shift + 5) fun r => (get r).data.drop 1]

/-- The byte of a colour at a bit. -/
def colorByte (bit color : Nat) : Nat := color / 2 ^ bit % 2 ^ 8

/-- The three fields of a colour that is sent by its bytes. -/
def colorByteFields (get : R → Nat) : List (Field STREAM R) :=
  [byteField 5 fun r => colorByte 0 (get r),
   byteField 6 fun r => colorByte 8 (get r),
   byteField 7 fun r => colorByte 16 (get r)]

/-- A list of rectangles. Its length is the number that the record holds by then. -/
def rectsField (n : Nat) (number : R → Nat) (get : R → Nat × List DELTA_RECT) :
    Field STREAM R where
  flag := n
  keeps old new := get new = get old
  carries old new s s' := ∃ rest,
    uint16OnWire s = ((get new).1, rest) ∧
      update_read_delta_rects (get old).2 (number new) rest = some ((get new).2, s')

/-- A list of points. -/
def pointsField (n : Nat) (number : R → Nat) (get : R → Nat × List DELTA_POINT) :
    Field STREAM R where
  flag := n
  keeps old new := get new = get old
  carries _ new s s' := ∃ rest,
    byteOnWire s = ((get new).1, rest) ∧
      update_read_delta_points (number new) rest = ((get new).2, s')

end

/-! ## The readers of single fields -/

theorem bind_eq_some {α β : Type} {x : Reader α} {f : α → Reader β} {s : STREAM}
    {r : β × STREAM} :
    (x >>= f) s = some r ↔ ∃ p, x s = some p ∧ f p.1 p.2 = some r :=
  Option.bind_eq_some_iff

theorem pure_eq_some {α : Type} {a b : α} {s s' : STREAM} :
    (pure a : Reader α) s = some (b, s') ↔ a = b ∧ s = s' := by
  show some (a, s) = some (b, s') ↔ _
  rw [Option.some.injEq, Prod.mk.injEq]

variable (s : STREAM)

theorem read_byte_eq : read_byte s = byteOnWire s := rfl

theorem stream_read_uint16_eq : stream_read_uint16 s = uint16OnWire s := rfl

theorem stream_read_uint32_eq : stream_read_uint32 s = uint32OnWire s := rfl

theorem update_read_coord_eq (old : Int32) (delta : Bool) (s : STREAM) :
    update_read_coord old delta s = coordOnWire delta old s := by
  cases delta <;> rfl

theorem stream_read_sint16_eq : stream_read_sint16 s = sint16OnWire s := rfl

theorem update_read_color_eq : update_read_color s = colorOnWire s := by
  have hred := (byte_at s s.pos).toNat_lt
  have hgreen := (byte_at s (s.pos + 1)).toNat_lt
  show ((byte_at s s.pos).toNat ||| (byte_at s (s.pos + 1)).toNat <<< 8 |||
    (byte_at s (s.pos + 2)).toNat <<< 16, stream_seek s 3) = _
  rw [Nat.lor_comm (byte_at s s.pos).toNat, ← Nat.shiftLeft_add_eq_or_of_lt hred,
    Nat.lor_comm, ← Nat.shiftLeft_add_eq_or_of_lt (by rw [Nat.shiftLeft_eq]; omega)]
  unfold colorOnWire
  simp only [Nat.shiftLeft_eq, Prod.mk.injEq, and_true]
  omega

theorem read_skip_eq :
    (modify fun s => stream_seek s 2 : StateM STREAM Unit) s = skipOnWire s := rfl

theorem read_char_inc_eq : read_char_inc s = charIncOnWire s := rfl

theorem read_data_eq : read_data s = blockOnWire byteOnWire s := rfl

section

variable {R α : Type} {old new : R} {info : ORDER_INFO} {n : Nat} {s s1 : STREAM}

variable {fieldFlags shift c c1 : Nat}

/-- An order takes a record from `old` to `new`. -/
abbrev ORDER_INFO.Decodes (info : ORDER_INFO) (old new : R) (fs : Bool → List (Field STREAM R))
    (s s' : STREAM) : Prop :=
  fields.Decodes (flagged info.fieldFlags) old new (fs info.deltaCoordinates) s s'

/-- Each record that `read` gives is what the fields say. -/
def ORDER_INFO.Reads (info : ORDER_INFO) (read : ORDER_INFO → R → Reader R)
    (fs : Bool → List (Field STREAM R)) : Prop :=
  ∀ ⦃old new s s'⦄, read info old s = some (new, s') → info.Decodes old new fs s s'

theorem field_eq_some {a b : α} {read : Reader α} :
    field fieldFlags n a read s = some (b, s1) ↔
      if flagged fieldFlags n then read s = some (b, s1) else b = a ∧ s1 = s := by
  unfold field
  split
  · rfl
  · rw [pure_eq_some, eq_comm, @eq_comm _ s]

theorem field_step {f : Field STREAM R} {present : Nat → Bool} {a b : α} {read : Reader α}
    (hflag : flagged fieldFlags n = present f.flag)
    (hcarries : read s = some (b, s1) → f.carries old new s s1) (hkeeps : b = a → f.keeps old new)
    (h : field fieldFlags n a read s = some (b, s1)) :
    f.Step present old new s s1 := by
  rw [field_eq_some, hflag] at h
  split at h
  · rename_i hset
    exact .of_carried hset (hcarries h)
  · rename_i hclear
    obtain ⟨hkeep, rfl⟩ := h
    exact .of_kept hclear (hkeeps hkeep)

theorem value_step {m : Nat} {present : Nat → Bool} {get : R → α} {read : StateM STREAM α}
    {carried : α → STREAM → α × STREAM} (hflag : flagged fieldFlags n = present m)
    (hread : read s = carried (get old) s)
    (h : field fieldFlags n (get old) (Reader.of read) s = some (get new, s1)) :
    (Field.value m get carried).Step present old new s s1 := by
  refine field_step hflag ?_ ?_ h
  · intro hsome
    exact hread.symm.trans (Option.some.inj hsome)
  · intro hkeep
    exact hkeep

variable {fs : List (Field STREAM R)} {s' : STREAM}

theorem coord_step {get : R → Int32} (h : info.coord n (get old) s = some (get new, s1))
    (hrest : Decodes (flagged info.fieldFlags) old new fs s1 s') :
    Decodes (flagged info.fieldFlags) old new (coordField info.deltaCoordinates n get :: fs) s s' :=
  .cons (value_step rfl (update_read_coord_eq _ _ _) h) hrest

theorem plain_step {get : R → α} {read : StateM STREAM α} {onWire : STREAM → α × STREAM}
    (hread : ∀ s, read s = onWire s) (h : info.read n read (get old) s = some (get new, s1))
    (hrest : Decodes (flagged info.fieldFlags) old new fs s1 s') :
    Decodes (flagged info.fieldFlags) old new (plainField onWire n get :: fs) s s' :=
  .cons (value_step rfl (hread s) h) hrest

theorem byte_step {get : R → Nat} (h : info.read n read_byte (get old) s = some (get new, s1))
    (hrest : Decodes (flagged info.fieldFlags) old new fs s1 s') :
    Decodes (flagged info.fieldFlags) old new (byteField n get :: fs) s s' :=
  plain_step read_byte_eq h hrest

theorem color_step {get : R → Nat}
    (h : info.read n update_read_color (get old) s = some (get new, s1))
    (hrest : Decodes (flagged info.fieldFlags) old new fs s1 s') :
    Decodes (flagged info.fieldFlags) old new (colorField n get :: fs) s s' :=
  plain_step update_read_color_eq h hrest

theorem rects_step {number : R → Nat} {get : R → Nat × List DELTA_RECT}
    (h : info.rects n (number new) (get old) s = some (get new, s1)) :
    (rectsField n number get).Step (flagged info.fieldFlags) old new s s1 := by
  refine field_step rfl ?_ id h
  intro hread
  obtain ⟨⟨cbData, rest⟩, hsize, hread⟩ := bind_eq_some.mp hread
  obtain ⟨⟨rectangles, s2⟩, hrects, hread⟩ := bind_eq_some.mp hread
  obtain ⟨hnew, rfl⟩ := pure_eq_some.mp hread
  refine ⟨rest, ?_, ?_⟩
  · rw [← hnew]
    exact Option.some.inj hsize
  · rw [← hnew]
    exact hrects

theorem points_step {number : R → Nat} {get : R → Nat × List DELTA_POINT}
    (h : info.read n (read_points (number new)) (get old) s = some (get new, s1)) :
    (pointsField n number get).Step (flagged info.fieldFlags) old new s s1 := by
  refine field_step rfl ?_ id h
  intro hread
  have hpair := Option.some.inj hread
  have hsize := congrArg (fun p => p.1.1) hpair
  have hpoints := congrArg (fun p => (p.1.2, p.2)) hpair
  exact ⟨stream_seek s 1, congrArg (·, stream_seek s 1) hsize, hpoints⟩

theorem deltas_step (size : R → Nat) (deltas : R → Bytes) {read : StateM STREAM Nat}
    {onWire : STREAM → Nat × STREAM} {cbData : Nat} (hread : ∀ s, read s = onWire s)
    (h : info.read n (read_code_deltas read) (size old) s = some (cbData, s1)) :
    ∃ list, ∀ want, size want = cbData → deltas want = list →
      (plainField (blockOnWire onWire) n fun r => (size r, deltas r)).Step
        (flagged info.fieldFlags) old want s s1 := by
  unfold ORDER_INFO.read at h
  rw [field_eq_some] at h
  split at h
  · rename_i hflag
    have hpair : ((read s).1, stream_seek (read s).2 (read s).1) = (cbData, s1) := Option.some.inj h
    rw [hread] at hpair
    cases hpair
    refine ⟨(blockOnWire onWire s).1.2, ?_⟩
    intro want hsize hlist
    apply Field.Step.of_carried hflag
    show blockOnWire onWire s = ((size want, deltas want), _)
    rw [hsize, hlist]
    rfl
  · rename_i hflag
    obtain ⟨rfl, rfl⟩ := h
    refine ⟨deltas old, ?_⟩
    intro want hsize hlist
    exact .of_kept hflag (Prod.ext hsize hlist)

theorem read_glyph_data_eq (old : Option GLYPH_DATA_V2) (s : STREAM) :
    read_glyph_data old s =
      (((glyphOnWire s).1.1, (glyphOnWire s).1.2.1,
        if old = none then (glyphOnWire s).1.2.2 else old), (glyphOnWire s).2) := by
  cases old with
  | none =>
    show ((_, _, if _ ∧ none = none then _ else none), _) = _
    simp only [and_true, if_true]
    rfl
  | some g =>
    show ((_, _, if _ ∧ some g = none then _ else some g), _) = _
    simp only [reduceCtorEq, and_false, if_false]
    rfl

/-! ## Colours in bytes -/

theorem colorByte_or (bit color mask byte shift : Nat) :
    colorByte bit ((color &&& mask) ||| (byte <<< shift)) =
      (colorByte bit color &&& colorByte bit mask) ||| colorByte bit (byte <<< shift) := by
  unfold colorByte
  rw [Nat.or_div_two_pow, Nat.or_mod_two_pow, Nat.and_div_two_pow, Nat.and_mod_two_pow]

theorem colorByte_and (bit color : Nat) : colorByte bit color &&& 255 = colorByte bit color := by
  rw [show 255 = 2 ^ 8 - 1 from rfl, Nat.and_two_pow_sub_one_eq_mod]
  exact Nat.mod_mod _ _

theorem colorByte_shift (bit shift : Nat) (byte : UInt8)
    (hfar : bit + 8 ≤ shift ∨ shift + 8 ≤ bit) : colorByte bit (byte.toNat <<< shift) = 0 := by
  apply Nat.eq_of_testBit_eq
  intro i
  have hbyte := byte.toNat_lt
  unfold colorByte
  rw [Nat.testBit_mod_two_pow, Nat.testBit_div_two_pow, Nat.testBit_shiftLeft, Nat.zero_testBit]
  by_cases hi : i < 8
  · rcases hfar with hlow | hhigh
    · rw [decide_eq_false (by omega : ¬ i + bit ≥ shift), Bool.false_and, Bool.and_false]
    · have hpow : byte.toNat < 2 ^ (i + bit - shift) :=
        hbyte.trans_le (Nat.pow_le_pow_right (by omega) (by omega))
      rw [Nat.testBit_lt_two_pow hpow, Bool.and_false, Bool.and_false]
  · rw [decide_eq_false hi, Bool.false_and]

theorem color_byte_other (bit : Nat) {mask color : Nat} (hmask : colorByte bit mask = 255)
    (hfar : bit + 8 ≤ shift ∨ shift + 8 ≤ bit)
    (h : info.color_byte n mask shift color s = some (c, s1)) :
    colorByte bit c = colorByte bit color := by
  unfold ORDER_INFO.color_byte at h
  rw [field_eq_some] at h
  split at h
  · obtain ⟨⟨byte, s2⟩, -, h⟩ := bind_eq_some.mp h
    obtain ⟨rfl, -⟩ := pure_eq_some.mp h
    rw [colorByte_or, hmask, colorByte_and, colorByte_shift bit shift byte hfar, Nat.or_zero]
  · rw [h.1]

theorem color_byte_own {mask : Nat} {color : R → Nat} (hmask : colorByte shift mask = 0)
    (h : info.color_byte n mask shift c s = some (c1, s1))
    (hold : colorByte shift c = colorByte shift (color old))
    (hnew : colorByte shift (color new) = colorByte shift c1) :
    (byteField n fun r => colorByte shift (color r)).Step (flagged info.fieldFlags) old new s
      s1 := by
  refine field_step rfl ?_ ?_ h
  · intro hread
    obtain ⟨⟨byte, s2⟩, hbyte, hread⟩ := bind_eq_some.mp hread
    obtain ⟨rfl, rfl⟩ := pure_eq_some.mp hread
    obtain ⟨rfl, rfl⟩ := Prod.mk.inj (Option.some.inj hbyte)
    show ((byte_at s s.pos).toNat, stream_seek s 1) = (colorByte shift (color new), _)
    rw [hnew, colorByte_or, hmask, Nat.and_zero, Nat.zero_or, colorByte, Nat.shiftLeft_eq,
      Nat.mul_div_cancel _ (Nat.two_pow_pos shift), Nat.mod_eq_of_lt (byte_at s s.pos).toNat_lt]
  · intro hkeep
    show colorByte shift (color new) = colorByte shift (color old)
    rw [hnew, hkeep, hold]

theorem color_top {c2 c3 : Nat} {s2 s3 : STREAM}
    (h5 : info.color_byte 5 0xFFFFFF00 0 c s = some (c1, s1))
    (h6 : info.color_byte 6 0xFFFF00FF 8 c1 s1 = some (c2, s2))
    (h7 : info.color_byte 7 0xFF00FFFF 16 c2 s2 = some (c3, s3)) :
    colorByte 24 c3 = colorByte 24 c := by
  rw [color_byte_other 24 (by decide) (by omega) h7, color_byte_other 24 (by decide) (by omega) h6,
    color_byte_other 24 (by decide) (by omega) h5]

theorem color_steps {color : R → Nat} {c2 : Nat} {s2 s3 : STREAM}
    (h5 : info.color_byte 5 0xFFFFFF00 0 (color old) s = some (c1, s1))
    (h6 : info.color_byte 6 0xFFFF00FF 8 c1 s1 = some (c2, s2))
    (h7 : info.color_byte 7 0xFF00FFFF 16 c2 s2 = some (color new, s3)) :
    Decodes (flagged info.fieldFlags) old new (colorByteFields color) s s3 := by
  have low6 := color_byte_other 0 (by decide) (by omega) h6
  have low7 := color_byte_other 0 (by decide) (by omega) h7
  have mid5 := color_byte_other 8 (by decide) (by omega) h5
  have mid7 := color_byte_other 8 (by decide) (by omega) h7
  have high5 := color_byte_other 16 (by decide) (by omega) h5
  have high6 := color_byte_other 16 (by decide) (by omega) h6
  exact .cons (color_byte_own (by decide) h5 rfl (low7.trans low6))
    (.cons (color_byte_own (by decide) h6 mid5 mid7)
    (.cons (color_byte_own (by decide) h7 (high6.trans high5) rfl) .nil))

/-! ## Brushes -/

theorem flagged_shift (fieldFlags shift n : Nat) (h1 : 1 ≤ n) (h8 : n ≤ 8) :
    flagged ((fieldFlags >>> shift) % 256) n = flagged fieldFlags (shift + n) := by
  unfold flagged
  rw [show 256 = 2 ^ 8 from rfl, Nat.testBit_mod_two_pow, Nat.testBit_shiftRight,
    decide_eq_true (by omega), Bool.true_and, Nat.add_sub_assoc h1]

theorem read_cached_stream {style hatch : Nat} {old : Nat × Nat} {p : Nat × Nat}
    (h : read_cached style hatch old s = some (p, s1)) : s1 = s := by
  unfold read_cached at h
  split at h
  · obtain ⟨bpp, -, hpair⟩ := Option.map_eq_some_iff.mp h
    exact (congrArg Prod.snd hpair).symm
  · exact (congrArg Prod.snd (Option.some.inj h)).symm

theorem update_read_brush_cases {brush b : rdpBrush}
    (h : update_read_brush brush fieldFlags s = some (b, s1)) :
    ∃ s2 s3 s4 s5,
      field fieldFlags 1 brush.x (Reader.of read_byte) s = some (b.x, s2) ∧
      field fieldFlags 2 brush.y (Reader.of read_byte) s2 = some (b.y, s3) ∧
      field fieldFlags 3 brush.style (Reader.of read_byte) s3 = some (b.style, s4) ∧
      field fieldFlags 4 brush.hatch (Reader.of read_byte) s4 = some (b.hatch, s5) ∧
      read_cached b.style b.hatch (brush.index, brush.bpp) s5 = some ((b.index, b.bpp), s5) ∧
      field fieldFlags 5 brush.data (Reader.of (read_pattern b.hatch)) s5 = some (b.data, s1) := by
  simp only [update_read_brush, bind_eq_some, pure_eq_some] at h
  obtain ⟨⟨x, s2⟩, hx, ⟨y, s3⟩, hy, ⟨style, s4⟩, hstyle, ⟨hatch, s5⟩, hhatch,
    ⟨⟨index, bpp⟩, s6⟩, hcached, ⟨data, s7⟩, hdata, rfl, rfl⟩ := h
  obtain rfl := read_cached_stream hcached
  exact ⟨s2, s3, s4, s6, hx, hy, hstyle, hhatch, hcached, hdata⟩

theorem brush_step {get : R → rdpBrush} (h : info.brush shift (get old) s = some (get new, s1)) :
    Decodes (flagged info.fieldFlags) old new (brushFields shift get) s s1 := by
  obtain ⟨s2, s3, s4, s5, hx, hy, hstyle, hhatch, -, hdata⟩ := update_read_brush_cases h
  have hflag := flagged_shift info.fieldFlags shift
  refine .cons (value_step (hflag 1 (by omega) (by omega)) (read_byte_eq _) hx)
    (.cons (value_step (hflag 2 (by omega) (by omega)) (read_byte_eq _) hy)
    (.cons (value_step (hflag 3 (by omega) (by omega)) (read_byte_eq _) hstyle)
    (.cons (value_step (hflag 4 (by omega) (by omega)) (read_byte_eq _) hhatch)
    (.cons (field_step (hflag 5 (by omega) (by omega)) ?_ ?_ hdata) .nil))))
  · intro hread
    have hpair := Option.some.inj hread
    exact congrArg (fun p => (p.1.drop 1, p.2)) hpair
  · intro hkeep
    exact congrArg _ hkeep

end

/-! ## The fields of each type -/

def DSTBLT_ORDER.fields (delta : Bool) : List (Field STREAM DSTBLT_ORDER) :=
  [coordField delta 1 nLeftRect, coordField delta 2 nTopRect, coordField delta 3 nWidth,
   coordField delta 4 nHeight, byteField 5 bRop]

def PATBLT_ORDER.fields (delta : Bool) : List (Field STREAM PATBLT_ORDER) :=
  [coordField delta 1 nLeftRect, coordField delta 2 nTopRect, coordField delta 3 nWidth,
   coordField delta 4 nHeight, byteField 5 bRop, colorField 6 backColor, colorField 7 foreColor] ++
  brushFields 7 brush

def SCRBLT_ORDER.fields (delta : Bool) : List (Field STREAM SCRBLT_ORDER) :=
  [coordField delta 1 nLeftRect, coordField delta 2 nTopRect, coordField delta 3 nWidth,
   coordField delta 4 nHeight, byteField 5 bRop, coordField delta 6 nXSrc,
   coordField delta 7 nYSrc]

def OPAQUE_RECT_ORDER.fields (delta : Bool) : List (Field STREAM OPAQUE_RECT_ORDER) :=
  [coordField delta 1 nLeftRect, coordField delta 2 nTopRect, coordField delta 3 nWidth,
   coordField delta 4 nHeight] ++
  colorByteFields color

def DRAW_NINE_GRID_ORDER.fields (delta : Bool) : List (Field STREAM DRAW_NINE_GRID_ORDER) :=
  [coordField delta 1 srcLeft, coordField delta 2 srcTop, coordField delta 3 srcRight,
   coordField delta 4 srcBottom, plainField uint16OnWire 5 bitmapId]

def MULTI_DSTBLT_ORDER.fields (delta : Bool) : List (Field STREAM MULTI_DSTBLT_ORDER) :=
  [coordField delta 1 nLeftRect, coordField delta 2 nTopRect, coordField delta 3 nWidth,
   coordField delta 4 nHeight, byteField 5 bRop, byteField 6 numRectangles,
   rectsField 7 numRectangles fun r => (r.cbData, r.rectangles)]

def MULTI_PATBLT_ORDER.fields (delta : Bool) : List (Field STREAM MULTI_PATBLT_ORDER) :=
  [coordField delta 1 nLeftRect, coordField delta 2 nTopRect, coordField delta 3 nWidth,
   coordField delta 4 nHeight, byteField 5 bRop, colorField 6 backColor, colorField 7 foreColor] ++
  (brushFields 7 brush ++
   [byteField 13 numRectangles, rectsField 14 numRectangles fun r => (r.cbData, r.rectangles)])

def MULTI_SCRBLT_ORDER.fields (delta : Bool) : List (Field STREAM MULTI_SCRBLT_ORDER) :=
  [coordField delta 1 nLeftRect, coordField delta 2 nTopRect, coordField delta 3 nWidth,
   coordField delta 4 nHeight, byteField 5 bRop, coordField delta 6 nXSrc,
   coordField delta 7 nYSrc, byteField 8 numRectangles,
   rectsField 9 numRectangles fun r => (r.cbData, r.rectangles)]

def MULTI_OPAQUE_RECT_ORDER.fields (delta : Bool) : List (Field STREAM MULTI_OPAQUE_RECT_ORDER) :=
  [coordField delta 1 nLeftRect, coordField delta 2 nTopRect, coordField delta 3 nWidth,
   coordField delta 4 nHeight] ++
  (colorByteFields color ++
   [byteField 8 numRectangles, rectsField 9 numRectangles fun r => (r.cbData, r.rectangles)])

def LINE_TO_ORDER.fields (delta : Bool) : List (Field STREAM LINE_TO_ORDER) :=
  [plainField uint16OnWire 1 backMode, coordField delta 2 nXStart, coordField delta 3 nYStart,
   coordField delta 4 nXEnd, coordField delta 5 nYEnd, colorField 6 backColor, byteField 7 bRop2,
   byteField 8 penStyle, byteField 9 penWidth, colorField 10 penColor]

def POLYLINE_ORDER.fields (delta : Bool) : List (Field STREAM POLYLINE_ORDER) :=
  [coordField delta 1 xStart, coordField delta 2 yStart, byteField 3 bRop2,
   plainField skipOnWire 4 fun _ => (), colorField 5 penColor, byteField 6 numPoints,
   pointsField 7 numPoints fun r => (r.cbData, r.points)]

def SAVE_BITMAP_ORDER.fields (delta : Bool) : List (Field STREAM SAVE_BITMAP_ORDER) :=
  [plainField uint32OnWire 1 savedBitmapPosition, coordField delta 2 nLeftRect,
   coordField delta 3 nTopRect, coordField delta 4 nRightRect, coordField delta 5 nBottomRect,
   byteField 6 operation]

def GLYPH_INDEX_ORDER.fields (_ : Bool) : List (Field STREAM GLYPH_INDEX_ORDER) :=
  [byteField 1 cacheId, byteField 2 flAccel, byteField 3 ulCharInc, byteField 4 fOpRedundant,
   colorField 5 backColor, colorField 6 foreColor, plainField sint16OnWire 7 bkLeft,
   plainField sint16OnWire 8 bkTop, plainField sint16OnWire 9 bkRight,
   plainField sint16OnWire 10 bkBottom, plainField sint16OnWire 11 opLeft,
   plainField sint16OnWire 12 opTop, plainField sint16OnWire 13 opRight,
   plainField sint16OnWire 14 opBottom] ++
  (brushFields 14 brush ++
   [plainField sint16OnWire 20 x, plainField sint16OnWire 21 y,
    plainField (blockOnWire byteOnWire) 22 fun r => (r.cbData, r.data)])

def FAST_INDEX_ORDER.fields (delta : Bool) : List (Field STREAM FAST_INDEX_ORDER) :=
  [byteField 1 cacheId, plainField charIncOnWire 2 fun r => (r.ulCharInc, r.flAccel),
   colorField 3 backColor, colorField 4 foreColor, coordField delta 5 bkLeft,
   coordField delta 6 bkTop, coordField delta 7 bkRight, coordField delta 8 bkBottom,
   coordField delta 9 opLeft, coordField delta 10 opTop, coordField delta 11 opRight,
   coordField delta 12 opBottom, coordField delta 13 x, coordField delta 14 y,
   plainField (blockOnWire byteOnWire) 15 fun r => (r.cbData, r.data)]

def ELLIPSE_SC_ORDER.fields (delta : Bool) : List (Field STREAM ELLIPSE_SC_ORDER) :=
  [coordField delta 1 leftRect, coordField delta 2 topRect, coordField delta 3 rightRect,
   coordField delta 4 bottomRect, byteField 5 bRop2, byteField 6 fillMode, colorField 7 color]

def ELLIPSE_CB_ORDER.fields (delta : Bool) : List (Field STREAM ELLIPSE_CB_ORDER) :=
  [coordField delta 1 leftRect, coordField delta 2 topRect, coordField delta 3 rightRect,
   coordField delta 4 bottomRect, byteField 5 bRop2, byteField 6 fillMode, colorField 7 backColor,
   colorField 8 foreColor] ++
  brushFields 8 brush

def MULTI_DRAW_NINE_GRID_ORDER.fields (delta : Bool) :
    List (Field STREAM MULTI_DRAW_NINE_GRID_ORDER) :=
  [coordField delta 1 srcLeft, coordField delta 2 srcTop, coordField delta 3 srcRight,
   coordField delta 4 srcBottom, plainField uint16OnWire 5 bitmapId, byteField 6 nDeltaEntries,
   plainField (blockOnWire uint16OnWire) 7 fun r => (r.cbData, r.codeDeltaList)]

def POLYGON_SC_ORDER.fields (delta : Bool) : List (Field STREAM POLYGON_SC_ORDER) :=
  [coordField delta 1 xStart, coordField delta 2 yStart, byteField 3 bRop2, byteField 4 fillMode,
   colorField 5 brushColor, byteField 6 nDeltaEntries,
   plainField (blockOnWire byteOnWire) 7 fun r => (r.cbData, r.codeDeltaList)]

def POLYGON_CB_ORDER.fields (delta : Bool) : List (Field STREAM POLYGON_CB_ORDER) :=
  [coordField delta 1 xStart, coordField delta 2 yStart, byteField 3 bRop2, byteField 4 fillMode,
   colorField 5 backColor, colorField 6 foreColor] ++
  (brushFields 6 brush ++
   [byteField 12 nDeltaEntries,
    plainField (blockOnWire byteOnWire) 13 fun r => (r.cbData, r.codeDeltaList)])

def FAST_GLYPH_ORDER.fields (delta : Bool) : List (Field STREAM FAST_GLYPH_ORDER) :=
  [byteField 1 cacheId, plainField charIncOnWire 2 fun r => (r.ulCharInc, r.flAccel),
   colorField 3 backColor, colorField 4 foreColor, coordField delta 5 bkLeft,
   coordField delta 6 bkTop, coordField delta 7 bkRight, coordField delta 8 bkBottom,
   coordField delta 9 opLeft, coordField delta 10 opTop, coordField delta 11 opRight,
   coordField delta 12 opBottom, coordField delta 13 x, coordField delta 14 y,
   plainField glyphOnWire 15 fun r => (r.cbData, r.data, r.glyph_data)]

def MEMBLT_ORDER.fields (delta : Bool) : List (Field STREAM MEMBLT_ORDER) :=
  [plainField uint16OnWire 1 fun r => r.cacheId + 256 * r.colorIndex,
   coordField delta 2 nLeftRect, coordField delta 3 nTopRect, coordField delta 4 nWidth,
   coordField delta 5 nHeight, byteField 6 bRop, coordField delta 7 nXSrc,
   coordField delta 8 nYSrc, plainField uint16OnWire 9 cacheIndex]

def MEM3BLT_ORDER.fields (delta : Bool) : List (Field STREAM MEM3BLT_ORDER) :=
  [plainField uint16OnWire 1 fun r => r.cacheId + 256 * r.colorIndex,
   coordField delta 2 nLeftRect, coordField delta 3 nTopRect, coordField delta 4 nWidth,
   coordField delta 5 nHeight, byteField 6 bRop, coordField delta 7 nXSrc,
   coordField delta 8 nYSrc, colorField 9 backColor, colorField 10 foreColor] ++
  (brushFields 10 brush ++ [plainField uint16OnWire 16 cacheIndex])

/-! ## The readers of the types -/

section

variable {info : ORDER_INFO} {s s' : STREAM}

theorem update_read_dstblt_order.spec :
    info.Reads update_read_dstblt_order DSTBLT_ORDER.fields := by
  intro old new s s' h
  simp only [update_read_dstblt_order, bind_eq_some, pure_eq_some] at h
  obtain ⟨_, h1, _, h2, _, h3, _, h4, _, h5, rfl, rfl⟩ := h
  exact coord_step h1 (coord_step h2 (coord_step h3 (coord_step h4 (byte_step h5 .nil))))

theorem update_read_patblt_order.spec {old new : PATBLT_ORDER}
    (h : update_read_patblt_order info old s = some (new, s')) :
    info.Decodes old new PATBLT_ORDER.fields s s' ∧
      ∃ s1 s2, info.brush 7 old.brush s1 = some (new.brush, s2) := by
  simp only [update_read_patblt_order, bind_eq_some, pure_eq_some] at h
  obtain ⟨_, h1, _, h2, _, h3, _, h4, _, h5, _, h6, _, h7, _, h8, rfl, rfl⟩ := h
  refine ⟨.append ?_ (brush_step h8), _, _, h8⟩
  exact coord_step h1 (coord_step h2 (coord_step h3 (coord_step h4 (byte_step h5 (color_step h6
    (color_step h7 .nil))))))

theorem update_read_scrblt_order.spec :
    info.Reads update_read_scrblt_order SCRBLT_ORDER.fields := by
  intro old new s s' h
  simp only [update_read_scrblt_order, bind_eq_some, pure_eq_some] at h
  obtain ⟨_, h1, _, h2, _, h3, _, h4, _, h5, _, h6, _, h7, rfl, rfl⟩ := h
  exact coord_step h1 (coord_step h2 (coord_step h3 (coord_step h4 (byte_step h5 (coord_step h6
    (coord_step h7 .nil))))))

theorem update_read_opaque_rect_order.spec {old new : OPAQUE_RECT_ORDER}
    (h : update_read_opaque_rect_order info old s = some (new, s')) :
    info.Decodes old new OPAQUE_RECT_ORDER.fields s s' ∧
      colorByte 24 new.color = colorByte 24 old.color := by
  simp only [update_read_opaque_rect_order, bind_eq_some, pure_eq_some] at h
  obtain ⟨_, h1, _, h2, _, h3, _, h4, _, h5, _, h6, _, h7, rfl, rfl⟩ := h
  refine ⟨.append ?_ (color_steps h5 h6 h7), color_top h5 h6 h7⟩
  exact coord_step h1 (coord_step h2 (coord_step h3 (coord_step h4 .nil)))

theorem update_read_draw_nine_grid_order.spec :
    info.Reads update_read_draw_nine_grid_order DRAW_NINE_GRID_ORDER.fields := by
  intro old new s s' h
  simp only [update_read_draw_nine_grid_order, bind_eq_some, pure_eq_some] at h
  obtain ⟨_, h1, _, h2, _, h3, _, h4, _, h5, rfl, rfl⟩ := h
  exact coord_step h1 (coord_step h2 (coord_step h3 (coord_step h4 (plain_step stream_read_uint16_eq
    h5 .nil))))

theorem update_read_multi_dstblt_order.spec :
    info.Reads update_read_multi_dstblt_order MULTI_DSTBLT_ORDER.fields := by
  intro old new s s' h
  simp only [update_read_multi_dstblt_order, bind_eq_some, pure_eq_some] at h
  obtain ⟨_, h1, _, h2, _, h3, _, h4, _, h5, _, h6, ⟨⟨_, _⟩, _⟩, h7, rfl, rfl⟩ := h
  exact coord_step h1 (coord_step h2 (coord_step h3 (coord_step h4 (byte_step h5 (byte_step h6
    (.cons (rects_step h7) .nil))))))

theorem update_read_multi_patblt_order.spec {old new : MULTI_PATBLT_ORDER}
    (h : update_read_multi_patblt_order info old s = some (new, s')) :
    info.Decodes old new MULTI_PATBLT_ORDER.fields s s' ∧
      ∃ s1 s2, info.brush 7 old.brush s1 = some (new.brush, s2) := by
  simp only [update_read_multi_patblt_order, bind_eq_some, pure_eq_some] at h
  obtain ⟨_, h1, _, h2, _, h3, _, h4, _, h5, _, h6, _, h7, _, h8, _, h9, ⟨⟨_, _⟩, _⟩, h10, rfl,
    rfl⟩ := h
  refine ⟨.append ?_ (.append (brush_step h8) ?_), _, _, h8⟩
  · exact coord_step h1 (coord_step h2 (coord_step h3 (coord_step h4 (byte_step h5 (color_step h6
    (color_step h7 .nil))))))
  · exact byte_step h9 (.cons (rects_step h10) .nil)

theorem update_read_multi_scrblt_order.spec :
    info.Reads update_read_multi_scrblt_order MULTI_SCRBLT_ORDER.fields := by
  intro old new s s' h
  simp only [update_read_multi_scrblt_order, bind_eq_some, pure_eq_some] at h
  obtain ⟨_, h1, _, h2, _, h3, _, h4, _, h5, _, h6, _, h7, _, h8, ⟨⟨_, _⟩, _⟩, h9, rfl, rfl⟩ := h
  exact coord_step h1 (coord_step h2 (coord_step h3 (coord_step h4 (byte_step h5 (coord_step h6
    (coord_step h7 (byte_step h8 (.cons (rects_step h9) .nil))))))))

theorem update_read_multi_opaque_rect_order.spec {old new : MULTI_OPAQUE_RECT_ORDER}
    (h : update_read_multi_opaque_rect_order info old s = some (new, s')) :
    info.Decodes old new MULTI_OPAQUE_RECT_ORDER.fields s s' ∧
      colorByte 24 new.color = colorByte 24 old.color := by
  simp only [update_read_multi_opaque_rect_order, bind_eq_some, pure_eq_some] at h
  obtain ⟨_, h1, _, h2, _, h3, _, h4, _, h5, _, h6, _, h7, _, h8, ⟨⟨_, _⟩, _⟩, h9, rfl, rfl⟩ := h
  refine ⟨.append ?_ (.append (color_steps h5 h6 h7) ?_), color_top h5 h6 h7⟩
  · exact coord_step h1 (coord_step h2 (coord_step h3 (coord_step h4 .nil)))
  · exact byte_step h8 (.cons (rects_step h9) .nil)

theorem update_read_line_to_order.spec :
    info.Reads update_read_line_to_order LINE_TO_ORDER.fields := by
  intro old new s s' h
  simp only [update_read_line_to_order, bind_eq_some, pure_eq_some] at h
  obtain ⟨_, h1, _, h2, _, h3, _, h4, _, h5, _, h6, _, h7, _, h8, _, h9, _, h10, rfl, rfl⟩ := h
  exact plain_step stream_read_uint16_eq h1 (coord_step h2 (coord_step h3 (coord_step h4 (coord_step
    h5 (color_step h6 (byte_step h7 (byte_step h8 (byte_step h9 (color_step h10 .nil)))))))))

theorem update_read_polyline_order.spec :
    info.Reads update_read_polyline_order POLYLINE_ORDER.fields := by
  intro old new s s' h
  simp only [update_read_polyline_order, bind_eq_some, pure_eq_some] at h
  obtain ⟨_, h1, _, h2, _, h3, _, h4, _, h5, _, h6, ⟨⟨_, _⟩, _⟩, h7, rfl, rfl⟩ := h
  exact coord_step h1 (coord_step h2 (byte_step h3 (plain_step read_skip_eq h4 (color_step h5
    (byte_step h6 (.cons (points_step h7) .nil))))))

theorem update_read_save_bitmap_order.spec :
    info.Reads update_read_save_bitmap_order SAVE_BITMAP_ORDER.fields := by
  intro old new s s' h
  simp only [update_read_save_bitmap_order, bind_eq_some, pure_eq_some] at h
  obtain ⟨_, h1, _, h2, _, h3, _, h4, _, h5, _, h6, rfl, rfl⟩ := h
  exact plain_step stream_read_uint32_eq h1 (coord_step h2 (coord_step h3 (coord_step h4 (coord_step
    h5 (byte_step h6 .nil)))))

theorem update_read_glyph_index_order.spec {old new : GLYPH_INDEX_ORDER}
    (h : update_read_glyph_index_order info old s = some (new, s')) :
    info.Decodes old new GLYPH_INDEX_ORDER.fields s s' ∧
      ∃ s1 s2, info.brush 14 old.brush s1 = some (new.brush, s2) := by
  simp only [update_read_glyph_index_order, bind_eq_some, pure_eq_some] at h
  obtain ⟨_, h1, _, h2, _, h3, _, h4, _, h5, _, h6, _, h7, _, h8, _, h9, _, h10, _, h11, _, h12, _,
    h13, _, h14, _, h15, _, h16, _, h17, ⟨⟨_, _⟩, _⟩, h18, rfl, rfl⟩ := h
  refine ⟨.append ?_ (.append (brush_step h15) ?_), _, _, h15⟩
  · exact byte_step h1 (byte_step h2 (byte_step h3 (byte_step h4 (color_step h5 (color_step h6
    (plain_step stream_read_sint16_eq h7 (plain_step stream_read_sint16_eq h8 (plain_step
    stream_read_sint16_eq h9 (plain_step stream_read_sint16_eq h10 (plain_step stream_read_sint16_eq
    h11 (plain_step stream_read_sint16_eq h12 (plain_step stream_read_sint16_eq h13 (plain_step
    stream_read_sint16_eq h14 .nil)))))))))))))
  · exact plain_step stream_read_sint16_eq h16 (plain_step stream_read_sint16_eq h17
      (plain_step read_data_eq h18 .nil))

theorem update_read_fast_index_order.spec :
    info.Reads update_read_fast_index_order FAST_INDEX_ORDER.fields := by
  intro old new s s' h
  simp only [update_read_fast_index_order, bind_eq_some, pure_eq_some] at h
  obtain ⟨_, h1, ⟨⟨_, _⟩, _⟩, h2, _, h3, _, h4, _, h5, _, h6, _, h7, _, h8, _, h9, _, h10, _, h11,
    _, h12, _, h13, _, h14, ⟨⟨_, _⟩, _⟩, h15, rfl, rfl⟩ := h
  exact byte_step h1 (plain_step read_char_inc_eq h2 (color_step h3 (color_step h4 (coord_step h5
    (coord_step h6 (coord_step h7 (coord_step h8 (coord_step h9 (coord_step h10 (coord_step h11
    (coord_step h12 (coord_step h13 (coord_step h14 (plain_step read_data_eq h15 .nil))))))))))))))

theorem update_read_ellipse_sc_order.spec :
    info.Reads update_read_ellipse_sc_order ELLIPSE_SC_ORDER.fields := by
  intro old new s s' h
  simp only [update_read_ellipse_sc_order, bind_eq_some, pure_eq_some] at h
  obtain ⟨_, h1, _, h2, _, h3, _, h4, _, h5, _, h6, _, h7, rfl, rfl⟩ := h
  exact coord_step h1 (coord_step h2 (coord_step h3 (coord_step h4 (byte_step h5 (byte_step h6
    (color_step h7 .nil))))))

theorem update_read_ellipse_cb_order.spec {old new : ELLIPSE_CB_ORDER}
    (h : update_read_ellipse_cb_order info old s = some (new, s')) :
    info.Decodes old new ELLIPSE_CB_ORDER.fields s s' ∧
      ∃ s1 s2, info.brush 8 old.brush s1 = some (new.brush, s2) := by
  simp only [update_read_ellipse_cb_order, bind_eq_some, pure_eq_some] at h
  obtain ⟨_, h1, _, h2, _, h3, _, h4, _, h5, _, h6, _, h7, _, h8, _, h9, rfl, rfl⟩ := h
  refine ⟨.append ?_ (brush_step h9), _, _, h9⟩
  exact coord_step h1 (coord_step h2 (coord_step h3 (coord_step h4 (byte_step h5 (byte_step h6
    (color_step h7 (color_step h8 .nil)))))))

/-! ## The readers that differ -/

theorem update_read_multi_draw_nine_grid_order.spec {old new : MULTI_DRAW_NINE_GRID_ORDER}
    (h : update_read_multi_draw_nine_grid_order info old s = some (new, s')) :
    new.codeDeltaList = old.codeDeltaList ∧ ∃ list, info.Decodes old
      { new with codeDeltaList := list } MULTI_DRAW_NINE_GRID_ORDER.fields s s' := by
  simp only [update_read_multi_draw_nine_grid_order, bind_eq_some, pure_eq_some] at h
  obtain ⟨_, h1, _, h2, _, h3, _, h4, _, h5, _, h6, _, h7, rfl, rfl⟩ := h
  obtain ⟨list, hlist⟩ := deltas_step MULTI_DRAW_NINE_GRID_ORDER.cbData
    MULTI_DRAW_NINE_GRID_ORDER.codeDeltaList stream_read_uint16_eq h7
  refine ⟨rfl, list, ?_⟩
  exact coord_step h1 (coord_step h2 (coord_step h3 (coord_step h4 (plain_step stream_read_uint16_eq
    h5 (byte_step h6 (.cons (hlist _ rfl rfl) .nil))))))

theorem update_read_polygon_sc_order.spec {old new : POLYGON_SC_ORDER}
    (h : update_read_polygon_sc_order info old s = some (new, s')) :
    new.codeDeltaList = old.codeDeltaList ∧ ∃ list,
      info.Decodes old { new with codeDeltaList := list } POLYGON_SC_ORDER.fields s s' := by
  simp only [update_read_polygon_sc_order, bind_eq_some, pure_eq_some] at h
  obtain ⟨_, h1, _, h2, _, h3, _, h4, _, h5, _, h6, _, h7, rfl, rfl⟩ := h
  obtain ⟨list, hlist⟩ := deltas_step POLYGON_SC_ORDER.cbData POLYGON_SC_ORDER.codeDeltaList
    read_byte_eq h7
  refine ⟨rfl, list, ?_⟩
  exact coord_step h1 (coord_step h2 (byte_step h3 (byte_step h4 (color_step h5 (byte_step h6 (.cons
    (hlist _ rfl rfl) .nil))))))

theorem update_read_polygon_cb_order.spec {old new : POLYGON_CB_ORDER}
    (h : update_read_polygon_cb_order info old s = some (new, s')) :
    new.codeDeltaList = old.codeDeltaList ∧
      (∃ list, info.Decodes old { new with codeDeltaList := list } POLYGON_CB_ORDER.fields s s') ∧
      ∃ s1 s2, info.brush 6 old.brush s1 = some (new.brush, s2) := by
  simp only [update_read_polygon_cb_order, bind_eq_some, pure_eq_some] at h
  obtain ⟨_, h1, _, h2, _, h3, _, h4, _, h5, _, h6, _, h7, _, h8, _, h9, rfl, rfl⟩ := h
  obtain ⟨list, hlist⟩ := deltas_step POLYGON_CB_ORDER.cbData POLYGON_CB_ORDER.codeDeltaList
    read_byte_eq h9
  refine ⟨rfl, ⟨list, .append ?_ (.append (brush_step h7) ?_)⟩, _, _, h7⟩
  · exact coord_step h1 (coord_step h2 (byte_step h3 (byte_step h4 (color_step h5 (color_step h6
    .nil)))))
  · exact byte_step h8 (.cons (hlist _ rfl rfl) .nil)

theorem glyph_step {old : FAST_GLYPH_ORDER} {n cbData : Nat} {data : Bytes}
    {glyph : Option GLYPH_DATA_V2}
    (h : info.read n (read_glyph_data old.glyph_data) (old.cbData, old.data, old.glyph_data) s =
      some ((cbData, data, glyph), s')) :
    ∃ g, glyph = (if old.glyph_data = none then g else old.glyph_data) ∧
      ∀ want : FAST_GLYPH_ORDER, (want.cbData, want.data, want.glyph_data) = (cbData, data, g) →
        (plainField glyphOnWire n fun r => (r.cbData, r.data, r.glyph_data)).Step
          (flagged info.fieldFlags) old want s s' := by
  unfold ORDER_INFO.read at h
  rw [field_eq_some] at h
  split at h
  · rename_i hflag
    have hpair := (read_glyph_data_eq old.glyph_data s).symm.trans (Option.some.inj h)
    cases hpair
    refine ⟨(glyphOnWire s).1.2.2, rfl, ?_⟩
    intro want hwant
    apply Field.Step.of_carried hflag
    show glyphOnWire s = ((want.cbData, want.data, want.glyph_data), _)
    rw [hwant]
  · rename_i hflag
    obtain ⟨hvalue, rfl⟩ := h
    have hglyph : glyph = old.glyph_data := congrArg (fun p => p.2.2) hvalue
    refine ⟨glyph, ?_, fun want hwant => .of_kept hflag (hwant.trans hvalue)⟩
    split
    · rfl
    · exact hglyph

theorem update_read_fast_glyph_order.spec {old new : FAST_GLYPH_ORDER}
    (h : update_read_fast_glyph_order info old s = some (new, s')) :
    ∃ g, new.glyph_data = (if old.glyph_data = none then g else old.glyph_data) ∧
      info.Decodes old { new with glyph_data := g } FAST_GLYPH_ORDER.fields s s' := by
  simp only [update_read_fast_glyph_order, bind_eq_some, pure_eq_some] at h
  obtain ⟨_, h1, ⟨⟨_, _⟩, _⟩, h2, _, h3, _, h4, _, h5, _, h6, _, h7, _, h8, _, h9, _, h10, _, h11,
    _, h12, _, h13, _, h14, ⟨⟨_, _, _⟩, _⟩, h15, rfl, rfl⟩ := h
  obtain ⟨g, hnew, hglyph⟩ := glyph_step h15
  refine ⟨g, hnew, ?_⟩
  exact byte_step h1 (plain_step read_char_inc_eq h2 (color_step h3 (color_step h4 (coord_step h5
    (coord_step h6 (coord_step h7 (coord_step h8 (coord_step h9 (coord_step h10 (coord_step h11
    (coord_step h12 (coord_step h13 (coord_step h14 (.cons (hglyph _ rfl) .nil))))))))))))))

section

variable {R : Type} {id index : R → Nat} {old new : R} {n v : Nat} {s1 : STREAM}

theorem cache_sum (hid : id new = v &&& 0xFF) (hindex : index new = v >>> 8) :
    id new + 256 * index new = v := by
  rw [hid, hindex, show 0xFF = 2 ^ 8 - 1 from rfl, Nat.and_two_pow_sub_one_eq_mod,
    Nat.shiftRight_eq_div_pow]
  omega

theorem cache_step (h : info.read n stream_read_uint16 (id old) s = some (v, s1))
    (hid : id new = v &&& 0xFF) (hindex : index new = v >>> 8)
    (hsound : flagged info.fieldFlags n = true ∨ index old = 0) :
    (plainField uint16OnWire n fun r => id r + 256 * index r).Step (flagged info.fieldFlags) old
      new s s1 := by
  have hsum := cache_sum hid hindex
  unfold ORDER_INFO.read at h
  rw [field_eq_some] at h
  split at h
  · rename_i hflag
    apply Field.Step.of_carried hflag
    show uint16OnWire s = (id new + 256 * index new, s1)
    rw [hsum]
    exact Option.some.inj h
  · rename_i hflag
    obtain ⟨rfl, rfl⟩ := h
    apply Field.Step.of_kept hflag
    show id new + 256 * index new = id old + 256 * index old
    rw [hsum, hsound.resolve_left hflag, Nat.mul_zero, Nat.add_zero]

theorem cache_step_sound (h : info.read n stream_read_uint16 (id old) s = some (v, s1))
    (hid : id new = v &&& 0xFF) (hindex : index new = v >>> 8) {s2 : STREAM}
    (hstep : (plainField uint16OnWire n fun r => id r + 256 * index r).Step
      (flagged info.fieldFlags) old new s s2) :
    flagged info.fieldFlags n = true ∨ index old = 0 := by
  by_cases hflag : flagged info.fieldFlags n = true
  · exact Or.inl hflag
  · have hsum := cache_sum hid hindex
    have hkept : id new + 256 * index new = id old + 256 * index old :=
      (hstep.kept (Bool.eq_false_iff.mpr hflag)).1
    unfold ORDER_INFO.read at h
    rw [field_eq_some, if_neg hflag] at h
    exact Or.inr (by omega)

end

theorem update_read_memblt_order.spec {old new : MEMBLT_ORDER}
    (h : update_read_memblt_order info old s = some (new, s')) :
    new.cacheId < 256 ∧
      (info.Decodes old new MEMBLT_ORDER.fields s s' ↔
        flagged info.fieldFlags 1 = true ∨ old.colorIndex = 0) := by
  simp only [update_read_memblt_order, bind_eq_some, pure_eq_some] at h
  obtain ⟨_, h1, _, h2, _, h3, _, h4, _, h5, _, h6, _, h7, _, h8, _, h9, rfl, rfl⟩ := h
  refine ⟨Nat.lt_of_le_of_lt Nat.and_le_right (by omega), ?_, ?_⟩
  · rintro ⟨s1, hstep, -⟩
    exact cache_step_sound h1 rfl rfl hstep
  · intro hsound
    refine .cons (cache_step h1 rfl rfl hsound) ?_
    exact coord_step h2 (coord_step h3 (coord_step h4 (coord_step h5 (byte_step h6 (coord_step h7
      (coord_step h8 (plain_step stream_read_uint16_eq h9 .nil)))))))

theorem update_read_mem3blt_order.spec {old new : MEM3BLT_ORDER}
    (h : update_read_mem3blt_order info old s = some (new, s')) :
    new.cacheId < 256 ∧
      (info.Decodes old new MEM3BLT_ORDER.fields s s' ↔
        flagged info.fieldFlags 1 = true ∨ old.colorIndex = 0) ∧
      ∃ s1 s2, info.brush 10 old.brush s1 = some (new.brush, s2) := by
  simp only [update_read_mem3blt_order, bind_eq_some, pure_eq_some] at h
  obtain ⟨_, h1, _, h2, _, h3, _, h4, _, h5, _, h6, _, h7, _, h8, _, h9, _, h10, _, h11, _, h12,
    rfl, rfl⟩ := h
  refine ⟨Nat.lt_of_le_of_lt Nat.and_le_right (by omega), ⟨?_, ?_⟩, _, _, h11⟩
  · rintro ⟨s1, hstep, -⟩
    exact cache_step_sound h1 rfl rfl hstep
  · intro hsound
    refine .cons (cache_step h1 rfl rfl hsound) (.append ?_ (.append (brush_step h11) ?_))
    · exact coord_step h2 (coord_step h3 (coord_step h4 (coord_step h5 (byte_step h6 (coord_step h7
      (coord_step h8 (color_step h9 (color_step h10 .nil))))))))
    · exact plain_step stream_read_uint16_eq h12 .nil

end

end neutrinordp.orders
