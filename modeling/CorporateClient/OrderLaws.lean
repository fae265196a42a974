-- The law of the primary orders: after each order, the record of its type has the fields
-- of the order and keeps the other ones, and what is computed from the fields fits them.
-- The law has exceptions, and they are stated exactly.
import CorporateClient.OrderFields

namespace neutrinordp.orders

open List bytes fields stream

/-! ## Brushes -/

/-- The pattern comes with the hatch, or the row 0 fits it already. A brush that is not
cached does not follow a cached one. -/
structure BrushFits (fieldFlags shift : Nat) (old want : rdpBrush) : Prop where
  pattern : flagged fieldFlags (shift + 5) = true ∨ old.data = [] ∨
    old.data.head? = some (UInt8.ofNat want.hatch)
  plain : want.style &&& CACHED_BRUSH ≠ 0 ∨ old.index = 0 ∧ old.bpp = 0

section

variable {info : ORDER_INFO} {s s' : STREAM}

end

/-! ## The law of one order -/

def ORDER_TYPE.fields (delta : Bool) : (t : ORDER_TYPE) → List (Field STREAM t.Record)
  | .DSTBLT => DSTBLT_ORDER.fields delta
  | .PATBLT => PATBLT_ORDER.fields delta
  | .SCRBLT => SCRBLT_ORDER.fields delta
  | .DRAW_NINE_GRID => DRAW_NINE_GRID_ORDER.fields delta
  | .MULTI_DRAW_NINE_GRID => MULTI_DRAW_NINE_GRID_ORDER.fields delta
  | .LINE_TO => LINE_TO_ORDER.fields delta
  | .OPAQUE_RECT => OPAQUE_RECT_ORDER.fields delta
  | .SAVE_BITMAP => SAVE_BITMAP_ORDER.fields delta
  | .MEMBLT => MEMBLT_ORDER.fields delta
  | .MEM3BLT => MEM3BLT_ORDER.fields delta
  | .MULTI_DSTBLT => MULTI_DSTBLT_ORDER.fields delta
  | .MULTI_PATBLT => MULTI_PATBLT_ORDER.fields delta
  | .MULTI_SCRBLT => MULTI_SCRBLT_ORDER.fields delta
  | .MULTI_OPAQUE_RECT => MULTI_OPAQUE_RECT_ORDER.fields delta
  | .FAST_INDEX => FAST_INDEX_ORDER.fields delta
  | .POLYGON_SC => POLYGON_SC_ORDER.fields delta
  | .POLYGON_CB => POLYGON_CB_ORDER.fields delta
  | .POLYLINE => POLYLINE_ORDER.fields delta
  | .FAST_GLYPH => FAST_GLYPH_ORDER.fields delta
  | .ELLIPSE_SC => ELLIPSE_SC_ORDER.fields delta
  | .ELLIPSE_CB => ELLIPSE_CB_ORDER.fields delta
  | .GLYPH_INDEX => GLYPH_INDEX_ORDER.fields delta

/-- A condition on the record that the order at `s` calls for. -/
def Wanted (info : ORDER_INFO) (t : ORDER_TYPE) (old : t.Record) (s : STREAM)
    (P : t.Record → Prop) : Prop :=
  ∀ want s', Decodes (flagged info.fieldFlags) old want (t.fields info.deltaCoordinates) s s' →
    P want

/-- The orders that are read as the law says. A cache id without its field has no colour
index, brushes fit, code delta lists are the ones held already, and the last glyph was
taken, or is the same. -/
def ORDER_TYPE.Sound (info : ORDER_INFO) : (t : ORDER_TYPE) → t.Record → STREAM → Prop
  | .PATBLT, (old : PATBLT_ORDER), s => Wanted info .PATBLT old s fun want : PATBLT_ORDER =>
    BrushFits info.fieldFlags 7 old.brush want.brush
  | .MULTI_DRAW_NINE_GRID, (old : MULTI_DRAW_NINE_GRID_ORDER), s =>
    Wanted info .MULTI_DRAW_NINE_GRID old s fun want : MULTI_DRAW_NINE_GRID_ORDER =>
      want.codeDeltaList = old.codeDeltaList
  | .MEMBLT, (old : MEMBLT_ORDER), _ => flagged info.fieldFlags 1 = true ∨ old.colorIndex = 0
  | .MEM3BLT, (old : MEM3BLT_ORDER), s =>
    (flagged info.fieldFlags 1 = true ∨ old.colorIndex = 0) ∧
      Wanted info .MEM3BLT old s fun want : MEM3BLT_ORDER =>
        BrushFits info.fieldFlags 10 old.brush want.brush
  | .MULTI_PATBLT, (old : MULTI_PATBLT_ORDER), s =>
    Wanted info .MULTI_PATBLT old s fun want : MULTI_PATBLT_ORDER =>
      BrushFits info.fieldFlags 7 old.brush want.brush
  | .POLYGON_SC, (old : POLYGON_SC_ORDER), s =>
    Wanted info .POLYGON_SC old s fun want : POLYGON_SC_ORDER =>
      want.codeDeltaList = old.codeDeltaList
  | .POLYGON_CB, (old : POLYGON_CB_ORDER), s =>
    Wanted info .POLYGON_CB old s fun want : POLYGON_CB_ORDER =>
      want.codeDeltaList = old.codeDeltaList ∧ BrushFits info.fieldFlags 6 old.brush want.brush
  | .FAST_GLYPH, (old : FAST_GLYPH_ORDER), s =>
    Wanted info .FAST_GLYPH old s fun want : FAST_GLYPH_ORDER =>
      old.glyph_data = none ∨ want.glyph_data = old.glyph_data
  | .ELLIPSE_CB, (old : ELLIPSE_CB_ORDER), s =>
    Wanted info .ELLIPSE_CB old s fun want : ELLIPSE_CB_ORDER =>
      BrushFits info.fieldFlags 8 old.brush want.brush
  | .GLYPH_INDEX, (old : GLYPH_INDEX_ORDER), s =>
    Wanted info .GLYPH_INDEX old s fun want : GLYPH_INDEX_ORDER =>
      BrushFits info.fieldFlags 14 old.brush want.brush
  | _, _, _ => True

/-! ## Each type follows the law exactly for the sound orders -/

section

variable {R α : Type}

@[simp] theorem coordField_functional (delta : Bool) (n : Nat) (get : R → Int32) :
    (coordField delta n get).Functional := Field.value_functional _ _ _

@[simp] theorem plainField_functional (onWire : STREAM → α × STREAM) (n : Nat) (get : R → α) :
    (plainField onWire n get).Functional := Field.value_functional _ _ _

@[simp] theorem byteField_functional (n : Nat) (get : R → Nat) :
    (byteField n get).Functional := plainField_functional _ _ _

@[simp] theorem colorField_functional (n : Nat) (get : R → Nat) :
    (colorField n get).Functional := plainField_functional _ _ _

end

section

variable {info : ORDER_INFO} {s s' : STREAM}

theorem BrushFits.congr {fieldFlags shift : Nat} {old b want : rdpBrush}
    (h : BrushFits fieldFlags shift old b) (hstyle : want.style = b.style)
    (hhatch : want.hatch = b.hatch) : BrushFits fieldFlags shift old want := by
  obtain ⟨hpattern, hplain⟩ := h
  rw [← hhatch] at hpattern
  rw [← hstyle] at hplain
  exact ⟨hpattern, hplain⟩

end

/-! ## Every order of a session -/

/-- An order of a session, with the records before and after it. -/
structure Entry where
  flags : UInt8
  order : STREAM
  before : rdpPrimaryUpdate
  received : Received
  rest : STREAM
  after : rdpPrimaryUpdate

/-- The orders of a session, one after the other. `none`: an order was read past the end of
a table. -/
def session {κ : Type} (callbacks : PrimaryCallbacks κ) :
    rdpUpdate κ → List (UInt8 × STREAM) → Option (List Entry)
  | _, [] => some []
  | update, (flags, order) :: orders =>
    (update_recv_primary_order callbacks flags update order).bind fun ((received, next), rest) =>
      (session callbacks next orders).map fun log =>
        ⟨flags, order, update.primary, received, rest, next.primary⟩ :: log

section

variable {κ : Type} {callbacks : PrimaryCallbacks κ} {flags : UInt8} {update next : rdpUpdate κ}
  {received : Received} {s s' : STREAM}
  (h : update_recv_primary_order callbacks flags update s = some ((received, next), s'))

include h

theorem update_recv_primary_order.spec :
    read_order_info flags update.primary.order_info s = some (received.info, received.body) ∧
      ((ORDER_TYPE.of received.info.orderType = none ∧ received.record = none ∧
          next.primary.records = update.primary.records) ∨
        ∃ t r after, ORDER_TYPE.of received.info.orderType = some t ∧
          received.record = some ⟨t, r⟩ ∧
          t.update_read received.info (update.primary.records t) received.body = some (r, s') ∧
          next.primary.records = Function.update
            (spill received.info update.primary.records t r) t after) := by
  obtain ⟨⟨info, body⟩, hinfo, h⟩ := bind_eq_some.mp h
  obtain ⟨_, hget, h⟩ := bind_eq_some.mp h
  cases hget
  cases hof : ORDER_TYPE.of info.orderType with
  | none =>
    simp only [hof] at h
    obtain ⟨heq, -⟩ := pure_eq_some.mp h
    cases heq
    exact ⟨hinfo, Or.inl ⟨hof, rfl, rfl⟩⟩
  | some t =>
    simp only [hof] at h
    obtain ⟨⟨r, _⟩, hread, h⟩ := bind_eq_some.mp h
    obtain ⟨heq, rfl⟩ := pure_eq_some.mp h
    cases heq
    exact ⟨hinfo, Or.inr ⟨t, r, _, hof, rfl, hread, rfl⟩⟩

end

/-- Callbacks that draw nothing. -/
def idle : PrimaryCallbacks Unit where
  SetBounds _ context := context
  draw _ record context := (record, context)

def order_type (flags : UInt8) (info : ORDER_INFO) (s : STREAM) : Nat × STREAM :=
  if flags &&& ORDER_TYPE_CHANGE ≠ 0 then read_byte s else (info.orderType, s)

/-- How many field bytes the flags leave out. -/
def zeroBytes (flags : UInt8) : Nat :=
  (if flags &&& ORDER_ZERO_FIELD_BYTE_BIT0 ≠ 0 then 1 else 0) +
    if flags &&& ORDER_ZERO_FIELD_BYTE_BIT1 ≠ 0 then 2 else 0

/-- The type is looked up in the table, and only the bytes that the table and the flags say are
read, at most three. -/
structure HeaderBounded (flags : UInt8) (info : ORDER_INFO) (s : STREAM) : Prop where
  lookup : (read_order_info flags info s).isSome
  bytes : ∀ fieldBytes,
    PRIMARY_DRAWING_ORDER_FIELD_BYTES[(order_type flags info s).1]? = some fieldBytes →
      fieldBytes.toNat - zeroBytes flags ≤ 3 ∧
      (update_read_field_flags flags fieldBytes (order_type flags info s).2).2.pos =
        (order_type flags info s).2.pos + (fieldBytes.toNat - zeroBytes flags)

theorem field_flags_loop_pos (n i fieldFlags : Nat) (s : STREAM) :
    (field_flags_loop n i fieldFlags s).2.pos = s.pos + n := by
  induction n generalizing i fieldFlags s with
  | zero => rfl
  | succ n ih =>
    refine (ih _ _ _).trans ?_
    show s.pos + 1 + n = s.pos + (n + 1)
    omega

theorem field_flags_pos_iff {flags fieldBytes : UInt8} (hfew : fieldBytes ∈ [0, 1, 2, 3])
    (s : STREAM) :
    (update_read_field_flags flags fieldBytes s).2.pos =
        s.pos + (fieldBytes.toNat - zeroBytes flags) ↔
      (flags &&& ORDER_ZERO_FIELD_BYTE_BIT0 ≠ 0 → fieldBytes ≠ 0) := by
  have hcount : ∀ bit0 bit1 : Bool, ∀ v ∈ ([0, 1, 2, 3] : Bytes),
      ((let w := if bit0 then v - 1 else v
        if bit1 then if w > 1 then w - 2 else 0 else w).toNat =
        v.toNat - ((if bit0 then 1 else 0) + if bit1 then 2 else 0) ↔ (bit0 → v ≠ 0)) := by
    decide +kernel
  unfold update_read_field_flags zeroBytes
  rw [field_flags_loop_pos, Nat.add_left_cancel_iff]
  simpa only [decide_eq_true_eq] using hcount (flags &&& ORDER_ZERO_FIELD_BYTE_BIT0 ≠ 0)
    (flags &&& ORDER_ZERO_FIELD_BYTE_BIT1 ≠ 0) fieldBytes hfew

theorem read_order_info_isSome (flags : UInt8) (info : ORDER_INFO) (s : STREAM) :
    (read_order_info flags info s).isSome ↔ (order_type flags info s).1 < 28 := by
  have hlookup : ∀ (t : Nat) (s : STREAM) (f : UInt8 × STREAM → Option (ORDER_INFO × STREAM)),
      (∀ p, (f p).isSome) →
      ((((PRIMARY_DRAWING_ORDER_FIELD_BYTES[t]?).map (·, s)).bind f).isSome ↔ t < 28) := by
    intro t s f hf
    rcases Nat.lt_or_ge t 28 with ht | ht
    · rw [List.getElem?_eq_getElem (show t < PRIMARY_DRAWING_ORDER_FIELD_BYTES.length from ht)]
      exact iff_of_true (hf _) ht
    · rw [List.getElem?_eq_none ht]
      exact iff_of_false Bool.false_ne_true (by omega)
  have hbind : ∀ {α β : Type} (x : Reader α) (f : α → Reader β) (s : STREAM),
      (x >>= f) s = (x s).bind fun p => f p.1 p.2 := fun _ _ _ => rfl
  have hpure : ∀ {α : Type} (a : α) (s : STREAM), (pure a : Reader α) s = some (a, s) :=
    fun _ _ => rfl
  unfold read_order_info order_type
  split_ifs
  all_goals
    simp only [hbind, hpure, Reader.of, Option.bind_some]
    refine hlookup _ _ _ ?_
    intro _
    rfl

/-- The header of an order is bounded exactly if its type is in the table, and is no reserved one
if the flags leave out one byte. -/
theorem order_header_is_bounded_iff (flags : UInt8) (info : ORDER_INFO) (s : STREAM) :
    HeaderBounded flags info s ↔ (order_type flags info s).1 < 28 ∧
      (flags &&& ORDER_ZERO_FIELD_BYTE_BIT0 ≠ 0 →
        (order_type flags info s).1 ∉ [3, 4, 5, 6, 12, 23]) := by
  have htable : ∀ t < 28, ∃ fieldBytes ∈ [0, 1, 2, 3],
      PRIMARY_DRAWING_ORDER_FIELD_BYTES[t]? = some fieldBytes ∧
        (fieldBytes ≠ 0 ↔ t ∉ [3, 4, 5, 6, 12, 23]) := by
    decide +kernel
  constructor
  · intro h
    have ht := (read_order_info_isSome flags info s).mp h.lookup
    obtain ⟨fieldBytes, hfew, hentry, hzero⟩ := htable _ ht
    rw [← hzero]
    exact ⟨ht, (field_flags_pos_iff hfew _).mp (h.bytes fieldBytes hentry).2⟩
  · rintro ⟨ht, hknown⟩
    refine ⟨(read_order_info_isSome flags info s).mpr ht, fun fieldBytes hentry => ?_⟩
    obtain ⟨_, hfew, hentry', hzero⟩ := htable _ ht
    cases hentry.symm.trans hentry'
    rw [← hzero] at hknown
    have hle : ∀ v : UInt8, v ∈ [0, 1, 2, 3] → v.toNat ≤ 3 := by decide +kernel
    exact ⟨Nat.le_trans (Nat.sub_le _ _) (hle _ hfew), (field_flags_pos_iff hfew _).mpr hknown⟩

/-- The type 3 has no field bytes, and without one of them 255 bytes are read. The type 28 is
behind the table. -/
theorem reserved_type_reads_too_much :
    ¬ HeaderBounded 0x48 default (stream_of [3]) ∧
      ¬ HeaderBounded 0x08 default (stream_of [28]) := by
  refine ⟨fun h => ?_, fun h => absurd h.lookup (by decide)⟩
  have hbytes := (h.bytes 0 rfl).2
  unfold update_read_field_flags at hbytes
  rw [field_flags_loop_pos] at hbytes
  exact absurd hbytes (by decide)

end neutrinordp.orders
