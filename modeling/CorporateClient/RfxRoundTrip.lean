-- A composed RemoteFX message is read back. The reader goes from block to block by the lengths
-- that the composer put in, finds the rects and the tiles, and stops at the end of the message.
import CorporateClient.RfxGray
import CorporateClient.RfxPool

namespace neutrinordp.rfx

open List bytes stream

/-! ## Memory that holds bytes -/

/-- The bytes stand in memory from `p` on. -/
def Holds (m : Memory) (p : Int) (bs : List UInt8) : Prop := bytes_at m p bs.length = bs

section reads

variable {m : Memory} {p : Int}

theorem length_bytes_at (m : Memory) (p : Int) (n : Nat) : (bytes_at m p n).length = n := by
  rw [bytes_at, length_map, length_range]

theorem bytes_at_add (m : Memory) (p : Int) (a b : Nat) :
    bytes_at m p (a + b) = bytes_at m p a ++ bytes_at m (p + a) b := by
  unfold bytes_at
  rw [range_add, map_append, map_map]
  congr 1
  refine map_congr_left fun i _ => ?_
  show m (p + ((a + i : Nat) : Int)) = m (p + a + i)
  congr 1
  omega

theorem Holds.split {a b : Bytes} (h : Holds m p (a ++ b)) :
    Holds m p a ∧ Holds m (p + a.length) b := by
  unfold Holds at h ⊢
  rw [length_append, bytes_at_add] at h
  exact append_inj h (length_bytes_at m p a.length)

theorem Holds.at {bs : Bytes} {q : Int} (h : Holds m p bs) (hq : p = q) : Holds m q bs := by
  subst hq
  exact h

theorem Holds.byte {bs : Bytes} (h : Holds m p bs) (i : Nat) {b : UInt8}
    (hb : bs[i]? = some b) : m (p + i) = b := by
  obtain ⟨hlt, -⟩ := List.getElem?_eq_some_iff.mp hb
  rw [← h, bytes_at, List.getElem?_map, List.getElem?_range hlt, Option.map_some] at hb
  exact Option.some.inj hb

theorem Holds.uint8 {b : UInt8} (h : Holds m p [b]) : uint8_at m p = b.toNat := by
  have hbyte := h.byte 0 rfl
  rw [Int.natCast_zero, Int.add_zero] at hbyte
  rw [uint8_at, hbyte]

theorem Holds.uint16 {v : Nat} (h : Holds m p (le16 v)) : uint16_at m p = v % 65536 := by
  have h0 := h.byte 0 rfl
  have h1 := h.byte 1 rfl
  rw [Int.natCast_zero, Int.add_zero] at h0
  rw [← ofLe16_le16, uint16_at, h0]
  exact congrArg (ofLe16 _) h1

theorem Holds.read16 {v : Nat} (h : Holds m p (le16 v)) (hv : v < 65536) : uint16_at m p = v :=
  h.uint16.trans (Nat.mod_eq_of_lt hv)

theorem Holds.uint32 {v : Nat} (h : Holds m p (le32 v)) : uint32_at m p = v % 4294967296 := by
  have h0 := h.byte 0 rfl
  have h1 : m (p + 1) = _ := h.byte 1 rfl
  have h2 : m (p + 2) = _ := h.byte 2 rfl
  have h3 : m (p + 3) = _ := h.byte 3 rfl
  rw [Int.natCast_zero, Int.add_zero] at h0
  rw [← ofLe32_le32, uint32_at, h0, h1, h2, h3]

theorem Holds.bytes {bs : Bytes} (h : Holds m p bs) {n : Nat} (hn : bs.length = n) :
    bytes_at m p n = bs := by
  subst hn
  exact h

end reads

/-! ## Blocks -/

theorem sint32_of_range {v : Int} (h : 0 ≤ v) (h' : v < 2147483648) : sint32 v = v :=
  BitVec.toInt_ofInt_eq_self (by decide) (by omega) h'

section blocks

variable {m : Memory} {s : Parse} {blockType : Nat} {body : Bytes}

/-- Where the body of a block starts that is at `p`. -/
def body_at (blockType : Nat) (p : Int) : Int :=
  if blockType ≥ WBT_CONTEXT ∧ blockType ≤ WBT_EXTENSION then p + 8 else p + 6

theorem process_turn_block (h : Holds m s.p (block blockType body)) (htype : blockType < 65536)
    (hp : 0 ≤ s.p) (hend : s.p + (block blockType body).length < 2147483648) :
    process_turn m s = some (process_block m blockType (body_at blockType s.p)
      (s.p + (block blockType body).length) s) := by
  obtain ⟨hhead, -⟩ := h.split
  obtain ⟨ht, hl⟩ := hhead.split
  rw [length_block] at hend ⊢
  have hblockType := ht.read16 htype
  have hblockLen : uint32_at m (s.p + 2) = (6 + body.length) % 4294967296 := hl.uint32
  rw [Nat.mod_eq_of_lt (by omega)] at hblockLen
  unfold process_turn
  rw [hblockType, hblockLen, if_neg (by omega), sint32_of_range (by omega) (by omega)]
  rfl

/-! ## The header and the frame -/

/-- What the header and the frame blocks leave alone. -/
structure Keeps (context context' : RFX_CONTEXT) : Prop where
  pixel_format : context'.pixel_format = context.pixel_format
  pool : context'.pool = context.pool
  buffers : context'.buffers = context.buffers
  behind_quants : context'.behind_quants = context.behind_quants

theorem Keeps.refl (context : RFX_CONTEXT) : Keeps context context := ⟨rfl, rfl, rfl, rfl⟩

theorem Keeps.trans {a b c : RFX_CONTEXT} (h : Keeps a b) (h' : Keeps b c) : Keeps a c :=
  ⟨h'.pixel_format.trans h.pixel_format, h'.pool.trans h.pool, h'.buffers.trans h.buffers,
    h'.behind_quants.trans h.behind_quants⟩

theorem header_block_keeps (m : Memory) (p : Int) (context : RFX_CONTEXT) :
    ∀ read ∈ [rfx_process_message_sync, rfx_process_message_codec_versions,
      rfx_process_message_channels],
      Keeps context (read m p context) ∧ (read m p context).mode = context.mode := by
  simp only [forall_mem_cons, rfx_process_message_sync, rfx_process_message_codec_versions,
    rfx_process_message_channels]
  refine ⟨?_, ?_, ?_, by simp⟩
  all_goals
    split_ifs
    · exact ⟨.refl _, rfl⟩
    · exact ⟨⟨rfl, rfl, rfl, rfl⟩, rfl⟩

theorem entropy_bit (flags : Nat) (mode : RLGR_MODE) {i : Nat} (hi : i < 4)
    (hbit : (clw_entropy mode).testBit i = true) :
    ((((flags ||| (COL_CONV_ICT <<< 3) ||| (CLW_XFORM_DWT_53_A <<< 5) |||
      (clw_entropy mode <<< 9) ||| (SCALAR_QUANTIZATION <<< 13)) % 65536) &&&
        0x1E00) >>> 9).testBit i = true := by
  have hword : (65536 : Nat) = 2 ^ 16 := rfl
  have hmask : (0x1E00).testBit (9 + i) = true := by
    have hall : ∀ j < 4, (0x1E00).testBit (9 + j) = true := by decide
    exact hall i hi
  have hentropy : (clw_entropy mode <<< 9).testBit (9 + i) = true := by
    rw [Nat.testBit_shiftLeft, Nat.add_sub_cancel_left, hbit]
    simp
  rw [Nat.testBit_shiftRight, Nat.testBit_and, hmask, hword, Nat.testBit_mod_two_pow,
    Nat.testBit_or, Nat.testBit_or, hentropy]
  simp
  omega

theorem entropy_names (w : RFX_CONTEXT) {entropy : Nat}
    (h : entropy = ((context_properties w % 65536) &&& 0x1E00) >>> 9) :
    (entropy = CLW_ENTROPY_RLGR1 → w.mode = .RLGR1) ∧
      (entropy = CLW_ENTROPY_RLGR3 → w.mode = .RLGR3) := by
  unfold context_properties at h
  cases hmode : w.mode with
  | RLGR1 =>
    rw [hmode] at h
    have hbit := entropy_bit w.flags .RLGR1 (i := 0) (by decide) rfl
    rw [← h] at hbit
    refine ⟨fun _ => rfl, fun hthree => ?_⟩
    rw [hthree] at hbit
    cases hbit
  | RLGR3 =>
    rw [hmode] at h
    have hbit := entropy_bit w.flags .RLGR3 (i := 2) (by decide) rfl
    rw [← h] at hbit
    refine ⟨fun hone => ?_, fun _ => rfl⟩
    rw [hone] at hbit
    cases hbit

theorem entropy_known (w : RFX_CONTEXT) (hflags : w.flags < 8) :
    ((context_properties w % 65536) &&& 0x1E00) >>> 9 = clw_entropy w.mode := by
  have hall : ∀ flags < 8, ∀ mode : RLGR_MODE,
      (((flags ||| (COL_CONV_ICT <<< 3) ||| (CLW_XFORM_DWT_53_A <<< 5) |||
        (clw_entropy mode <<< 9) ||| (SCALAR_QUANTIZATION <<< 13)) % 65536) &&& 0x1E00) >>> 9 =
        clw_entropy mode := by
    intro flags hflags mode
    cases mode
    · revert flags
      decide
    · revert flags
      decide
  exact hall w.flags hflags w.mode

theorem context_mode {p : Int} {context w : RFX_CONTEXT}
    (h : Holds m (p + 3) (le16 (context_properties w)))
    (hmode : context.mode = w.mode ∨ w.flags < 8) :
    (rfx_process_message_context m p context).mode = w.mode := by
  unfold rfx_process_message_context
  dsimp only
  rw [h.uint16]
  generalize hentropy : ((context_properties w % 65536) &&& 0x1E00) >>> 9 = entropy
  obtain ⟨hone, hthree⟩ := entropy_names w hentropy.symm
  split_ifs with h1 h3
  · exact (hone h1).symm
  · exact (hthree h3).symm
  · rcases hmode with hmode | hflags
    · exact hmode
    · rw [← hentropy, entropy_known w hflags] at h1 h3
      cases hw : w.mode with
      | RLGR1 => exact absurd (by rw [hw]; rfl) h1
      | RLGR3 => exact absurd (by rw [hw]; rfl) h3

theorem context_keeps (m : Memory) (p : Int) (context : RFX_CONTEXT) :
    Keeps context (rfx_process_message_context m p context) := ⟨rfl, rfl, rfl, rfl⟩

end blocks

/-! ## Rects -/

section rects

variable {m : Memory}

theorem rect_at_holds {p : Int} {rect : RFX_RECT} (h : Holds m p (rect_bytes rect)) :
    rect_at m p = rect := by
  have hfield : ∀ v : UInt16, UInt16.ofNat (v.toNat % 65536) = v := fun v => by
    rw [Nat.mod_eq_of_lt v.toNat_lt, UInt16.ofNat_toNat]
  obtain ⟨h, hheight⟩ := h.split
  obtain ⟨h, hwidth⟩ := h.split
  obtain ⟨hx, hy⟩ := h.split
  have hy' : Holds m (p + 2) (le16 rect.y.toNat) := hy
  have hwidth' : Holds m (p + 4) (le16 rect.width.toNat) := hwidth
  have hheight' : Holds m (p + 6) (le16 rect.height.toNat) := hheight
  unfold rect_at
  rw [hx.uint16, hy'.uint16, hwidth'.uint16, hheight'.uint16, hfield, hfield, hfield, hfield]

theorem rects_at {p : Int} (rects : List RFX_RECT) (h : Holds m p (rects.flatMap rect_bytes)) :
    ((range rects.length).map fun i : Nat => rect_at m (p + 8 * i)) = rects := by
  induction rects generalizing p with
  | nil => rfl
  | cons rect rects ih =>
    obtain ⟨hfirst, hrest⟩ := h.split
    have hnext : Holds m (p + 8) (rects.flatMap rect_bytes) := hrest
    rw [length_cons, range_succ_eq_map, map_cons, map_map]
    have hhead : rect_at m (p + 8 * ((0 : Nat) : Int)) = rect := by
      rw [Int.natCast_zero, Int.mul_zero, Int.add_zero]
      exact rect_at_holds hfirst
    have htail : (range rects.length).map ((fun i : Nat => rect_at m (p + 8 * i)) ∘ Nat.succ) =
        rects := by
      refine Eq.trans (map_congr_left fun i _ => ?_) (ih hnext)
      show rect_at m (p + 8 * ((i + 1 : Nat) : Int)) = rect_at m (p + 8 + 8 * i)
      congr 1
      omega
    rw [hhead, htail]

theorem region_read {p : Int} {rects : List RFX_RECT} {message : RFX_MESSAGE}
    (h : Holds m p ([1, 0, 1] ++ le16 rects.length ++ rects.flatMap rect_bytes ++
      le16 CBT_REGION ++ le16 1)) (hsome : 1 ≤ rects.length) (hmax : rects.length ≤ 65535) :
    rfx_process_message_region m (p + 2) message =
      { message with num_rects := rects.length, rects := rects } := by
  obtain ⟨h, -⟩ := h.split
  obtain ⟨h, -⟩ := h.split
  obtain ⟨h, hrects⟩ := h.split
  obtain ⟨-, hnum⟩ := h.split
  have hnum' : uint16_at m (p + 2 + 1) = rects.length :=
    (hnum.at (by show p + 3 = _; omega)).read16 (by omega)
  have hlist := rects_at rects (hrects.at (q := p + 2 + 3) (by
    show p + 5 = _
    omega))
  unfold rfx_process_message_region
  rw [hnum', if_neg (by omega), hlist]

end rects

/-! ## Quantization tables -/

/-- Tables of ten values that fit four bits, and indices of tables that are there. -/
structure QuantsOk (q : QuantSet) : Prop where
  some : 1 ≤ q.numQuants
  max : q.numQuants ≤ 255
  length : q.quantVals.length = 10 * q.numQuants
  values : ∀ v ∈ q.quantVals, 6 ≤ v ∧ v ≤ 15
  y : q.quantIdxY < q.numQuants
  cb : q.quantIdxCb < q.numQuants
  cr : q.quantIdxCr < q.numQuants

theorem quant_byte : ∀ a ≤ 15, ∀ b ≤ 15, [(UInt8.ofNat (a + (b <<< 4))).toNat &&& 0x0F,
    (UInt8.ofNat (a + (b <<< 4))).toNat >>> 4] = [a, b] := by
  decide +kernel

theorem quant_pairs (d : Nat → Nat) (k : Nat) (l : List Nat) (hlength : l.length = 2 * k)
    (hvalues : ∀ v ∈ l, v ≤ 15) :
    ((range k).map fun i => UInt8.ofNat (l.getD (2 * i) (d (2 * i)) +
        (l.getD (2 * i + 1) (d (2 * i + 1)) <<< 4))).flatMap
      (fun quant => [quant.toNat &&& 0x0F, quant.toNat >>> 4]) = l := by
  induction k generalizing l d with
  | zero =>
    obtain rfl := length_eq_zero_iff.mp hlength
    rfl
  | succ k ih =>
    obtain ⟨a, b, rest, rfl⟩ : ∃ a b rest, l = a :: b :: rest := by
      match l, hlength with
      | a :: b :: rest, _ => exact ⟨a, b, rest, rfl⟩
      | [], h => rw [length_nil] at h; omega
      | [_], h => rw [length_singleton] at h; omega
    have hrest := ih (fun i => d (i + 2)) rest (by
      rw [length_cons, length_cons] at hlength
      omega) fun v hv => hvalues v (mem_cons_of_mem _ (mem_cons_of_mem _ hv))
    rw [range_succ_eq_map, map_cons, flatMap_cons, map_map]
    have hfirst := quant_byte a (hvalues a mem_cons_self) b
      (hvalues b (mem_cons_of_mem _ mem_cons_self))
    refine Eq.trans (congrArg₂ (· ++ ·) hfirst ?_) (show [a, b] ++ rest = a :: b :: rest from rfl)
    exact hrest

variable {m : Memory} {q : QuantSet}

variable {w r : RFX_CONTEXT} {codes : List TileCode} {p size : Int} {image : Image} {s : Parse}
    {rects : List RFX_RECT} {rest : Bytes} {turns : Nat} {owned : List Nat}

theorem quants_read (h : Holds m p q.bytes) (hq : QuantsOk q) :
    quants_at m p q.numQuants = q.quantVals := by
  have hlength := hq.length
  unfold quants_at
  rw [h.bytes (by rw [length_quant_bytes, Nat.mul_comm])]
  exact quant_pairs q.behind (q.numQuants * 5) q.quantVals (by omega) fun v hv =>
    (hq.values v hv).2

theorem quant_values_inside {quants : List Nat} {idx : Nat} (b b' : Nat → Nat)
    (h : idx * 10 + 10 ≤ quants.length) :
    quant_values quants b idx = quant_values quants b' idx := by
  refine map_congr_left fun i hi => ?_
  rw [mem_range] at hi
  rw [getD_eq_getElem _ _ (by omega), getD_eq_getElem _ _ (by omega)]

theorem tile_quants_read (hq : QuantsOk q) (behind : Nat → Nat) :
    ({ y := quant_values q.quantVals behind q.quantIdxY
       cb := quant_values q.quantVals behind q.quantIdxCb
       cr := quant_values q.quantVals behind q.quantIdxCr } : TileQuants) = q.tile_quants := by
  have hlength := hq.length
  have hy := hq.y
  have hcb := hq.cb
  have hcr := hq.cr
  unfold QuantSet.tile_quants
  rw [quant_values_inside behind q.behind (by omega),
    quant_values_inside behind q.behind (by omega), quant_values_inside behind q.behind (by omega)]

/-! ## Tiles -/

def store_tile (quants : TileQuants) (tile : Nat) (xIdx yIdx : Nat) (code : TileCode)
    (context : RFX_CONTEXT) : RFX_CONTEXT :=
  let decoded := rfx_decode_rgb context.mode context.pixel_format code quants context.buffers
    (context.pool.heap tile).data
  { context with
    buffers := decoded.1
    pool := context.pool.store tile
      ⟨UInt16.ofNat (xIdx * 64), UInt16.ofNat (yIdx * 64), decoded.2⟩ }

/-- Each of the three codes fits the `uint16` of its length. -/
def TileCode.Small (code : TileCode) : Prop :=
  code.Y.length < 65536 ∧ code.Cb.length < 65536 ∧ code.Cr.length < 65536

theorem tile_read {xIdx yIdx : Nat} (tile : Nat) {code : TileCode} {context : RFX_CONTEXT}
    (h : Holds m p (tile_block q xIdx yIdx code)) (hq : QuantsOk q) (hcode : code.Small)
    (hx : xIdx < 65536) (hy : yIdx < 65536) (hquants : context.quants = q.quantVals) :
    rfx_process_message_tile m (p + 6) context tile =
      store_tile q.tile_quants tile xIdx yIdx code context := by
  obtain ⟨hY, hCb, hCr⟩ := hcode
  have hmax := hq.max
  have hidx : ∀ idx < q.numQuants, (UInt8.ofNat idx).toNat = idx := fun idx hidx => by
    rw [UInt8.toNat_ofNat']
    omega
  have hbody : Holds m (p + 6) (tile_head q xIdx yIdx ++ le16 code.Y.length ++
      le16 code.Cb.length ++ le16 code.Cr.length ++ code.Y ++ code.Cb ++ code.Cr) := h.split.2
  obtain ⟨hbody, hcr⟩ := hbody.split
  obtain ⟨hbody, hcb⟩ := hbody.split
  obtain ⟨hbody, hyc⟩ := hbody.split
  obtain ⟨hbody, hcrLen⟩ := hbody.split
  obtain ⟨hbody, hcbLen⟩ := hbody.split
  obtain ⟨hhead, hyLen⟩ := hbody.split
  obtain ⟨hhead, hyIdx⟩ := hhead.split
  obtain ⟨hidxs, hxIdx⟩ := hhead.split
  obtain ⟨hidxY, hidxs⟩ := Holds.split (a := [_]) hidxs
  obtain ⟨hidxCb, hidxCr⟩ := Holds.split (a := [_]) hidxs
  have eY : uint8_at m (p + 6) = q.quantIdxY := by rw [← hidx _ hq.y, ← hidxY.uint8]
  have eCb : uint8_at m (p + 6 + 1) = q.quantIdxCb := by rw [← hidx _ hq.cb, ← hidxCb.uint8]; rfl
  have eCr : uint8_at m (p + 6 + 2) = q.quantIdxCr := by
    rw [← hidx _ hq.cr, ← (hidxCr.at (q := p + 6 + 2) (by show p + 6 + 1 + 1 = _; omega)).uint8]
  have exIdx : uint16_at m (p + 6 + 3) = xIdx := hxIdx.read16 hx
  have eyIdx : uint16_at m (p + 6 + 5) = yIdx := hyIdx.read16 hy
  have eYLen : uint16_at m (p + 6 + 7) = code.Y.length := hyLen.read16 hY
  have eCbLen : uint16_at m (p + 6 + 9) = code.Cb.length := hcbLen.read16 hCb
  have eCrLen : uint16_at m (p + 6 + 11) = code.Cr.length := hcrLen.read16 hCr
  have eYData : bytes_at m (p + 6 + 13) code.Y.length = code.Y := hyc.bytes rfl
  have eCbData : bytes_at m (p + 6 + 13 + code.Y.length) code.Cb.length = code.Cb := by
    refine (hcb.at ?_).bytes rfl
    rw [length_append]
    show p + 6 + ((13 + code.Y.length : Nat) : Int) = _
    omega
  have eCrData : bytes_at m (p + 6 + 13 + code.Y.length + code.Cb.length) code.Cr.length =
      code.Cr := by
    refine (hcr.at ?_).bytes rfl
    rw [length_append, length_append]
    show p + 6 + ((13 + code.Y.length + code.Cb.length : Nat) : Int) = _
    omega
  have hvalues := tile_quants_read hq context.behind_quants
  unfold rfx_process_message_tile store_tile RFX_CONTEXT.quant_values
  dsimp only
  rw [eY, eCb, eCr, exIdx, eyIdx, eYLen, eCbLen, eCrLen, eYData, eCbData, eCrData, hquants, hvalues]

def store_tiles (quants : TileQuants) :
    List Nat → List ((Nat × Nat) × TileCode) → RFX_CONTEXT → RFX_CONTEXT
  | tile :: tiles, ((xIdx, yIdx), code) :: codes, context =>
    store_tiles quants tiles codes (store_tile quants tile xIdx yIdx code context)
  | _, _, context => context

/-- Tiles whose indices and lengths fit 16 bits. -/
def TilesFit (tiles : List ((Nat × Nat) × TileCode)) : Prop :=
  ∀ tile ∈ tiles, tile.1.1 < 65536 ∧ tile.1.2 < 65536 ∧ tile.2.Small

theorem tile_loop_read (hq : QuantsOk q) (tiles : List ((Nat × Nat) × TileCode)) (ids : List Nat)
    (context : RFX_CONTEXT) (hids : ids.length = tiles.length) (h : Holds m p (tile_blocks q tiles))
    (hfit : TilesFit tiles) (hp : 0 ≤ p) (hend : p + (tile_blocks q tiles).length < 2147483648)
    (hquants : context.quants = q.quantVals) :
    tile_loop m ids p context = store_tiles q.tile_quants ids tiles context := by
  induction tiles generalizing ids p context with
  | nil =>
    obtain rfl := length_eq_zero_iff.mp hids
    rfl
  | cons tile tiles ih =>
    obtain ⟨id, ids, rfl⟩ := exists_cons_of_length_eq_add_one hids
    obtain ⟨⟨xIdx, yIdx⟩, code⟩ := tile
    obtain ⟨hx, hy, hcode⟩ := hfit _ mem_cons_self
    rw [tile_blocks, flatMap_cons, length_append] at hend
    obtain ⟨htile, hrest⟩ := h.split
    have hread := tile_read id htile hq hcode hx hy hquants
    obtain ⟨hhead, -⟩ := htile.split
    obtain ⟨htype, hlen⟩ := hhead.split
    have hlength : (tile_block q xIdx yIdx code).length = 6 + _ := length_block _ _
    have hblockLen : uint32_at m (p + 2) = (tile_block q xIdx yIdx code).length := by
      have hlen' : uint32_at m (p + 2) = _ := hlen.uint32
      rw [hlen', ← hlength, Nat.mod_eq_of_lt]
      dsimp only at hend
      omega
    have hblockType : uint16_at m p = CBT_TILE := htype.uint16
    dsimp only at hend hrest
    rw [tile_loop, hblockType, hblockLen, if_neg (fun hne => hne rfl),
      sint32_of_range (by omega) (by omega), hread, store_tiles]
    exact ih ids _ (by simpa using hids) hrest
      (forall_mem_cons.mp hfit).2 (by omega)
      (by rw [tile_blocks]; push_cast at hend; omega) hquants

/-! ## What is in the tiles -/

/-- The tiles that come out of some codes: each is decoded over the buffers that the one before
left, and over the data that its memory held. -/
def decoded_tiles (mode : RLGR_MODE) (pixel_format : RFX_PIXEL_FORMAT) (quants : TileQuants) :
    Buffers → List ((Nat × Nat) × TileCode) → List (List UInt8) → List RFX_TILE
  | buffers, ((xIdx, yIdx), code) :: tiles, old :: olds =>
    let decoded := rfx_decode_rgb mode pixel_format code quants buffers old
    ⟨UInt16.ofNat (xIdx * 64), UInt16.ofNat (yIdx * 64), decoded.2⟩ ::
      decoded_tiles mode pixel_format quants decoded.1 tiles olds
  | _, _, _ => []

theorem store_tiles_other (quants : TileQuants) (ids : List Nat)
    (tiles : List ((Nat × Nat) × TileCode)) (context : RFX_CONTEXT) {id : Nat} (h : id ∉ ids) :
    (store_tiles quants ids tiles context).pool.heap id = context.pool.heap id := by
  induction ids generalizing tiles context with
  | nil => rfl
  | cons first ids ih =>
    rw [mem_cons, not_or] at h
    cases tiles with
    | nil => rfl
    | cons tile tiles =>
      rw [store_tiles, ih _ _ h.2]
      exact if_neg h.1

theorem store_tiles_heap (quants : TileQuants) {ids : List Nat} (hids : ids.Nodup)
    (tiles : List ((Nat × Nat) × TileCode)) (context : RFX_CONTEXT)
    (hlength : ids.length = tiles.length) :
    ids.map (store_tiles quants ids tiles context).pool.heap =
      decoded_tiles context.mode context.pixel_format quants context.buffers tiles
        (ids.map fun id => (context.pool.heap id).data) := by
  induction ids generalizing tiles context with
  | nil =>
    obtain rfl := length_eq_zero_iff.mp hlength.symm
    rfl
  | cons id ids ih =>
    obtain ⟨tile, tiles, rfl⟩ := exists_cons_of_length_eq_add_one hlength.symm
    obtain ⟨⟨xIdx, yIdx⟩, code⟩ := tile
    obtain ⟨hid, hids⟩ := nodup_cons.mp hids
    have hrest := ih hids tiles (store_tile quants id xIdx yIdx code context)
      (by simpa using hlength)
    have holds : (ids.map fun j =>
        ((store_tile quants id xIdx yIdx code context).pool.heap j).data) =
        ids.map fun j => (context.pool.heap j).data := by
      apply map_congr_left
      intro j hj
      have hne : j ≠ id := fun heq => hid (heq ▸ hj)
      exact congrArg RFX_TILE.data (if_neg hne)
    rw [holds] at hrest
    rw [store_tiles, map_cons, map_cons, decoded_tiles, store_tiles_other _ _ _ _ hid, hrest]
    congr 1
    exact if_pos rfl

theorem get_tile_data (pool : RFX_POOL) (id : Nat) :
    ((rfx_pool_get_tile pool).2.heap id).data = (pool.heap id).data := by
  unfold rfx_pool_get_tile
  cases pool.tiles with
  | nil =>
    show (if id = pool.allocated then _ else pool.heap id).data = _
    split_ifs with h
    · rw [h]
    · rfl
  | cons tile tiles => rfl

theorem get_tiles_data (count : Nat) (pool : RFX_POOL) (id : Nat) :
    ((rfx_pool_get_tiles count pool).2.heap id).data = (pool.heap id).data := by
  induction count generalizing pool with
  | zero => rfl
  | succ count ih =>
    exact (ih _).trans (get_tile_data pool id)

/-! ## The tileset -/

/-- The context of the reader when the tileset is there, but for the tiles. -/
def tileset_context (q : QuantSet) (numTiles : Nat) (context : RFX_CONTEXT) : RFX_CONTEXT :=
  { context with
    num_quants := q.numQuants
    quants := q.quantVals
    pool := (rfx_pool_get_tiles numTiles context.pool).2 }

theorem tileset_read (context : RFX_CONTEXT) (message : RFX_MESSAGE) {properties numTiles : Nat}
    {tiles : List ((Nat × Nat) × TileCode)} {body : Bytes}
    (hbody : tileset_head properties numTiles q ++ le32 (tile_blocks q tiles).length ++ q.bytes ++
      tile_blocks q tiles = body) (h : Holds m p body)
    (hq : QuantsOk q) (hfit : TilesFit tiles) (hsome : 1 ≤ numTiles) (hmax : numTiles < 65536)
    (hcount : tiles.length = numTiles) (hp : 0 ≤ p)
    (hend : p + body.length < 2147483648)
    (hids : (rfx_pool_get_tiles numTiles context.pool).1.length = numTiles) :
    rfx_process_message_tileset m (p + 2) context message =
      (store_tiles q.tile_quants (rfx_pool_get_tiles numTiles context.pool).1 tiles
        (tileset_context q numTiles context),
        { message with
          num_tiles := numTiles
          tiles := (rfx_pool_get_tiles numTiles context.pool).1 }) := by
  subst hbody
  obtain ⟨h, htiles⟩ := h.split
  obtain ⟨h, hquants⟩ := h.split
  obtain ⟨h, -⟩ := h.split
  obtain ⟨h, hnum⟩ := h.split
  obtain ⟨h, hnumQuants⟩ := h.split
  obtain ⟨h, -⟩ := h.split
  obtain ⟨h, -⟩ := h.split
  obtain ⟨-, htype⟩ := h.split
  obtain ⟨hnumQuants, -⟩ := Holds.split (a := [_]) hnumQuants
  have hmaxQuants := hq.max
  have eType : uint16_at m (p + 2) = CBT_TILESET := htype.uint16
  have eNumQuants : uint8_at m (p + 2 + 6) = q.numQuants := by
    have hvalue := (hnumQuants.at (q := p + 2 + 6) (by
      show p + 8 = _
      omega)).uint8
    rw [hvalue, UInt8.toNat_ofNat']
    omega
  have eNumTiles : uint16_at m (p + 2 + 8) = numTiles :=
    (hnum.at (by show p + 10 = _; omega)).read16 hmax
  have eQuants : quants_at m (p + 2 + 14) q.numQuants = q.quantVals := by
    refine quants_read (hquants.at ?_) hq
    show p + 16 = _
    omega
  have hbytes := length_quant_bytes q
  have hhead : (tileset_head properties numTiles q ++
      le32 (tile_blocks q tiles).length).length = 16 := rfl
  rw [length_append, length_append, hhead] at hend
  have hloop := tile_loop_read hq tiles (rfx_pool_get_tiles numTiles context.pool).1
    (tileset_context q numTiles context)
    (p := p + 2 + 14 + 5 * q.numQuants) (by rw [hids, hcount])
    (htiles.at (by rw [length_append, hhead]; push_cast; omega)) hfit (by omega)
    (by push_cast at hend; omega) rfl
  unfold rfx_process_message_tileset
  rw [eType, if_neg (fun hne => hne rfl), eNumQuants, if_neg (Nat.not_lt.mpr hq.some), eNumTiles,
    if_neg (Nat.not_lt.mpr hsome), eQuants]
  exact congrArg (·, _) hloop

/-! ## The whole message -/

theorem process_block_p (m : Memory) (blockType : Nat) (body pos : Int) (s : Parse) :
    (process_block m blockType body pos s).p = pos := by
  unfold process_block
  split_ifs <;> rfl

theorem Holds.body {blockType : Nat} {body : Bytes}
    (h : Holds m p (block blockType body ++ rest)) : Holds m (p + 6) body :=
  h.split.1.split.2

/-- The rest of a message is in front of the reader. -/
structure Ahead (m : Memory) (size : Int) (s : Parse) (bs : List UInt8) : Prop where
  holds : Holds m s.p bs
  start : 0 ≤ s.p
  total : s.p + bs.length = size
  max : size < 2147483648

theorem next_block {blockType : Nat} {body : Bytes} (turns : Nat)
    (h : Ahead m size s (block blockType body ++ rest)) (htype : blockType < 65536)
    (hbody : 0 < body.length) :
    ∃ s', process_loop m size (turns + 1) s = process_loop m size turns s' ∧
      s' = process_block m blockType (body_at blockType s.p)
        (s.p + (block blockType body).length) s ∧ Ahead m size s' rest := by
  obtain ⟨hholds, hp, hsize, hmax⟩ := h
  obtain ⟨hblock, hrest⟩ := hholds.split
  have hlength := length_block blockType body
  rw [length_append] at hsize
  refine ⟨_, ?_, rfl, ?_⟩
  · rw [process_loop, if_pos (by omega), process_turn_block hblock htype hp (by omega)]
  · refine ⟨?_, ?_, ?_, hmax⟩ <;> rw [process_block_p]
    · exact hrest
    · omega
    · omega

theorem quant_set_frame (w : RFX_CONTEXT) : quant_set (frame_context w) = quant_set w := by
  unfold frame_context
  split_ifs
  · rfl
  · rfl

theorem default_quants_ok (h : w.num_quants = 0) : QuantsOk (quant_set w) := by
  unfold quant_set
  rw [if_pos h]
  constructor <;> dsimp only <;> decide

theorem length_tiles (image : Image) : image.tiles.length = image.numTilesX * image.numTilesY := by
  unfold Image.tiles
  simp [Nat.mul_comm]

theorem tiles_fit (hmax : image.numTilesX * image.numTilesY < 65536)
    (hcodes : ∀ code ∈ codes, code.Small) :
    TilesFit (image.tiles.zip codes) := by
  rintro ⟨⟨xIdx, yIdx⟩, code⟩ hmem
  obtain ⟨htile, hcode⟩ := of_mem_zip hmem
  obtain ⟨hx, hy⟩ := mem_tiles htile
  dsimp only at hx hy ⊢
  have hxmax : image.numTilesX ≤ image.numTilesX * image.numTilesY :=
    Nat.le_mul_of_pos_right _ (by omega)
  have hymax : image.numTilesY ≤ image.numTilesX * image.numTilesY :=
    Nat.le_mul_of_pos_left _ (by omega)
  exact ⟨by omega, by omega, hcodes code hcode⟩

/-- A message that the fields of the blocks can carry: some rects, and a code for each tile. -/
structure Sendable (q : QuantSet) (rects : List RFX_RECT) (image : Image) (codes : List TileCode) :
    Prop where
  quants : QuantsOk q
  someRects : 1 ≤ rects.length
  maxRects : rects.length ≤ 65535
  tiles : 1 ≤ image.numTilesX * image.numTilesY
  maxTiles : image.numTilesX * image.numTilesY < 65536
  count : codes.length = image.tiles.length
  codes : ∀ code ∈ codes, code.Small

theorem Sendable.zip (h : Sendable q rects image codes) :
    (image.tiles.zip codes).length = image.numTilesX * image.numTilesY := by
  rw [length_zip, h.count, Nat.min_self, length_tiles]

theorem frame_read (h : Ahead m size s (frame_blocks w rects image codes))
    (hfit : Sendable (quant_set w) rects image codes)
    (hids : (rfx_pool_get_tiles (image.numTilesX * image.numTilesY) s.context.pool).1.length =
      image.numTilesX * image.numTilesY) (hturns : 5 ≤ turns) :
    process_loop m size turns s = some
      { p := size
        context := store_tiles (quant_set w).tile_quants
          (rfx_pool_get_tiles (image.numTilesX * image.numTilesY) s.context.pool).1
          (image.tiles.zip codes)
          (tileset_context (quant_set w) (image.numTilesX * image.numTilesY) s.context)
        message :=
          { s.message with
            num_rects := rects.length
            rects := rects
            num_tiles := image.numTilesX * image.numTilesY
            tiles :=
              (rfx_pool_get_tiles (image.numTilesX * image.numTilesY) s.context.pool).1 } } := by
  obtain ⟨turns, rfl⟩ : ∃ t, turns = t + 5 := ⟨turns - 5, by omega⟩
  unfold frame_blocks frame_begin_block region_block tileset_block frame_end_block at h
  rw [append_assoc, append_assoc] at h
  obtain ⟨s1, hloop1, hs1, h1⟩ := next_block (turns + 4) h (by decide) (by simp)
  obtain ⟨s2, hloop2, hs2, h2⟩ := next_block (turns + 3) h1 (by decide) (by simp)
  obtain ⟨s3, hloop3, hs3, h3⟩ := next_block (turns + 2) h2 (by decide) (by simp [tileset_head])
  obtain ⟨s4, hloop4, hs4, h4⟩ := next_block (turns + 1) h3 (by decide) (by simp)
  -- the frame blocks say nothing, the others give the rects and the tiles
  have hbody : ∀ p : Int, p + 8 = p + 6 + 2 := fun p => by omega
  have hcontext1 : s1.context = s.context := by
    rw [hs1]
    rfl
  have hmessage1 : s1.message = s.message := by
    rw [hs1]
    rfl
  have hcontext2 : s2.context = s.context := by
    rw [hs2, ← hcontext1]
    rfl
  have hmessage2 : s2.message = { s.message with num_rects := rects.length, rects := rects } := by
    rw [hs2, ← hmessage1, ← region_read h1.holds.body hfit.someRects hfit.maxRects, ← hbody]
    rfl
  have hp2 := h2.start
  have hsize2 := h2.total
  have hmax := h2.max
  have hread := tileset_read s2.context s2.message rfl h2.holds.body hfit.quants
    (tiles_fit hfit.maxTiles hfit.codes) hfit.tiles hfit.maxTiles hfit.zip (by omega)
    (by rw [length_append, length_block] at hsize2; omega) (by rw [hcontext2]; exact hids)
  rw [← hbody] at hread
  have hs3 : s3 = ⟨_, _, _⟩ := hs3.trans (process_block_extension (m := m) (s2.p + 8) _ s2)
  rw [hread] at hs3
  have hdone : s4.p = size := by simpa using h4.total
  have hs4 : s4 = { s3 with p := size } := by
    rw [← hdone, hs4]
    rfl
  rw [hloop1, hloop2, hloop3, hloop4, process_loop, if_neg (by omega), hs4, hs3, hcontext2,
    hmessage2]

theorem process_header_block (m : Memory) (body pos : Int) (s : Parse) :
    process_block m WBT_SYNC body pos s =
      { s with p := pos, context := rfx_process_message_sync m body s.context } ∧
    process_block m WBT_CODEC_VERSIONS body pos s =
      { s with p := pos, context := rfx_process_message_codec_versions m body s.context } ∧
    process_block m WBT_CHANNELS body pos s =
      { s with p := pos, context := rfx_process_message_channels m body s.context } ∧
    process_block m WBT_CONTEXT body pos s =
      { s with p := pos, context := rfx_process_message_context m body s.context } := by
  unfold process_block
  refine ⟨if_pos rfl, ?_, ?_, ?_⟩
  · rw [if_neg (by decide), if_pos rfl]
  · rw [if_neg (by decide), if_neg (by decide), if_pos rfl]
  · rw [if_neg (by decide), if_neg (by decide), if_neg (by decide), if_pos rfl]

theorem header_read (turns : Nat) (h : Ahead m size s (header_blocks w ++ rest))
    (hmode : s.context.mode = w.mode ∨ w.flags < 8) :
    ∃ s', process_loop m size (turns + 4) s = process_loop m size turns s' ∧
      Ahead m size s' rest ∧ s'.message = s.message ∧
      Keeps s.context s'.context ∧ s'.context.mode = w.mode := by
  obtain ⟨s1, hloop1, hs1, h1⟩ := next_block (turns + 3) h (by decide) (by simp)
  obtain ⟨s2, hloop2, hs2, h2⟩ := next_block (turns + 2) h1 (by decide) (by simp)
  obtain ⟨s3, hloop3, hs3, h3⟩ := next_block (turns + 1) h2 (by decide) (by simp)
  obtain ⟨s4, hloop4, hs4, h4⟩ := next_block turns h3 (by decide) (by simp)
  rw [(process_header_block m _ _ s).1] at hs1
  rw [(process_header_block m _ _ s1).2.2.2] at hs2
  rw [(process_header_block m _ _ s2).2.1] at hs3
  rw [(process_header_block m _ _ s3).2.2.1] at hs4
  have hcontext1 := congrArg Parse.context hs1
  have hcontext2 := congrArg Parse.context hs2
  have hcontext3 := congrArg Parse.context hs3
  have hcontext4 := congrArg Parse.context hs4
  dsimp only at hcontext1 hcontext2 hcontext3 hcontext4
  have hmessage : s4.message = s.message := by rw [hs4, hs3, hs2, hs1]
  obtain ⟨hkeeps1, hmode1⟩ := header_block_keeps m (body_at WBT_SYNC s.p) s.context _
    (by simp : rfx_process_message_sync ∈ _)
  have hkeeps2 := context_keeps m (body_at WBT_CONTEXT s1.p) s1.context
  obtain ⟨hkeeps3, hmode3⟩ := header_block_keeps m (body_at WBT_CODEC_VERSIONS s2.p) s2.context _
    (by simp : rfx_process_message_codec_versions ∈ _)
  obtain ⟨hkeeps4, hmode4⟩ := header_block_keeps m (body_at WBT_CHANNELS s3.p) s3.context _
    (by simp : rfx_process_message_channels ∈ _)
  rw [← hcontext1] at hkeeps1 hmode1
  rw [← hcontext2] at hkeeps2
  rw [← hcontext3] at hkeeps3 hmode3
  rw [← hcontext4] at hkeeps4 hmode4
  have hproperties : Holds m (body_at WBT_CONTEXT s1.p + 3) (le16 (context_properties w)) :=
    h1.holds.body.split.2.at (by
      show s1.p + 6 + 5 = s1.p + 8 + 3
      omega)
  have hmode2 : s2.context.mode = w.mode := by
    rw [hcontext2]
    exact context_mode hproperties (by rwa [hmode1])
  refine ⟨s4, ?_, h4, hmessage,
    ((hkeeps1.trans hkeeps2).trans hkeeps3).trans hkeeps4, ?_⟩
  · rw [hloop1, hloop2, hloop3, hloop4]
  · rw [hmode4, hmode3, hmode2]

/-- What the reader has behind a message: the rects, and the tiles with their data. -/
structure ReadBack (w r : RFX_CONTEXT) (rects : List RFX_RECT) (image : Image)
    (codes : List TileCode) (final : Parse) : Prop where
  num_rects : final.message.num_rects = rects.length
  rects : final.message.rects = rects
  num_tiles : final.message.num_tiles = image.numTilesX * image.numTilesY
  tiles : final.message.tiles.length = image.numTilesX * image.numTilesY
  decoded : final.message.tiles.map final.context.pool.heap =
    decoded_tiles w.mode r.pixel_format (quant_set w).tile_quants r.buffers
      (image.tiles.zip codes) (final.message.tiles.map fun id => (r.pool.heap id).data)

theorem get_tiles_nodup {pool : RFX_POOL} (h : Partition pool owned) (n : Nat) :
    (rfx_pool_get_tiles n pool).1.Nodup := by
  have hperm := (rfx_pool_get_tiles.spec n h).1
  have hall := hperm.nodup_iff.mpr nodup_range
  exact (nodup_append.mp (nodup_append.mp hall).2.1).1

theorem frame_read_back (h : Ahead m size s (frame_blocks (frame_context w) rects image codes))
    (hfit : Sendable (quant_set w) rects image codes)
    (hkeeps : Keeps r s.context) (hmode : s.context.mode = w.mode) (hpool : Partition r.pool owned)
    (hturns : 5 ≤ turns) :
    ∃ final, process_loop m size turns s = some final ∧ final.p = size ∧
      ReadBack w r rects image codes final := by
  have hids := (rfx_pool_get_tiles.spec (image.numTilesX * image.numTilesY) hpool).2
  have hnodup := get_tiles_nodup hpool (image.numTilesX * image.numTilesY)
  have hread := frame_read h (by rwa [quant_set_frame]) (by rwa [hkeeps.pool]) hturns
  rw [hkeeps.pool, quant_set_frame] at hread
  refine ⟨_, hread, rfl, rfl, rfl, rfl, hids, ?_⟩
  have hheap := store_tiles_heap (quant_set w).tile_quants hnodup (image.tiles.zip codes)
    (tileset_context (quant_set w) (image.numTilesX * image.numTilesY) s.context)
    (by rw [hids, hfit.zip])
  have hdata : ∀ id, ((tileset_context (quant_set w) (image.numTilesX * image.numTilesY)
      s.context).pool.heap id).data = (r.pool.heap id).data := by
    intro id
    rw [← hkeeps.pool]
    exact get_tiles_data _ _ id
  simp only [hdata] at hheap
  rw [← hmode, ← hkeeps.pixel_format, ← hkeeps.buffers]
  exact hheap

theorem message_read (h : Holds m 0 (message_blocks w rects image codes))
    (hend : (message_blocks w rects image codes).length < 2147483648)
    (hfit : Sendable (quant_set w) rects image codes)
    (hmode : r.mode = w.mode ∨ sends_header w = true ∧ w.flags < 8) (hpool : Partition r.pool owned)
    (hturns : 9 ≤ turns) :
    ∃ final, rfx_process_message m turns (message_blocks w rects image codes).length r =
        some final ∧
      final.p = (message_blocks w rects image codes).length ∧
      ReadBack w r rects image codes final := by
  have hend' : ((message_blocks w rects image codes).length : Int) < 2147483648 := by omega
  obtain ⟨turns, rfl⟩ : ∃ t, turns = t + 4 := ⟨turns - 4, by omega⟩
  unfold rfx_process_message
  rw [sint32_of_range (by omega) hend']
  by_cases hheader : sends_header w = true
  · have hblocks : message_blocks w rects image codes =
        header_blocks w ++ frame_blocks (frame_context w) rects image codes := by
      unfold message_blocks
      rw [if_pos hheader]
    rw [hblocks] at h hend' ⊢
    obtain ⟨s, hloop, hframe, -, hkeeps, hsame⟩ := header_read turns
      (s := ⟨0, r, rfx_message_new⟩) ⟨h, Int.le_refl 0, Int.zero_add _, hend'⟩
      (hmode.imp id fun hflags => hflags.2)
    rw [hloop]
    exact frame_read_back hframe hfit hkeeps hsame hpool (by omega)
  · have hblocks : message_blocks w rects image codes =
        frame_blocks (frame_context w) rects image codes := by
      unfold message_blocks
      rw [if_neg hheader, nil_append]
    have hsame : r.mode = w.mode := hmode.resolve_right fun hflags => hheader hflags.1
    rw [hblocks] at h hend' ⊢
    exact frame_read_back (s := ⟨0, r, rfx_message_new⟩) ⟨h, Int.le_refl 0, Int.zero_add _, hend'⟩
      hfit (Keeps.refl r) hsame hpool (by omega)

/-! ## Gray images -/

theorem TileCode.Short.small {code : TileCode} (h : code.Short) : code.Small := by
  obtain ⟨hY, hCb, hCr⟩ := h
  exact ⟨by omega, by omega, by omega⟩

theorem length_short_tiles (q : QuantSet) (tiles : List ((Nat × Nat) × TileCode))
    (h : ∀ tile ∈ tiles, tile.2.Short) : (tile_blocks q tiles).length ≤ 67 * tiles.length := by
  induction tiles with
  | nil => exact Nat.le_refl _
  | cons tile tiles ih =>
    have hrest := ih (forall_mem_cons.mp h).2
    obtain ⟨hY, hCb, hCr⟩ := h tile mem_cons_self
    have hfirst : (tile_block q tile.1.1 tile.1.2 tile.2).length ≤ 67 := by
      unfold tile_block tile_head
      simp only [length_block, length_append, length_le16, length_cons, length_nil]
      omega
    unfold tile_blocks at hrest ⊢
    rw [flatMap_cons, length_append, length_cons]
    omega

theorem length_short_message (w : RFX_CONTEXT) (rects : List RFX_RECT) (image : Image)
    (h : ∀ code ∈ codes, code.Short) :
    (message_blocks w rects image codes).length ≤
      106 + 8 * rects.length + 5 * (quant_set w).numQuants + 67 * codes.length := by
  have htiles := length_short_tiles (quant_set w) (image.tiles.zip codes) fun tile htile =>
    h tile.2 (of_mem_zip htile).2
  have hzip : (image.tiles.zip codes).length ≤ codes.length := by
    rw [length_zip]
    exact Nat.min_le_right _ _
  have hheader : (if sends_header w then header_blocks w else []).length ≤ 47 := by
    split_ifs
    · exact Nat.le_refl 47
    · exact Nat.zero_le 47
  have hframe : (frame_blocks (frame_context w) rects image codes).length =
      59 + 8 * rects.length + 5 * (quant_set w).numQuants +
        (tile_blocks (quant_set w) (image.tiles.zip codes)).length := by
    unfold frame_blocks frame_begin_block region_block tileset_block tileset_head frame_end_block
    rw [quant_set_frame]
    simp only [length_block, length_append, length_le16, length_le32, length_cons,
      length_nil, length_rects, length_quant_bytes]
    omega
  unfold message_blocks
  rw [length_append, hframe]
  omega

theorem holds_memory_of (bs : Bytes) : Holds (memory_of bs) 0 bs := by
  unfold Holds bytes_at memory_of
  apply ext_getElem
  · simp
  · intro i hi hi'
    simp [hi']

theorem decoded_positions (mode : RLGR_MODE) (pixel_format : RFX_PIXEL_FORMAT) (quants : TileQuants)
    (buffers : Buffers) (tiles : List ((Nat × Nat) × TileCode)) (olds : List Bytes)
    (h : olds.length = tiles.length) :
    (decoded_tiles mode pixel_format quants buffers tiles olds).map (fun tile => (tile.x, tile.y)) =
      tiles.map fun tile => (UInt16.ofNat (tile.1.1 * 64), UInt16.ofNat (tile.1.2 * 64)) := by
  induction tiles generalizing buffers olds with
  | nil =>
    rfl
  | cons tile tiles ih =>
    obtain ⟨old, olds, rfl⟩ := exists_cons_of_length_eq_add_one h
    rw [decoded_tiles, map_cons, map_cons, ih _ _ (by simpa using h)]

theorem ReadBack.positions {final : Parse} (h : ReadBack w r rects image codes final)
    (hcount : codes.length = image.tiles.length) :
    (final.message.tiles.map final.context.pool.heap).map (fun tile => (tile.x, tile.y)) =
      image.tiles.map fun tile => (UInt16.ofNat (tile.1 * 64), UInt16.ofNat (tile.2 * 64)) := by
  have hlength : (final.message.tiles.map fun id => (r.pool.heap id).data).length =
      (image.tiles.zip codes).length := by
    rw [length_map, h.tiles, length_zip, hcount, Nat.min_self, length_tiles]
  have hfirst : (image.tiles.zip codes).map Prod.fst = image.tiles := map_fst_zip (by rw [hcount])
  rw [h.decoded, decoded_positions _ _ _ _ _ _ hlength]
  conv_rhs => rw [← hfirst, map_map]
  rfl

def gray_image (tiles : Nat) : Image where
  memory := fun _ => 128
  width := 64 * tiles
  height := 64
  rowstride := 192 * tiles

def gray_codec : RFX_CONTEXT :=
  { rfx_context_new (fun _ => ⟨0, 0, []⟩) (fun _ => 0) (fun _ => (0, 0, 0)) with
    pixel_format := .RGB, bits_per_pixel := 24 }

def gray_composed (tiles : Nat) : RFX_CONTEXT × STREAM × List TileCode :=
  rfx_compose_message gray_codec [⟨0, 0, 64, 64⟩] (gray_image tiles) (stream_new 0)

def gray_message (tiles : Nat) : List UInt8 :=
  (gray_composed tiles).2.1.data.take (gray_composed tiles).2.1.pos

theorem gray_image_tiles (tiles : Nat) :
    (gray_image tiles).numTilesX = tiles ∧ (gray_image tiles).numTilesY = 1 := by
  unfold Image.numTilesX Image.numTilesY gray_image
  dsimp only
  omega

theorem gray_image_gray (tiles : Nat) : GrayImage (gray_image tiles) := by
  obtain ⟨hx, hy⟩ := gray_image_tiles tiles
  refine ⟨fun _ => rfl, ?_, ?_⟩
  · rw [hx]
    rfl
  · rw [hy]
    rfl

theorem gray_codec_quants : QuantsInRange (quant_set gray_codec).tile_quants := by
  constructor <;> unfold QuantTable <;> decide

theorem collected_new : Collected (stream_new 0) [] := ⟨rfl, rfl, Nat.le_refl _, Nat.le_refl _⟩

theorem gray_composed_spec (tiles : Nat) :
    (gray_composed tiles).2.2.length = (gray_image tiles).tiles.length ∧
      Collected (gray_composed tiles).2.1 (gray_message tiles) ∧
      gray_message tiles = message_blocks gray_codec [⟨0, 0, 64, 64⟩] (gray_image tiles)
        (gray_composed tiles).2.2 ∧
      (∀ code ∈ (gray_composed tiles).2.2, code.Short) := by
  have hshort : ∀ code ∈ (gray_composed tiles).2.2, code.Short :=
    gray_message_short (gray_image_gray tiles) rfl gray_codec_quants _ _
  obtain ⟨hcount, hwritten⟩ := rfx_compose_message.spec [⟨0, 0, 64, 64⟩] gray_codec
    (gray_image tiles) collected_new
  have hmessage : gray_message tiles = message_blocks gray_codec [⟨0, 0, 64, 64⟩]
      (gray_image tiles) (gray_composed tiles).2.2 := hwritten.take
  exact ⟨hcount, hmessage ▸ hwritten, hmessage, hshort⟩

theorem length_gray_message {tiles : Nat} (h : tiles < 65536) :
    (gray_message tiles).length < 2147483648 := by
  obtain ⟨hcount, -, hmessage, hshort⟩ := gray_composed_spec tiles
  obtain ⟨hx, hy⟩ := gray_image_tiles tiles
  have hlength := length_short_message gray_codec [⟨0, 0, 64, 64⟩] (gray_image tiles) hshort
  have hquants : (quant_set gray_codec).numQuants = 1 := rfl
  rw [← hmessage, hcount, length_tiles, hx, hy, hquants, length_singleton] at hlength
  omega

theorem gray_codec_pool : Partition gray_codec.pool [] := List.Perm.refl []

/-- Every composed message is read back to its end, with its rects and its tiles. -/
theorem composed_message_is_read_back {w r : RFX_CONTEXT} {s : STREAM} {acc message : List UInt8}
    {rects : List RFX_RECT} {image : Image} {m : Memory} {turns : Nat} {owned : List Nat}
    (hstart : Collected s acc)
    (hmessage : Collected (rfx_compose_message w rects image s).2.1 (acc ++ message))
    (hq : w.num_quants = 0 ∨ QuantsOk (quant_set w)) (hrects : 1 ≤ rects.length)
    (hmaxRects : rects.length ≤ 65535) (hwidth : 1 ≤ image.width) (hheight : 1 ≤ image.height)
    (hmaxTiles : image.numTilesX * image.numTilesY < 65536)
    (hcodes : ∀ code ∈ (rfx_compose_message w rects image s).2.2, code.Small)
    (hlength : message.length < 2147483648)
    (hmode : r.mode = w.mode ∨ sends_header w = true ∧ w.flags < 8)
    (hpool : Partition r.pool owned) (hholds : Holds m 0 message) (hturns : 9 ≤ turns) :
    ∃ final, rfx_process_message m turns message.length r = some final ∧
      final.p = message.length ∧
      (rfx_compose_message w rects image s).2.2.length = image.numTilesX * image.numTilesY ∧
      ReadBack w r rects image (rfx_compose_message w rects image s).2.2 final := by
  obtain ⟨hcount, hwritten⟩ := rfx_compose_message.spec rects w image hstart
  generalize (rfx_compose_message w rects image s).2.2 = codes at hcodes hcount hwritten ⊢
  generalize (rfx_compose_message w rects image s).2.1 = s' at hmessage hwritten
  have hsame : message = message_blocks w rects image codes :=
    append_cancel_left (hmessage.take.symm.trans hwritten.take)
  have hq : QuantsOk (quant_set w) := hq.elim default_quants_ok id
  have htiles : 1 ≤ image.numTilesX * image.numTilesY := by
    have hx : 0 < image.numTilesX := by
      unfold Image.numTilesX
      omega
    have hy : 0 < image.numTilesY := by
      unfold Image.numTilesY
      omega
    exact Nat.mul_pos hx hy
  subst hsame
  obtain ⟨final, hrun, hdone, hback⟩ := message_read hholds hlength
    ⟨hq, hrects, hmaxRects, htiles, hmaxTiles, hcount, hcodes⟩ hmode hpool hturns
  exact ⟨final, hrun, hdone, hcount.trans (length_tiles image), hback⟩

theorem gray_tile_is_read_back :
    ∃ final, rfx_process_message (memory_of (gray_message 1)) 9 (gray_message 1).length
        gray_codec = some final ∧
      final.p = (gray_message 1).length ∧
      (gray_composed 1).2.2.length = (gray_image 1).numTilesX * (gray_image 1).numTilesY ∧
      ReadBack gray_codec gray_codec [⟨0, 0, 64, 64⟩] (gray_image 1) (gray_composed 1).2.2
        final := by
  obtain ⟨-, hwritten, -, hshort⟩ := gray_composed_spec 1
  obtain ⟨hx, hy⟩ := gray_image_tiles 1
  rw [← nil_append (gray_message 1)] at hwritten
  have hsmall : ∀ code ∈ (gray_composed 1).2.2, code.Small :=
    fun code hcode => (hshort code hcode).small
  exact composed_message_is_read_back collected_new hwritten (.inl rfl) (show 1 ≤ 1 by decide)
    (show 1 ≤ 65535 by decide) (show 1 ≤ 64 * 1 by decide) (show 1 ≤ 64 by decide)
    (by rw [hx, hy]; decide) hsmall (length_gray_message (by decide)) (.inl rfl) gray_codec_pool
    (holds_memory_of (gray_message 1)) (Nat.le_refl 9)

/-- The tile at column 1024 of a wide image is read back at `x = 0`, as 65536 does not fit. -/
theorem wide_image_wraps :
    (∀ code ∈ (gray_composed 1025).2.2, code.Small) ∧
      ∃ final, rfx_process_message (memory_of (gray_message 1025)) 9 (gray_message 1025).length
          gray_codec = some final ∧
        (final.message.tiles.map final.context.pool.heap)[1024]?.map
          (fun tile => (tile.x, tile.y)) = some (0, 0) := by
  obtain ⟨hcount, -, hmessage, hshort⟩ := gray_composed_spec 1025
  obtain ⟨hx, hy⟩ := gray_image_tiles 1025
  have hsmall : ∀ code ∈ (gray_composed 1025).2.2, code.Small :=
    fun code hcode => (hshort code hcode).small
  have hlength := length_gray_message (show 1025 < 65536 by decide)
  have hholds := holds_memory_of (gray_message 1025)
  rw [hmessage] at hlength hholds ⊢
  obtain ⟨final, hrun, -, hback⟩ := message_read hholds hlength
    ⟨default_quants_ok rfl, by decide, by decide, by rw [hx, hy]; decide, by rw [hx, hy]; decide,
      hcount, hsmall⟩ (.inl rfl) gray_codec_pool (Nat.le_refl 9)
  refine ⟨hsmall, final, hrun, ?_⟩
  rw [← List.getElem?_map, hback.positions hcount]
  unfold Image.tiles
  rw [hx, hy]
  simp

end neutrinordp.rfx
