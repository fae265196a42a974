-- What a composed RemoteFX message looks like. Whatever the stream held before, the composer puts
-- a row of blocks behind it, and every length says how long its block is.
import CorporateClient.RfxCompose

namespace neutrinordp.rfx

open List bytes stream

/-! ## The format -/

/-- A block with its type and its length. -/
def block (blockType : Nat) (body : List UInt8) : List UInt8 :=
  le16 blockType ++ le32 (6 + body.length) ++ body

def header_blocks (context : RFX_CONTEXT) : List UInt8 :=
  block WBT_SYNC (le32 WF_MAGIC ++ le16 WF_VERSION_1_0) ++
    block WBT_CONTEXT ([1, 0, 0] ++ le16 CT_TILE_64x64 ++ le16 (context_properties context)) ++
    block WBT_CODEC_VERSIONS ([1, 1] ++ le16 WF_VERSION_1_0) ++
    block WBT_CHANNELS ([1, 0] ++ le16 context.width ++ le16 context.height)

def frame_begin_block (frame_idx : Nat) : List UInt8 :=
  block WBT_FRAME_BEGIN ([1, 0] ++ le32 frame_idx ++ le16 1)

def frame_end_block : List UInt8 := block WBT_FRAME_END [1, 0]

def rect_bytes (rect : RFX_RECT) : List UInt8 :=
  le16 rect.x.toNat ++ le16 rect.y.toNat ++ le16 rect.width.toNat ++ le16 rect.height.toNat

def region_block (rects : List RFX_RECT) : List UInt8 :=
  block WBT_REGION ([1, 0, 1] ++ le16 rects.length ++ rects.flatMap rect_bytes ++
    le16 CBT_REGION ++ le16 1)

def tile_head (q : QuantSet) (xIdx yIdx : Nat) : List UInt8 :=
  [UInt8.ofNat q.quantIdxY, UInt8.ofNat q.quantIdxCb, UInt8.ofNat q.quantIdxCr] ++ le16 xIdx ++
    le16 yIdx

def tile_block (q : QuantSet) (xIdx yIdx : Nat) (code : TileCode) : List UInt8 :=
  block CBT_TILE (tile_head q xIdx yIdx ++ le16 code.Y.length ++ le16 code.Cb.length ++
    le16 code.Cr.length ++ code.Y ++ code.Cb ++ code.Cr)

def tile_blocks (q : QuantSet) (tiles : List ((Nat × Nat) × TileCode)) : List UInt8 :=
  tiles.flatMap fun tile => tile_block q tile.1.1 tile.1.2 tile.2

def tileset_head (properties numTiles : Nat) (q : QuantSet) : List UInt8 :=
  [1, 0] ++ le16 CBT_TILESET ++ le16 0 ++ le16 properties ++ [UInt8.ofNat q.numQuants, 0x40] ++
    le16 numTiles

def tileset_block (properties numTiles : Nat) (q : QuantSet)
    (tiles : List ((Nat × Nat) × TileCode)) : List UInt8 :=
  block WBT_EXTENSION (tileset_head properties numTiles q ++ le32 (tile_blocks q tiles).length ++
    q.bytes ++ tile_blocks q tiles)

@[simp] theorem length_block (blockType : Nat) (body : Bytes) :
    (block blockType body).length = 6 + body.length := by
  simp only [block, le16, le32, length_append, length_cons, length_nil]

/-! ## Writing -/

/-- A writer has put the blocks of what it returns behind what the stream held. -/
def Composed {β γ : Type} (acc : List UInt8) (blocks : γ → List UInt8) (r : β × STREAM × γ) :
    Prop :=
  Collected r.2.1 (acc ++ blocks r.2.2)

/-- The codes of a tile, one component after the other. -/
def TileCode.bytes (code : TileCode) : List UInt8 := code.Y ++ code.Cb ++ code.Cr

section writing

variable {s : STREAM} {acc : Bytes} {n size : Nat} {x y bs : Bytes} (h : Collected s acc)

include h

theorem collected_check (hn : 0 < n) :
    Collected (stream_check_size s n) acc ∧ acc.length + n ≤ (stream_check_size s n).size := by
  have hroom := stream_check_size_room s n hn h.inside
  have hpos := stream_check_size_pos s n hn h.inside
  have htake := stream_check_size_take s n hn h.inside (h.inside.trans h.memory)
  have hacc := h.pos
  refine ⟨⟨?_, ?_, ?_, stream_check_size_memory s n hn h.inside h.memory⟩, ?_⟩
  · rw [hpos, htake, h.take]
  · rw [hpos, hacc]
  · rw [hpos]
    omega
  · omega

theorem collected_write (hroom : acc.length + bs.length ≤ s.size) :
    Collected (stream_write s bs) (acc ++ bs) := by
  have hpos := h.pos
  have hmemory := h.memory
  have hlength := stream_write_length s bs (by omega)
  refine ⟨?_, ?_, ?_, ?_⟩
  · rw [take_stream_write s bs (by omega), h.take]
  · rw [stream_write_pos, hpos, length_append]
  · rw [stream_write_pos, hpos]
    exact hroom
  · rw [hlength]
    exact Nat.le_trans hmemory (Nat.le_max_left _ _)

theorem collected_pos_le : s.pos ≤ s.data.length := h.inside.trans h.memory

theorem collected_block {written : STREAM} (hn : bs.length = n)
    (hsome : 0 < n) (hwrite : (stream_check_size s n).pos ≤ (stream_check_size s n).data.length →
      written = stream_write (stream_check_size s n) bs) : Collected written (acc ++ bs) := by
  rw [hwrite (collected_pos_le (collected_check h hsome).1)]
  subst hn
  exact h.add hsome

omit h

theorem collected_patch {a b : Bytes} (h : Collected s (a ++ x ++ b))
    (hxy : x.length = y.length) {i : Nat} (hi : i = a.length) :
    Collected (stream_set_pos (stream_write (stream_set_pos s i) y) s.pos) (a ++ y ++ b) := by
  subst hi
  have hpos := h.pos
  have hmemory := h.memory
  simp only [length_append] at hpos
  obtain ⟨rest, hdata⟩ : ∃ rest, s.data = a ++ x ++ (b ++ rest) :=
    ⟨s.data.drop s.pos, by rw [← append_assoc, ← h.take, take_append_drop]⟩
  have hpatch : patch s.data a.length y = a ++ y ++ b ++ rest := by
    have hdrop : (a ++ x ++ (b ++ rest)).drop (a.length + y.length) = b ++ rest :=
      drop_left' (by rw [length_append, hxy])
    unfold patch
    rw [hdata, hdrop, append_assoc a x, take_left' rfl]
    simp
  have hlength : (a ++ y ++ b).length = s.pos := by
    simp only [length_append]
    omega
  refine ⟨?_, hlength.symm, h.inside, ?_⟩
  · show (patch s.data a.length y).take s.pos = _
    rw [hpatch, take_left' hlength]
  · show s.size ≤ (patch s.data a.length y).length
    rw [hdata] at hmemory
    rw [hpatch]
    simp only [length_append] at hmemory ⊢
    omega

theorem collected_close {blockType j m : Nat} {head z r : Bytes}
    (h : Collected s (acc ++ (le16 blockType ++ x ++ (head ++ y)) ++ r)) (hx : x.length = 4)
    (hy : y.length = z.length) (hj : j = 6 + head.length)
    (hsize : m = 6 + (head ++ z ++ r).length) :
    Collected (stream_set_pos (stream_write (stream_set_pos (stream_write
      (stream_set_pos s (acc.length + 2)) (le32 m)) (acc.length + j)) z) s.pos)
      (acc ++ block blockType (head ++ z ++ r)) := by
  have h1 : Collected s (acc ++ le16 blockType ++ x ++ (head ++ y ++ r)) := by
    simpa only [append_assoc] using h
  have h2 := collected_patch (i := acc.length + 2) (y := le32 m) h1 hx
    (by rw [length_append]; rfl)
  have h3 : Collected (stream_set_pos (stream_write (stream_set_pos s (acc.length + 2))
      (le32 m)) s.pos) (acc ++ le16 blockType ++ le32 m ++ head ++ y ++ r) := by
    simpa only [append_assoc] using h2
  have h4 := collected_patch (i := acc.length + j) h3 hy (by
    simp only [hj, length_append, le16, le32, length_cons, length_nil]
    omega)
  rw [block, ← hsize]
  simp only [append_assoc] at h4 ⊢
  exact h4

theorem stream_write_pos_le (s : STREAM) (bs : Bytes) (hp : s.pos ≤ s.data.length) :
    (stream_write s bs).pos ≤ (stream_write s bs).data.length :=
  out.room_append s bs hp

/-! ## The blocks -/

variable (rects : List RFX_RECT)

theorem foldl_write_rect (s : STREAM) (hp : s.pos ≤ s.data.length) :
    rects.foldl write_rect s = stream_write s (rects.flatMap rect_bytes) := by
  induction rects generalizing s with
  | nil => exact (out.append_nil s).symm
  | cons rect rects ih =>
    have hrect : write_rect s rect = stream_write s (rect_bytes rect) := by
      simp only [write_rect, stream_write_uint16, stream_write_write _ _ _ hp, rect_bytes]
    rw [foldl_cons, hrect, ih _ (stream_write_pos_le s _ hp), stream_write_write _ _ _ hp,
      flatMap_cons]

theorem length_rects : (rects.flatMap rect_bytes).length = rects.length * 8 := by
  induction rects with
  | nil => rfl
  | cons rect rects ih =>
    rw [flatMap_cons, length_append, ih, length_cons]
    show 8 + _ = _
    omega

theorem length_region_block : (region_block rects).length = 15 + rects.length * 8 := by
  unfold region_block
  rw [length_block]
  simp only [length_append, length_rects, le16, length_cons, length_nil]
  omega

include h

variable (context : RFX_CONTEXT)

theorem rfx_compose_message_header.spec :
    rfx_compose_message_header context s =
        ({ context with properties := tileset_properties context, header_processed := true },
          (rfx_compose_message_header context s).2) ∧
      Collected (rfx_compose_message_header context s).2 (acc ++ header_blocks context) := by
  refine ⟨rfl, ?_⟩
  refine collected_block (n := 47) h rfl (by decide) fun hp => ?_
  simp only [rfx_compose_message_header, rfx_compose_message_sync, rfx_compose_message_context,
    rfx_compose_message_codec_versions, rfx_compose_message_channels, stream_write_uint8,
    stream_write_uint16, stream_write_uint32, Nat.reduceAdd, stream_write_write _ _ _ hp]
  rfl

theorem rfx_compose_message_frame_begin.spec :
    Collected (rfx_compose_message_frame_begin context s).2
      (acc ++ frame_begin_block context.frame_idx) := by
  refine collected_block (n := 14) h rfl (by decide) fun hp => ?_
  simp only [rfx_compose_message_frame_begin, stream_write_uint8, stream_write_uint16,
    stream_write_uint32, stream_write_write _ _ _ hp]
  rfl

theorem rfx_compose_message_frame_end.spec :
    Collected (rfx_compose_message_frame_end s) (acc ++ frame_end_block) := by
  refine collected_block (n := 8) h rfl (by decide) fun hp => ?_
  simp only [rfx_compose_message_frame_end, stream_write_uint8, stream_write_uint16,
    stream_write_uint32, stream_write_write _ _ _ hp]
  rfl

theorem rfx_compose_message_region.spec :
    Collected (rfx_compose_message_region rects s) (acc ++ region_block rects) := by
  refine collected_block h (length_region_block rects) (by omega) fun hp => ?_
  simp only [rfx_compose_message_region, stream_write_uint8, stream_write_uint16,
    stream_write_uint32, stream_write_write _ _ _ hp]
  rw [foldl_write_rect _ _ (stream_write_pos_le _ _ hp)]
  simp only [stream_write_write _ _ _ hp]
  rw [← length_region_block]
  unfold region_block
  rw [length_block]
  congr 1

omit h

/-! ## Codes -/

/-- The bit stream never leaves its buffer. -/
structure Inside (bs : RFX_BITSTREAM) (size : Nat) : Prop where
  length : bs.buffer.length = size
  byte_pos : bs.byte_pos ≤ size
  bits_left : bs.bits_left < 8 → bs.byte_pos < size

theorem Inside.put_bits_loop (turns : Nat) {bs : RFX_BITSTREAM} (bits nbits : Nat)
    (h : Inside bs size) : Inside (put_bits_loop turns bs bits nbits) size := by
  induction turns generalizing bs nbits with
  | zero => exact h
  | succ turns ih =>
    unfold rfx.put_bits_loop
    split_ifs with hmore
    · refine ih _ ?_
      have hlength := h.length
      unfold pass_bits store_byte
      split_ifs
      · exact ⟨by simpa using hlength, by dsimp only; omega, by dsimp only; omega⟩
      · exact ⟨by simpa using hlength, by dsimp only; omega, by dsimp only; omega⟩
    · exact h

theorem Inside.put_all (calls : List Put) {bs : RFX_BITSTREAM} (h : Inside bs size) :
    Inside (put_all bs calls) size := by
  induction calls generalizing bs with
  | nil => exact h
  | cons call calls ih =>
    exact ih (h.put_bits_loop _ _ _)

theorem rfx_rlgr_encode_inside (mode : RLGR_MODE) (data : List Int) (buffer : Bytes) :
    (rfx_rlgr_encode mode data buffer).1 ≤ buffer.length ∧
      (rfx_rlgr_encode mode data buffer).2.length = buffer.length := by
  have hstart : Inside (rfx_bitstream_attach buffer) buffer.length :=
    ⟨rfl, Nat.zero_le _, fun h => absurd h (Nat.lt_irrefl 8)⟩
  have hend := hstart.put_all (encode_calls mode data)
  refine ⟨?_, hend.length⟩
  unfold rfx_rlgr_encode rfx_bitstream_get_processed_bytes
  dsimp only
  have hpos := hend.byte_pos
  have hbits := hend.bits_left
  split_ifs with hin
  · exact hbits hin
  · exact hpos

include h

theorem collected_poke (hlen : bs.length = s.left.length) (hn : n ≤ bs.length) :
    Collected (stream_seek (stream_poke s s.pos bs) n) (acc ++ bs.take n) := by
  have hpos := h.pos
  have hinside := h.inside
  have hmemory := h.memory
  have hleft : s.left.length = s.size - s.pos := by
    rw [STREAM.left, STREAM.bytes, length_drop, length_take]
    omega
  refine ⟨?_, ?_, ?_, ?_⟩
  · show (patch s.data s.pos bs).take (s.pos + n) = _
    have hfront : (s.data.take s.pos).length = s.pos := length_take_of_le (by omega)
    have htake : (s.data.take s.pos ++ (bs ++ s.data.drop (s.pos + bs.length))).take
        ((s.data.take s.pos).length + n) = _ := take_length_add_append n
    unfold patch
    rw [hfront, h.take, take_append_of_le_length hn] at htake
    rw [h.take, append_assoc, htake]
  · rw [stream_seek_pos, stream_poke_pos, hpos, length_append, length_take]
    omega
  · show s.pos + n ≤ s.size
    omega
  · show s.size ≤ (patch s.data s.pos bs).length
    rw [length_patch _ _ _ (by omega)]
    omega

theorem put_component.spec (mode : RLGR_MODE) (q : List Nat)
    (data : Plane) : Composed acc (fun code => code) (put_component mode q data s) := by
  have hinside : (rfx_encode_component mode q data s.left).2.1 ≤ s.left.length ∧
      (rfx_encode_component mode q data s.left).2.2.length = s.left.length :=
    rfx_rlgr_encode_inside mode (coefficients q data.1).1 s.left
  unfold Composed put_component
  generalize rfx_encode_component mode q data s.left = encoded at hinside
  exact collected_poke h hinside.2 (by omega)

theorem encode_to_stream.spec (mode : RLGR_MODE) (q : List Nat)
    (data : Plane) : Composed acc (fun code => code) (encode_to_stream mode q data s) :=
  put_component.spec (collected_check h (by decide)).1 mode q data

theorem rfx_encode_rgb.spec (image : Memory)
    (rgb_data : Int) (width height : Nat) (rowstride : Int) (quants : TileQuants) :
    Composed acc TileCode.bytes
      (rfx_encode_rgb context image rgb_data width height rowstride quants s) := by
  unfold Composed TileCode.bytes rfx_encode_rgb
  rw [← append_assoc, ← append_assoc]
  dsimp only
  exact encode_to_stream.spec (encode_to_stream.spec (encode_to_stream.spec h _ _ _) _ _ _) _ _ _

/-! ## Tiles -/

theorem collected_seek (hroom : acc.length + n ≤ s.size) :
    ∃ x : Bytes, x.length = n ∧ Collected (stream_seek s n) (acc ++ x) := by
  obtain ⟨x, hx, hskip⟩ := stream_seek_eq_write s n ((h.pos ▸ hroom).trans h.memory)
  rw [hskip]
  exact ⟨x, hx, collected_write h (hx ▸ hroom)⟩

theorem collected_open {a b : Bytes}
    (hroom : acc.length + (a.length + 4 + b.length + n) ≤ s.size) :
    ∃ x y : Bytes, x.length = 4 ∧ y.length = n ∧
      (stream_seek (stream_write s a) 4).pos ≤ (stream_seek (stream_write s a) 4).data.length ∧
      Collected (stream_seek (stream_write (stream_seek (stream_write s a) 4) b) n)
        (acc ++ (a ++ x ++ (b ++ y))) := by
  have ha : Collected (stream_write s a) (acc ++ a) := collected_write h (by omega)
  obtain ⟨x, hx, h1⟩ := collected_seek (n := 4) ha (by
    rw [length_append]
    exact Nat.le_trans (by omega) hroom)
  have hb : (acc ++ a ++ x).length + b.length + n ≤ s.size := by
    simp only [length_append, hx]
    omega
  obtain ⟨y, hy, h2⟩ := collected_seek (n := n)
    (collected_write h1 (Nat.le_trans (Nat.le_add_right _ n) hb)) (by
      rw [length_append]
      exact hb)
  exact ⟨x, y, hx, hy, collected_pos_le h1, by simpa only [append_assoc] using h2⟩

variable (image : Image) (q : QuantSet)

theorem tile_start.spec (xIdx yIdx : Nat) (hroom : acc.length + 19 ≤ s.size) :
    ∃ x y : Bytes, x.length = 4 ∧ y.length = 6 ∧
      Collected (tile_start q xIdx yIdx s)
        (acc ++ (le16 CBT_TILE ++ x ++ (tile_head q xIdx yIdx ++ y))) := by
  obtain ⟨x, y, hx, hy, hp, hopen⟩ := collected_open (a := le16 CBT_TILE)
    (b := tile_head q xIdx yIdx) (n := 6) h hroom
  refine ⟨x, y, hx, hy, ?_⟩
  simp only [tile_start, stream_write_uint8, stream_write_uint16, stream_write_write _ _ _ hp]
  exact hopen

omit h

theorem tile_end.spec {q : QuantSet} {xIdx yIdx : Nat} {code : TileCode} (hx : x.length = 4)
    (hy : y.length = 6)
    (h : Collected s (acc ++ (le16 CBT_TILE ++ x ++ (tile_head q xIdx yIdx ++ y)) ++
      code.bytes)) :
    Collected (tile_end acc.length code s) (acc ++ tile_block q xIdx yIdx code) := by
  have hclosed := collected_close (j := 13)
    (z := le16 code.Y.length ++ le16 code.Cb.length ++ le16 code.Cr.length)
    (m := 19 + code.Y.length + code.Cb.length + code.Cr.length) h hx hy rfl (by
      simp only [length_append, tile_head, TileCode.bytes, le16, length_cons, length_nil]
      omega)
  have hroom : acc.length + 13 ≤ (stream_write (stream_set_pos s (acc.length + 2))
      (le32 (19 + code.Y.length + code.Cb.length + code.Cr.length))).data.length := by
    have hle := collected_pos_le h
    have hpos := h.pos
    simp only [length_append, hx, hy, tile_head, le16, length_cons, length_nil] at hpos
    rw [stream_write_length _ _ (by show acc.length + 2 ≤ s.data.length; omega)]
    show _ ≤ max s.data.length _
    omega
  rw [← stream_write_write _ _ _ (by exact hroom), ← stream_write_write _ _ _ (by exact hroom)]
    at hclosed
  rw [tile_block]
  simp only [TileCode.bytes, append_assoc] at hclosed ⊢
  exact hclosed

theorem tile_done.spec {q : QuantSet} {xIdx yIdx : Nat} (hx : x.length = 4) (hy : y.length = 6)
    {encoded : Buffers × STREAM × TileCode} (context : RFX_CONTEXT)
    (h : Composed (acc ++ (le16 CBT_TILE ++ x ++ (tile_head q xIdx yIdx ++ y))) TileCode.bytes
      encoded) :
    Composed acc (tile_block q xIdx yIdx) (tile_done context acc.length encoded) :=
  tile_end.spec hx hy h

include h

theorem put_tile.spec (hroom : acc.length + 19 ≤ s.size)
    (context : RFX_CONTEXT) (image : Image) (rgb_data : Int) (width height : Nat) (q : QuantSet)
    (xIdx yIdx : Nat) : Composed acc (tile_block q xIdx yIdx)
      (put_tile context image rgb_data width height q xIdx yIdx s) := by
  obtain ⟨x, y, hx, hy, hstart⟩ := tile_start.spec h q xIdx yIdx hroom
  have hcodes := rfx_encode_rgb.spec hstart context image.memory rgb_data width height
    image.rowstride q.tile_quants
  have hpos : stream_get_pos s = acc.length := h.pos
  unfold put_tile
  rw [hpos]
  exact tile_done.spec hx hy context hcodes

theorem compose_tile_at.spec (xIdx yIdx : Nat) (context : RFX_CONTEXT) :
    Composed acc (tile_block q xIdx yIdx) (compose_tile_at image q xIdx yIdx context s) := by
  obtain ⟨hcheck, hroom⟩ := collected_check (n := 19) h (by decide)
  exact put_tile.spec hcheck hroom _ _ _ _ _ _ _ _

theorem compose_tiles.spec (tiles : List (Nat × Nat)) (context : RFX_CONTEXT) :
    (compose_tiles image q tiles context s).2.2.length = tiles.length ∧
      Composed acc (fun codes => tile_blocks q (tiles.zip codes))
        (compose_tiles image q tiles context s) := by
  induction tiles generalizing context s acc with
  | nil =>
    rw [compose_tiles, Composed, zip_nil_left, tile_blocks, flatMap_nil, append_nil]
    exact ⟨rfl, h⟩
  | cons tile tiles ih =>
    obtain ⟨xIdx, yIdx⟩ := tile
    have htile := compose_tile_at.spec h image q xIdx yIdx context
    rw [compose_tiles]
    generalize compose_tile_at image q xIdx yIdx context s = tile at htile ⊢
    obtain ⟨hlength, hrest⟩ := ih htile tile.1
    generalize compose_tiles image q tiles tile.1 tile.2.1 = rest at hlength hrest ⊢
    refine ⟨congrArg (· + 1) hlength, ?_⟩
    unfold Composed add_code
    dsimp only
    rw [zip_cons_cons, tile_blocks, flatMap_cons, ← append_assoc]
    exact hrest

/-! ## The tileset -/

omit h in
theorem length_quant_bytes : q.bytes.length = q.numQuants * 5 := by
  unfold QuantSet.bytes
  rw [length_map, length_range]

theorem tileset_start.spec (properties numTiles : Nat) (q : QuantSet)
    (hroom : acc.length + (22 + q.numQuants * 5) ≤ s.size) :
    ∃ x y : Bytes, x.length = 4 ∧ y.length = 4 ∧
      Collected (tileset_start properties numTiles q s)
        (acc ++ (le16 WBT_EXTENSION ++ x ++ (tileset_head properties numTiles q ++ y ++
          q.bytes))) := by
  obtain ⟨x, y, hx, hy, hp, hopen⟩ := collected_open (a := le16 WBT_EXTENSION)
    (b := tileset_head properties numTiles q) (n := 4) h (by show acc.length + 22 ≤ _; omega)
  have hquants := collected_write hopen (show _ + q.bytes.length ≤ s.size by
    rw [length_append, length_append, length_append, length_append, hx, hy, length_quant_bytes]
    show acc.length + (2 + 4 + (12 + 4)) + _ ≤ s.size
    omega)
  refine ⟨x, y, hx, hy, ?_⟩
  simp only [tileset_start, stream_write_uint8, stream_write_uint16, stream_write_write _ _ _ hp]
  simp only [append_assoc] at hquants ⊢
  exact hquants

omit h in
theorem tileset_end.spec {properties numTiles : Nat} {q : QuantSet}
    {tiles : List ((Nat × Nat) × TileCode)} (hx : x.length = 4) (hy : y.length = 4)
    (hsize : size = 22 + q.numQuants * 5)
    (h : Collected s (acc ++ (le16 WBT_EXTENSION ++ x ++
      (tileset_head properties numTiles q ++ y ++ q.bytes)) ++ tile_blocks q tiles)) :
    Collected (tileset_end acc.length size (tile_blocks q tiles).length s)
      (acc ++ tileset_block properties numTiles q tiles) := by
  have hclosed := collected_close (j := 18) (z := le32 (tile_blocks q tiles).length)
    (m := size + (tile_blocks q tiles).length) (r := q.bytes ++ tile_blocks q tiles)
    (by simpa only [append_assoc] using h) hx hy rfl (by
      simp only [length_append, length_quant_bytes, hsize, tileset_head, le16, le32, length_cons,
        length_nil]
      omega)
  rw [tileset_block]
  simp only [append_assoc] at hclosed ⊢
  exact hclosed

def tileset_of (properties : Nat) (q : QuantSet) (image : Image) (codes : List TileCode) :
    List UInt8 :=
  tileset_block properties (image.numTilesX * image.numTilesY) q (image.tiles.zip codes)

theorem put_tileset.spec (hroom : acc.length + (22 + q.numQuants * 5) ≤ s.size) :
    (put_tileset context image q s).2.2.length = image.tiles.length ∧
      Composed acc (tileset_of context.properties q image) (put_tileset context image q s) := by
  obtain ⟨x, y, hx, hy, hstart⟩ := tileset_start.spec h context.properties
    (image.numTilesX * image.numTilesY) q hroom
  obtain ⟨hlength, htiles⟩ := compose_tiles.spec hstart image q image.tiles context
  have hpos : stream_get_pos s = acc.length := h.pos
  have hbefore := hstart.pos
  have hbehind := htiles.pos
  rw [length_append, ← hbefore] at hbehind
  unfold put_tileset
  dsimp only
  generalize tileset_start context.properties (image.numTilesX * image.numTilesY) q s = start
    at hstart hlength htiles hbefore hbehind ⊢
  generalize compose_tiles image q image.tiles context start = composed
    at hlength htiles hbehind ⊢
  have hdata : stream_get_pos composed.2.1 - stream_get_pos start =
      (tile_blocks q (image.tiles.zip composed.2.2)).length := by
    show composed.2.1.pos - start.pos = _
    dsimp only at hbehind
    omega
  unfold Composed tileset_done
  rw [hpos, hdata]
  exact ⟨hlength, tileset_end.spec hx hy rfl htiles⟩

theorem rfx_compose_message_tileset.spec :
    (rfx_compose_message_tileset context image s).2.2.length = image.tiles.length ∧
      Composed acc (tileset_of context.properties (quant_set context) image)
        (rfx_compose_message_tileset context image s) := by
  obtain ⟨hcheck, hroom⟩ := collected_check (n := 22 + (quant_set context).numQuants * 5) h
    (by omega)
  exact put_tileset.spec hcheck context image (quant_set context) hroom

/-! ## The message -/

def frame_blocks (context : RFX_CONTEXT) (rects : List RFX_RECT) (image : Image)
    (codes : List TileCode) : List UInt8 :=
  frame_begin_block context.frame_idx ++ region_block rects ++
    tileset_block context.properties (image.numTilesX * image.numTilesY) (quant_set context)
      (image.tiles.zip codes) ++ frame_end_block

theorem rfx_compose_message_data.spec (rects : List RFX_RECT) (image : Image) :
    (rfx_compose_message_data context rects image s).2.2.length = image.tiles.length ∧
      Composed acc (frame_blocks context rects image)
        (rfx_compose_message_data context rects image s) := by
  have hframe := rfx_compose_message_frame_begin.spec h context
  have hregion := rfx_compose_message_region.spec hframe rects
  obtain ⟨hlength, htileset⟩ := rfx_compose_message_tileset.spec hregion
    (rfx_compose_message_frame_begin context s).1 image
  unfold rfx_compose_message_data
  dsimp only
  generalize rfx_compose_message_tileset (rfx_compose_message_frame_begin context s).1 image
    (rfx_compose_message_region rects (rfx_compose_message_frame_begin context s).2) = composed
    at hlength htileset ⊢
  have hend := rfx_compose_message_frame_end.spec htileset
  refine ⟨hlength, ?_⟩
  unfold Composed frame_blocks
  rw [append_assoc, append_assoc, append_assoc] at hend
  rw [append_assoc, append_assoc]
  exact hend

def frame_context (context : RFX_CONTEXT) : RFX_CONTEXT :=
  if sends_header context then
    { context with properties := tileset_properties context, header_processed := true }
  else context

def message_blocks (context : RFX_CONTEXT) (rects : List RFX_RECT) (image : Image)
    (codes : List TileCode) : List UInt8 :=
  (if sends_header context then header_blocks context else []) ++
    frame_blocks (frame_context context) rects image codes

omit h in
theorem rfx_compose_message.spec (h : Collected s acc) :
    (rfx_compose_message context rects image s).2.2.length = image.tiles.length ∧
      Collected (rfx_compose_message context rects image s).2.1
        (acc ++ message_blocks context rects image
          (rfx_compose_message context rects image s).2.2) := by
  unfold rfx_compose_message message_blocks frame_context
  split_ifs with hheader
  · obtain ⟨hcontext, hwritten⟩ := rfx_compose_message_header.spec h context
    rw [← append_assoc]
    exact rfx_compose_message_data.spec hwritten _ rects image
  · rw [nil_append]
    exact rfx_compose_message_data.spec h context rects image

end writing

end neutrinordp.rfx
