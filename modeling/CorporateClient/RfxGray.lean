-- Gray images have short codes: their planes are zero, and so are all coefficients. A run of zeros
-- takes a few bits, whatever room there is for the code.
import CorporateClient.RfxComposeLaws

namespace neutrinordp.rfx

open List stream

/-! ## The number of bits -/

theorem put_bits_loop_pos (turns bits nbits : Nat) (bs : RFX_BITSTREAM) :
    (put_bits_loop turns bs bits nbits).pos ≤ bs.pos + nbits := by
  induction turns generalizing bs nbits with
  | zero => exact Nat.le_add_right _ _
  | succ turns ih =>
    unfold put_bits_loop
    split_ifs with hmore
    · dsimp only
      refine (ih _ _).trans ?_
      have hstore : ∀ byte, (store_byte bs byte).pos = bs.pos := fun _ => rfl
      rw [pass_bits_pos (store_byte bs _) (Nat.min_le_right nbits bs.bits_left), hstore]
      omega
    · exact Nat.le_add_right _ _

theorem put_all_pos (calls : List Put) (bs : RFX_BITSTREAM) :
    (put_all bs calls).pos ≤ bs.pos + (calls.map Put.nbits).sum := by
  induction calls generalizing bs with
  | nil => exact Nat.le_refl _
  | cons call calls ih =>
    have hput := put_bits_loop_pos call.nbits (call.bits % 65536) call.nbits bs
    rw [map_cons, sum_cons]
    have hrest := ih (put_bits_loop call.nbits bs (call.bits % 65536) call.nbits)
    exact hrest.trans (by omega)

theorem rfx_rlgr_encode_short {mode : RLGR_MODE} {data : List Int} {n : Nat}
    (h : ((encode_calls mode data).map Put.nbits).sum ≤ 8 * n) (buffer : List UInt8) :
    (rfx_rlgr_encode mode data buffer).1 ≤ n := by
  have hpos := put_all_pos (encode_calls mode data) (rfx_bitstream_attach buffer)
  rw [show (rfx_bitstream_attach buffer).pos = 0 from rfl] at hpos
  unfold rfx_rlgr_encode rfx_bitstream_get_processed_bytes
  dsimp only
  generalize put_all (rfx_bitstream_attach buffer) (encode_calls mode data) = bs at hpos
  unfold RFX_BITSTREAM.pos at hpos
  split_ifs <;> omega

theorem collect_zeros_replicate (n : Nat) : collect_zeros (replicate (n + 1) 0) = (n, 0, []) := by
  induction n with
  | zero => rfl
  | succ n ih =>
    rw [replicate_succ, collect_zeros, if_pos (by simp), ih]

theorem encode_calls_zeros (mode : RLGR_MODE) (n : Nat) :
    encode_calls mode (replicate (n + 1) 0) =
      (emit_zeros n n param_start).1 ++ OutputBit 1 true ++
        OutputBits (emit_zeros n n param_start).2.2.k (emit_zeros n n param_start).2.1 ++
        OutputBit 1 false ++ (rfx_rlgr_code_gr param_start 0).1 := by
  have hrun : encode_turn mode ⟨param_start, param_start⟩ (replicate (n + 1) 0) =
      encode_run ⟨param_start, param_start⟩ (replicate (n + 1) 0) := if_pos (by decide)
  have hend : ∀ turns e, encode_loop mode turns e [] = [] := by
    intro turns e
    cases turns with
    | zero => rfl
    | succ turns => exact if_neg (by simp)
  unfold encode_calls
  rw [length_replicate, encode_loop, if_pos (by simp), hrun, encode_run, collect_zeros_replicate]
  simp only [hend, append_nil]
  rfl

theorem zeros_short (mode : RLGR_MODE) (buffer : List UInt8) :
    (rfx_rlgr_encode mode (replicate 4096 0) buffer).1 ≤ 16 := by
  apply rfx_rlgr_encode_short
  rw [encode_calls_zeros mode 4095]
  decide +kernel

/-! ## Coefficients that are zero -/

def AllZero (l : List Int) : Prop := ∀ v ∈ l, v = 0

theorem AllZero.append {a b : List Int} (ha : AllZero a) (hb : AllZero b) : AllZero (a ++ b) := by
  intro v hv
  rcases mem_append.mp hv with h | h
  · exact ha v h
  · exact hb v h

theorem AllZero.cell {p : List Int} (h : AllZero p) (width y x : Nat) : cell p width y x = 0 := by
  unfold rfx.cell
  rcases Nat.lt_or_ge (y * width + x) p.length with hlt | hge
  · rw [getD_eq_getElem _ _ hlt]
    exact h _ (getElem_mem hlt)
  · exact getD_eq_default _ _ hge

theorem allZero_grid {rows cols : Nat} {f : Nat → Nat → Int} (h : ∀ y x, f y x = 0) :
    AllZero (grid rows cols f) := by
  intro v hv
  obtain ⟨i, -, rfl⟩ := mem_map.mp hv
  exact h _ _

theorem dwt_h_zero {w : Nat} {src : Nat → Int} (h : ∀ i, src i = 0) (n : Nat) :
    dwt_h w src n = 0 := by
  unfold dwt_h
  rw [h, h, h]
  rfl

theorem dwt_l_zero {w : Nat} {src : Nat → Int} (h : ∀ i, src i = 0) (n : Nat) :
    dwt_l w src n = 0 := by
  unfold dwt_l
  simp only [h, dwt_h_zero h]
  split_ifs <;> rfl

theorem AllZero.bands {b : List Int} (h : AllZero b) (w : Nat) :
    AllZero (bands b w) ∧ AllZero (low_band (l_src b w) w) := by
  have hl : AllZero (l_src b w) := allZero_grid fun y x => dwt_l_zero (fun i => h.cell _ _ _) _
  have hh : AllZero (h_src b w) := allZero_grid fun y x => dwt_h_zero (fun i => h.cell _ _ _) _
  have hlow : ∀ src : List Int, AllZero src → AllZero (low_band src w) := fun src hsrc =>
    allZero_grid fun y x => dwt_l_zero (fun i => hsrc.cell _ _ _) _
  have hhigh : ∀ src : List Int, AllZero src → AllZero (high_band src w) := fun src hsrc =>
    allZero_grid fun y x => dwt_h_zero (fun i => hsrc.cell _ _ _) _
  exact ⟨(hhigh _ hl).append ((hlow _ hh).append (hhigh _ hh)), hlow _ hl⟩

theorem AllZero.dwt {tile : List Int} (h : AllZero tile) : AllZero (rfx_dwt_2d_encode tile) := by
  obtain ⟨hbands, hlow⟩ := h.bands 32
  obtain ⟨hbands', hlow'⟩ := hlow.bands 16
  obtain ⟨hbands'', hlow''⟩ := hlow'.bands 8
  rw [rfx_dwt_2d_encode_eq, encode_block_eq]
  exact hbands.append (hbands'.append (hbands''.append hlow''))

variable {image : Image} {context : RFX_CONTEXT} {buffer : List Int} {q : List Nat}

theorem AllZero.map_block (h : AllZero buffer) (offset size : Nat) {f : Int → Int} (hf : f 0 = 0) :
    AllZero (map_block offset size f buffer) := by
  intro v hv
  rcases mem_append.mp hv with hv | hv
  · rcases mem_append.mp hv with hv | hv
    · exact h v (mem_of_mem_take hv)
    · obtain ⟨a, ha, rfl⟩ := mem_map.mp hv
      rw [h a (mem_of_mem_drop (mem_of_mem_take ha)), hf]
  · exact h v (mem_of_mem_drop hv)

theorem quantize_zero {factor : Nat} (h : 1 ≤ factor) (hmax : factor ≤ 15) :
    quantize factor 0 = 0 := by
  have hall : ∀ k ≤ 15, 1 ≤ k → quantize k 0 = 0 := by decide
  exact hall factor hmax h

theorem AllZero.encode_block (h : AllZero buffer) (offset size : Nat) {factor : Nat}
    (hmax : factor ≤ 15) :
    AllZero (rfx_quantization_encode_block buffer offset size factor) := by
  unfold rfx_quantization_encode_block
  split_ifs with hzero
  · exact h
  · exact h.map_block offset size (quantize_zero (by omega) hmax)

theorem AllZero.quantization (h : AllZero buffer) (hq : QuantTable q) :
    AllZero (rfx_quantization_encode buffer q) := by
  have hfactor : ∀ i < 10, quant_factor q i ≤ 15 := by
    intro i hi
    have hv := hq i hi
    unfold quant_factor
    omega
  have hblocks : ∀ (blocks : List (Nat × Nat × Nat)), (∀ block ∈ blocks, block.2.2 < 10) →
      ∀ buffer, AllZero buffer → AllZero (blocks.foldl (fun buffer block =>
        rfx_quantization_encode_block buffer block.1 block.2.1 (quant_factor q block.2.2))
          buffer) := by
    intro blocks
    induction blocks with
    | nil => exact fun _ _ hbuffer => hbuffer
    | cons block blocks ih =>
      intro hindex buffer hbuffer
      have hnext := hbuffer.encode_block block.1 block.2.1
        (hfactor block.2.2 (hindex block mem_cons_self))
      rw [foldl_cons]
      exact ih (forall_mem_cons.mp hindex).2 _ hnext
  have hbands := hblocks quant_blocks (by decide) buffer h
  unfold rfx_quantization_encode quantize_blocks
  exact hbands.encode_block 0 4096 (show 5 ≤ 15 by decide)

theorem AllZero.differential {l : List Int} (h : AllZero l) :
    AllZero (rfx_differential_encode l) := by
  have hfrom : ∀ l : List Int, AllZero l → AllZero (difference_from 0 l) := by
    intro l
    induction l with
    | nil => exact fun h => h
    | cons v rest ih =>
      intro h
      obtain rfl := h v mem_cons_self
      exact forall_mem_cons.mpr ⟨rfl, ih (forall_mem_cons.mp h).2⟩
  cases l with
  | nil => exact h
  | cons v rest =>
    obtain rfl := h v mem_cons_self
    exact forall_mem_cons.mpr ⟨rfl, hfrom rest (forall_mem_cons.mp h).2⟩

theorem coefficients_zero (hq : QuantTable q) {data : List Int} (h : AllZero data) :
    (coefficients q data).1 = replicate 4096 0 := by
  rw [eq_replicate_iff]
  refine ⟨(coefficients q data).2, ?_⟩
  have hcoded := h.dwt.quantization hq
  have hfront : AllZero ((rfx_quantization_encode (rfx_dwt_2d_encode data) q).take 4032) :=
    fun v hv => hcoded v (mem_of_mem_take hv)
  have hback : AllZero ((rfx_quantization_encode (rfx_dwt_2d_encode data) q).drop 4032) :=
    fun v hv => hcoded v (mem_of_mem_drop hv)
  exact hfront.append hback.differential

/-! ## Gray pixels -/

def gray : Pixel := (128, 128, 128)

theorem gray_ycbcr : rgb_to_ycbcr gray = (0, 0, 0) := by decide

theorem row_pixel_gray (palette : Option (Nat → UInt8)) {src : Nat → UInt8}
    (h : ∀ i, src i = 128) (x : Nat) : row_pixel .RGB palette src x = some gray := by
  unfold row_pixel
  simp only [h]
  rfl

theorem format_row_gray (palette : Option (Nat → UInt8)) (before : Nat → Pixel)
    {src : Nat → UInt8} (h : ∀ i, src i = 128) (out : List Pixel) :
    format_row .RGB palette before src 64 out = out ++ replicate 64 gray := by
  have hrow : row_pixel .RGB palette src = some ∘ fun _ => gray := by
    funext x
    exact row_pixel_gray palette h x
  unfold format_row
  rw [hrow, filterMap_eq_map, map_const', length_range]
  exact append_nil _

theorem format_rows_gray (palette : Option (Nat → UInt8)) (before : Nat → Pixel)
    {image : Memory} (h : ∀ p, image p = 128) (rgb_data rowstride : Int) :
    format_rows .RGB palette before image rgb_data 64 64 rowstride = replicate 4096 gray := by
  have hrows : ∀ n, (range n).foldl (fun out (y : Nat) => format_row .RGB palette before
      (fun i => image (rgb_data + y * rowstride + i)) 64 out) [] = replicate (64 * n) gray := by
    intro n
    induction n with
    | zero => rfl
    | succ n ih =>
      rw [range_succ, foldl_append, ih]
      refine (format_row_gray palette before (fun i => h _) _).trans ?_
      rw [replicate_append_replicate]
      rfl
  unfold format_rows
  rw [hrows]
  exact append_nil _

theorem overwrite_all {values : List Int} (h : values.length = 4096) (plane : Plane) :
    (plane.overwrite values).1 = values := by
  exact take_left' h

theorem gray_pixels {image : Memory} (hformat : context.pixel_format = .RGB)
    (h : ∀ p, image p = 128) (rgb_data rowstride : Int) :
    (rfx_encode_format_rgb context image rgb_data 64 64 rowstride).pixels =
      replicate 4096 gray := by
  unfold rfx_encode_format_rgb Buffers.pixels
  have hlength : ∀ f : Pixel → Int, ((replicate 4096 gray).map f).length = 4096 := by
    intro f
    rw [length_map, length_replicate]
  rw [hformat, format_rows_gray context.palette context.before_buffers h,
    overwrite_all (hlength _), overwrite_all (hlength _), overwrite_all (hlength _)]
  simp only [map_replicate, zip_replicate, Nat.min_self]

theorem gray_planes {buffers : Buffers} (h : buffers.pixels = replicate 4096 gray) :
    AllZero (rfx_encode_rgb_to_ycbcr buffers).y_r.1 ∧
      AllZero (rfx_encode_rgb_to_ycbcr buffers).cb_g.1 ∧
      AllZero (rfx_encode_rgb_to_ycbcr buffers).cr_b.1 := by
  unfold rfx_encode_rgb_to_ycbcr Buffers.of_pixels
  dsimp only
  rw [h, map_replicate, gray_ycbcr]
  simp only [map_replicate]
  exact ⟨fun v hv => eq_of_mem_replicate hv, fun v hv => eq_of_mem_replicate hv,
    fun v hv => eq_of_mem_replicate hv⟩

/-! ## Short codes -/

/-- A code of at most 16 bytes for each plane. -/
def TileCode.Short (code : TileCode) : Prop :=
  code.Y.length ≤ 16 ∧ code.Cb.length ≤ 16 ∧ code.Cr.length ≤ 16

structure QuantsInRange (quants : TileQuants) : Prop where
  y : QuantTable quants.y
  cb : QuantTable quants.cb
  cr : QuantTable quants.cr

theorem zero_component_short (mode : RLGR_MODE) (hq : QuantTable q) {data : Plane}
    (h : AllZero data.1) (s : STREAM) : (encode_to_stream mode q data s).2.2.length ≤ 16 := by
  unfold encode_to_stream put_component rfx_encode_component
  dsimp only
  rw [coefficients_zero hq h]
  exact (length_take_le _ _).trans (zeros_short mode _)

theorem TileCode.short_mk {Y Cb Cr : List UInt8} (hY : Y.length ≤ 16) (hCb : Cb.length ≤ 16)
    (hCr : Cr.length ≤ 16) : TileCode.Short ⟨Y, Cb, Cr⟩ :=
  ⟨hY, hCb, hCr⟩

theorem rfx_encode_rgb_code (context : RFX_CONTEXT) (image : Memory) (rgb_data : Int)
    (width height : Nat) (rowstride : Int) (quants : TileQuants) (s : STREAM) {planes : Buffers}
    (h : rfx_encode_rgb_to_ycbcr (rfx_encode_format_rgb context image rgb_data width height
      rowstride) = planes) :
    ∃ s' s'' : STREAM,
      (rfx_encode_rgb context image rgb_data width height rowstride quants s).2.2 =
        { Y := (encode_to_stream context.mode quants.y planes.y_r s).2.2
          Cb := (encode_to_stream context.mode quants.cb planes.cb_g s').2.2
          Cr := (encode_to_stream context.mode quants.cr planes.cr_b s'').2.2 } := by
  subst h
  unfold rfx_encode_rgb
  exact ⟨_, _, rfl⟩

theorem gray_tile_short {image : Memory} (hformat : context.pixel_format = .RGB)
    (h : ∀ p, image p = 128) {quants : TileQuants} (hq : QuantsInRange quants)
    (rgb_data rowstride : Int) (s : STREAM) :
    (rfx_encode_rgb context image rgb_data 64 64 rowstride quants s).2.2.Short := by
  obtain ⟨hy, hcb, hcr⟩ := gray_planes (gray_pixels hformat h rgb_data rowstride)
  obtain ⟨s', s'', hcode⟩ :=
    rfx_encode_rgb_code context image rgb_data 64 64 rowstride quants s rfl
  rw [hcode]
  apply TileCode.short_mk
  · exact zero_component_short context.mode hq.y hy s
  · exact zero_component_short context.mode hq.cb hcb s'
  · exact zero_component_short context.mode hq.cr hcr s''

/-- A gray image, with a whole number of tiles in each direction. -/
structure GrayImage (image : Image) : Prop where
  memory : ∀ p, image.memory p = 128
  width : image.width = 64 * image.numTilesX
  height : image.height = 64 * image.numTilesY

theorem tile_done_parts (context : RFX_CONTEXT) (start_pos : Nat)
    (encoded : Buffers × STREAM × TileCode) :
    (tile_done context start_pos encoded).2.2 = encoded.2.2 ∧
      (tile_done context start_pos encoded).1.pixel_format = context.pixel_format := ⟨rfl, rfl⟩

theorem frame_done_codes (composed : RFX_CONTEXT × STREAM × List TileCode) :
    (frame_done composed).2.2 = composed.2.2 := rfl

section

variable {q : QuantSet} (himage : GrayImage image) (hq : QuantsInRange q.tile_quants)

include himage hq

theorem put_tile_gray (hformat : context.pixel_format = .RGB) {width height : Nat}
    (hwidth : width = 64) (hheight : height = 64) (rgb_data : Int) (xIdx yIdx : Nat) (s : STREAM) :
    (put_tile context image rgb_data width height q xIdx yIdx s).2.2.Short ∧
      (put_tile context image rgb_data width height q xIdx yIdx s).1.pixel_format = .RGB := by
  subst hwidth hheight
  have hshort := gray_tile_short hformat himage.memory hq rgb_data image.rowstride
    (tile_start q xIdx yIdx s)
  unfold put_tile
  rw [(tile_done_parts _ _ _).1, (tile_done_parts _ _ _).2]
  exact ⟨hshort, hformat⟩

theorem compose_tile_at_gray {xIdx yIdx : Nat} (hx : xIdx < image.numTilesX)
    (hy : yIdx < image.numTilesY) (hformat : context.pixel_format = .RGB) (s : STREAM) :
    (compose_tile_at image q xIdx yIdx context s).2.2.Short ∧
      (compose_tile_at image q xIdx yIdx context s).1.pixel_format = .RGB := by
  have hwidth := himage.width
  have hheight := himage.height
  apply put_tile_gray himage hq hformat
  · split_ifs <;> omega
  · split_ifs <;> omega

theorem compose_tiles_gray {tiles : List (Nat × Nat)}
    (htiles : ∀ tile ∈ tiles, tile.1 < image.numTilesX ∧ tile.2 < image.numTilesY)
    (hformat : context.pixel_format = .RGB) (s : STREAM) :
    ∀ code ∈ (compose_tiles image q tiles context s).2.2, code.Short := by
  induction tiles generalizing context s with
  | nil => exact forall_mem_nil _
  | cons tile tiles ih =>
    obtain ⟨xIdx, yIdx⟩ := tile
    obtain ⟨hx, hy⟩ := htiles _ mem_cons_self
    obtain ⟨hshort, hformat'⟩ := compose_tile_at_gray himage hq hx hy hformat s
    rw [compose_tiles]
    generalize compose_tile_at image q xIdx yIdx context s = tile at hshort hformat' ⊢
    have hrest := ih (forall_mem_cons.mp htiles).2 hformat'
      tile.2.1
    generalize compose_tiles image q tiles tile.1 tile.2.1 = rest at hrest ⊢
    exact forall_mem_cons.mpr ⟨hshort, hrest⟩

end

theorem mem_tiles {tile : Nat × Nat} (h : tile ∈ image.tiles) :
    tile.1 < image.numTilesX ∧ tile.2 < image.numTilesY := by
  simp only [Image.tiles, mem_flatMap, mem_range, mem_map] at h
  obtain ⟨y, hy, x, hx, rfl⟩ := h
  exact ⟨hx, hy⟩

theorem gray_message_short (himage : GrayImage image) {w : RFX_CONTEXT}
    (hformat : w.pixel_format = .RGB) (hq : QuantsInRange (quant_set w).tile_quants)
    (rects : List RFX_RECT) (s : STREAM) :
    ∀ code ∈ (rfx_compose_message w rects image s).2.2, code.Short := by
  have hdata : ∀ w' : RFX_CONTEXT, w'.pixel_format = .RGB →
      QuantsInRange (quant_set w').tile_quants → ∀ s : STREAM,
      ∀ code ∈ (rfx_compose_message_data w' rects image s).2.2, code.Short := by
    intro w' hformat hq s
    unfold rfx_compose_message_data
    rw [frame_done_codes]
    have hformat' : (rfx_compose_message_frame_begin w' s).1.pixel_format = .RGB := hformat
    have hq' : QuantsInRange (quant_set (rfx_compose_message_frame_begin w' s).1).tile_quants := hq
    exact compose_tiles_gray himage hq' (fun tile => mem_tiles) hformat' _
  unfold rfx_compose_message
  split_ifs
  · have hformat' : (rfx_compose_message_header w s).1.pixel_format = .RGB := hformat
    have hq' : QuantsInRange (quant_set (rfx_compose_message_header w s).1).tile_quants := hq
    exact hdata _ hformat' hq' _
  · exact hdata w hformat hq s

end neutrinordp.rfx
