-- What a RemoteFX message can do to its reader (rfx.c, rfx_quantization.c, rfx_rlgr.c). The lengths
-- of blocks, the numbers of tables and the values in them are taken from the wire as they are.
import CorporateClient.RfxMessage

open List

namespace neutrinordp.rfx

/-! ## The blocks of a message -/

variable {m : Memory} {s s' : Parse}

theorem process_turn_p (h : process_turn m s = some s') :
    uint32_at m (s.p + 2) ≠ 0 ∧ s'.p = sint32 (s.p + uint32_at m (s.p + 2)) := by
  unfold process_turn at h
  dsimp only at h
  split at h
  · cases h
  · rename_i hsome
    cases h
    refine ⟨hsome, ?_⟩
    unfold process_block
    split_ifs <;> rfl

theorem uint32_at_lt (m : Memory) (p : Int) : uint32_at m p < 4294967296 := by
  have h0 := (m p).toNat_lt
  have h1 := (m (p + 1)).toNat_lt
  have h2 := (m (p + 2)).toNat_lt
  have h3 := (m (p + 3)).toNat_lt
  unfold uint32_at bytes.ofLe32
  omega

theorem sint32_range (v : Int) : -2147483648 ≤ sint32 v ∧ sint32 v < 2147483648 :=
  ⟨BitVec.le_toInt _, BitVec.toInt_lt⟩

theorem lt_sint32_iff {p : Int} (hp : -2147483648 ≤ p ∧ p < 2147483648) {len : Nat}
    (hlen : len ≠ 0) (hlong : len < 4294967296) :
    p < sint32 (p + len) ↔ p + len < 2147483648 := by
  unfold sint32
  rw [BitVec.toInt_ofInt, Int.bmod_def]
  split <;> omega

/-- The turns of the loop all go forward exactly if every block ends below `2 ^ 31`. Then there are
no more turns than bytes. -/
theorem blocks_go_forward_iff (m : Memory) (length : Nat) (context : RFX_CONTEXT)
    (run : Nat → Parse) (n : Nat) (hstart : run 0 = ⟨0, context, rfx_message_new⟩)
    (hrun : ∀ i < n, sint32 length - (run i).p > 6 ∧ process_turn m (run i) = some (run (i + 1))) :
    ((∀ i < n, (run i).p < (run (i + 1)).p) ↔
      ∀ i < n, (run i).p + uint32_at m ((run i).p + 2) < 2147483648) ∧
    ((∀ i < n, (run i).p + uint32_at m ((run i).p + 2) < 2147483648) → n ≤ length) := by
  have hzero : (run 0).p = 0 := by rw [hstart]
  have hrange : ∀ i ≤ n, -2147483648 ≤ (run i).p ∧ (run i).p < 2147483648 := by
    intro i hi
    cases i with
    | zero => omega
    | succ i =>
      rw [(process_turn_p (hrun i hi).2).2]
      exact sint32_range _
  have hiff : ∀ i < n, (run i).p < (run (i + 1)).p ↔
      (run i).p + uint32_at m ((run i).p + 2) < 2147483648 := by
    intro i hi
    obtain ⟨hsome, hnext⟩ := process_turn_p (hrun i hi).2
    rw [hnext]
    exact lt_sint32_iff (hrange i (by omega)) hsome (uint32_at_lt _ _)
  refine ⟨forall₂_congr hiff, fun hblocks => ?_⟩
  have hfar : ∀ i ≤ n, (i : Int) ≤ (run i).p := by
    intro i hi
    induction i with
    | zero => omega
    | succ i ih =>
      have hmore := (hiff i hi).mpr (hblocks i hi)
      omega
  cases n with
  | zero => exact Nat.zero_le _
  | succ n =>
    have hleft := (hrun n (by omega)).1
    have hpos := hfar n (by omega)
    have hsize : sint32 length ≤ length := by
      unfold sint32
      rw [BitVec.toInt_ofInt, Int.bmod_def]
      split <;> omega
    omega

/-- A block of seven bytes. -/
theorem one_block_goes_forward :
    ∃ s, process_turn (memory_of [0, 0, 7, 0, 0, 0, 0]) ⟨0, quietContext, rfx_message_new⟩ =
        some s ∧
      0 < s.p := by
  refine ⟨_, rfl, ?_⟩
  refine (blocks_go_forward_iff (memory_of [0, 0, 7, 0, 0, 0, 0]) 7 quietContext
    (fun i => Nat.casesOn i ⟨0, quietContext, rfx_message_new⟩ fun _ => _) 1 rfl ?_).1.mpr ?_ 0
    Nat.one_pos
  · intro i hi
    obtain rfl : i = 0 := Nat.lt_one_iff.mp hi
    exact ⟨by decide, rfl⟩
  · intro i hi
    obtain rfl : i = 0 := Nat.lt_one_iff.mp hi
    decide

/-- A length of `2 ^ 32 - 7` leads from the second block back to the first one. -/
theorem second_block_leads_back :
    let m := memory_of [0, 0, 7, 0, 0, 0, 0, 0, 0, 0xF9, 0xFF, 0xFF, 0xFF, 0]
    ∃ s s', process_turn m ⟨0, quietContext, rfx_message_new⟩ = some s ∧ s.p = 7 ∧
      process_turn m s = some s' ∧ s'.p = 0 :=
  ⟨_, _, rfl, rfl, rfl, rfl⟩

/-! ## The quantization of tiles -/

/-- The tiles of `tile_loop`: where their bodies are, and the codec before each of them. -/
def tile_visits (m : Memory) : List Nat → Int → RFX_CONTEXT → List (Int × RFX_CONTEXT)
  | [], _, _ => []
  | tile :: tiles, p, context =>
    if uint16_at m p ≠ CBT_TILE then []
    else (p + 6, context) :: tile_visits m tiles (sint32 (p + uint32_at m (p + 2)))
      (rfx_process_message_tile m (p + 6) context tile)

def tileset_visits (m : Memory) (p : Int) (context : RFX_CONTEXT) : List (Int × RFX_CONTEXT) :=
  let num_quants := uint8_at m (p + 6)
  let num_tiles := uint16_at m (p + 8)
  if uint16_at m p ≠ CBT_TILESET ∨ num_quants < 1 ∨ num_tiles < 1 then []
  else
    let taken := rfx_pool_get_tiles num_tiles context.pool
    tile_visits m taken.1 (p + 14 + 5 * num_quants)
      { context with num_quants, quants := quants_at m (p + 14) num_quants, pool := taken.2 }

/-- The tiles of the first `turns` blocks, each with the place of its tileset. -/
def message_visits (m : Memory) (size : Int) : Nat → Parse → List (Int × Int × RFX_CONTEXT)
  | 0, _ => []
  | turns + 1, s =>
    if size - s.p > 6 then
      match process_turn m s with
      | none => []
      | some s' =>
        (if uint16_at m s.p = WBT_EXTENSION then
          (tileset_visits m (s.p + 8) s.context).map fun v => (s.p + 8, v)
        else []) ++ message_visits m size turns s'
    else []

def index_places (body : Int) : List Int := [body, body + 1, body + 2]

def tile_shifts (m : Memory) (body : Int) (context : RFX_CONTEXT) : List Nat :=
  (index_places body).flatMap fun q =>
    quant_blocks.map fun block => quant_factor (context.quant_values (uint8_at m q)) block.2.2

theorem tile_loop_visits (m : Memory) (tiles : List Nat) (p : Int) (context : RFX_CONTEXT) :
    tile_loop m tiles p context = ((tile_visits m tiles p context).zip tiles).foldl
      (fun context v => rfx_process_message_tile m v.1.1 context v.2) context := by
  induction tiles generalizing p context with
  | nil => rfl
  | cons tile tiles ih =>
    unfold tile_loop tile_visits
    split
    · rfl
    · exact ih _ _

variable {context : RFX_CONTEXT}

theorem mem_tile_visits {tiles : List Nat} {p : Int}
    {v : Int × RFX_CONTEXT} (hv : v ∈ tile_visits m tiles p context) :
    v.2.num_quants = context.num_quants ∧ v.2.quants = context.quants := by
  induction tiles generalizing p context with
  | nil => cases hv
  | cons tile tiles ih =>
    unfold tile_visits at hv
    split at hv
    · cases hv
    · rcases mem_cons.mp hv with rfl | hv
      · exact ⟨rfl, rfl⟩
      · have hsame := ih hv
        exact hsame

theorem mem_tileset_visits {p : Int} {v : Int × RFX_CONTEXT}
    (hv : v ∈ tileset_visits m p context) : v.2.num_quants = uint8_at m (p + 6) ∧
      v.2.quants = quants_at m (p + 14) (uint8_at m (p + 6)) := by
  unfold tileset_visits at hv
  dsimp only at hv
  split at hv
  · cases hv
  · exact mem_tile_visits hv

theorem tileset_works_through_visits (m : Memory) (p : Int) (context : RFX_CONTEXT)
    (message : RFX_MESSAGE) : ∃ started,
      (rfx_process_message_tileset m p context message).1 =
        ((tileset_visits m p context).zip (rfx_process_message_tileset m p context message).2.tiles
          ).foldl (fun context v => rfx_process_message_tile m v.1.1 context v.2) started := by
  unfold rfx_process_message_tileset tileset_visits
  dsimp only
  by_cases htype : uint16_at m p ≠ CBT_TILESET
  · exact ⟨_, by rw [if_pos htype, if_pos (.inl htype)]; rfl⟩
  by_cases hquants : uint8_at m (p + 6) < 1
  · exact ⟨_, by rw [if_neg htype, if_pos hquants, if_pos (.inr (.inl hquants))]; rfl⟩
  by_cases htiles : uint16_at m (p + 8) < 1
  · exact ⟨_, by rw [if_neg htype, if_neg hquants, if_pos htiles, if_pos (.inr (.inr htiles))]; rfl⟩
  rw [if_neg htype, if_neg hquants, if_neg htiles, if_neg (by tauto)]
  exact ⟨_, tile_loop_visits m _ _ _⟩

/-- The reader after `k` blocks, if it gets there. -/
def after_blocks (m : Memory) (size : Int) : Nat → Parse → Option Parse
  | 0, s => some s
  | k + 1, s =>
    if size - s.p > 6 then (process_turn m s).bind (after_blocks m size k) else none

theorem process_loop_after_blocks {size : Int} {k : Nat} {s' : Parse}
    (h : after_blocks m size k s = some s') (n : Nat) :
    process_loop m size (k + n) s = process_loop m size n s' := by
  induction k generalizing s with
  | zero => rw [Nat.zero_add, Option.some.inj h]
  | succ k ih =>
    rw [after_blocks] at h
    obtain ⟨hsize, h⟩ := Option.ite_none_right_eq_some.mp h
    obtain ⟨next, hturn, h⟩ := Option.bind_eq_some_iff.mp h
    rw [Nat.succ_add, process_loop, if_pos hsize, hturn]
    exact ih h

theorem mem_message_visits_iff {size : Int} {turns : Nat} {t : Int × Int × RFX_CONTEXT} :
    t ∈ message_visits m size turns s ↔ ∃ k < turns, ∃ at_k, after_blocks m size k s = some at_k ∧
      size - at_k.p > 6 ∧ (process_turn m at_k).isSome ∧ uint16_at m at_k.p = WBT_EXTENSION ∧
      ∃ v ∈ tileset_visits m (at_k.p + 8) at_k.context, (at_k.p + 8, v) = t := by
  induction turns generalizing s with
  | zero => simp [message_visits]
  | succ turns ih =>
    rw [message_visits]
    by_cases hsize : size - s.p > 6
    · rw [if_pos hsize]
      cases hturn : process_turn m s with
      | none =>
        refine ⟨fun h => (not_mem_nil h).elim, ?_⟩
        rintro ⟨k, -, at_k, hk, -, hsome, -⟩
        cases k with
        | zero => simp [← Option.some.inj hk, hturn] at hsome
        | succ k => simp [after_blocks, hturn] at hk
      | some s' =>
        rw [mem_append, ih]
        constructor
        · rintro (ht | ⟨k, hk, at_k, hat, hrest⟩)
          · split at ht
            next htype => exact ⟨0, turns.succ_pos, s, rfl, hsize, by simp [hturn], htype,
              mem_map.mp ht⟩
            next => cases ht
          · refine ⟨k + 1, Nat.succ_lt_succ hk, at_k, ?_, hrest⟩
            rwa [after_blocks, if_pos hsize, hturn]
        · rintro ⟨k, hk, at_k, hat, hrest⟩
          cases k with
          | zero =>
            obtain rfl := Option.some.inj hat
            exact .inl (by rw [if_pos hrest.2.2.1]; exact mem_map.mpr hrest.2.2.2)
          | succ k =>
            rw [after_blocks, if_pos hsize, hturn] at hat
            exact .inr ⟨k, Nat.lt_of_succ_lt_succ hk, at_k, hat, hrest⟩
    · rw [if_neg hsize]
      refine ⟨fun h => (not_mem_nil h).elim, ?_⟩
      rintro ⟨k, -, at_k, hk, hmore, -⟩
      cases k with
      | zero => exact absurd (Option.some.inj hk ▸ hmore) hsize
      | succ k => simp [after_blocks, hsize] at hk

theorem mem_message_visits {size : Int} {turns : Nat} {t : Int × Int × RFX_CONTEXT}
    (ht : t ∈ message_visits m size turns s) : t.2.2.num_quants = uint8_at m (t.1 + 6) ∧
      t.2.2.quants = quants_at m (t.1 + 14) (uint8_at m (t.1 + 6)) := by
  obtain ⟨_, _, _, _, _, _, _, v, hv, rfl⟩ := mem_message_visits_iff.mp ht
  exact mem_tileset_visits hv

theorem quants_at_le (m : Memory) (p : Int) (n i : Nat) : (quants_at m p n).getD i 0 ≤ 15 := by
  have hall : ∀ v ∈ quants_at m p n, v ≤ 15 := by
    intro v hv
    obtain ⟨b, -, hv⟩ := mem_flatMap.mp hv
    have hb := b.toNat_lt
    rcases mem_cons.mp hv with rfl | hv
    · exact Nat.and_le_right
    · rw [mem_singleton.mp hv, Nat.shiftRight_eq_div_pow]
      omega
  rcases Nat.lt_or_ge i (quants_at m p n).length with hi | hi
  · rw [List.getD_eq_getElem _ _ hi]
    exact hall _ (List.getElem_mem hi)
  · rw [List.getD_eq_default _ _ hi]
    exact Nat.zero_le _

theorem length_quants_at (m : Memory) (p : Int) (n : Nat) : (quants_at m p n).length = 10 * n := by
  have hpairs : ∀ l : List UInt8,
      (l.flatMap fun quant => [quant.toNat &&& 0x0F, quant.toNat >>> 4]).length = 2 * l.length := by
    intro l
    induction l with
    | nil => rfl
    | cons b l ih =>
      rw [List.flatMap_cons, length_append, ih, length_cons]
      exact (Nat.mul_succ 2 l.length).symm ▸ Nat.add_comm _ _
  rw [quants_at, hpairs, bytes_at, length_map, length_range]
  omega

/-- The index is one of the tables of the tileset, and the values of the table are at least 6. -/
def TableOk (m : Memory) (p : Int) (index : Nat) : Prop :=
  index < uint8_at m (p + 6) ∧
    ∀ i < 10, 6 ≤ (quants_at m (p + 14) (uint8_at m (p + 6))).getD (index * 10 + i) 0

theorem quant_factor_le_iff {p : Int} {n index i : Nat}
    (hquants : context.quants = quants_at m p n) (hindex : index < n) (hi : i < 10) :
    quant_factor (context.quant_values index) i ≤ 9 ↔
      6 ≤ (quants_at m p n).getD (index * 10 + i) 0 := by
  have hin : index * 10 + i < (quants_at m p n).length := by
    rw [length_quants_at]
    omega
  have hvalue : (context.quant_values index).getD i 0 =
      (quants_at m p n).getD (index * 10 + i) 0 := by
    rw [RFX_CONTEXT.quant_values, quant_values, hquants, List.getD_eq_getElem _ _ (by simpa),
      List.getElem_map, List.getElem_range, List.getD_eq_getElem _ _ hin,
      List.getD_eq_getElem _ _ hin]
  have hle := quants_at_le m p n (index * 10 + i)
  rw [quant_factor, hvalue]
  omega

/-- The tiles of a message use the tables of their own tilesets, with shifts from 0 to 9, exactly
if the indices and the tables are right on the wire. -/
theorem tile_shifts_in_range_iff (m : Memory) (length turns : Nat) (context : RFX_CONTEXT) :
    (∀ t ∈ message_visits m (sint32 length) turns ⟨0, context, rfx_message_new⟩,
      (∀ q ∈ index_places t.2.1, uint8_at m q < t.2.2.num_quants) ∧
      ∀ shift ∈ tile_shifts m t.2.1 t.2.2, shift ≤ 9) ↔
    ∀ t ∈ message_visits m (sint32 length) turns ⟨0, context, rfx_message_new⟩,
      ∀ q ∈ index_places t.2.1, TableOk m t.1 (uint8_at m q) := by
  have hblocks : ∀ i < 10, ∃ block ∈ quant_blocks, block.2.2 = i := by decide
  have hsmall : ∀ block ∈ quant_blocks, block.2.2 < 10 := by decide
  refine forall₂_congr fun t ht => ?_
  obtain ⟨hcount, hquants⟩ := mem_message_visits ht
  rw [hcount]
  constructor
  · rintro ⟨hindex, hshifts⟩ q hq
    refine ⟨hindex q hq, fun i hi => ?_⟩
    obtain ⟨block, hblock, rfl⟩ := hblocks i hi
    exact (quant_factor_le_iff hquants (hindex q hq) hi).mp (hshifts _
      (mem_flatMap.mpr ⟨q, hq, mem_map.mpr ⟨block, hblock, rfl⟩⟩))
  · intro htables
    refine ⟨fun q hq => (htables q hq).1, fun shift hshift => ?_⟩
    obtain ⟨q, hq, hshift⟩ := mem_flatMap.mp hshift
    obtain ⟨block, hblock, rfl⟩ := mem_map.mp hshift
    have hi := hsmall block hblock
    exact (quant_factor_le_iff hquants (htables q hq).1 hi).mpr ((htables q hq).2 _ hi)

/-- A tileset with a table of zeros and one tile. -/
def zeroTables : Memory := memory_of ([0xC7, 0xCC, 46, 0, 0, 0, 0, 0] ++
  [0xC2, 0xCA, 0, 0, 0, 0, 1, 0x40, 1, 0, 0, 0, 0, 0] ++ [0, 0, 0, 0, 0] ++
  [0xC3, 0xCA, 19, 0, 0, 0] ++ replicate 13 0)

/-- The shift of the tile is by `2 ^ 32 - 6`. -/
theorem zero_table_shifts_too_far :
    ∃ t ∈ message_visits zeroTables (sint32 46) 2 ⟨0, quietContext, rfx_message_new⟩,
      ∃ shift ∈ tile_shifts zeroTables t.2.1 t.2.2, shift = 4294967290 :=
  ⟨_, mem_singleton.mpr rfl, _, mem_cons_self, by decide⟩

/-! ## The entropy decoder -/

section decoder

variable {d d' d2 : Decoder} {c c' : Nat}

/-- What the decoder does: it takes bits, and it counts the buffer down, by at most 1024 for each
bit and by `c` in addition. It writes what fits the buffer. -/
structure Moves (c : Nat) (d d' : Decoder) : Prop where
  left : rfx_bitstream_left d'.bs ≤ rfx_bitstream_left d.bs
  size : d.buffer_size ≤ d'.buffer_size +
    1024 * (rfx_bitstream_left d.bs - rfx_bitstream_left d'.bs) + c
  down : d'.buffer_size ≤ d.buffer_size
  written : d'.out.length + max d'.buffer_size 0 = d.out.length + max d.buffer_size 0

theorem Moves.refl (d : Decoder) : Moves 0 d d := ⟨Nat.le_refl _, by omega, Int.le_refl _, rfl⟩

theorem Moves.trans (h : Moves c d d') (h' : Moves c' d' d2) : Moves (c + c') d d2 := by
  obtain ⟨hleft, hsize, hdown, hwritten⟩ := h
  obtain ⟨hleft', hsize', hdown', hwritten'⟩ := h'
  exact ⟨hleft'.trans hleft, by omega, by omega, hwritten'.trans hwritten⟩

theorem Moves.mono (h : Moves c d d') (hc : c ≤ c') : Moves c' d d' :=
  ⟨h.left, h.size.trans (by omega), h.down, h.written⟩

theorem Moves.params (h : Moves c d d') (kp krp : Param) : Moves c d { d' with kp, krp } :=
  ⟨h.left, h.size, h.down, h.written⟩

theorem left_eq_zero_iff (bs : RFX_BITSTREAM) :
    rfx_bitstream_left bs = 0 ↔ rfx_bitstream_eos bs = true := by
  rw [rfx_bitstream_eos_iff, ← length_ahead, length_eq_zero_iff]

theorem left_ne_zero {bs : RFX_BITSTREAM} (h : rfx_bitstream_eos bs = false) :
    rfx_bitstream_left bs ≠ 0 := by
  rw [Ne, left_eq_zero_iff, h]
  exact Bool.false_ne_true

theorem pass_bits_left {bs : RFX_BITSTREAM} {b : Nat} (hb : b ≤ bs.bits_left) :
    rfx_bitstream_left (pass_bits bs b) = rfx_bitstream_left bs - b := by
  rw [← length_ahead, pass_bits_ahead bs hb, length_drop, length_ahead]

theorem get_bits_loop_left (turns : Nat) (bs : RFX_BITSTREAM) (nbits n : Nat) :
    rfx_bitstream_left (get_bits_loop turns bs nbits n).2 ≤ rfx_bitstream_left bs := by
  induction turns generalizing bs nbits n with
  | zero => exact Nat.le_refl _
  | succ turns ih =>
    unfold get_bits_loop
    split
    · refine (ih _ _ _).trans ?_
      rw [pass_bits_left (Nat.min_le_right _ _)]
      exact Nat.sub_le _ _
    · exact Nat.le_refl _

theorem get_bits_loop_lt (turns : Nat) (bs : RFX_BITSTREAM) (nbits m n : Nat) (h : n < 2 ^ m) :
    (get_bits_loop turns bs nbits n).1 < 2 ^ (m + nbits) := by
  induction turns generalizing bs nbits m n with
  | zero => exact h.trans_le (Nat.pow_le_pow_right (by decide) (by omega))
  | succ turns ih =>
    unfold get_bits_loop
    split
    · have hb : min nbits bs.bits_left ≤ nbits := Nat.min_le_left _ _
      generalize min nbits bs.bits_left = b at hb
      rw [show m + nbits = m + b + (nbits - b) by omega]
      refine ih _ _ _ _ (Nat.or_lt_two_pow ?_ ?_)
      · refine (Nat.mod_le _ _).trans_lt ?_
        rw [Nat.shiftLeft_eq, Nat.pow_add]
        exact Nat.mul_lt_mul_of_pos_right h (Nat.two_pow_pos b)
      · refine Nat.and_le_right.trans_lt ((Nat.sub_one_lt (Nat.two_pow_pos b).ne').trans_le ?_)
        exact Nat.pow_le_pow_right (by decide) (by omega)
    · exact h.trans_le (Nat.pow_le_pow_right (by decide) (by omega))

theorem GetBits_moves (nBits : Nat) (d : Decoder) : Moves 0 d (GetBits nBits d).2 := by
  have hleft := get_bits_loop_left nBits d.bs nBits 0
  refine ⟨hleft, ?_, Int.le_refl _, rfl⟩
  show d.buffer_size ≤ d.buffer_size + 1024 * (_ - (rfx_bitstream_left
    (get_bits_loop nBits d.bs nBits 0).2 : Int)) + _
  omega

theorem GetBits_one (h : rfx_bitstream_eos d.bs = false) :
    rfx_bitstream_left (GetBits 1 d).2.bs < rfx_bitstream_left d.bs := by
  have hmore : d.bs.byte_pos < d.bs.buffer.length := by simpa [rfx_bitstream_eos] using h
  have hleft := left_ne_zero h
  have hone : min 1 d.bs.bits_left = 1 := Nat.min_eq_left d.bs.some_left
  have hread : (GetBits 1 d).2.bs = pass_bits d.bs 1 := by
    unfold GetBits rfx_bitstream_get_bits get_bits_loop
    rw [if_pos ⟨hmore, Nat.one_pos⟩, hone]
    rfl
  rw [hread, pass_bits_left d.bs.some_left]
  omega

theorem GetBits_eos (h : rfx_bitstream_eos d.bs = true) : (GetBits 1 d).1 = 0 := by
  have hend : ¬ d.bs.byte_pos < d.bs.buffer.length := by simpa [rfx_bitstream_eos] using h
  unfold GetBits rfx_bitstream_get_bits get_bits_loop
  rw [if_neg fun hmore => hend hmore.1]

theorem WriteValue_moves (value : Int) (d : Decoder) : Moves 1 d (WriteValue value d) := by
  refine ⟨Nat.le_refl _, ?_, Int.sub_le_self _ (by decide), ?_⟩
  · show d.buffer_size ≤ d.buffer_size - 1 +
      1024 * (rfx_bitstream_left d.bs - rfx_bitstream_left d.bs) + (1 : Nat)
    omega
  · unfold WriteValue
    dsimp only
    split_ifs
    · rw [length_append, length_singleton]
      omega
    · omega

theorem WriteZeroes_moves (n : Nat) (d : Decoder) : Moves n d (WriteZeroes n d) := by
  refine ⟨Nat.le_refl _, ?_, Int.sub_le_self _ (Int.natCast_nonneg n), ?_⟩
  · show d.buffer_size ≤ d.buffer_size - n +
      1024 * (rfx_bitstream_left d.bs - rfx_bitstream_left d.bs) + n
    omega
  · simp only [WriteZeroes]
    split_ifs
    all_goals
      try rw [length_append, length_replicate]
      omega

theorem leading_ones_moves (turns vk : Nat) (d : Decoder) :
    Moves 0 d (leading_ones turns vk d).2 := by
  induction turns generalizing vk d with
  | zero => exact .refl d
  | succ turns ih =>
    have hbit := GetBits_moves 1 d
    unfold leading_ones
    dsimp only
    split_ifs
    · exact hbit.trans (ih _ _)
    · exact hbit

theorem leading_ones_stable (turns vk : Nat) (h : rfx_bitstream_left d.bs < turns) :
    leading_ones (turns + 1) vk d = leading_ones turns vk d := by
  induction turns generalizing vk d with
  | zero => omega
  | succ turns ih =>
    rw [leading_ones, leading_ones]
    dsimp only
    split_ifs with hone
    · have heos : rfx_bitstream_eos d.bs = false := by
        by_contra hend
        rw [GetBits_eos (Bool.eq_true_of_not_eq_false hend)] at hone
        cases hone
      have hbit := GetBits_one heos
      exact ih _ (by omega)
    · rfl

theorem GetGRCode_moves (d : Decoder) : Moves 0 d (GetGRCode d).2 := by
  have hcode := (leading_ones_moves (rfx_bitstream_left d.bs + 1) 0 d).trans
    (GetBits_moves (leading_ones (rfx_bitstream_left d.bs + 1) 0 d).2.krp.k _)
  unfold GetGRCode
  dsimp only
  split_ifs
  · exact hcode.params _ _
  · exact hcode.params _ _
  · exact hcode

theorem GetGRCode_takes (h : rfx_bitstream_eos d.bs = false) :
    rfx_bitstream_left (GetGRCode d).2.bs < rfx_bitstream_left d.bs := by
  have hbs : (GetGRCode d).2.bs = (GetBits (leading_ones (rfx_bitstream_left d.bs + 1) 0 d).2.krp.k
      (leading_ones (rfx_bitstream_left d.bs + 1) 0 d).2).2.bs := by
    unfold GetGRCode
    dsimp only
    split_ifs <;> rfl
  have hbit := GetBits_one h
  rw [hbs]
  refine (GetBits_moves _ _).left.trans_lt ?_
  rw [leading_ones]
  dsimp only
  split_ifs
  · exact (leading_ones_moves _ _ _).left.trans_lt hbit
  · exact hbit

theorem zero_run_moves (h : rfx_bitstream_eos d.bs = false) :
    Moves 0 d (WriteZeroes (1 <<< d.kp.k) (GetBits 1 d).2) := by
  obtain ⟨hleft, -, hdown, hwritten⟩ := (GetBits_moves 1 d).trans
    (WriteZeroes_moves (1 <<< d.kp.k) (GetBits 1 d).2)
  have hbit : rfx_bitstream_left (WriteZeroes (1 <<< d.kp.k) (GetBits 1 d).2).bs <
    rfx_bitstream_left d.bs := GetBits_one h
  have hshort : 1 <<< d.kp.k ≤ 1024 := by
    rw [Nat.one_shiftLeft]
    exact Nat.pow_le_pow_right (by decide) d.kp.k_le
  refine ⟨hleft, ?_, hdown, hwritten⟩
  show d.buffer_size ≤ d.buffer_size - (1 <<< d.kp.k : Nat) + _ + _
  omega

theorem zero_runs_moves (turns : Nat) (d : Decoder) : Moves 0 d (zero_runs turns d) := by
  induction turns generalizing d with
  | zero => exact .refl d
  | succ turns ih =>
    unfold zero_runs
    dsimp only
    split_ifs with heos
    · exact .refl d
    · exact GetBits_moves 1 d
    · exact ((zero_run_moves (Bool.eq_false_iff.mpr heos)).params _ _).trans (ih _)

theorem zero_runs_stable (turns : Nat) (h : rfx_bitstream_left d.bs ≤ turns) :
    zero_runs (turns + 1) d = zero_runs turns d := by
  induction turns generalizing d with
  | zero =>
    unfold zero_runs
    rw [if_pos ((left_eq_zero_iff d.bs).mp (Nat.le_zero.mp h))]
  | succ turns ih =>
    rw [zero_runs, zero_runs]
    dsimp only
    split_ifs with heos
    · rfl
    · rfl
    · have hbit := GetBits_one (Bool.eq_false_iff.mpr heos)
      exact ih (Nat.le_of_lt_succ (hbit.trans_le h))

theorem run_end_moves (d : Decoder) : Moves 1024 d (run_end d) := by
  have hrun : (GetBits d.kp.k d).1 < 2 ^ (0 + d.kp.k) := get_bits_loop_lt _ _ _ 0 0 Nat.one_pos
  have hshort : 2 ^ (0 + d.kp.k) ≤ 2 ^ 10 :=
    Nat.pow_le_pow_right (by decide) (by rw [Nat.zero_add]; exact d.kp.k_le)
  refine Moves.params (Moves.mono ((GetBits_moves _ _).trans ((WriteZeroes_moves _ _).trans
    ((GetBits_moves 1 _).trans ((GetGRCode_moves _).trans (WriteValue_moves _ _))))) ?_) _ _
  show 0 + ((GetBits d.kp.k d).1 + (0 + (0 + 1))) ≤ 1024
  omega

theorem decode_turn_moves (mode : RLGR_MODE) (h : rfx_bitstream_eos d.bs = false) :
    Moves 1024 d (decode_turn mode d) ∧
      rfx_bitstream_left (decode_turn mode d).bs < rfx_bitstream_left d.bs := by
  have hcode := GetGRCode_moves d
  have htakes := GetGRCode_takes h
  unfold decode_turn
  split_ifs
  · obtain ⟨n, hn⟩ := Nat.exists_eq_succ_of_ne_zero (left_ne_zero h)
    have hruns := zero_runs_moves (rfx_bitstream_left d.bs) d
    have hend := run_end_moves (zero_runs (rfx_bitstream_left d.bs) d)
    refine ⟨(hruns.trans hend).mono (by omega), hend.left.trans_lt ?_⟩
    have hbit := GetBits_one h
    rw [hn, zero_runs]
    dsimp only
    rw [if_neg (by rw [h]; exact Bool.false_ne_true)]
    split_ifs
    · omega
    · exact (zero_runs_moves _ _).left.trans_lt (by rw [← hn]; exact hbit)
  · cases mode with
    | RLGR1 =>
      dsimp only [decode_value]
      split_ifs
      · exact ⟨((hcode.trans (WriteValue_moves 0 _)).mono (by omega)).params _ _, htakes⟩
      · exact ⟨((hcode.trans (WriteValue_moves _ _)).mono (by omega)).params _ _, htakes⟩
    | RLGR3 =>
      have hval := hcode.trans (GetBits_moves (GetMinBits (GetGRCode d).1) (GetGRCode d).2)
      refine ⟨(((hval.params _ _).trans (WriteValue_moves _ _)).trans
        (WriteValue_moves _ _)).mono (by omega), ?_⟩
      exact (GetBits_moves _ _).left.trans_lt htakes

theorem decode_loop_moves (mode : RLGR_MODE) (turns : Nat) (h : rfx_bitstream_left d.bs < turns) :
    ∃ d', decode_loop mode turns d = some d' ∧
      d.buffer_size ≤ d'.buffer_size + 2048 * rfx_bitstream_left d.bs ∧
      d'.out.length + max d'.buffer_size 0 = d.out.length + max d.buffer_size 0 := by
  induction turns generalizing d with
  | zero => omega
  | succ turns ih =>
    unfold decode_loop
    split_ifs with hmore
    · obtain ⟨hmoves, htakes⟩ := decode_turn_moves mode hmore.1
      obtain ⟨d', hloop, hsize, hwritten⟩ := ih (d := decode_turn mode d) (by omega)
      have hturn := hmoves.size
      exact ⟨d', hloop, by omega, hwritten.trans hmoves.written⟩
    · exact ⟨d, rfl, by omega, rfl⟩

end decoder

def decoder_start (data : List UInt8) (buffer_size : Int) : Decoder :=
  { bs := rfx_bitstream_attach data, kp := param_start, krp := param_start, buffer_size, out := [] }

/-- The decoder is safe on all input. It comes to an end, as the loops in it do. It has written the
values that it returns, which are not more than there is room for. The count of what is left never
leaves the `int`, as it only goes down. -/
theorem rlgr_decoder_is_safe (mode : RLGR_MODE) (data : List UInt8) (hdata : data.length ≤ 65535)
    (buffer_size : Nat) (hsize : buffer_size < 2147483648) :
    (∃ d, decode_loop mode (8 * data.length + 1) (decoder_start data buffer_size) = some d ∧
      rfx_rlgr_decode mode data buffer_size = some (d.out.length, d.out) ∧
      d.out.length ≤ buffer_size ∧ (d.out.length : Int) = buffer_size - max d.buffer_size 0 ∧
      -2147483648 ≤ d.buffer_size) ∧
    (∀ d : Decoder, rfx_bitstream_eos d.bs = false →
      (decode_turn mode d).buffer_size ≤ d.buffer_size) ∧
    (∀ (d : Decoder) (n : Nat),
      leading_ones (rfx_bitstream_left d.bs + 1 + n) 0 d =
        leading_ones (rfx_bitstream_left d.bs + 1) 0 d ∧
      zero_runs (rfx_bitstream_left d.bs + n) d = zero_runs (rfx_bitstream_left d.bs) d) ∧
    ∀ d : Decoder, d.kp.param ≤ 80 ∧ d.kp.k = d.kp.param >>> 3 ∧ d.krp.param ≤ 80 ∧
      d.krp.k = d.krp.param >>> 3 := by
  refine ⟨?_, fun d heos => (decode_turn_moves mode heos).1.down, ?_,
    fun d => ⟨d.kp.le, d.kp.shift, d.krp.le, d.krp.shift⟩⟩
  · have hleft : rfx_bitstream_left (rfx_bitstream_attach data) = 8 * data.length := by
      rw [← length_ahead, RFX_BITSTREAM.ahead]
      exact bits.length_unpack data
    obtain ⟨d, hloop, hlow, hwritten⟩ := decode_loop_moves mode _
      (d := decoder_start data buffer_size) (Nat.lt_succ_of_le hleft.le)
    have hstart : (decoder_start data buffer_size).buffer_size = buffer_size := rfl
    have hout : (decoder_start data buffer_size).out.length = 0 := rfl
    have hbits : rfx_bitstream_left (decoder_start data buffer_size).bs = 8 * data.length := hleft
    exact ⟨d, hloop, congrArg (Option.map fun d : Decoder => (d.out.length, d.out)) hloop,
      by omega, by omega, by omega⟩
  · intro d n
    induction n with
    | zero => exact ⟨rfl, rfl⟩
    | succ n ih =>
      exact ⟨(leading_ones_stable _ 0 (Nat.lt_add_right n (Nat.lt_succ_self _))).trans ih.1,
        (zero_runs_stable _ (Nat.le_add_right _ n)).trans ih.2⟩

theorem one_byte_is_safe :
    ∃ d, decode_loop .RLGR1 9 (decoder_start [0] 4) = some d ∧ d.out.length ≤ 4 := by
  obtain ⟨⟨d, hloop, -, hle, -⟩, -⟩ := rlgr_decoder_is_safe .RLGR1 [0] (by decide) 4 (by decide)
  exact ⟨d, hloop, hle⟩

end neutrinordp.rfx
