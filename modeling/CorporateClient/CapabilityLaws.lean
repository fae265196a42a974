-- The laws of the capability sets. The loop of the reader takes every set that the other side
-- writes, and this for the two lists of sets.
import CorporateClient.CapabilityExchange

namespace neutrinordp.capabilities

open List bytes stream

/-! ## The loop over the sets -/

/-- A set of this type was received. -/
def receive (type : Nat) (R : rdpSettings) : rdpSettings :=
  if h : type < 32 then { R with received_caps := R.received_caps.set type true h } else R

/-- The reader of a set takes its bytes and no others, and makes `R'` of `R`. -/
structure Understands (set : CapabilitySet) (R R' : rdpSettings) : Prop where
  type : set.type < 32
  short : set.content.length < 65532
  takes : Takes (read_capability_set (4 + set.content.length) R set.type) set.content R'

/-- The loop makes `R'` of `R`. The reader of a set may stop anywhere. -/
inductive Understood : rdpSettings → List CapabilitySet → List UInt8 → rdpSettings → Prop
  | nil {R : rdpSettings} {tail : List UInt8} : Understood R [] tail R
  | cons {R R₁ R' : rdpSettings} {set : CapabilitySet} {sets : List CapabilitySet}
      {tail : List UInt8} (htype : set.type < 32) (hlength : set.content.length < 65532)
      (hread : ∀ s, Rest s (set.content ++ (setsBytes sets ++ tail)) →
        ∃ n, read_capability_set (4 + set.content.length) (receive set.type R) set.type s =
          (R₁, stream_seek s n))
      (hrest : Understood R₁ sets tail R') : Understood R (set :: sets) tail R'

variable {R R' : rdpSettings} {tail : Bytes}

variable {sets : List CapabilitySet}

theorem Understood.set {R₁ : rdpSettings} {set : CapabilitySet}
    (h : Understands set (receive set.type R) R₁) (hrest : Understood R₁ sets tail R') :
    Understood R (set :: sets) tail R' :=
  .cons h.type h.short (fun s hs => ⟨_, h.takes s _ hs⟩) hrest

theorem setsBytes_cons (set : CapabilitySet) (sets : List CapabilitySet) :
    setsBytes (set :: sets) = set.bytes ++ setsBytes sets := flatMap_cons

theorem setsBytes_append (a b : List CapabilitySet) :
    setsBytes (a ++ b) = setsBytes a ++ setsBytes b := flatMap_append

theorem Understood.append {R₁ : rdpSettings} {a b : List CapabilitySet}
    (ha : Understood R a (setsBytes b ++ tail) R₁) (hb : Understood R₁ b tail R') :
    Understood R (a ++ b) tail R' := by
  generalize hmore : setsBytes b ++ tail = more at ha
  induction ha with
  | nil => exact hb
  | cons htype hlength hread _ ih =>
    rw [cons_append]
    refine .cons htype hlength ?_ (ih hb hmore)
    rwa [setsBytes_append, append_assoc, hmore]

theorem rdp_read_capability_sets.spec (h : Understood R sets tail R')
    {s : STREAM} (hs : Rest s (setsBytes sets ++ tail)) :
    ∃ s', rdp_read_capability_sets sets.length R s = some (true, R', s') ∧ Rest s' tail := by
  induction h generalizing s with
  | nil => exact ⟨s, rfl, hs⟩
  | @cons R R₁ R' set sets tail htype hlength hread _ ih =>
    rw [setsBytes_cons, append_assoc] at hs
    have hend := hs.seek (n := 4 + set.content.length) (by
      simp only [CapabilitySet.bytes, length_append, length_le16])
    rw [CapabilitySet.bytes, append_assoc (le16 _ ++ le16 _)] at hs
    have hheader : Takes rdp_read_capability_set_header
        (le16 set.type ++ (le16 (4 + set.content.length) ++ []))
        ((4 + set.content.length) % 65536, set.type % 65536) :=
      Takes.uint16 <| .uint16 <| .pure _
    rw [append_nil, Nat.mod_eq_of_lt (by omega), Nat.mod_eq_of_lt (by omega)] at hheader
    have hrun : rdp_read_capability_set_header s =
        ((4 + set.content.length, set.type), stream_seek s 4) := hheader s _ hs
    have hcontent := hs.seek (n := 4) rfl
    have hleft : ¬ stream_get_left (stream_seek s 4) <
        ((4 + set.content.length : Nat) : Int) - 4 := by
      rw [hcontent.get_left, length_append]
      omega
    obtain ⟨n, hset⟩ := hread _ hcontent
    obtain ⟨s', hrest, hs'⟩ := ih hend
    refine ⟨s', ?_, hs'⟩
    rw [receive, dif_pos htype] at hset
    rw [length_cons, rdp_read_capability_sets]
    simp only [hrun]
    rw [dif_pos htype, if_neg hleft]
    simp only [hset]
    exact hrest

/-! ## Each set -/

theorem Understands.of_skip {set : CapabilitySet} (widths : List Nat) (htype : set.type < 32)
    (hlength : set.content.length = widths.sum) (hshort : widths.sum < 65532)
    (hread : read_capability_set (4 + set.content.length) R set.type =
      skip_capability_set R widths) :
    Understands set R R := by
  refine ⟨htype, hlength ▸ hshort, ?_⟩
  rw [hread]
  exact reads_skip_capability_set R widths hlength

section Sets

variable (W R : rdpSettings)

theorem understands_general : Understands (rdp_write_general_capability_set W) R
    (readGeneral W R) :=
  ⟨(by decide : CAPSET_TYPE_GENERAL < 32), (by decide : 20 < 65532), reads_general W R⟩

theorem understands_bitmap : Understands (rdp_write_bitmap_capability_set W) R (readBitmap W R) :=
  ⟨(by decide : CAPSET_TYPE_BITMAP < 32), (by decide : 24 < 65532), reads_bitmap W R⟩

theorem understands_order : Understands (rdp_write_order_capability_set W) R (readOrder W R) := by
  refine ⟨(by decide : CAPSET_TYPE_ORDER < 32), ?_, reads_order W R⟩
  simp [CapabilitySet.content, rdp_write_order_capability_set]

theorem understands_bitmap_cache : Understands (rdp_write_bitmap_cache_capability_set W) R R :=
  .of_skip [4, 4, 4, 4, 4, 4, 2, 2, 2, 2, 2, 2] (by decide : CAPSET_TYPE_BITMAP_CACHE < 32)
    rfl (by decide) rfl

theorem understands_control : Understands rdp_write_control_capability_set R R :=
  .of_skip [2, 2, 2, 2] (by decide : CAPSET_TYPE_CONTROL < 32) rfl (by decide) rfl

theorem understands_window_activation :
    Understands rdp_write_window_activation_capability_set R R :=
  .of_skip [2, 2, 2, 2] (by decide : CAPSET_TYPE_ACTIVATION < 32) rfl (by decide) rfl

theorem understands_pointer (h : W.large_pointer = true) :
    Understands (rdp_write_pointer_capability_set W) R
      (readPointer W R (W.pointer_cache_size % 65536)) := by
  have hcontent : (rdp_write_pointer_capability_set W).content =
      le16 (if W.color_pointer then 1 else 0) ++ (le16 W.pointer_cache_size ++
        (le16 W.pointer_cache_size ++ [])) := by
    simp [CapabilitySet.content, rdp_write_pointer_capability_set, h]
  refine ⟨(by decide : CAPSET_TYPE_POINTER < 32), ?_, ?_⟩
  · rw [hcontent]
    exact (by decide : 6 < 65532)
  · rw [hcontent]
    exact reads_pointer_fields W R W.pointer_cache_size

theorem understands_share : Understands (rdp_write_share_capability_set W) R R :=
  .of_skip [2, 2] (by decide : CAPSET_TYPE_SHARE < 32) rfl (by decide) rfl

theorem understands_color_cache : Understands rdp_write_color_cache_capability_set R R :=
  .of_skip [2, 2] (by decide : CAPSET_TYPE_COLOR_CACHE < 32) rfl (by decide) rfl

theorem understands_sound : Understands (rdp_write_sound_capability_set W) R (readSound W R) :=
  ⟨(by decide : CAPSET_TYPE_SOUND < 32), (by decide : 4 < 65532), reads_sound W R⟩

theorem understands_input : Understands (rdp_write_input_capability_set W) R (readInput W R) :=
  ⟨(by decide : CAPSET_TYPE_INPUT < 32), (by decide : 84 < 65532), reads_input W R⟩

theorem understands_font : Understands rdp_write_font_capability_set R R :=
  ⟨(by decide : CAPSET_TYPE_FONT < 32), (by decide : 4 < 65532), reads_font R⟩

theorem understands_brush : Understands rdp_write_brush_capability_set R R :=
  .of_skip [4] (by decide : CAPSET_TYPE_BRUSH < 32) rfl (by decide) rfl

theorem understands_glyph_cache : Understands (rdp_write_glyph_cache_capability_set W) R
    (readGlyphCache W R) := by
  refine ⟨(by decide : CAPSET_TYPE_GLYPH_CACHE < 32), ?_, reads_glyph_cache W R⟩
  simp only [CapabilitySet.content, rdp_write_glyph_cache_capability_set, flatten_append,
    length_append, length_glyph_cache]
  exact (by decide : 48 < 65532)

theorem understands_offscreen : Understands (rdp_write_offscreen_bitmap_cache_capability_set W) R
    (readOffscreen W R) :=
  ⟨(by decide : CAPSET_TYPE_OFFSCREEN_CACHE < 32), (by decide : 8 < 65532), reads_offscreen W R⟩

theorem understands_host_support :
    Understands rdp_write_bitmap_cache_host_support_capability_set R (readHostSupport R) :=
  ⟨(by decide : CAPSET_TYPE_BITMAP_CACHE_HOST_SUPPORT < 32), (by decide : 4 < 65532),
    reads_host_support R⟩

theorem length_cell_infos : (W.bitmapCacheV2CellInfo.toList.map
    rdp_write_bitmap_cache_cell_info).flatten.length = 20 := by
  have hlen : W.bitmapCacheV2CellInfo.toList.length = 5 := by simp
  have hwidth : length ∘ rdp_write_bitmap_cache_cell_info = fun _ => 4 := rfl
  rw [length_flatten, map_map, hwidth, map_const', hlen]
  rfl

theorem understands_bitmap_cache_v2 :
    Understands (rdp_write_bitmap_cache_v2_capability_set W) R R := by
  have hlength : (rdp_write_bitmap_cache_v2_capability_set W).content.length = 36 := by
    simp only [CapabilitySet.content, rdp_write_bitmap_cache_v2_capability_set,
      flatten_append, length_append, length_cell_infos]
    rfl
  exact .of_skip [2, 1, 1, 4, 4, 4, 4, 4, 12] (by decide : CAPSET_TYPE_BITMAP_CACHE_V2 < 32)
    hlength (by decide) rfl

theorem understands_virtual_channel : Understands (rdp_write_virtual_channel_capability_set W) R
    (readVirtualChannel W R) :=
  ⟨(by decide : CAPSET_TYPE_VIRTUAL_CHANNEL < 32), (by decide : 8 < 65532),
    reads_virtual_channel W R⟩

theorem understands_remote_programs :
    Understands (rdp_write_remote_programs_capability_set W) R R :=
  ⟨(by decide : CAPSET_TYPE_RAIL < 32), (by decide : 4 < 65532), reads_remote_programs W R⟩

theorem understands_window_list : Understands (rdp_write_window_list_capability_set W) R R :=
  .of_skip [4, 1, 2] (by decide : CAPSET_TYPE_WINDOW < 32) rfl (by decide) rfl

theorem understands_desktop_composition :
    Understands (rdp_write_desktop_composition_capability_set W) R R :=
  .of_skip [2] (by decide : CAPSET_TYPE_COMP_DESK < 32) rfl (by decide) rfl

theorem understands_multifragment :
    Understands (rdp_write_multifragment_update_capability_set W) R (readMultifragment W R) :=
  ⟨(by decide : CAPSET_TYPE_MULTI_FRAGMENT_UPDATE < 32), (by decide : 4 < 65532),
    reads_multifragment W R⟩

theorem understands_large_pointer : Understands (rdp_write_large_pointer_capability_set W) R R :=
  .of_skip [2] (by decide : CAPSET_TYPE_LARGE_POINTER < 32) rfl (by decide) rfl

theorem understands_surface_commands :
    Understands rdp_write_surface_commands_capability_set R (readSurfaceCommands R) :=
  ⟨(by decide : CAPSET_TYPE_SURFACE_COMMANDS < 32), (by decide : 8 < 65532),
    reads_surface_commands R⟩

theorem understands_bitmap_codecs : Understands (rdp_write_bitmap_codecs_capability_set W) R
    (readCodecs W R) := by
  refine ⟨(by decide : CAPSET_TYPE_BITMAP_CODECS < 32), ?_, reads_bitmap_codecs W R⟩
  unfold CapabilitySet.content rdp_write_bitmap_codecs_capability_set write_codec
  cases W.rfx_codec <;> cases W.ns_codec <;> cases W.jpeg_codec <;> cases W.server_mode <;>
    exact Nat.le_of_ble_eq_true rfl

theorem understands_v3_codec_id :
    Understands (rdp_write_bitmap_cache_v3_codec_id_capability_set W) R R :=
  .of_skip [1] (by decide : 6 < 32) rfl (by decide) rfl

theorem understands_frame_acknowledge :
    Understands rdp_write_frame_acknowledge_capability_set R R :=
  .of_skip [4] (by decide : CAPSET_TYPE_FRAME_ACKNOWLEDGE < 32) rfl (by decide) rfl

end Sets

/-! ## The two lists of sets -/

/-- The reader of the set takes exactly its bytes, whatever the settings are. A pointer set
counts only with its third field. -/
def Exact (W : rdpSettings) (set : CapabilitySet) : Prop :=
  (set.type = CAPSET_TYPE_POINTER → W.large_pointer = true) → ∀ R, ∃ R', Understands set R R'

/-- The third field of the pointer set as the reader sees it. -/
def pointerSize (W : rdpSettings) : Nat :=
  if W.large_pointer then W.pointer_cache_size % 65536 else CAPSET_TYPE_INPUT

theorem Understood.pointer {W R R' : rdpSettings} {tail : Bytes}
    (h : Understood (readPointer W (receive CAPSET_TYPE_POINTER R) (pointerSize W))
      (rdp_write_input_capability_set W :: sets) tail R') :
    Understood R (rdp_write_pointer_capability_set W :: rdp_write_input_capability_set W :: sets)
      tail R' := by
  unfold pointerSize at h
  by_cases hlarge : W.large_pointer = true
  · rw [if_pos hlarge] at h
    exact .set (understands_pointer W _ hlarge) h
  · rw [if_neg hlarge] at h
    have hcontent : (rdp_write_pointer_capability_set W).content =
        le16 (if W.color_pointer then 1 else 0) ++ le16 W.pointer_cache_size := by
      simp [CapabilitySet.content, rdp_write_pointer_capability_set, hlarge]
    refine .cons (by decide : CAPSET_TYPE_POINTER < 32) ?_ ?_ h
    · rw [hcontent]
      exact (by decide : 4 < 65532)
    · intro s hs
      refine ⟨6, ?_⟩
      have htype : (rdp_write_input_capability_set W).type = CAPSET_TYPE_INPUT := rfl
      rw [hcontent, setsBytes_cons, CapabilitySet.bytes, htype] at hs
      exact reads_pointer_fields W _ CAPSET_TYPE_INPUT s _ (by
        simpa only [append_assoc, nil_append] using hs)

/-- The sets are counted, each is taken by its reader, and together they make `R'` of `R`. -/
structure Written (W R : rdpSettings) (written : Nat × List CapabilitySet) (R' : rdpSettings) :
    Prop where
  count : written.1 = written.2.length
  exact : ∀ set ∈ written.2, Exact W set
  understood : ∀ tail, Understood R written.2 tail R'

/-- A part of the sets: each is taken by its reader, and together they make `R'` of `R`. -/
structure Told (W R : rdpSettings) (sets : List CapabilitySet) (R' : rdpSettings) : Prop where
  exact : ∀ set ∈ sets, Exact W set
  understood : ∀ tail, Understood R sets tail R'

section

variable {W R R' : rdpSettings} {sets : List CapabilitySet}

theorem Told.nil : Told W R [] R := ⟨by simp, fun _ => .nil⟩

theorem Told.set {set : CapabilitySet} {f : rdpSettings → rdpSettings}
    (h : ∀ R, Understands set R (f R)) (hrest : Told W (f (receive set.type R)) sets R') :
    Told W R (set :: sets) R' :=
  ⟨forall_mem_cons.mpr ⟨fun _ R => ⟨f R, h R⟩, hrest.exact⟩,
    fun tail => .set (h _) (hrest.understood tail)⟩

theorem Told.pointer (hrest : Told W (readPointer W (receive CAPSET_TYPE_POINTER R)
      (pointerSize W)) (rdp_write_input_capability_set W :: sets) R') :
    Told W R (rdp_write_pointer_capability_set W :: rdp_write_input_capability_set W :: sets)
      R' :=
  ⟨forall_mem_cons.mpr
    ⟨fun hlarge R => ⟨_, understands_pointer W R (hlarge rfl)⟩, hrest.exact⟩,
    fun tail => .pointer (hrest.understood tail)⟩

theorem Written.optional {R₂ : rdpSettings} {written : Nat × List CapabilitySet}
    (h : Written W R written R') (condition : Bool) (hsets : Told W R' sets R₂) :
    Written W R (optional_sets condition sets written) (if condition then R₂ else R') := by
  cases condition with
  | false => exact h
  | true =>
    refine ⟨?_, ?_, fun tail => (h.understood _).append (hsets.understood tail)⟩
    · exact (congrArg (· + sets.length) h.count).trans length_append.symm
    · exact forall_mem_append.mpr ⟨h.exact, hsets.exact⟩

end

theorem optional_sets_count_le {condition : Bool}
    {written : Nat × List CapabilitySet} {n : Nat} (h : written.1 ≤ n) :
    (optional_sets condition sets written).1 ≤ n + sets.length := by
  cases condition with
  | false => exact Nat.le_add_right_of_le h
  | true => exact Nat.add_le_add_right h sets.length

section Demand

variable (W R : rdpSettings)

/-- The settings `R` after the sets of a Demand Active PDU. -/
def readDemand : rdpSettings :=
  let R := readGeneral W (receive CAPSET_TYPE_GENERAL R)
  let R := readBitmap W (receive CAPSET_TYPE_BITMAP R)
  let R := readOrder W (receive CAPSET_TYPE_ORDER R)
  let R := readPointer W (receive CAPSET_TYPE_POINTER R) (pointerSize W)
  let R := readInput W (receive CAPSET_TYPE_INPUT R)
  let R := readVirtualChannel W (receive CAPSET_TYPE_VIRTUAL_CHANNEL R)
  let R := readHostSupport (receive CAPSET_TYPE_BITMAP_CACHE_HOST_SUPPORT R)
  let R := receive CAPSET_TYPE_SHARE R
  let R := receive CAPSET_TYPE_FONT R
  let R := readMultifragment W (receive CAPSET_TYPE_MULTI_FRAGMENT_UPDATE R)
  let R := receive CAPSET_TYPE_LARGE_POINTER R
  let R := receive CAPSET_TYPE_COMP_DESK R
  let R := readSurfaceCommands (receive CAPSET_TYPE_SURFACE_COMMANDS R)
  readCodecs W (receive CAPSET_TYPE_BITMAP_CODECS R)

theorem demand_active_sets.spec : Written W R (14, demand_active_sets W) (readDemand W R) :=
  have h : Told W R (demand_active_sets W) (readDemand W R) :=
    .set (understands_general W) <| .set (understands_bitmap W) <|
    .set (understands_order W) <| .pointer <| .set (understands_input W) <|
    .set (understands_virtual_channel W) <| .set understands_host_support <|
    .set (understands_share W) <| .set understands_font <|
    .set (understands_multifragment W) <| .set (understands_large_pointer W) <|
    .set (understands_desktop_composition W) <| .set understands_surface_commands <|
    .set (understands_bitmap_codecs W) .nil
  ⟨rfl, h.exact, h.understood⟩

end Demand

section Confirm

variable (W R : rdpSettings)

/-- The settings `R` after the sets that every Confirm Active PDU has. -/
def readConfirm : rdpSettings :=
  let R := readGeneral W (receive CAPSET_TYPE_GENERAL R)
  let R := readBitmap W (receive CAPSET_TYPE_BITMAP R)
  let R := readOrder W (receive CAPSET_TYPE_ORDER R)
  let R := receive (if W.rdp_version ≥ 5 then CAPSET_TYPE_BITMAP_CACHE_V2
    else CAPSET_TYPE_BITMAP_CACHE) R
  let R := readPointer W (receive CAPSET_TYPE_POINTER R) (pointerSize W)
  let R := readInput W (receive CAPSET_TYPE_INPUT R)
  let R := receive CAPSET_TYPE_BRUSH R
  let R := readGlyphCache W (receive CAPSET_TYPE_GLYPH_CACHE R)
  let R := readVirtualChannel W (receive CAPSET_TYPE_VIRTUAL_CHANNEL R)
  let R := readSound W (receive CAPSET_TYPE_SOUND R)
  let R := receive CAPSET_TYPE_SHARE R
  let R := receive CAPSET_TYPE_FONT R
  let R := receive CAPSET_TYPE_CONTROL R
  let R := receive CAPSET_TYPE_COLOR_CACHE R
  receive CAPSET_TYPE_ACTIVATION R

local instance caps_ne_zero : NeZero 32 := ⟨by decide⟩

/-- The settings `R` after the other sets of a Confirm Active PDU. -/
def readOptional : rdpSettings :=
  let received := fun type : Fin 32 => W.received_caps.get type
  let R := if W.offscreen_bitmap_cache then
    readOffscreen W (receive CAPSET_TYPE_OFFSCREEN_CACHE R) else R
  let R := if received 0x1B && W.large_pointer then receive CAPSET_TYPE_LARGE_POINTER R else R
  let R := if W.remote_app then receive CAPSET_TYPE_WINDOW (receive CAPSET_TYPE_RAIL R) else R
  let R := if received 0x1A then
    readMultifragment W (receive CAPSET_TYPE_MULTI_FRAGMENT_UPDATE R) else R
  let R := if received 0x1C then
    readSurfaceCommands (receive CAPSET_TYPE_SURFACE_COMMANDS R) else R
  let R := if received 0x1D then readCodecs W (receive CAPSET_TYPE_BITMAP_CODECS R) else R
  let R := if received 0x1E && W.frame_acknowledge then
    receive CAPSET_TYPE_FRAME_ACKNOWLEDGE R else R
  if received 6 && W.v3_codec_id != 0 then receive 6 R else R

theorem confirm_active_sets.spec :
    Written W R (confirm_active_sets W) (readOptional W (readConfirm W R)) := by
  have hcache : ∀ R, Understands
      (if W.rdp_version ≥ 5 then rdp_write_bitmap_cache_v2_capability_set W
        else rdp_write_bitmap_cache_capability_set W) R R := by
    intro R
    split
    · exact understands_bitmap_cache_v2 W R
    · exact understands_bitmap_cache W R
  have hmain : Written W R (15, [rdp_write_general_capability_set W,
      rdp_write_bitmap_capability_set W, rdp_write_order_capability_set W,
      if W.rdp_version ≥ 5 then rdp_write_bitmap_cache_v2_capability_set W
      else rdp_write_bitmap_cache_capability_set W,
      rdp_write_pointer_capability_set W, rdp_write_input_capability_set W,
      rdp_write_brush_capability_set, rdp_write_glyph_cache_capability_set W,
      rdp_write_virtual_channel_capability_set W, rdp_write_sound_capability_set W,
      rdp_write_share_capability_set W, rdp_write_font_capability_set,
      rdp_write_control_capability_set, rdp_write_color_cache_capability_set,
      rdp_write_window_activation_capability_set]) (readConfirm W R) := by
    have htype : (if W.rdp_version ≥ 5 then rdp_write_bitmap_cache_v2_capability_set W
        else rdp_write_bitmap_cache_capability_set W).type =
        if W.rdp_version ≥ 5 then CAPSET_TYPE_BITMAP_CACHE_V2 else CAPSET_TYPE_BITMAP_CACHE :=
      apply_ite CapabilitySet.type _ _ _
    unfold readConfirm
    rw [← htype]
    have h : Told W R _ _ :=
      .set (understands_general W) <| .set (understands_bitmap W) <|
      .set (understands_order W) <| .set hcache <| .pointer <|
      .set (understands_input W) <| .set understands_brush <|
      .set (understands_glyph_cache W) <| .set (understands_virtual_channel W) <|
      .set (understands_sound W) <| .set (understands_share W) <| .set understands_font <|
      .set understands_control <| .set understands_color_cache <|
      .set understands_window_activation .nil
    exact ⟨rfl, h.exact, h.understood⟩
  exact (((((((hmain.optional _ (.set (understands_offscreen W) .nil)).optional _
    (.set (understands_large_pointer W) .nil)).optional _
    (.set (understands_remote_programs W) <| .set (understands_window_list W) .nil)).optional _
    (.set (understands_multifragment W) .nil)).optional _
    (.set understands_surface_commands .nil)).optional _
    (.set (understands_bitmap_codecs W) .nil)).optional _
    (.set understands_frame_acknowledge .nil)).optional _
    (.set (understands_v3_codec_id W) .nil)

theorem confirm_active_sets_count_le :
    (confirm_active_sets W).1 ≤ 15 + 1 + 1 + 2 + 1 + 1 + 1 + 1 + 1 := by
  exact optional_sets_count_le <| optional_sets_count_le <| optional_sets_count_le <|
    optional_sets_count_le <| optional_sets_count_le <| optional_sets_count_le <|
    optional_sets_count_le <| optional_sets_count_le <| Nat.le_refl 15

end Confirm

end neutrinordp.capabilities
