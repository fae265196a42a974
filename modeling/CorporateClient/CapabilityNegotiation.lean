-- The negotiation of the capabilities. The Demand Active PDU of the server and the Confirm
-- Active PDU of the client arrive, and each side takes from them what it has to know.
import CorporateClient.CapabilityLaws
import CorporateClient.Connection

namespace neutrinordp.capabilities

open bytes codec stream

/-! ## What each side knows

A set has another effect on a client than on a server. -/

theorem receive_eq {type : Nat} (h : type < 32) (R : rdpSettings) :
    receive type R = { R with received_caps := R.received_caps.set type true h } := dif_pos h

section Client

variable {W R : rdpSettings} (hW : W.server_mode = true) (hR : R.server_mode = false)

include hR

include hW in
theorem readGeneral_client :
    readGeneral W R = { R with
      fastpath_output := R.fastpath_output && W.fastpath_output
      refresh_rect := false
      suppress_output := false } := by
  simp [readGeneral, readOsTypes, general_settings, hW, hR]

theorem readBitmap_client :
    readBitmap W R = { R with
      color_depth := (if W.rdp_version > 5 then W.color_depth else 8) % 65536
      desktop_resize := R.desktop_resize && W.desktop_resize
      width := if R.desktop_resize && W.desktop_resize then W.width % 65536 else R.width
      height := if R.desktop_resize && W.desktop_resize then W.height % 65536 else R.height } := by
  unfold readBitmap
  cases W.desktop_resize with
  | false => simp [hR]
  | true =>
    by_cases hresize : R.desktop_resize = true
    · simp [hR, hresize]
    · simp [hR, hresize]

theorem readInput_client :
    readInput W R = { R with fastpath_input := R.fastpath_input && W.fastpath_input } := by
  have hkeep : readKeyboard W R = R := if_neg (by simp [hR])
  unfold readInput
  rw [hkeep]
  cases W.fastpath_input with
  | false => rw [if_pos ⟨hR, rfl⟩, Bool.and_false]
  | true => rw [if_neg (by simp), Bool.and_true]

theorem readVirtualChannel_client :
    readVirtualChannel W R = { R with vc_chunk_size := W.vc_chunk_size % 4294967296 } := by
  simp [readVirtualChannel, hR]

theorem readPointer_client (size : Nat) :
    readPointer W R size = { R with color_pointer := R.color_pointer && W.color_pointer } := by
  simp [readPointer, hR]

theorem readCodecs_client : readCodecs W R = R := by
  have hkeep : ∀ codecs : List Codec, codecs.foldl readCodec R = R := by
    intro codecs
    induction codecs with
    | nil => rfl
    | cons codec codecs ih =>
      rw [List.foldl_cons, readCodec, hR]
      exact ih
  unfold readCodecs
  rw [hR]
  exact hkeep _

include hW in
theorem readDemand_eq :
    readDemand W R = { R with
      received_caps := (readDemand W R).received_caps
      fastpath_output := R.fastpath_output && W.fastpath_output
      refresh_rect := false
      suppress_output := false
      color_depth := (if W.rdp_version > 5 then W.color_depth else 8) % 65536
      desktop_resize := R.desktop_resize && W.desktop_resize
      width := if R.desktop_resize && W.desktop_resize then W.width % 65536 else R.width
      height := if R.desktop_resize && W.desktop_resize then W.height % 65536 else R.height
      order_support := common_orders R.order_support W.order_support.toList
      color_pointer := R.color_pointer && W.color_pointer
      fastpath_input := R.fastpath_input && W.fastpath_input
      vc_chunk_size := W.vc_chunk_size % 4294967296
      persistent_bitmap_cache := true
      multifrag_max_request_size := W.multifrag_max_request_size % 4294967296
      surface_commands := true } := by
  simp (disch := first | decide | exact hR) only [readDemand, receive_eq, readGeneral_client hW,
    readBitmap_client, readOrder, readPointer_client, readInput_client,
    readVirtualChannel_client, readHostSupport, readMultifragment, readSurfaceCommands,
    readCodecs_client]

end Client

section Server

variable {W R : rdpSettings} (hW : W.server_mode = false) (hR : R.server_mode = true)

include hR

include hW in
theorem readGeneral_server :
    readGeneral W R = { R with
      os_major_type := W.os_major_type % 65536
      os_minor_type := W.os_minor_type % 65536
      fastpath_output := R.fastpath_output && W.fastpath_output
      refresh_rect := R.refresh_rect && W.refresh_rect
      suppress_output := R.suppress_output && W.suppress_output } := by
  simp [readGeneral, readOsTypes, general_settings, hW, hR]

theorem readBitmap_server :
    readBitmap W R = { R with desktop_resize := R.desktop_resize && W.desktop_resize } := by
  dsimp only [readBitmap]
  rw [if_pos hR]
  cases W.desktop_resize with
  | false => simp [hR]
  | true => rw [if_pos rfl, if_neg (by simp [hR]), Bool.and_true]

theorem readPointer_server (size : Nat) :
    readPointer W R size = { R with
      color_pointer := R.color_pointer && W.color_pointer
      pointer_cache_size := size } := by
  simp [readPointer, hR]

theorem readInput_server :
    readInput W R = { R with
      kbd_layout := W.kbd_layout % 4294967296
      kbd_type := W.kbd_type % 4294967296
      kbd_subtype := W.kbd_subtype % 4294967296
      kbd_fn_keys := W.kbd_fn_keys % 4294967296 } := by
  simp [readInput, readKeyboard, hR]

theorem readVirtualChannel_server : readVirtualChannel W R = R := by
  simp [readVirtualChannel, hR]

include hW in
theorem readCodecs_server :
    readCodecs W R = { R with
      rfx_codec := W.rfx_codec
      ns_codec := W.ns_codec
      rfx_codec_id := if W.rfx_codec then CODEC_ID_REMOTEFX else R.rfx_codec_id
      ns_codec_id := if W.ns_codec then CODEC_ID_NSCODEC else R.ns_codec_id } := by
  unfold readCodecs codecsOf rfxCodec nsCodec jpegCodec codecOf
  rw [hR, hW]
  cases W.rfx_codec <;> cases W.ns_codec <;> cases W.jpeg_codec <;>
    simp [readCodec, strncmp_eq, CODEC_GUID_REMOTEFX, CODEC_GUID_NSCODEC, CODEC_GUID_JPEG,
      CODEC_ID_REMOTEFX, CODEC_ID_NSCODEC]

include hW in
theorem readConfirm_eq :
    readConfirm W R = { R with
      received_caps := (readConfirm W R).received_caps
      os_major_type := W.os_major_type % 65536
      os_minor_type := W.os_minor_type % 65536
      fastpath_output := R.fastpath_output && W.fastpath_output
      refresh_rect := R.refresh_rect && W.refresh_rect
      suppress_output := R.suppress_output && W.suppress_output
      desktop_resize := R.desktop_resize && W.desktop_resize
      order_support := common_orders R.order_support W.order_support.toList
      color_pointer := R.color_pointer && W.color_pointer
      pointer_cache_size := pointerSize W
      kbd_layout := W.kbd_layout % 4294967296
      kbd_type := W.kbd_type % 4294967296
      kbd_subtype := W.kbd_subtype % 4294967296
      kbd_fn_keys := W.kbd_fn_keys % 4294967296
      glyphSupportLevel := W.glyphSupportLevel % 65536
      sound_beeps := W.sound_beeps } := by
  have hcache : (if W.rdp_version ≥ 5 then CAPSET_TYPE_BITMAP_CACHE_V2
      else CAPSET_TYPE_BITMAP_CACHE) < 32 := by
    split
    · decide
    · decide
  simp (disch := first | decide | exact hcache | exact hR) only [readConfirm, receive_eq,
    readGeneral_server hW, readBitmap_server, readOrder, readPointer_server, readInput_server,
    readGlyphCache, readVirtualChannel_server, readSound]

omit hR

/-- A set of this type was received, under a condition. -/
def receiveIf (condition : Bool) (type : Nat) (received_caps : Vector Bool 32) : Vector Bool 32 :=
  if h : condition = true ∧ type < 32 then received_caps.set type true h.2 else received_caps

theorem receiveIf_true {type : Nat} (h : type < 32) (received_caps : Vector Bool 32) :
    receiveIf true type received_caps = received_caps.set type true h := dif_pos ⟨rfl, h⟩

variable (condition : Bool)

theorem optional_receive {type : Nat} (h : type < 32) :
    (if condition then receive type R else R) = { R with
      received_caps := receiveIf condition type R.received_caps } := by
  cases condition with
  | false => rfl
  | true =>
    rw [receiveIf_true h]
    exact receive_eq h R

theorem optional_rail :
    (if condition then receive CAPSET_TYPE_WINDOW (receive CAPSET_TYPE_RAIL R) else R) = { R with
      received_caps := receiveIf condition CAPSET_TYPE_WINDOW
        (receiveIf condition CAPSET_TYPE_RAIL R.received_caps) } := by
  cases condition with
  | false => rfl
  | true => rfl

theorem optional_offscreen :
    (if W.offscreen_bitmap_cache then readOffscreen W (receive CAPSET_TYPE_OFFSCREEN_CACHE R)
      else R) = { R with
      received_caps :=
        receiveIf W.offscreen_bitmap_cache CAPSET_TYPE_OFFSCREEN_CACHE R.received_caps
      offscreen_bitmap_cache := R.offscreen_bitmap_cache || W.offscreen_bitmap_cache
      offscreen_bitmap_cache_size := if W.offscreen_bitmap_cache then
          W.offscreen_bitmap_cache_size % 65536
        else R.offscreen_bitmap_cache_size
      offscreen_bitmap_cache_entries := if W.offscreen_bitmap_cache then
          W.offscreen_bitmap_cache_entries % 65536
        else R.offscreen_bitmap_cache_entries } := by
  unfold readOffscreen
  cases W.offscreen_bitmap_cache with
  | false => simp [receiveIf]
  | true => rfl

theorem optional_multifragment :
    (if condition then readMultifragment W (receive CAPSET_TYPE_MULTI_FRAGMENT_UPDATE R)
      else R) = { R with
      received_caps := receiveIf condition CAPSET_TYPE_MULTI_FRAGMENT_UPDATE R.received_caps
      multifrag_max_request_size := if condition then
          W.multifrag_max_request_size % 4294967296
        else R.multifrag_max_request_size } := by
  cases condition with
  | false => rfl
  | true => rfl

theorem optional_surface_commands :
    (if condition then readSurfaceCommands (receive CAPSET_TYPE_SURFACE_COMMANDS R)
      else R) = { R with
      received_caps := receiveIf condition CAPSET_TYPE_SURFACE_COMMANDS R.received_caps
      surface_commands := if condition then true else R.surface_commands } := by
  cases condition with
  | false => rfl
  | true => rfl

theorem optional_codecs (hW : W.server_mode = false) (hR : R.server_mode = true)
    (condition : Bool) :
    (if condition then readCodecs W (receive CAPSET_TYPE_BITMAP_CODECS R) else R) = { R with
      received_caps := receiveIf condition CAPSET_TYPE_BITMAP_CODECS R.received_caps
      rfx_codec := if condition then W.rfx_codec else R.rfx_codec
      ns_codec := if condition then W.ns_codec else R.ns_codec
      rfx_codec_id := if condition && W.rfx_codec then CODEC_ID_REMOTEFX else R.rfx_codec_id
      ns_codec_id := if condition && W.ns_codec then CODEC_ID_NSCODEC else R.ns_codec_id } := by
  cases condition with
  | false => rfl
  | true =>
    simp (disch := first | decide | exact hR) only [if_true, receive_eq, receiveIf_true,
      readCodecs_server hW, Bool.true_and]

theorem readOptional_eq (hW : W.server_mode = false) (hR : R.server_mode = true) :
    readOptional W R = { R with
      received_caps := (readOptional W R).received_caps
      offscreen_bitmap_cache := R.offscreen_bitmap_cache || W.offscreen_bitmap_cache
      offscreen_bitmap_cache_size := if W.offscreen_bitmap_cache then
          W.offscreen_bitmap_cache_size % 65536
        else R.offscreen_bitmap_cache_size
      offscreen_bitmap_cache_entries := if W.offscreen_bitmap_cache then
          W.offscreen_bitmap_cache_entries % 65536
        else R.offscreen_bitmap_cache_entries
      multifrag_max_request_size := if W.received_caps.get 0x1A then
          W.multifrag_max_request_size % 4294967296
        else R.multifrag_max_request_size
      surface_commands := if W.received_caps.get 0x1C then true else R.surface_commands
      rfx_codec := if W.received_caps.get 0x1D then W.rfx_codec else R.rfx_codec
      ns_codec := if W.received_caps.get 0x1D then W.ns_codec else R.ns_codec
      rfx_codec_id := if W.received_caps.get 0x1D && W.rfx_codec then CODEC_ID_REMOTEFX
        else R.rfx_codec_id
      ns_codec_id := if W.received_caps.get 0x1D && W.ns_codec then CODEC_ID_NSCODEC
        else R.ns_codec_id } := by
  simp (disch := first | decide | exact hR) only [readOptional, optional_offscreen,
    optional_receive, optional_rail, optional_multifragment, optional_surface_commands,
    optional_codecs hW]

end Server

/-! ## The two PDUs -/

theorem common_orders_get (own theirs : Vector UInt8 32) (i : Fin 32) :
    (common_orders own theirs.toList).get i = if theirs.get i = 0 then 0 else own.get i := by
  have htheirs : theirs.toList.getD i 0 = theirs[i.val] := by
    rw [List.getD_eq_getElem _ _ (by simp), Vector.getElem_toList]
  have hcommon := Vector.getElem_ofFn (n := 32)
    (f := fun i => if theirs.toList.getD i 0 = 0 then 0 else own.get i) i.isLt
  rw [htheirs] at hcommon
  exact hcommon

/-- The Demand Active PDU in front of its last field, which the client does not read. -/
def demandBytes (W : rdpSettings) : List UInt8 :=
  le32 W.share_id ++ (le16 4 ++ combinedBytes [0x52, 0x44, 0x50, 0]
    (demand_active_sets W).length (demand_active_sets W))

def confirmBytes (W : rdpSettings) : List UInt8 :=
  le32 W.share_id ++ le16 0x03EA ++ (le16 SOURCE_DESCRIPTOR.length ++
    combinedBytes SOURCE_DESCRIPTOR (confirm_active_sets W).2.length (confirm_active_sets W).2)

theorem rdp_write_demand_active.spec (W : rdpSettings) (s : STREAM)
    (hs : s.pos + 20 ≤ s.data.length) :
    (rdp_write_demand_active W s).2 = stream_write s (demandBytes W ++ le32 0) := by
  have hroom : s.pos ≤ s.data.length := by omega
  have hcombined := write_combined_capabilities.spec [0x52, 0x44, 0x50, 0] 14
    (demand_active_sets W) (stream_write s (le32 W.share_id ++ le16 4)) (by
      rw [stream_write_length s _ hroom, stream_write_pos]
      simp only [List.length_append, length_le32, length_le16, List.length_cons, List.length_nil]
      omega)
  unfold rdp_write_demand_active
  simp only [run_modify, stream_write_uint32, stream_write_uint16, stream_write_write s _ _ hroom,
    run_bind hcombined]
  rfl

theorem rdp_write_confirm_active.spec (W : rdpSettings) (s : STREAM)
    (hs : s.pos + 20 ≤ s.data.length) :
    (rdp_write_confirm_active W s).2 = stream_write s (confirmBytes W) := by
  have hroom : s.pos ≤ s.data.length := by omega
  have hcombined := write_combined_capabilities.spec SOURCE_DESCRIPTOR (confirm_active_sets W).1
    (confirm_active_sets W).2
    (stream_write s (le32 W.share_id ++ le16 0x03EA ++ le16 SOURCE_DESCRIPTOR.length)) (by
      rw [stream_write_length s _ hroom, stream_write_pos]
      simp only [List.length_append, length_le32, length_le16, SOURCE_DESCRIPTOR,
        List.length_cons, List.length_nil]
      omega)
  rw [(confirm_active_sets.spec W W).count] at hcombined
  unfold rdp_write_confirm_active
  simp only [run_modify, stream_write_uint32, stream_write_uint16, stream_write_write s _ _ hroom,
    (confirm_active_sets.spec W W).count, run_bind hcombined]
  rfl

variable {R W : rdpSettings} {tail : Bytes} {s : STREAM}

theorem read_combined_capabilities.spec {R' : rdpSettings} {sets : List CapabilitySet}
    (h : Understood R sets tail R') (hcount : sets.length < 65536) {descriptor : Bytes}
    (hdescriptor : descriptor.length < 65536)
    (hs : Rest s ((le16 descriptor.length ++ combinedBytes descriptor sets.length sets) ++ tail)) :
    ∃ s', read_combined_capabilities R s = some (true, R', s') ∧ Rest s' tail := by
  have hhead : Takes (do
      let lengthSourceDescriptor ← stream_read_uint16
      let _lengthCombinedCapabilities ← stream_read_uint16
      stream_skip lengthSourceDescriptor
      let numberCapabilities ← stream_read_uint16
      stream_skip 2
      return numberCapabilities) (le16 descriptor.length ++ (le16 (4 + (setsBytes sets).length) ++
        (descriptor ++ (le16 sets.length ++ (le16 0 ++ []))))) sets.length := by
    exact .uint16 <| .uint16 <| .skip (Nat.mod_eq_of_lt hdescriptor).symm <| .uint16 <|
      .skip rfl <| .pure_eq (Nat.mod_eq_of_lt hcount)
  have hbytes : (le16 descriptor.length ++ combinedBytes descriptor sets.length sets) ++ tail =
      (le16 descriptor.length ++ (le16 (4 + (setsBytes sets).length) ++ (descriptor ++
        (le16 sets.length ++ (le16 0 ++ []))))) ++ (setsBytes sets ++ tail) := by
    simp [combinedBytes]
  rw [hbytes] at hs
  obtain ⟨s', hread, hs'⟩ := rdp_read_capability_sets.spec h (hs.seek rfl)
  refine ⟨s', ?_, hs'⟩
  rw [← hread]
  exact congrArg (fun head : Nat × STREAM => rdp_read_capability_sets head.1 R head.2)
    (hhead s _ hs)

/-- What the client knows of the server after the Demand Active PDU. -/
structure LearnedByClient (server client client' : rdpSettings) : Prop where
  share_id : client'.share_id = server.share_id % 4294967296
  desktop_resize : client'.desktop_resize = (client.desktop_resize && server.desktop_resize)
  desktop_size : client'.desktop_resize = true →
    client'.width = server.width % 65536 ∧ client'.height = server.height % 65536
  color_depth : client'.color_depth =
    (if server.rdp_version > 5 then server.color_depth else 8) % 65536
  order_support : ∀ i, client'.order_support.get i =
    if server.order_support.get i = 0 then 0 else client.order_support.get i
  vc_chunk_size : client'.vc_chunk_size = server.vc_chunk_size % 4294967296
  multifrag_max_request_size : client'.multifrag_max_request_size =
    server.multifrag_max_request_size % 4294967296
  surface_commands : client'.surface_commands = true
  own_pointer_cache : client'.pointer_cache_size = client.pointer_cache_size
  own_codecs : client'.rfx_codec = client.rfx_codec ∧ client'.ns_codec = client.ns_codec

/-- What the server knows of the client after the Confirm Active PDU. -/
structure LearnedByServer (client server server' : rdpSettings) : Prop where
  os_types : server'.os_major_type = client.os_major_type % 65536 ∧
    server'.os_minor_type = client.os_minor_type % 65536
  desktop_resize : server'.desktop_resize = (server.desktop_resize && client.desktop_resize)
  order_support : ∀ i, server'.order_support.get i =
    if client.order_support.get i = 0 then 0 else server.order_support.get i
  pointer_cache_size : client.large_pointer = true →
    server'.pointer_cache_size = client.pointer_cache_size % 65536
  keyboard : server'.kbd_layout = client.kbd_layout % 4294967296 ∧
    server'.kbd_type = client.kbd_type % 4294967296 ∧
    server'.kbd_subtype = client.kbd_subtype % 4294967296 ∧
    server'.kbd_fn_keys = client.kbd_fn_keys % 4294967296
  glyphSupportLevel : server'.glyphSupportLevel = client.glyphSupportLevel % 65536
  sound_beeps : server'.sound_beeps = client.sound_beeps
  offscreen_bitmap_cache : client.offscreen_bitmap_cache = true →
    server'.offscreen_bitmap_cache = true ∧
    server'.offscreen_bitmap_cache_size = client.offscreen_bitmap_cache_size % 65536 ∧
    server'.offscreen_bitmap_cache_entries = client.offscreen_bitmap_cache_entries % 65536
  multifrag_max_request_size : client.received_caps.get 0x1A = true →
    server'.multifrag_max_request_size = client.multifrag_max_request_size % 4294967296
  surface_commands : client.received_caps.get 0x1C = true → server'.surface_commands = true
  codecs : client.received_caps.get 0x1D = true →
    server'.rfx_codec = client.rfx_codec ∧ server'.ns_codec = client.ns_codec ∧
    (client.rfx_codec = true → server'.rfx_codec_id = CODEC_ID_REMOTEFX) ∧
    (client.ns_codec = true → server'.ns_codec_id = CODEC_ID_NSCODEC)
  own_desktop : server'.width = server.width ∧ server'.height = server.height ∧
    server'.color_depth = server.color_depth
  own_caches : server'.glyphCache = server.glyphCache ∧ server'.fragCache = server.fragCache ∧
    server'.bitmapCacheV2NumCells = server.bitmapCacheV2NumCells ∧
    server'.bitmapCacheV2CellInfo = server.bitmapCacheV2CellInfo

theorem learned_by_client (hW : W.server_mode = true) (hR : R.server_mode = false) :
    LearnedByClient W R (readDemand W { R with share_id := W.share_id % 4294967296 }) := by
  rw [readDemand_eq hW (R := { R with share_id := W.share_id % 4294967296 }) hR]
  refine ⟨rfl, rfl, ?_, rfl, common_orders_get _ _, rfl, rfl, rfl, rfl, rfl, rfl⟩
  intro hresize
  exact ⟨if_pos hresize, if_pos hresize⟩

theorem learned_by_server (hW : W.server_mode = false) (hR : R.server_mode = true) :
    LearnedByServer W R (readOptional W (readConfirm W R)) := by
  have hR' : (readConfirm W R).server_mode = true := by
    rw [readConfirm_eq hW hR]
    exact hR
  rw [readOptional_eq hW hR', readConfirm_eq hW hR]
  exact {
    os_types := ⟨rfl, rfl⟩
    desktop_resize := rfl
    order_support := common_orders_get _ _
    pointer_cache_size := fun h => if_pos h
    keyboard := ⟨rfl, rfl, rfl, rfl⟩
    glyphSupportLevel := rfl
    sound_beeps := rfl
    offscreen_bitmap_cache := fun h => ⟨by simp [h], if_pos h, if_pos h⟩
    multifrag_max_request_size := fun h => if_pos h
    surface_commands := fun h => if_pos h
    codecs := fun h => ⟨if_pos h, if_pos h, fun hrfx => if_pos (by simp [h, hrfx]),
      fun hns => if_pos (by simp [h, hns])⟩
    own_desktop := ⟨rfl, rfl, rfl⟩
    own_caches := ⟨rfl, rfl, rfl, rfl⟩ }

theorem pointer_size_taken (hW : W.server_mode = false) (hR : R.server_mode = true) :
    (readOptional W (readConfirm W R)).pointer_cache_size = pointerSize W := by
  have hR' : (readConfirm W R).server_mode = true := by
    rw [readConfirm_eq hW hR]
    exact hR
  rw [readOptional_eq hW hR', readConfirm_eq hW hR]

/-- The Demand Active PDU of a server arrives at a client. -/
structure DemandDelivered (server client : rdpSettings) (s : STREAM) : Prop where
  written : (rdp_write_demand_active server s).2 = stream_write s (demandBytes server ++ le32 0)
  exact : ∀ set ∈ demand_active_sets server, Exact server set
  accepted : ∀ r tail, Rest r (demandBytes server ++ tail) →
    ∃ client' r', read_demand_active client r = some (true, client', r') ∧ Rest r' tail ∧
      LearnedByClient server client client'

/-- The Confirm Active PDU of a client arrives at a server. -/
structure ConfirmDelivered (client server : rdpSettings) (s : STREAM) : Prop where
  written : (rdp_write_confirm_active client s).2 = stream_write s (confirmBytes client)
  exact : ∀ set ∈ (confirm_active_sets client).2, Exact client set
  accepted : ∀ r tail, Rest r (confirmBytes client ++ tail) →
    ∃ server' r', read_confirm_active server r = some (true, server', r') ∧ Rest r' tail ∧
      LearnedByServer client server server'

theorem read_demand_active.spec (W R : rdpSettings) {r : STREAM}
    (hr : Rest r (demandBytes W ++ tail)) :
    ∃ r', read_demand_active R r =
      some (true, readDemand W { R with share_id := W.share_id % 4294967296 }, r') ∧
        Rest r' tail := by
  unfold demandBytes at hr
  obtain ⟨r1, hshare, hr1⟩ := reads_uint32 W.share_id r _ hr
  have hsets := (demand_active_sets.spec W
    { R with share_id := W.share_id % 4294967296 }).understood tail
  have hdescriptor : [0x52, 0x44, 0x50, (0 : UInt8)].length < 65536 := by decide
  obtain ⟨r', hread, hr'⟩ := read_combined_capabilities.spec hsets (by decide : 14 < 65536)
    hdescriptor hr1
  refine ⟨r', ?_, hr'⟩
  unfold read_demand_active
  rw [hshare]
  exact hread

theorem read_confirm_active.spec (W R : rdpSettings) {r : STREAM}
    (hr : Rest r (confirmBytes W ++ tail)) :
    ∃ r', read_confirm_active R r = some (true, readOptional W (readConfirm W R), r') ∧
      Rest r' tail := by
  unfold confirmBytes at hr
  rw [List.append_assoc] at hr
  have hsets := confirm_active_sets.spec W R
  have hcount : (confirm_active_sets W).2.length < 65536 := by
    have hle := confirm_active_sets_count_le W
    rw [hsets.count] at hle
    omega
  exact read_combined_capabilities.spec (hsets.understood tail) hcount (by decide)
    (hr.seek (n := 6) rfl)

theorem demand_delivered {server client : rdpSettings} (hserver : server.server_mode = true)
    (hclient : client.server_mode = false) (hs : s.pos + 20 ≤ s.data.length) :
    DemandDelivered server client s := by
  refine ⟨rdp_write_demand_active.spec server s hs, (demand_active_sets.spec server client).exact,
    fun r tail hr => ?_⟩
  obtain ⟨r', hread, hr'⟩ := read_demand_active.spec server client hr
  exact ⟨_, r', hread, hr', learned_by_client hserver hclient⟩

theorem confirm_delivered {server client : rdpSettings} (hserver : server.server_mode = true)
    (hclient : client.server_mode = false) (hs : s.pos + 20 ≤ s.data.length) :
    ConfirmDelivered client server s := by
  refine ⟨rdp_write_confirm_active.spec client s hs,
    (confirm_active_sets.spec client server).exact, fun r tail hr => ?_⟩
  obtain ⟨r', hread, hr'⟩ := read_confirm_active.spec client server hr
  exact ⟨_, r', hread, hr', learned_by_server hclient hserver⟩

/-- Each PDU names the number of its sets, the reader of each set takes exactly its bytes, and
each side then knows what the other side can do. What is not negotiated stays its own. -/
theorem capabilities_are_exchanged (server client : rdpSettings)
    (hserver : server.server_mode = true) (hclient : client.server_mode = false) (s : STREAM)
    (hs : s.pos + 20 ≤ s.data.length) :
    DemandDelivered server client s ∧ ConfirmDelivered client server s :=
  ⟨demand_delivered hserver hclient hs, confirm_delivered hserver hclient hs⟩

def serverSettings : rdpSettings := { settings_new with server_mode := true }

theorem capabilities_are_exchanged_sample :
    DemandDelivered serverSettings settings_new (stream_new 2048) ∧
      ConfirmDelivered settings_new serverSettings (stream_new 2048) :=
  capabilities_are_exchanged _ _ rfl rfl _ (by decide +kernel)

/-- A client with bitmap caches and without large pointers. -/
def cachingSettings : rdpSettings :=
  { settings_new with bitmapCacheV2NumCells := 5, large_pointer := false }

/-- The server never learns the bitmap caches of the client. Without large pointers it takes the
type of the input set for the size of the pointer cache. -/
theorem capabilities_are_exchanged_counterexample :
    ∃ server' r', read_confirm_active serverSettings (stream_of (confirmBytes cachingSettings)) =
      some (true, server', r') ∧
        server'.bitmapCacheV2NumCells = 0 ∧ cachingSettings.bitmapCacheV2NumCells = 5 ∧
        server'.pointer_cache_size = 13 ∧ cachingSettings.pointer_cache_size = 20 := by
  have hr : Rest (stream_of (confirmBytes cachingSettings))
      (confirmBytes cachingSettings ++ []) := by
    rw [List.append_nil]
    exact rest_stream_of _
  obtain ⟨r', hread, _⟩ := read_confirm_active.spec cachingSettings serverSettings hr
  have hlearned := learned_by_server (W := cachingSettings) (R := serverSettings) rfl rfl
  exact ⟨_, r', hread, hlearned.own_caches.2.2.1, rfl, pointer_size_taken rfl rfl, rfl⟩

/-! ## The connection -/

/-- The connection reads a Demand Active PDU as the negotiation does, if the code around it reads
the capability sets. The connection keeps the share id in the client, and so the settings around it
are the ones with that share id. -/
theorem connection_reads_demand_active {C : security.Crypto}
    {env : connection.Environment C rdpSettings} {c : connection.Connection C rdpSettings}
    {s s1 s' : STREAM} {length source : Nat} {ok : Bool} {R R' : rdpSettings}
    (henv : ∀ {numberCapabilities R s ok R' s'},
      rdp_read_capability_sets numberCapabilities R s = some (ok, R', s') →
        env.rdp_read_capability_sets s numberCapabilities R = (ok, R'))
    (hheader : slowpath.rdp_read_share_control_header s =
      ((length, some (connection.PDU_TYPE_DEMAND_ACTIVE, source)), s1))
    (huser : c.session.user = { R with share_id := (stream_read_uint32 s1).1 })
    (h : read_demand_active R s1 = some (ok, R', s')) :
    (connection.read_demand_active env c s).1 = ok ∧
      (connection.read_demand_active env c s).2.2.session.user = R' ∧
      (connection.read_demand_active env c s).2.2.client.share_id =
        (stream_read_uint32 s1).1 := by
  have hsets : read_combined_capabilities c.session.user (stream_read_uint32 s1).2 =
      some (ok, R', s') := by
    rw [huser]
    exact h
  unfold read_combined_capabilities at hsets
  unfold connection.read_demand_active
  rw [hheader]
  dsimp only
  rw [if_neg (not_not_intro rfl)]
  clear h huser
  revert hsets
  rcases stream_read_uint32 s1 with ⟨share_id, s2⟩
  dsimp only
  rcases stream_read_uint16 s2 with ⟨lengthSourceDescriptor, s3⟩
  dsimp only
  rcases stream_read_uint16 s3 with ⟨_, s4⟩
  dsimp only
  rcases stream_read_uint16 (stream_seek s4 lengthSourceDescriptor) with ⟨n, s5⟩
  intro hsets
  have hread := henv hsets
  exact ⟨congrArg Prod.fst hread, congrArg Prod.snd hread, rfl⟩

end neutrinordp.capabilities
