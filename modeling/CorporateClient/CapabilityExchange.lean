-- The exchange of the capability sets: what one side writes and what the other side reads.
import CorporateClient.Capabilities

namespace neutrinordp.capabilities

open List bytes codec stream

/-! ## What is written -/

def CapabilitySet.content (set : CapabilitySet) : List UInt8 := set.fields.flatten

/-- A set as it stands in a PDU: its type, its length with the header, and its fields. -/
def CapabilitySet.bytes (set : CapabilitySet) : List UInt8 :=
  le16 set.type ++ le16 (4 + set.content.length) ++ set.content

theorem writes_fields (fields : List Bytes) :
    Writes out (fields.forM fun field => modify (stream_write · field)) fields.flatten () := by
  have h := Writes.forM fields fun field _ => writes_bytes field
  rwa [flatMap_id'] at h

theorem writes_capability_set (set : CapabilitySet) :
    Writes out (write_capability_set set) set.bytes () := by
  intro s hs
  have hstart : stream_write (stream_write s (replicate CAPSET_HEADER_LENGTH 0)) set.content =
      stream_write s ([] ++ replicate CAPSET_HEADER_LENGTH 0 ++ set.content) :=
    stream_write_write s _ _ hs
  have hfields := writes_fields set.fields (stream_write s (replicate CAPSET_HEADER_LENGTH 0))
    (out.room_append s _ hs)
  rw [show out.append _ set.fields.flatten = _ from hstart] at hfields
  have hheader := stream_write_write
    (stream_set_pos (stream_write s ([] ++ replicate CAPSET_HEADER_LENGTH 0 ++ set.content))
      s.pos) (le16 set.type) (le16 (4 + set.content.length)) (by
        rw [stream_set_pos_data, stream_set_pos_pos, stream_write_length s _ hs]
        omega)
  have hover := stream_write_over s [] (replicate CAPSET_HEADER_LENGTH 0)
    (le16 set.type ++ le16 (4 + set.content.length)) set.content hs rfl
  unfold write_capability_set
  simp only [run_get, run_modify, run_bind hfields]
  have hlength : stream_get_pos (stream_write s
      ([] ++ replicate CAPSET_HEADER_LENGTH 0 ++ set.content)) - stream_get_pos s =
        4 + set.content.length := by
    rw [stream_get_pos, stream_get_pos, stream_write_pos, Nat.add_sub_cancel_left]
    rw [nil_append, length_append, length_replicate, CAPSET_HEADER_LENGTH]
  rw [hlength]
  rw [length_nil, Nat.add_zero, ← hheader] at hover
  exact congrArg (Prod.mk ()) hover

/-- The sets of a PDU. -/
def setsBytes (sets : List CapabilitySet) : List UInt8 := sets.flatMap CapabilitySet.bytes

/-- The descriptor of the source and the sets, with the two numbers in front of them. -/
def combinedBytes (descriptor : List UInt8) (numberCapabilities : Nat)
    (sets : List CapabilitySet) : List UInt8 :=
  le16 (4 + (setsBytes sets).length) ++ descriptor ++ le16 numberCapabilities ++ le16 0 ++
    setsBytes sets

theorem write_combined_capabilities.spec (descriptor : Bytes) (numberCapabilities : Nat)
    (sets : List CapabilitySet) (s : STREAM) (hs : s.pos + descriptor.length + 4 ≤ s.data.length) :
    write_combined_capabilities descriptor numberCapabilities sets s =
      ((), stream_write s (combinedBytes descriptor numberCapabilities sets)) := by
  have hroom : s.pos ≤ s.data.length := by omega
  obtain ⟨x, hx, hskip⟩ := stream_seek_eq_write s 2 (by omega)
  have hlong := stream_write_length s (x ++ descriptor) hroom
  obtain ⟨y, hy, hskip2⟩ := stream_seek_eq_write (stream_write s (x ++ descriptor)) 2 (by
    rw [hlong, stream_write_pos, length_append, hx]
    omega)
  have hsets : sets.forM write_capability_set
      (stream_write s (x ++ descriptor ++ y ++ le16 0)) =
        ((), stream_write s (x ++ descriptor ++ y ++ le16 0 ++ setsBytes sets)) := by
    rw [← stream_write_write s _ (setsBytes sets) hroom]
    exact Writes.forM sets (fun set _ => writes_capability_set set) _
      (out.room_append s _ hroom)
  unfold write_combined_capabilities
  simp only [run_get, run_modify, hskip, stream_write_uint16, stream_write_write s _ _ hroom,
    hskip2, run_bind hsets]
  have hdiff : stream_get_pos (stream_write s (x ++ descriptor ++ y ++ le16 0 ++ setsBytes sets)) -
      stream_get_pos (stream_write s (x ++ descriptor)) = 4 + (setsBytes sets).length := by
    simp only [stream_get_pos, stream_write_pos, length_append, hx, hy, length_le16]
    omega
  have hbm : stream_get_pos (stream_write s (x ++ descriptor)) =
      s.pos + (le16 (4 + (setsBytes sets).length) ++ descriptor).length := by
    simp [stream_get_pos, stream_write_pos, hx]
  have hem : stream_get_pos (stream_write s (x ++ descriptor ++ y ++ le16 0 ++ setsBytes sets)) =
      s.pos + (le16 (4 + (setsBytes sets).length) ++ descriptor ++ y ++
        (le16 0 ++ setsBytes sets)).length := by
    simp only [stream_get_pos, stream_write_pos, length_append, hx, length_le16]
    omega
  -- The length goes over the first skip and the number over the second one.
  have hlength := stream_write_over s [] x (le16 (4 + (setsBytes sets).length))
    (descriptor ++ y ++ le16 0 ++ setsBytes sets) hroom hx
  have hnumber := stream_write_over s (le16 (4 + (setsBytes sets).length) ++ descriptor) y
    (le16 numberCapabilities) (le16 0 ++ setsBytes sets) hroom hy
  rw [hdiff, hbm, hem]
  simp only [nil_append, append_assoc, length_nil, Nat.add_zero] at hlength hnumber ⊢
  rw [← hlength] at hnumber
  refine Prod.ext rfl (hnumber.trans ?_)
  simp [combinedBytes]

/-! ## What is read -/

theorem reads_skips (widths : List Nat) {bs : Bytes} (h : bs.length = widths.sum) :
    Takes (widths.forM stream_skip) bs () := by
  induction widths generalizing bs with
  | nil =>
    rw [eq_nil_of_length_eq_zero h]
    exact .pure _
  | cons n widths ih =>
    rw [sum_cons] at h
    have hn : (bs.take n).length = n := by
      rw [length_take]
      omega
    have hrest : (bs.drop n).length = widths.sum := by
      rw [length_drop]
      omega
    rw [← take_append_drop n bs]
    exact .skip hn (ih hrest)

theorem reads_skip_capability_set (R : rdpSettings) (widths : List Nat) {bs : Bytes}
    (h : bs.length = widths.sum) : Takes (skip_capability_set R widths) bs R := by
  rw [← append_nil bs]
  exact (reads_skips widths h).bind (.pure R)

section Sets

variable (W R : rdpSettings)

/-! The settings `R` after a set of `W`, for each set. -/

def readOsTypes : rdpSettings :=
  if R.server_mode then
    { R with os_major_type := W.os_major_type % 65536, os_minor_type := W.os_minor_type % 65536 }
  else R

theorem reads_os_types : Takes (read_os_types R)
    (le16 W.os_major_type ++ (le16 W.os_minor_type ++ [])) (readOsTypes W R) := by
  unfold read_os_types readOsTypes
  split
  · exact .uint16 <| .uint16 <| .pure _
  · exact .skip rfl <| .skip rfl <| .pure _

def readGeneral : rdpSettings :=
  let V := general_settings W
  let R := readOsTypes V R
  { R with
    fastpath_output := R.fastpath_output && W.fastpath_output
    refresh_rect := R.refresh_rect && V.refresh_rect
    suppress_output := R.suppress_output && V.suppress_output }

theorem byte_flag (own theirs : Bool) :
    (if UInt8.ofNat theirs.toNat = 0 then false else own) = (own && theirs) := by
  cases own <;> cases theirs <;> rfl

theorem extra_flags (own auto_reconnection fastpath_output : Bool) :
    (if (if fastpath_output then
        (if auto_reconnection then
          LONG_CREDENTIALS_SUPPORTED ||| NO_BITMAP_COMPRESSION_HDR ||| AUTORECONNECT_SUPPORTED
          else LONG_CREDENTIALS_SUPPORTED ||| NO_BITMAP_COMPRESSION_HDR) |||
            FASTPATH_OUTPUT_SUPPORTED
        else if auto_reconnection then
          LONG_CREDENTIALS_SUPPORTED ||| NO_BITMAP_COMPRESSION_HDR ||| AUTORECONNECT_SUPPORTED
        else LONG_CREDENTIALS_SUPPORTED ||| NO_BITMAP_COMPRESSION_HDR) % 65536 &&&
        FASTPATH_OUTPUT_SUPPORTED = 0 then false else own) = (own && fastpath_output) := by
  cases own <;> cases auto_reconnection <;> cases fastpath_output <;> rfl

theorem reads_general : Takes (rdp_read_general_capability_set R)
    (rdp_write_general_capability_set W).content (readGeneral W R) := by
  have hos := reads_os_types (general_settings W) R
  refine hos.bind <| .skip rfl <| .skip rfl <| .skip rfl <| .uint16 <| .skip rfl <|
    .skip rfl <| .skip rfl <| .uint8 <| .uint8 <| .pure_eq ?_
  unfold readGeneral
  rw [extra_flags, byte_flag, byte_flag]

def readBitmap : rdpSettings :=
  let R := if R.server_mode then R
    else { R with
      color_depth := (if W.rdp_version > 5 then W.color_depth else 8) % 65536 }
  let R := if W.desktop_resize then R else { R with desktop_resize := false }
  if R.server_mode = false ∧ R.desktop_resize then
    { R with width := W.width % 65536, height := W.height % 65536 } else R

theorem reads_bitmap : Takes (rdp_read_bitmap_capability_set R)
    (rdp_write_bitmap_capability_set W).content (readBitmap W R) := by
  refine .uint16 <| .skip rfl <| .skip rfl <| .skip rfl <| .uint16 <| .uint16 <| .skip rfl <|
    .uint16 <| .skip rfl <| .skip rfl <| .uint8 <| .skip rfl <| .skip rfl <| .pure_eq ?_
  unfold readBitmap
  cases W.desktop_resize
  · rfl
  · rfl

def readOrder : rdpSettings :=
  { R with order_support := common_orders R.order_support W.order_support.toList }

theorem reads_order : Takes (rdp_read_order_capability_set R)
    (rdp_write_order_capability_set W).content (readOrder W R) := by
  have horders : W.order_support.toList.length = 32 := by simp
  exact .skip rfl <| .skip rfl <| .skip rfl <| .skip rfl <| .skip rfl <| .skip rfl <| .skip rfl <|
    .uint16 <| .block horders <| .skip rfl <| .uint16 <| .skip rfl <| .skip rfl <| .skip rfl <|
    .skip rfl <| .skip rfl <| .skip rfl <| .pure _

/-- The pointer set with its third field, or with two bytes of another set behind it. -/
def readPointer (size : Nat) : rdpSettings :=
  { R with
    color_pointer := R.color_pointer && W.color_pointer
    pointer_cache_size := if R.server_mode then size else R.pointer_cache_size }

theorem reads_pointer_fields (size : Nat) : Takes (rdp_read_pointer_capability_set R)
    (le16 (if W.color_pointer then 1 else 0) ++ (le16 W.pointer_cache_size ++ (le16 size ++ [])))
    (readPointer W R (size % 65536)) := by
  refine .uint16 <| .uint16 <| .uint16 <| .pure_eq ?_
  unfold readPointer
  cases W.color_pointer
  · simp
  · simp

def readSound : rdpSettings := { R with sound_beeps := W.sound_beeps }

theorem reads_sound : Takes (rdp_read_sound_capability_set R)
    (rdp_write_sound_capability_set W).content (readSound W R) := by
  refine .uint16 <| .skip rfl <| .pure_eq ?_
  unfold readSound
  cases W.sound_beeps
  · rfl
  · rfl

def readKeyboard : rdpSettings :=
  if R.server_mode then
    { R with
      kbd_layout := W.kbd_layout % 4294967296, kbd_type := W.kbd_type % 4294967296
      kbd_subtype := W.kbd_subtype % 4294967296, kbd_fn_keys := W.kbd_fn_keys % 4294967296 }
  else R

theorem reads_keyboard : Takes (read_keyboard R)
    (le32 W.kbd_layout ++ (le32 W.kbd_type ++ (le32 W.kbd_subtype ++ (le32 W.kbd_fn_keys ++ []))))
    (readKeyboard W R) := by
  unfold read_keyboard readKeyboard
  split
  · exact .uint32 <| .uint32 <| .uint32 <| .uint32 <| .pure _
  · exact .skip rfl <| .skip rfl <| .skip rfl <| .skip rfl <| .pure _

def readInput : rdpSettings :=
  let R := readKeyboard W R
  if R.server_mode = false ∧ W.fastpath_input = false then { R with fastpath_input := false }
  else R

theorem reads_input : Takes (rdp_read_input_capability_set R)
    (rdp_write_input_capability_set W).content (readInput W R) := by
  have hkeyboard := reads_keyboard W R
  refine .uint16 <| .skip rfl <| hkeyboard.bind <| .skip (length_replicate) <| .pure_eq ?_
  unfold readInput
  cases W.fastpath_input
  · simp [INPUT_FLAG_SCANCODES, INPUT_FLAG_MOUSEX, INPUT_FLAG_UNICODE, INPUT_FLAG_FASTPATH_INPUT,
      INPUT_FLAG_FASTPATH_INPUT2]
  · simp [INPUT_FLAG_SCANCODES, INPUT_FLAG_MOUSEX, INPUT_FLAG_UNICODE, INPUT_FLAG_FASTPATH_INPUT,
      INPUT_FLAG_FASTPATH_INPUT2]

theorem reads_font : Takes (rdp_read_font_capability_set 8 R)
    rdp_write_font_capability_set.content R :=
  Takes.skip rfl <| .skip rfl <| .pure _

theorem length_glyph_cache :
    (W.glyphCache.toList.map rdp_write_cache_definition).flatten.length = 40 := by
  have hlen : W.glyphCache.toList.length = 10 := by simp
  have hwidth : length ∘ rdp_write_cache_definition = fun _ => 4 := rfl
  rw [length_flatten, map_map, hwidth, map_const', hlen]
  rfl

def readGlyphCache : rdpSettings :=
  { R with glyphSupportLevel := W.glyphSupportLevel % 65536 }

theorem reads_glyph_cache : Takes (rdp_read_glyph_cache_capability_set R)
    (rdp_write_glyph_cache_capability_set W).content (readGlyphCache W R) := by
  simp only [CapabilitySet.content, rdp_write_glyph_cache_capability_set, flatten_append,
    flatten_cons, flatten_nil]
  exact .skip (length_glyph_cache W) <| .skip rfl <| .uint16 <| .skip rfl <| .pure _

def readOffscreen : rdpSettings :=
  { R with
    offscreen_bitmap_cache_size := W.offscreen_bitmap_cache_size % 65536
    offscreen_bitmap_cache_entries := W.offscreen_bitmap_cache_entries % 65536
    offscreen_bitmap_cache := R.offscreen_bitmap_cache || W.offscreen_bitmap_cache }

theorem reads_offscreen : Takes (rdp_read_offscreen_bitmap_cache_capability_set R)
    (rdp_write_offscreen_bitmap_cache_capability_set W).content (readOffscreen W R) := by
  refine .uint32 <| .uint16 <| .uint16 <| .pure_eq ?_
  unfold readOffscreen
  cases W.offscreen_bitmap_cache
  · simp
  · simp

def readHostSupport : rdpSettings := { R with persistent_bitmap_cache := true }

theorem reads_host_support : Takes (rdp_read_bitmap_cache_host_support_capability_set R)
    rdp_write_bitmap_cache_host_support_capability_set.content (readHostSupport R) :=
  Takes.uint8 <| .skip rfl <| .skip rfl <| .pure _

def readVirtualChannel : rdpSettings :=
  if R.server_mode then R else { R with vc_chunk_size := W.vc_chunk_size % 4294967296 }

theorem reads_virtual_channel : Takes (rdp_read_virtual_channel_capability_set 12 R)
    (rdp_write_virtual_channel_capability_set W).content (readVirtualChannel W R) := by
  exact .uint32 <| .uint32 <| .pure _

theorem reads_remote_programs : Takes (rdp_read_remote_programs_capability_set R)
    (rdp_write_remote_programs_capability_set W).content R := by
  refine .uint32 <| .pure_eq ?_
  cases W.rail_langbar_supported
  · rfl
  · rfl

def readMultifragment : rdpSettings :=
  { R with multifrag_max_request_size := W.multifrag_max_request_size % 4294967296 }

theorem reads_multifragment : Takes (rdp_read_multifragment_update_capability_set R)
    (rdp_write_multifragment_update_capability_set W).content (readMultifragment W R) := by
  exact .uint32 <| .pure _

def readSurfaceCommands : rdpSettings := { R with surface_commands := true }

theorem reads_surface_commands : Takes (rdp_read_surface_commands_capability_set R)
    rdp_write_surface_commands_capability_set.content (readSurfaceCommands R) :=
  Takes.skip rfl <| .skip rfl <| .pure _

/-! ### Codecs -/

/-- A codec in the set of codecs. -/
structure Codec where
  guid : List UInt8
  id : UInt8
  properties : List UInt8

structure Codec.WellFormed (codec : Codec) : Prop where
  guid : codec.guid.length = 16
  properties : codec.properties.length < 65536

def Codec.bytes (codec : Codec) : List UInt8 :=
  codec.guid ++ ([codec.id] ++ (le16 codec.properties.length ++ (codec.properties ++ [])))

def readCodec (R : rdpSettings) (codec : Codec) : rdpSettings :=
  if R.server_mode && strncmp_eq codec.guid CODEC_GUID_REMOTEFX then
    { R with rfx_codec_id := codec.id.toNat, rfx_codec := true }
  else if R.server_mode && strncmp_eq codec.guid CODEC_GUID_NSCODEC then
    { R with ns_codec_id := codec.id.toNat, ns_codec := true }
  else R

theorem reads_codec {codec : Codec} (h : codec.WellFormed) :
    Takes (read_bitmap_codec R) codec.bytes (readCodec R codec) := by
  intro s rest hs
  have hguid : stream_peek 16 s = (codec.guid, s) := by
    have hleft := hs.left
    unfold stream_peek
    rw [bytes_at_left s 16 (by rw [hleft, Codec.bytes]; simp [h.guid]), hleft, Codec.bytes,
      append_assoc, take_left' h.guid]
  have hid : Takes (read_codec_id codec.guid R) [codec.id] (readCodec R codec) :=
    Takes.uint8 <| .pure _
  have hlength := h.properties
  have hrest : Takes (do
      stream_skip 16
      let settings ← read_codec_id codec.guid R
      let codecPropertiesLength ← stream_read_uint16
      stream_skip codecPropertiesLength
      return settings) codec.bytes (readCodec R codec) := by
    refine .skip h.guid <| hid.bind <| .uint16 ?_
    rw [Nat.mod_eq_of_lt hlength]
    exact .skip rfl <| .pure _
  unfold read_bitmap_codec
  rw [run_bind hguid]
  exact hrest s rest hs

theorem reads_codecs (codecs : List Codec) (h : ∀ codec ∈ codecs, codec.WellFormed) :
    Takes (read_bitmap_codecs codecs.length R) (codecs.flatMap Codec.bytes)
      (codecs.foldl readCodec R) := by
  induction codecs generalizing R with
  | nil => exact .pure _
  | cons codec codecs ih =>
    have hfirst := reads_codec R (h codec mem_cons_self)
    exact hfirst.bind (ih _ (forall_mem_cons.mp h).2)

/-- The fields of a codec after its id: their length and the properties. -/
structure Container (fields : List (List UInt8)) : Prop where
  head : fields.flatten = le16 (fields.drop 1).flatten.length ++ (fields.drop 1).flatten
  short : (fields.drop 1).flatten.length < 65536

def codecOf (guid : List UInt8) (codecID : Nat) (client server : List (List UInt8)) : Codec :=
  if W.server_mode then ⟨guid, UInt8.ofNat 0, (server.drop 1).flatten⟩
  else ⟨guid, UInt8.ofNat codecID, (client.drop 1).flatten⟩

theorem flatten_write_codec (guid : Bytes) (codecID : Nat) {client server : List Bytes}
    (hclient : Container client) (hserver : Container server) :
    (write_codec W guid codecID client server).flatten =
      (codecOf W guid codecID client server).bytes := by
  unfold write_codec codecOf
  split
  · rw [flatten_append, hserver.head]
    simp [Codec.bytes, u8]
  · rw [flatten_append, hclient.head]
    simp [Codec.bytes, u8]

theorem codecOf_wellFormed {guid : Bytes} (codecID : Nat) {client server : List Bytes}
    (hguid : guid.length = 16) (hclient : Container client) (hserver : Container server) :
    (codecOf W guid codecID client server).WellFormed := by
  unfold codecOf
  split
  · exact ⟨hguid, hserver.short⟩
  · exact ⟨hguid, hclient.short⟩

theorem container_rfx_client : Container (rdp_write_rfx_client_capability_container W) :=
  ⟨rfl, (by decide : 49 < 65536)⟩

theorem container_nsc_client : Container rdp_write_nsc_client_capability_container :=
  ⟨rfl, by decide⟩

theorem container_jpeg_client : Container (rdp_write_jpeg_client_capability_container W) :=
  ⟨rfl, (by decide : 1 < 65536)⟩

theorem container_rfx_server : Container rdp_write_rfx_server_capability_container :=
  ⟨rfl, by decide⟩

theorem container_nsc_server : Container rdp_write_nsc_server_capability_container :=
  ⟨rfl, by decide⟩

theorem container_jpeg_server : Container rdp_write_jpeg_server_capability_container :=
  ⟨rfl, by decide⟩

def rfxCodec : Codec :=
  codecOf W CODEC_GUID_REMOTEFX CODEC_ID_REMOTEFX (rdp_write_rfx_client_capability_container W)
    rdp_write_rfx_server_capability_container

def nsCodec : Codec :=
  codecOf W CODEC_GUID_NSCODEC CODEC_ID_NSCODEC rdp_write_nsc_client_capability_container
    rdp_write_nsc_server_capability_container

def jpegCodec : Codec :=
  codecOf W CODEC_GUID_JPEG CODEC_ID_JPEG (rdp_write_jpeg_client_capability_container W)
    rdp_write_jpeg_server_capability_container

/-- The codecs that the settings name. -/
def codecsOf : List Codec :=
  (if W.rfx_codec then [rfxCodec W] else []) ++ (if W.ns_codec then [nsCodec W] else []) ++
    if W.jpeg_codec then [jpegCodec W] else []

theorem codecsOf_wellFormed : ∀ codec ∈ codecsOf W, codec.WellFormed := by
  have hrfx : (rfxCodec W).WellFormed :=
    codecOf_wellFormed W _ rfl (container_rfx_client W) container_rfx_server
  have hns : (nsCodec W).WellFormed :=
    codecOf_wellFormed W _ rfl container_nsc_client container_nsc_server
  have hjpeg : (jpegCodec W).WellFormed :=
    codecOf_wellFormed W _ rfl (container_jpeg_client W) container_jpeg_server
  intro codec hcodec
  rcases mem_append.mp hcodec with hcodec | hcodec
  · rcases mem_append.mp hcodec with hcodec | hcodec
    · rwa [mem_singleton.mp (mem_ite_nil_right.mp hcodec).2]
    · rwa [mem_singleton.mp (mem_ite_nil_right.mp hcodec).2]
  · rwa [mem_singleton.mp (mem_ite_nil_right.mp hcodec).2]

theorem content_codecs : (rdp_write_bitmap_codecs_capability_set W).content =
    [UInt8.ofNat (codecsOf W).length] ++ (codecsOf W).flatMap Codec.bytes := by
  have hrfx := flatten_write_codec W CODEC_GUID_REMOTEFX CODEC_ID_REMOTEFX
    (container_rfx_client W) container_rfx_server
  have hns := flatten_write_codec W CODEC_GUID_NSCODEC CODEC_ID_NSCODEC
    container_nsc_client container_nsc_server
  have hjpeg := flatten_write_codec W CODEC_GUID_JPEG CODEC_ID_JPEG
    (container_jpeg_client W) container_jpeg_server
  unfold codecsOf rfxCodec nsCodec jpegCodec
  simp only [CapabilitySet.content, rdp_write_bitmap_codecs_capability_set, flatten_append,
    flatten_cons, flatten_nil, append_nil, u8, flatMap_append]
  cases W.rfx_codec <;> cases W.ns_codec <;> cases W.jpeg_codec <;>
    simp [hrfx, hns, hjpeg]

def readCodecs : rdpSettings :=
  (codecsOf W).foldl readCodec
    (if R.server_mode then { R with rfx_codec := false, ns_codec := false } else R)

theorem reads_bitmap_codecs : Takes (rdp_read_bitmap_codecs_capability_set R)
    (rdp_write_bitmap_codecs_capability_set W).content (readCodecs W R) := by
  have hcount : (UInt8.ofNat (codecsOf W).length).toNat = (codecsOf W).length := by
    unfold codecsOf
    cases W.rfx_codec <;> cases W.ns_codec <;> cases W.jpeg_codec <;> rfl
  rw [content_codecs]
  refine .uint8 ?_
  rw [hcount]
  exact reads_codecs _ _ (codecsOf_wellFormed W)

end Sets

end neutrinordp.capabilities
