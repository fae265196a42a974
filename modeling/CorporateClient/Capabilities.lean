-- The capability sets (capabilities.c). The server sends its sets in the Demand Active PDU and
-- the client answers with its own in the Confirm Active PDU. Both sides use the same settings
-- and the same functions, and the reader of a set changes the settings.
import CorporateClient.StreamCodec

namespace neutrinordp.capabilities

open bytes stream

def CAPSET_TYPE_GENERAL : Nat := 0x0001
def CAPSET_TYPE_BITMAP : Nat := 0x0002
def CAPSET_TYPE_ORDER : Nat := 0x0003
def CAPSET_TYPE_BITMAP_CACHE : Nat := 0x0004
def CAPSET_TYPE_CONTROL : Nat := 0x0005
def CAPSET_TYPE_ACTIVATION : Nat := 0x0007
def CAPSET_TYPE_POINTER : Nat := 0x0008
def CAPSET_TYPE_SHARE : Nat := 0x0009
def CAPSET_TYPE_COLOR_CACHE : Nat := 0x000A
def CAPSET_TYPE_SOUND : Nat := 0x000C
def CAPSET_TYPE_INPUT : Nat := 0x000D
def CAPSET_TYPE_FONT : Nat := 0x000E
def CAPSET_TYPE_BRUSH : Nat := 0x000F
def CAPSET_TYPE_GLYPH_CACHE : Nat := 0x0010
def CAPSET_TYPE_OFFSCREEN_CACHE : Nat := 0x0011
def CAPSET_TYPE_BITMAP_CACHE_HOST_SUPPORT : Nat := 0x0012
def CAPSET_TYPE_BITMAP_CACHE_V2 : Nat := 0x0013
def CAPSET_TYPE_VIRTUAL_CHANNEL : Nat := 0x0014
def CAPSET_TYPE_RAIL : Nat := 0x0017
def CAPSET_TYPE_WINDOW : Nat := 0x0018
def CAPSET_TYPE_COMP_DESK : Nat := 0x0019
def CAPSET_TYPE_MULTI_FRAGMENT_UPDATE : Nat := 0x001A
def CAPSET_TYPE_LARGE_POINTER : Nat := 0x001B
def CAPSET_TYPE_SURFACE_COMMANDS : Nat := 0x001C
def CAPSET_TYPE_BITMAP_CODECS : Nat := 0x001D
def CAPSET_TYPE_FRAME_ACKNOWLEDGE : Nat := 0x001E

def CAPSET_HEADER_LENGTH : Nat := 4

def CAPS_PROTOCOL_VERSION : Nat := 0x0200
def FASTPATH_OUTPUT_SUPPORTED : Nat := 0x0001
def NO_BITMAP_COMPRESSION_HDR : Nat := 0x0400
def LONG_CREDENTIALS_SUPPORTED : Nat := 0x0004
def AUTORECONNECT_SUPPORTED : Nat := 0x0008
def NEGOTIATE_ORDER_SUPPORT : Nat := 0x0002
def ZERO_BOUNDS_DELTA_SUPPORT : Nat := 0x0008
def COLOR_INDEX_SUPPORT : Nat := 0x0020
def ORDER_FLAGS_EXTRA_SUPPORT : Nat := 0x0080
def CACHE_BITMAP_V3_SUPPORT : Nat := 0x0002
def ALTSEC_FRAME_MARKER_SUPPORT : Nat := 0x0004
def SOUND_BEEPS_FLAG : Nat := 0x0001
def INPUT_FLAG_SCANCODES : Nat := 0x0001
def INPUT_FLAG_MOUSEX : Nat := 0x0004
def INPUT_FLAG_FASTPATH_INPUT : Nat := 0x0008
def INPUT_FLAG_UNICODE : Nat := 0x0010
def INPUT_FLAG_FASTPATH_INPUT2 : Nat := 0x0020
def FONTSUPPORT_FONTLIST : Nat := 0x0001
def BRUSH_COLOR_FULL : Nat := 0x00000002
def BITMAP_CACHE_V2 : Nat := 0x01
def PERSISTENT_KEYS_EXPECTED_FLAG : Nat := 0x0001
def ALLOW_CACHE_WAITING_LIST_FLAG : Nat := 0x0002
def VCCAPS_NO_COMPR : Nat := 0x00000000
def VCCAPS_COMPR_CS_8K : Nat := 0x00000002
def DRAW_NINEGRID_SUPPORTED : Nat := 0x00000001
def DRAW_NINEGRID_SUPPORTED_V2 : Nat := 0x00000002
def DRAW_GDIPLUS_SUPPORTED : Nat := 0x00000001
def DRAW_GDIPLUS_CACHE_LEVEL_ONE : Nat := 0x00000001
def RAIL_LEVEL_SUPPORTED : Nat := 0x00000001
def RAIL_LEVEL_DOCKED_LANGBAR_SUPPORTED : Nat := 0x00000002
def WINDOW_LEVEL_SUPPORTED_EX : Nat := 0x00000002
def COMPDESK_NOT_SUPPORTED : Nat := 0x0000
def COMPDESK_SUPPORTED : Nat := 0x0001
def LARGE_POINTER_FLAG_96x96 : Nat := 0x00000001
def SURFCMDS_SET_SURFACE_BITS : Nat := 0x00000002
def SURFCMDS_FRAME_MARKER : Nat := 0x00000010
def SURFCMDS_STREAM_SURFACE_BITS : Nat := 0x00000040
def CARDP_CAPS_CAPTURE_NON_CAC : Nat := 0x00000001
def CBY_CAPS : Nat := 0xCBC0
def CBY_CAPSET : Nat := 0xCBC1
def CLY_CAPSET : Nat := 0xCFC0
def CLW_VERSION_1_0 : Nat := 0x0100
def CT_TILE_64x64 : Nat := 0x0040
def CLW_COL_CONV_ICT : Nat := 0x1
def CLW_XFORM_DWT_53_A : Nat := 0x1
def CLW_ENTROPY_RLGR1 : Nat := 0x01
def CLW_ENTROPY_RLGR3 : Nat := 0x04

def CODEC_ID_NSCODEC : Nat := 0x01
def CODEC_ID_JPEG : Nat := 0x02
def CODEC_ID_REMOTEFX : Nat := 0x03

def CODEC_GUID_REMOTEFX : List UInt8 :=
  [0x12, 0x2F, 0x77, 0x76, 0x72, 0xBD, 0x63, 0x44, 0xAF, 0xB3, 0xB7, 0x3C, 0x9C, 0x6F, 0x78, 0x86]

def CODEC_GUID_NSCODEC : List UInt8 :=
  [0xB9, 0x1B, 0x8D, 0xCA, 0x0F, 0x00, 0x4F, 0x15, 0x58, 0x9F, 0xAE, 0x2D, 0x1A, 0x87, 0xE2, 0xD6]

def CODEC_GUID_JPEG : List UInt8 :=
  [0xE6, 0x4C, 0xAF, 0x1B, 0xED, 0x9E, 0x0C, 0x43, 0x86, 0x9A, 0xCB, 0x8B, 0x37, 0xB6, 0x62, 0x37]

/-- `SOURCE_DESCRIPTOR` with its final zero. -/
def SOURCE_DESCRIPTOR : List UInt8 := [0x46, 0x52, 0x45, 0x45, 0x52, 0x44, 0x50, 0]

/-! ## Settings -/

structure GLYPH_CACHE_DEFINITION where
  cacheEntries : Nat
  cacheMaximumCellSize : Nat
deriving Repr, DecidableEq

structure BITMAP_CACHE_V2_CELL_INFO where
  numEntries : Nat
  persistent : Bool
deriving Repr, DecidableEq

/-- The settings that the capability sets are about. -/
structure rdpSettings where
  server_mode : Bool
  share_id : Nat
  width : Nat
  height : Nat
  rdp_version : Nat
  color_depth : Nat
  kbd_layout : Nat
  kbd_type : Nat
  kbd_subtype : Nat
  kbd_fn_keys : Nat
  refresh_rect : Bool
  suppress_output : Bool
  desktop_resize : Bool
  auto_reconnection : Bool
  os_major_type : Nat
  os_minor_type : Nat
  vc_chunk_size : Nat
  sound_beeps : Bool
  frame_marker : Bool
  fastpath_input : Bool
  fastpath_output : Bool
  received_caps : Vector Bool 32
  order_support : Vector UInt8 32
  surface_commands : Bool
  multifrag_max_request_size : Nat
  rfx_codec : Bool
  ns_codec : Bool
  rfx_codec_id : Nat
  ns_codec_id : Nat
  rfx_codec_mode : Nat
  frame_acknowledge : Bool
  jpeg_codec : Bool
  jpeg_quality : Nat
  v3_codec_id : Nat
  dump_rfx : Bool
  remote_app : Bool
  num_icon_caches : Nat
  num_icon_cache_entries : Nat
  rail_langbar_supported : Bool
  large_pointer : Bool
  color_pointer : Bool
  pointer_cache_size : Nat
  bitmap_cache_v3 : Bool
  persistent_bitmap_cache : Bool
  bitmapCacheV2NumCells : Nat
  bitmapCacheV2CellInfo : Vector BITMAP_CACHE_V2_CELL_INFO 5
  offscreen_bitmap_cache : Bool
  offscreen_bitmap_cache_size : Nat
  offscreen_bitmap_cache_entries : Nat
  glyphSupportLevel : Nat
  glyphCache : Vector GLYPH_CACHE_DEFINITION 10
  fragCache : GLYPH_CACHE_DEFINITION
  draw_nine_grid : Bool
  draw_nine_grid_cache_size : Nat
  draw_nine_grid_cache_entries : Nat
  draw_gdi_plus : Bool
  draw_gdi_plus_cache : Bool
  desktop_composition : Bool

/-- `settings_new`: the settings that both sides start from. A server then sets `server_mode`. -/
def settings_new : rdpSettings where
  server_mode := false
  share_id := 0
  width := 1024
  height := 768
  rdp_version := 7
  color_depth := 16
  kbd_layout := 0
  kbd_type := 0
  kbd_subtype := 0
  kbd_fn_keys := 0
  refresh_rect := true
  suppress_output := true
  desktop_resize := true
  auto_reconnection := true
  os_major_type := 0
  os_minor_type := 0
  vc_chunk_size := 1600
  sound_beeps := true
  frame_marker := false
  fastpath_input := true
  fastpath_output := true
  received_caps := Vector.replicate 32 false
  order_support := Vector.ofFn fun i =>
    if i.val ∈ [0x00, 0x01, 0x02, 0x03, 0x04, 0x07, 0x08, 0x09, 0x0A, 0x0B, 0x0F, 0x10, 0x11, 0x12,
      0x13, 0x14, 0x15, 0x16, 0x18, 0x19, 0x1A, 0x1B] then 1 else 0
  surface_commands := false
  multifrag_max_request_size := 0x200000
  rfx_codec := false
  ns_codec := false
  rfx_codec_id := 0
  ns_codec_id := 0
  rfx_codec_mode := 0
  frame_acknowledge := false
  jpeg_codec := false
  jpeg_quality := 0
  v3_codec_id := 0
  dump_rfx := false
  remote_app := false
  num_icon_caches := 3
  num_icon_cache_entries := 12
  rail_langbar_supported := false
  large_pointer := true
  color_pointer := true
  pointer_cache_size := 20
  bitmap_cache_v3 := false
  persistent_bitmap_cache := false
  bitmapCacheV2NumCells := 0
  bitmapCacheV2CellInfo := Vector.replicate 5 ⟨0, false⟩
  offscreen_bitmap_cache := true
  offscreen_bitmap_cache_size := 7680
  offscreen_bitmap_cache_entries := 2000
  glyphSupportLevel := 0
  glyphCache := Vector.ofFn fun i =>
    ⟨if i.val = 9 then 64 else 254, [4, 4, 8, 8, 16, 32, 64, 128, 256, 256].getD i.val 0⟩
  fragCache := ⟨256, 256⟩
  draw_nine_grid := false
  draw_nine_grid_cache_size := 2560
  draw_nine_grid_cache_entries := 256
  draw_gdi_plus := false
  draw_gdi_plus_cache := false
  desktop_composition := false

/-! ## Writers

A writer of a set writes its fields one after the other between `rdp_capability_set_start` and
`rdp_capability_set_finish`. It is given by its type and these fields. -/

/-- A byte. -/
def u8 (v : Nat) : List UInt8 := [UInt8.ofNat v]

structure CapabilitySet where
  type : Nat
  fields : List (List UInt8)

def write_capability_set (set : CapabilitySet) : StateM STREAM Unit := do
  let header := stream_get_pos (← get)
  modify (stream_write · (List.replicate CAPSET_HEADER_LENGTH 0))
  set.fields.forM fun field => modify (stream_write · field)
  let footer := stream_get_pos (← get)
  modify (stream_set_pos · header)
  modify (stream_write_uint16 · set.type)
  modify (stream_write_uint16 · (footer - header))
  modify (stream_set_pos · footer)

section Writers

variable (settings : rdpSettings)

/-- A server does not support these two yet. The writer of the general set changes them. -/
def general_settings : rdpSettings :=
  if settings.server_mode then { settings with refresh_rect := false, suppress_output := false }
  else settings

def rdp_write_general_capability_set : CapabilitySet where
  type := CAPSET_TYPE_GENERAL
  fields :=
    let extraFlags := LONG_CREDENTIALS_SUPPORTED ||| NO_BITMAP_COMPRESSION_HDR
    let extraFlags :=
      if settings.auto_reconnection then extraFlags ||| AUTORECONNECT_SUPPORTED else extraFlags
    let extraFlags :=
      if settings.fastpath_output then extraFlags ||| FASTPATH_OUTPUT_SUPPORTED else extraFlags
    let settings := general_settings settings
    [le16 settings.os_major_type, le16 settings.os_minor_type, le16 CAPS_PROTOCOL_VERSION,
      le16 0, le16 0, le16 extraFlags, le16 0, le16 0, le16 0, u8 settings.refresh_rect.toNat,
      u8 settings.suppress_output.toNat]

def rdp_write_bitmap_capability_set : CapabilitySet where
  type := CAPSET_TYPE_BITMAP
  fields :=
    let preferredBitsPerPixel := if settings.rdp_version > 5 then settings.color_depth else 8
    [le16 preferredBitsPerPixel, le16 1, le16 1, le16 1, le16 settings.width,
      le16 settings.height, le16 0, le16 settings.desktop_resize.toNat, le16 1, u8 0, u8 0,
      le16 1, le16 0]

def rdp_write_order_capability_set : CapabilitySet where
  type := CAPSET_TYPE_ORDER
  fields :=
    let orderFlags := NEGOTIATE_ORDER_SUPPORT ||| ZERO_BOUNDS_DELTA_SUPPORT ||| COLOR_INDEX_SUPPORT
    let (orderSupportExFlags, orderFlags) :=
      if settings.bitmap_cache_v3 then
        (CACHE_BITMAP_V3_SUPPORT, orderFlags ||| ORDER_FLAGS_EXTRA_SUPPORT)
      else (0, orderFlags)
    let (orderSupportExFlags, orderFlags) :=
      if settings.frame_marker then
        (orderSupportExFlags ||| ALTSEC_FRAME_MARKER_SUPPORT,
          orderFlags ||| ORDER_FLAGS_EXTRA_SUPPORT)
      else (orderSupportExFlags, orderFlags)
    [List.replicate 16 0, le32 0, le16 1, le16 20, le16 0, le16 1, le16 0, le16 orderFlags,
      settings.order_support.toList, le16 0, le16 orderSupportExFlags, le32 0, le32 230400,
      le16 0, le16 0, le16 0, le16 0]

def rdp_write_bitmap_cache_capability_set : CapabilitySet where
  type := CAPSET_TYPE_BITMAP_CACHE
  fields :=
    let bpp := (settings.color_depth + 7) / 8
    [le32 0, le32 0, le32 0, le32 0, le32 0, le32 0, le16 200, le16 (bpp * 256), le16 600,
      le16 (bpp * 1024), le16 1000, le16 (bpp * 4096)]

def rdp_write_control_capability_set : CapabilitySet where
  type := CAPSET_TYPE_CONTROL
  fields := [le16 0, le16 0, le16 2, le16 2]

def rdp_write_window_activation_capability_set : CapabilitySet where
  type := CAPSET_TYPE_ACTIVATION
  fields := [le16 0, le16 0, le16 0, le16 0]

/-- The last field is only written for large pointers. -/
def rdp_write_pointer_capability_set : CapabilitySet where
  type := CAPSET_TYPE_POINTER
  fields :=
    let colorPointerFlag := if settings.color_pointer then 1 else 0
    [le16 colorPointerFlag, le16 settings.pointer_cache_size] ++
      if settings.large_pointer then [le16 settings.pointer_cache_size] else []

def rdp_write_share_capability_set : CapabilitySet where
  type := CAPSET_TYPE_SHARE
  fields := [le16 (if settings.server_mode then 0x03EA else 0), le16 0]

def rdp_write_color_cache_capability_set : CapabilitySet where
  type := CAPSET_TYPE_COLOR_CACHE
  fields := [le16 6, le16 0]

def rdp_write_sound_capability_set : CapabilitySet where
  type := CAPSET_TYPE_SOUND
  fields := [le16 (if settings.sound_beeps then SOUND_BEEPS_FLAG else 0), le16 0]

def rdp_write_input_capability_set : CapabilitySet where
  type := CAPSET_TYPE_INPUT
  fields :=
    let inputFlags := INPUT_FLAG_SCANCODES ||| INPUT_FLAG_MOUSEX ||| INPUT_FLAG_UNICODE
    let inputFlags :=
      if settings.fastpath_input then
        inputFlags ||| INPUT_FLAG_FASTPATH_INPUT ||| INPUT_FLAG_FASTPATH_INPUT2
      else inputFlags
    [le16 inputFlags, le16 0, le32 settings.kbd_layout, le32 settings.kbd_type,
      le32 settings.kbd_subtype, le32 settings.kbd_fn_keys, List.replicate 64 0]

def rdp_write_font_capability_set : CapabilitySet where
  type := CAPSET_TYPE_FONT
  fields := [le16 FONTSUPPORT_FONTLIST, le16 0]

def rdp_write_brush_capability_set : CapabilitySet where
  type := CAPSET_TYPE_BRUSH
  fields := [le32 BRUSH_COLOR_FULL]

def rdp_write_cache_definition (definition : GLYPH_CACHE_DEFINITION) : List UInt8 :=
  le16 definition.cacheEntries ++ le16 definition.cacheMaximumCellSize

def rdp_write_glyph_cache_capability_set : CapabilitySet where
  type := CAPSET_TYPE_GLYPH_CACHE
  fields := settings.glyphCache.toList.map rdp_write_cache_definition ++
    [rdp_write_cache_definition settings.fragCache, le16 settings.glyphSupportLevel, le16 0]

def rdp_write_offscreen_bitmap_cache_capability_set : CapabilitySet where
  type := CAPSET_TYPE_OFFSCREEN_CACHE
  fields := [le32 settings.offscreen_bitmap_cache.toNat, le16 settings.offscreen_bitmap_cache_size,
    le16 settings.offscreen_bitmap_cache_entries]

def rdp_write_bitmap_cache_host_support_capability_set : CapabilitySet where
  type := CAPSET_TYPE_BITMAP_CACHE_HOST_SUPPORT
  fields := [u8 BITMAP_CACHE_V2, u8 0, le16 0]

def rdp_write_bitmap_cache_cell_info (cellInfo : BITMAP_CACHE_V2_CELL_INFO) : List UInt8 :=
  le32 (cellInfo.numEntries ||| (cellInfo.persistent.toNat <<< 31))

def rdp_write_bitmap_cache_v2_capability_set : CapabilitySet where
  type := CAPSET_TYPE_BITMAP_CACHE_V2
  fields :=
    let cacheFlags := ALLOW_CACHE_WAITING_LIST_FLAG
    let cacheFlags :=
      if settings.persistent_bitmap_cache then cacheFlags ||| PERSISTENT_KEYS_EXPECTED_FLAG
      else cacheFlags
    [le16 cacheFlags, u8 0, u8 settings.bitmapCacheV2NumCells] ++
      settings.bitmapCacheV2CellInfo.toList.map rdp_write_bitmap_cache_cell_info ++
      [List.replicate 12 0]

def rdp_write_virtual_channel_capability_set : CapabilitySet where
  type := CAPSET_TYPE_VIRTUAL_CHANNEL
  fields := [le32 (if settings.server_mode then VCCAPS_COMPR_CS_8K else VCCAPS_NO_COMPR),
    le32 settings.vc_chunk_size]

def rdp_write_remote_programs_capability_set : CapabilitySet where
  type := CAPSET_TYPE_RAIL
  fields := [le32 (if settings.rail_langbar_supported then
    RAIL_LEVEL_SUPPORTED ||| RAIL_LEVEL_DOCKED_LANGBAR_SUPPORTED else RAIL_LEVEL_SUPPORTED)]

def rdp_write_window_list_capability_set : CapabilitySet where
  type := CAPSET_TYPE_WINDOW
  fields := [le32 WINDOW_LEVEL_SUPPORTED_EX, u8 settings.num_icon_caches,
    le16 settings.num_icon_cache_entries]

def rdp_write_desktop_composition_capability_set : CapabilitySet where
  type := CAPSET_TYPE_COMP_DESK
  fields := [le16 (if settings.desktop_composition then COMPDESK_SUPPORTED
    else COMPDESK_NOT_SUPPORTED)]

def rdp_write_multifragment_update_capability_set : CapabilitySet where
  type := CAPSET_TYPE_MULTI_FRAGMENT_UPDATE
  fields := [le32 settings.multifrag_max_request_size]

def rdp_write_large_pointer_capability_set : CapabilitySet where
  type := CAPSET_TYPE_LARGE_POINTER
  fields := [le16 (if settings.large_pointer then LARGE_POINTER_FLAG_96x96 else 0)]

def rdp_write_surface_commands_capability_set : CapabilitySet where
  type := CAPSET_TYPE_SURFACE_COMMANDS
  fields := [le32 (SURFCMDS_FRAME_MARKER ||| SURFCMDS_SET_SURFACE_BITS |||
    SURFCMDS_STREAM_SURFACE_BITS), le32 0]

def rdp_write_rfx_client_capability_container : List (List UInt8) :=
  let captureFlags := if settings.dump_rfx then 0 else CARDP_CAPS_CAPTURE_NON_CAC
  let codecMode := settings.rfx_codec_mode
  let icap := fun entropyBits => [le16 CLW_VERSION_1_0, le16 CT_TILE_64x64, u8 codecMode,
    u8 CLW_COL_CONV_ICT, u8 CLW_XFORM_DWT_53_A, u8 entropyBits]
  [le16 49, le32 49, le32 captureFlags, le32 37, le16 CBY_CAPS, le32 8, le16 1, le16 CBY_CAPSET,
    le32 29, u8 1, le16 CLY_CAPSET, le16 2, le16 8] ++
    icap CLW_ENTROPY_RLGR1 ++ icap CLW_ENTROPY_RLGR3

def rdp_write_nsc_client_capability_container : List (List UInt8) := [le16 3, u8 1, u8 1, u8 3]

def rdp_write_jpeg_client_capability_container : List (List UInt8) :=
  [le16 1, u8 settings.jpeg_quality]

def rdp_write_rfx_server_capability_container : List (List UInt8) := [le16 4, le32 0]

def rdp_write_jpeg_server_capability_container : List (List UInt8) := [le16 1, u8 75]

def rdp_write_nsc_server_capability_container : List (List UInt8) := [le16 4, le32 0]

/-- One codec of the set: its GUID, its id, and what each side has to say about it. A server
writes 0 for the id. -/
def write_codec (guid : List UInt8) (codecID : Nat) (client server : List (List UInt8)) :
    List (List UInt8) :=
  if settings.server_mode then [guid, u8 0] ++ server else [guid, u8 codecID] ++ client

def rdp_write_bitmap_codecs_capability_set : CapabilitySet where
  type := CAPSET_TYPE_BITMAP_CODECS
  fields :=
    let bitmapCodecCount :=
      settings.rfx_codec.toNat + settings.ns_codec.toNat + settings.jpeg_codec.toNat
    [u8 bitmapCodecCount] ++
      (if settings.rfx_codec then
        write_codec settings CODEC_GUID_REMOTEFX CODEC_ID_REMOTEFX
          (rdp_write_rfx_client_capability_container settings)
          rdp_write_rfx_server_capability_container
      else []) ++
      (if settings.ns_codec then
        write_codec settings CODEC_GUID_NSCODEC CODEC_ID_NSCODEC
          rdp_write_nsc_client_capability_container rdp_write_nsc_server_capability_container
      else []) ++
      (if settings.jpeg_codec then
        write_codec settings CODEC_GUID_JPEG CODEC_ID_JPEG
          (rdp_write_jpeg_client_capability_container settings)
          rdp_write_jpeg_server_capability_container
      else [])

def rdp_write_bitmap_cache_v3_codec_id_capability_set : CapabilitySet where
  type := 6
  fields := [u8 settings.v3_codec_id]

def rdp_write_frame_acknowledge_capability_set : CapabilitySet where
  type := CAPSET_TYPE_FRAME_ACKNOWLEDGE
  fields := [le32 2]

/-- The common part of the two PDUs: the descriptor of the source and the sets. The two
numbers in front of them are written last. -/
def write_combined_capabilities (descriptor : List UInt8) (numberCapabilities : Nat)
    (sets : List CapabilitySet) : StateM STREAM Unit := do
  let lm := stream_get_pos (← get)
  modify (stream_seek · 2)
  modify (stream_write · descriptor)
  let bm := stream_get_pos (← get)
  modify (stream_seek · 2)
  modify (stream_write_uint16 · 0)
  sets.forM write_capability_set
  let em := stream_get_pos (← get)
  modify (stream_set_pos · lm)
  modify (stream_write_uint16 · (em - bm))
  modify (stream_set_pos · bm)
  modify (stream_write_uint16 · numberCapabilities)
  modify (stream_set_pos · em)

def demand_active_sets : List CapabilitySet :=
  [rdp_write_general_capability_set settings,
    rdp_write_bitmap_capability_set settings,
    rdp_write_order_capability_set settings,
    rdp_write_pointer_capability_set settings,
    rdp_write_input_capability_set settings,
    rdp_write_virtual_channel_capability_set settings,
    rdp_write_bitmap_cache_host_support_capability_set,
    rdp_write_share_capability_set settings,
    rdp_write_font_capability_set,
    rdp_write_multifragment_update_capability_set settings,
    rdp_write_large_pointer_capability_set settings,
    rdp_write_desktop_composition_capability_set settings,
    rdp_write_surface_commands_capability_set,
    rdp_write_bitmap_codecs_capability_set settings]

def rdp_write_demand_active : StateM STREAM rdpSettings := do
  modify (stream_write_uint32 · settings.share_id)
  modify (stream_write_uint16 · 4)
  write_combined_capabilities [0x52, 0x44, 0x50, 0] 14 (demand_active_sets settings)
  modify (stream_write_uint32 · 0)
  return general_settings settings

def optional_sets (condition : Bool) (sets : List CapabilitySet)
    (written : Nat × List CapabilitySet) : Nat × List CapabilitySet :=
  if condition then (written.1 + sets.length, written.2 ++ sets) else written

def confirm_active_sets : Nat × List CapabilitySet :=
  let written := (15,
    [rdp_write_general_capability_set settings,
      rdp_write_bitmap_capability_set settings,
      rdp_write_order_capability_set settings,
      if settings.rdp_version ≥ 5 then rdp_write_bitmap_cache_v2_capability_set settings
      else rdp_write_bitmap_cache_capability_set settings,
      rdp_write_pointer_capability_set settings,
      rdp_write_input_capability_set settings,
      rdp_write_brush_capability_set,
      rdp_write_glyph_cache_capability_set settings,
      rdp_write_virtual_channel_capability_set settings,
      rdp_write_sound_capability_set settings,
      rdp_write_share_capability_set settings,
      rdp_write_font_capability_set,
      rdp_write_control_capability_set,
      rdp_write_color_cache_capability_set,
      rdp_write_window_activation_capability_set])
  let received := fun type : Fin 32 => settings.received_caps.get type
  let written := optional_sets settings.offscreen_bitmap_cache
    [rdp_write_offscreen_bitmap_cache_capability_set settings] written
  let written := optional_sets (received 0x1B && settings.large_pointer)
    [rdp_write_large_pointer_capability_set settings] written
  let written := optional_sets settings.remote_app
    [rdp_write_remote_programs_capability_set settings,
      rdp_write_window_list_capability_set settings] written
  let written := optional_sets (received 0x1A)
    [rdp_write_multifragment_update_capability_set settings] written
  let written := optional_sets (received 0x1C) [rdp_write_surface_commands_capability_set] written
  let written := optional_sets (received 0x1D)
    [rdp_write_bitmap_codecs_capability_set settings] written
  let written := optional_sets (received 0x1E && settings.frame_acknowledge)
    [rdp_write_frame_acknowledge_capability_set] written
  optional_sets (received 6 && settings.v3_codec_id != 0)
    [rdp_write_bitmap_cache_v3_codec_id_capability_set settings] written

def rdp_write_confirm_active : StateM STREAM rdpSettings := do
  let (numberCapabilities, sets) := confirm_active_sets settings
  modify (stream_write_uint32 · settings.share_id)
  modify (stream_write_uint16 · 0x03EA)
  modify (stream_write_uint16 · SOURCE_DESCRIPTOR.length)
  write_combined_capabilities SOURCE_DESCRIPTOR numberCapabilities sets
  return general_settings settings

end Writers

/-! ## Readers -/

section Readers

variable (length : Nat) (settings : rdpSettings)

def skip_capability_set (widths : List Nat) : StateM STREAM rdpSettings := do
  widths.forM stream_skip
  return settings

def read_os_types : StateM STREAM rdpSettings :=
  if settings.server_mode then do
    let os_major_type ← stream_read_uint16
    let os_minor_type ← stream_read_uint16
    return { settings with os_major_type, os_minor_type }
  else do
    stream_skip 2
    stream_skip 2
    return settings

def rdp_read_general_capability_set : StateM STREAM rdpSettings := do
  let settings ← read_os_types settings
  stream_skip 2
  stream_skip 2
  stream_skip 2
  let extraFlags ← stream_read_uint16
  stream_skip 2
  stream_skip 2
  stream_skip 2
  let refreshRectSupport ← stream_read_uint8
  let suppressOutputSupport ← stream_read_uint8
  return { settings with
    fastpath_output :=
      if extraFlags &&& FASTPATH_OUTPUT_SUPPORTED = 0 then false else settings.fastpath_output
    refresh_rect := if refreshRectSupport = 0 then false else settings.refresh_rect
    suppress_output := if suppressOutputSupport = 0 then false else settings.suppress_output }

def rdp_read_bitmap_capability_set : StateM STREAM rdpSettings := do
  let preferredBitsPerPixel ← stream_read_uint16
  stream_skip 2
  stream_skip 2
  stream_skip 2
  let desktopWidth ← stream_read_uint16
  let desktopHeight ← stream_read_uint16
  stream_skip 2
  let desktopResizeFlag ← stream_read_uint16
  stream_skip 2
  stream_skip 1
  let _drawingFlags ← stream_read_uint8
  stream_skip 2
  stream_skip 2
  let settings :=
    if settings.server_mode then settings
    else { settings with color_depth := preferredBitsPerPixel }
  let settings :=
    if desktopResizeFlag = 0 then { settings with desktop_resize := false } else settings
  return if settings.server_mode = false ∧ settings.desktop_resize then
    { settings with width := desktopWidth, height := desktopHeight } else settings

/-- An order that the other side does not support is switched off. -/
def common_orders (own : Vector UInt8 32) (orderSupport : List UInt8) : Vector UInt8 32 :=
  Vector.ofFn fun i => if orderSupport.getD i 0 = 0 then 0 else own.get i

def rdp_read_order_capability_set : StateM STREAM rdpSettings := do
  stream_skip 16
  stream_skip 4
  stream_skip 2
  stream_skip 2
  stream_skip 2
  stream_skip 2
  stream_skip 2
  let _orderFlags ← stream_read_uint16
  let orderSupport ← stream_read 32
  stream_skip 2
  let _orderSupportExFlags ← stream_read_uint16
  stream_skip 4
  stream_skip 4
  stream_skip 2
  stream_skip 2
  stream_skip 2
  stream_skip 2
  return { settings with order_support := common_orders settings.order_support orderSupport }

def rdp_read_bitmap_cache_capability_set : StateM STREAM rdpSettings :=
  skip_capability_set settings [4, 4, 4, 4, 4, 4, 2, 2, 2, 2, 2, 2]

def rdp_read_control_capability_set : StateM STREAM rdpSettings :=
  skip_capability_set settings [2, 2, 2, 2]

def rdp_read_window_activation_capability_set : StateM STREAM rdpSettings :=
  skip_capability_set settings [2, 2, 2, 2]

def rdp_read_pointer_capability_set : StateM STREAM rdpSettings := do
  let colorPointerFlag ← stream_read_uint16
  let _colorPointerCacheSize ← stream_read_uint16
  let pointerCacheSize ← stream_read_uint16
  return { settings with
    color_pointer := if colorPointerFlag = 0 then false else settings.color_pointer
    pointer_cache_size :=
      if settings.server_mode then pointerCacheSize else settings.pointer_cache_size }

def rdp_read_share_capability_set : StateM STREAM rdpSettings :=
  skip_capability_set settings [2, 2]

def rdp_read_color_cache_capability_set : StateM STREAM rdpSettings :=
  skip_capability_set settings [2, 2]

def rdp_read_sound_capability_set : StateM STREAM rdpSettings := do
  let soundFlags ← stream_read_uint16
  stream_skip 2
  return { settings with sound_beeps := soundFlags &&& SOUND_BEEPS_FLAG ≠ 0 }

def read_keyboard : StateM STREAM rdpSettings :=
  if settings.server_mode then do
    let kbd_layout ← stream_read_uint32
    let kbd_type ← stream_read_uint32
    let kbd_subtype ← stream_read_uint32
    let kbd_fn_keys ← stream_read_uint32
    return { settings with kbd_layout, kbd_type, kbd_subtype, kbd_fn_keys }
  else do
    stream_skip 4
    stream_skip 4
    stream_skip 4
    stream_skip 4
    return settings

def rdp_read_input_capability_set : StateM STREAM rdpSettings := do
  let inputFlags ← stream_read_uint16
  stream_skip 2
  let settings ← read_keyboard settings
  stream_skip 64
  return if settings.server_mode = false ∧ inputFlags &&& INPUT_FLAG_FASTPATH_INPUT = 0 ∧
      inputFlags &&& INPUT_FLAG_FASTPATH_INPUT2 = 0 then
    { settings with fastpath_input := false } else settings

def rdp_read_font_capability_set : StateM STREAM rdpSettings := do
  if length > 4 then stream_skip 2 else pure ()
  if length > 6 then stream_skip 2 else pure ()
  return settings

def rdp_read_brush_capability_set : StateM STREAM rdpSettings := skip_capability_set settings [4]

def rdp_read_glyph_cache_capability_set : StateM STREAM rdpSettings := do
  stream_skip 40
  stream_skip 4
  let glyphSupportLevel ← stream_read_uint16
  stream_skip 2
  return { settings with glyphSupportLevel }

def rdp_read_offscreen_bitmap_cache_capability_set : StateM STREAM rdpSettings := do
  let offscreenSupportLevel ← stream_read_uint32
  let offscreen_bitmap_cache_size ← stream_read_uint16
  let offscreen_bitmap_cache_entries ← stream_read_uint16
  return { settings with
    offscreen_bitmap_cache_size, offscreen_bitmap_cache_entries
    offscreen_bitmap_cache :=
      if offscreenSupportLevel &&& 1 ≠ 0 then true else settings.offscreen_bitmap_cache }

def rdp_read_bitmap_cache_host_support_capability_set : StateM STREAM rdpSettings := do
  let cacheVersion ← stream_read_uint8
  stream_skip 1
  stream_skip 2
  return { settings with
    persistent_bitmap_cache :=
      if cacheVersion.toNat &&& BITMAP_CACHE_V2 ≠ 0 then true
      else settings.persistent_bitmap_cache }

def rdp_read_bitmap_cache_v2_capability_set : StateM STREAM rdpSettings :=
  skip_capability_set settings [2, 1, 1, 4, 4, 4, 4, 4, 12]

def rdp_read_virtual_channel_capability_set : StateM STREAM rdpSettings := do
  let _flags ← stream_read_uint32
  let VCChunkSize ← if length > 8 then stream_read_uint32 else pure 1600
  return if settings.server_mode then settings else { settings with vc_chunk_size := VCChunkSize }

def rdp_read_draw_nine_grid_cache_capability_set : StateM STREAM rdpSettings := do
  let drawNineGridSupportLevel ← stream_read_uint32
  let draw_nine_grid_cache_size ← stream_read_uint16
  let draw_nine_grid_cache_entries ← stream_read_uint16
  return { settings with
    draw_nine_grid_cache_size, draw_nine_grid_cache_entries
    draw_nine_grid :=
      if drawNineGridSupportLevel &&& DRAW_NINEGRID_SUPPORTED ≠ 0 ∨
        drawNineGridSupportLevel &&& DRAW_NINEGRID_SUPPORTED_V2 ≠ 0 then true
      else settings.draw_nine_grid }

def rdp_read_draw_gdiplus_cache_capability_set : StateM STREAM rdpSettings := do
  let drawGDIPlusSupportLevel ← stream_read_uint32
  stream_skip 4
  let drawGdiplusCacheLevel ← stream_read_uint32
  stream_skip 10
  stream_skip 8
  stream_skip 6
  return { settings with
    draw_gdi_plus := if drawGDIPlusSupportLevel &&& DRAW_GDIPLUS_SUPPORTED ≠ 0 then true
      else settings.draw_gdi_plus
    draw_gdi_plus_cache := if drawGdiplusCacheLevel &&& DRAW_GDIPLUS_CACHE_LEVEL_ONE ≠ 0 then true
      else settings.draw_gdi_plus_cache }

def rdp_read_remote_programs_capability_set : StateM STREAM rdpSettings := do
  let railSupportLevel ← stream_read_uint32
  return { settings with
    remote_app := if railSupportLevel &&& RAIL_LEVEL_SUPPORTED = 0 then false
      else settings.remote_app }

def rdp_read_window_list_capability_set : StateM STREAM rdpSettings :=
  skip_capability_set settings [4, 1, 2]

def rdp_read_desktop_composition_capability_set : StateM STREAM rdpSettings :=
  skip_capability_set settings [2]

def rdp_read_multifragment_update_capability_set : StateM STREAM rdpSettings := do
  let multifrag_max_request_size ← stream_read_uint32
  return { settings with multifrag_max_request_size }

def rdp_read_large_pointer_capability_set : StateM STREAM rdpSettings :=
  skip_capability_set settings [2]

def rdp_read_surface_commands_capability_set : StateM STREAM rdpSettings := do
  stream_skip 4
  stream_skip 4
  return { settings with surface_commands := true }

/-- `strncmp` finds no difference. It stops at a zero. -/
def strncmp_eq : List UInt8 → List UInt8 → Bool
  | a :: as, b :: bs => if a ≠ b then false else if a = 0 then true else strncmp_eq as bs
  | _, _ => true

def stream_peek (n : Nat) : StateM STREAM (List UInt8) := fun s => (bytes_at s s.pos n, s)

def read_codec_id (guid : List UInt8) (settings : rdpSettings) : StateM STREAM rdpSettings := do
  let id ← stream_read_uint8
  return if settings.server_mode && strncmp_eq guid CODEC_GUID_REMOTEFX then
      { settings with rfx_codec_id := id.toNat, rfx_codec := true }
    else if settings.server_mode && strncmp_eq guid CODEC_GUID_NSCODEC then
      { settings with ns_codec_id := id.toNat, ns_codec := true }
    else settings

def read_bitmap_codec : StateM STREAM rdpSettings := do
  let tail ← stream_peek 16
  stream_skip 16
  let settings ← read_codec_id tail settings
  let codecPropertiesLength ← stream_read_uint16
  stream_skip codecPropertiesLength
  return settings

def read_bitmap_codecs : Nat → rdpSettings → StateM STREAM rdpSettings
  | 0, settings => pure settings
  | bitmapCodecCount + 1, settings => do
    let settings ← read_bitmap_codec settings
    read_bitmap_codecs bitmapCodecCount settings

def rdp_read_bitmap_codecs_capability_set : StateM STREAM rdpSettings := do
  let bitmapCodecCount ← stream_read_uint8
  let settings :=
    if settings.server_mode then { settings with rfx_codec := false, ns_codec := false }
    else settings
  read_bitmap_codecs bitmapCodecCount.toNat settings

def rdp_read_frame_acknowledge_capability_set : StateM STREAM rdpSettings :=
  skip_capability_set settings [4]

def rdp_read_bitmap_cache_v3_codec_id_capability_set : StateM STREAM rdpSettings :=
  skip_capability_set settings [1]

/-- The cases of `rdp_read_capability_sets`. A set of an unknown type is left alone. -/
def read_capability_set (type : Nat) : StateM STREAM rdpSettings :=
  match type with
  | 0x0001 => rdp_read_general_capability_set settings
  | 0x0002 => rdp_read_bitmap_capability_set settings
  | 0x0003 => rdp_read_order_capability_set settings
  | 0x0004 => rdp_read_bitmap_cache_capability_set settings
  | 0x0005 => rdp_read_control_capability_set settings
  | 0x0006 => rdp_read_bitmap_cache_v3_codec_id_capability_set settings
  | 0x0007 => rdp_read_window_activation_capability_set settings
  | 0x0008 => rdp_read_pointer_capability_set settings
  | 0x0009 => rdp_read_share_capability_set settings
  | 0x000A => rdp_read_color_cache_capability_set settings
  | 0x000C => rdp_read_sound_capability_set settings
  | 0x000D => rdp_read_input_capability_set settings
  | 0x000E => rdp_read_font_capability_set length settings
  | 0x000F => rdp_read_brush_capability_set settings
  | 0x0010 => rdp_read_glyph_cache_capability_set settings
  | 0x0011 => rdp_read_offscreen_bitmap_cache_capability_set settings
  | 0x0012 => rdp_read_bitmap_cache_host_support_capability_set settings
  | 0x0013 => rdp_read_bitmap_cache_v2_capability_set settings
  | 0x0014 => rdp_read_virtual_channel_capability_set length settings
  | 0x0015 => rdp_read_draw_nine_grid_cache_capability_set settings
  | 0x0016 => rdp_read_draw_gdiplus_cache_capability_set settings
  | 0x0017 => rdp_read_remote_programs_capability_set settings
  | 0x0018 => rdp_read_window_list_capability_set settings
  | 0x0019 => rdp_read_desktop_composition_capability_set settings
  | 0x001A => rdp_read_multifragment_update_capability_set settings
  | 0x001B => rdp_read_large_pointer_capability_set settings
  | 0x001C => rdp_read_surface_commands_capability_set settings
  | 0x001D => rdp_read_bitmap_codecs_capability_set settings
  | 0x001E => rdp_read_frame_acknowledge_capability_set settings
  | _ => pure settings

end Readers

def rdp_read_capability_set_header : StateM STREAM (Nat × Nat) := do
  let type ← stream_read_uint16
  let length ← stream_read_uint16
  return (length, type)

/-- `none` is a write behind the end of `received_caps`. After each set the stream goes on at
the end that the header tells, wherever the reader of the set has stopped. -/
def rdp_read_capability_sets :
    Nat → rdpSettings → STREAM → Option (Bool × rdpSettings × STREAM)
  | 0, settings, s => some (true, settings, s)
  | numberCapabilities + 1, settings, s =>
    let bm := stream_get_pos s
    let ((length, type), s) := rdp_read_capability_set_header s
    if h : type < 32 then
      let settings := { settings with received_caps := settings.received_caps.set type true h }
      if stream_get_left s < (length : Int) - 4 then some (false, settings, s)
      else
        let (settings, s) := read_capability_set length settings type s
        rdp_read_capability_sets numberCapabilities settings (stream_set_pos s (bm + length))
    else none

def read_combined_capabilities (settings : rdpSettings) (s : STREAM) :
    Option (Bool × rdpSettings × STREAM) :=
  let (lengthSourceDescriptor, s) := stream_read_uint16 s
  let (_lengthCombinedCapabilities, s) := stream_read_uint16 s
  let s := stream_seek s lengthSourceDescriptor
  let (numberCapabilities, s) := stream_read_uint16 s
  let s := stream_seek s 2
  rdp_read_capability_sets numberCapabilities settings s

/-- `rdp_recv_demand_active` behind the headers of the packet. -/
def read_demand_active (settings : rdpSettings) (s : STREAM) :
    Option (Bool × rdpSettings × STREAM) :=
  let (share_id, s) := stream_read_uint32 s
  read_combined_capabilities { settings with share_id } s

/-- `rdp_recv_confirm_active` behind the headers of the packet. -/
def read_confirm_active (settings : rdpSettings) (s : STREAM) :
    Option (Bool × rdpSettings × STREAM) :=
  let s := stream_seek s 4
  let s := stream_seek s 2
  read_combined_capabilities settings s

end neutrinordp.capabilities
