-- The data blocks that a client sends in the conference create request (gcc.c): the core, the
-- cluster, the security, the channels and the monitors. Each block has a header with its type
-- and its length, and the server reads blocks until the bytes are used up.
import CorporateClient.StreamCodec
import CorporateClient.Unicode
import Mathlib.Data.Vector.Basic

namespace neutrinordp.gcc

open stream unicode

def CS_CORE : Nat := 0xC001
def CS_SECURITY : Nat := 0xC002
def CS_NET : Nat := 0xC003
def CS_CLUSTER : Nat := 0xC004
def CS_MONITOR : Nat := 0xC005

def RDP_VERSION_4 : Nat := 0x00080001
def RDP_VERSION_5_PLUS : Nat := 0x00080004

def RNS_UD_COLOR_4BPP : Nat := 0xCA00
def RNS_UD_COLOR_8BPP : Nat := 0xCA01
def RNS_UD_COLOR_16BPP_555 : Nat := 0xCA02
def RNS_UD_COLOR_16BPP_565 : Nat := 0xCA03
def RNS_UD_COLOR_24BPP : Nat := 0xCA04

def RNS_UD_SAS_DEL : Nat := 0xAA03

def RNS_UD_24BPP_SUPPORT : Nat := 0x0001
def RNS_UD_16BPP_SUPPORT : Nat := 0x0002
def RNS_UD_15BPP_SUPPORT : Nat := 0x0004
def RNS_UD_32BPP_SUPPORT : Nat := 0x0008

def RNS_UD_CS_SUPPORT_ERRINFO_PDU : Nat := 0x0001
def RNS_UD_CS_WANT_32BPP_SESSION : Nat := 0x0002
def RNS_UD_CS_VALID_CONNECTION_TYPE : Nat := 0x0020

def REDIRECTION_SUPPORTED : Nat := 0x00000001
def REDIRECTED_SESSIONID_FIELD_VALID : Nat := 0x00000002
def REDIRECTION_VERSION4 : Nat := 0x03

def CONNECTION_TYPE_LAN : UInt8 := 0x06
def MONITOR_PRIMARY : Nat := 1
def MCS_GLOBAL_CHANNEL_ID : Nat := 1003

/-! ## Settings -/

structure rdpChannel where
  name : Vector UInt8 8
  options : UInt32
  channel_id : Nat
deriving Repr, DecidableEq

structure rdp_monitor where
  x : Int32
  y : Int32
  width : Int32
  height : Int32
  is_primary : Bool
deriving DecidableEq

/-- The entries in use of an array with 16 places. -/
abbrev Places (α : Type) := { entries : List α // entries.length ≤ 16 }

/-- The settings that the blocks are about. -/
structure rdpSettings where
  width : UInt32
  height : UInt32
  rdp_version : UInt32
  color_depth : UInt32
  kbd_layout : UInt32
  kbd_type : UInt32
  kbd_subtype : UInt32
  kbd_fn_keys : UInt32
  client_build : UInt32
  selected_protocol : UInt32
  encryption_method : UInt32
  negotiationFlags : UInt32
  performance_flags : UInt32
  encryption : Bool
  console_session : Bool
  redirected_session_id : UInt32
  connection_type : UInt32
  client_hostname : List UInt8
  client_product_id : List UInt8
  rfx_codec : Bool
  channels : Places rdpChannel
  monitors : Places rdp_monitor
deriving DecidableEq

/-! ## The header -/

def gcc_read_user_data_header : StateM STREAM (Bool × Nat × Nat) := do
  let type ← stream_read_uint16
  let length ← stream_read_uint16
  let s ← get
  return (!(length < 4 || stream_get_left s < length - 4), type, length)

def gcc_write_user_data_header (type length : Nat) : Fallible PUnit := do
  modify (stream_write_uint16 · type)
  modify (stream_write_uint16 · length)

/-! ## The core block -/

/-- What the fields behind the file name of the input method say. A field that is not there is
zero. -/
structure CoreOptions where
  postBeta2ColorDepth : Nat
  highColorDepth : Nat
  settings : rdpSettings

/-- The optional fields. The reader stops at the first one that is not there. -/
def read_core_options (settings : rdpSettings) (blockLength : Nat) : Fallible CoreOptions := do
  if blockLength < 2 then return ⟨0, 0, settings⟩
  let postBeta2ColorDepth ← stream_read_uint16
  let blockLength := blockLength - 2
  if blockLength < 2 then return ⟨postBeta2ColorDepth, 0, settings⟩
  stream_skip 2
  let blockLength := blockLength - 2
  if blockLength < 4 then return ⟨postBeta2ColorDepth, 0, settings⟩
  stream_skip 4
  let blockLength := blockLength - 4
  if blockLength < 2 then return ⟨postBeta2ColorDepth, 0, settings⟩
  let highColorDepth ← stream_read_uint16
  let blockLength := blockLength - 2
  if blockLength < 2 then return ⟨postBeta2ColorDepth, highColorDepth, settings⟩
  let _supportedColorDepths ← stream_read_uint16
  let blockLength := blockLength - 2
  if blockLength < 2 then return ⟨postBeta2ColorDepth, highColorDepth, settings⟩
  let _earlyCapabilityFlags ← stream_read_uint16
  let blockLength := blockLength - 2
  if blockLength < 64 then return ⟨postBeta2ColorDepth, highColorDepth, settings⟩
  let str ← stream_read 64
  let settings := { settings with client_product_id := (cstr (uniconv_in str)).take 31 }
  let blockLength := blockLength - 64
  if blockLength < 1 then return ⟨postBeta2ColorDepth, highColorDepth, settings⟩
  let connectionType ← stream_read_uint8
  let settings := { settings with performance_flags := connectionType.toUInt32 }
  let blockLength := blockLength - 1
  if blockLength < 1 then return ⟨postBeta2ColorDepth, highColorDepth, settings⟩
  stream_skip 1
  let blockLength := blockLength - 1
  if blockLength < 4 then return ⟨postBeta2ColorDepth, highColorDepth, settings⟩
  let serverSelectedProtocol ← stream_read_uint32
  refuse (settings.selected_protocol.toNat ≠ serverSelectedProtocol)
  return ⟨postBeta2ColorDepth, highColorDepth, settings⟩

def core_color_depth (colorDepth postBeta2ColorDepth highColorDepth : Nat) : Option UInt32 :=
  if highColorDepth > 0 then some (.ofNat highColorDepth)
  else if postBeta2ColorDepth > 0 then
    if postBeta2ColorDepth = RNS_UD_COLOR_4BPP then some 4
    else if postBeta2ColorDepth = RNS_UD_COLOR_8BPP then some 8
    else if postBeta2ColorDepth = RNS_UD_COLOR_16BPP_555 then some 15
    else if postBeta2ColorDepth = RNS_UD_COLOR_16BPP_565 then some 16
    else if postBeta2ColorDepth = RNS_UD_COLOR_24BPP then some 24
    else none
  else if colorDepth = RNS_UD_COLOR_4BPP then some 4
  else if colorDepth = RNS_UD_COLOR_8BPP then some 8
  else none

/-- `snprintf` leaves room for a zero in the 32 bytes of a name. -/
def gcc_read_client_core_data (settings : rdpSettings) (blockLength : Nat) :
    Fallible rdpSettings := do
  refuse (blockLength < 128)
  let version ← stream_read_uint32
  let width ← stream_read_uint16
  let height ← stream_read_uint16
  let colorDepth ← stream_read_uint16
  stream_skip 2
  let kbd_layout ← stream_read_uint32
  let client_build ← stream_read_uint32
  let str ← stream_read 32
  let kbd_type ← stream_read_uint32
  let kbd_subtype ← stream_read_uint32
  let kbd_fn_keys ← stream_read_uint32
  stream_skip 64
  let options ← read_core_options { settings with
    rdp_version := if version = RDP_VERSION_4 then 4 else 7
    width := .ofNat width
    height := .ofNat height
    kbd_layout := .ofNat kbd_layout
    client_build := .ofNat client_build
    client_hostname := (cstr (uniconv_in str)).take 31
    kbd_type := .ofNat kbd_type
    kbd_subtype := .ofNat kbd_subtype
    kbd_fn_keys := .ofNat kbd_fn_keys } (blockLength - 128)
  let color_depth ← core_color_depth colorDepth options.postBeta2ColorDepth options.highColorDepth
  return { options.settings with color_depth }

/-- A name in a field of `size` bytes. The name is cut so that its final zero fits. -/
def write_name (name : List UInt8) (size : Nat) : Fallible PUnit := do
  let length := if name.length > size - 2 then size - 2 else name.length
  modify (stream_write · (name.take length ++ [0, 0]))
  modify (stream_write · (List.replicate (size - length - 2) 0))

def core_connection_type (settings : rdpSettings) : UInt8 :=
  if settings.rfx_codec then CONNECTION_TYPE_LAN else settings.connection_type.toUInt8

def core_supported_depths (settings : rdpSettings) : Nat :=
  let supportedColorDepths := RNS_UD_24BPP_SUPPORT ||| RNS_UD_16BPP_SUPPORT ||| RNS_UD_15BPP_SUPPORT
  if settings.color_depth = 32 then supportedColorDepths ||| RNS_UD_32BPP_SUPPORT
  else supportedColorDepths

def core_capability_flags (settings : rdpSettings) : Nat :=
  let earlyCapabilityFlags := RNS_UD_CS_SUPPORT_ERRINFO_PDU
  let earlyCapabilityFlags := if core_connection_type settings ≠ 0
    then earlyCapabilityFlags ||| RNS_UD_CS_VALID_CONNECTION_TYPE else earlyCapabilityFlags
  if settings.color_depth = 32 then earlyCapabilityFlags ||| RNS_UD_CS_WANT_32BPP_SESSION
  else earlyCapabilityFlags

def gcc_write_client_core_data (settings : rdpSettings) : Fallible PUnit := do
  gcc_write_user_data_header CS_CORE 216
  let version := if settings.rdp_version ≥ 5 then RDP_VERSION_5_PLUS else RDP_VERSION_4
  let clientName ← freerdp_uniconv_out (some settings.client_hostname)
  let clientDigProductId ← freerdp_uniconv_out (some settings.client_product_id)
  modify (stream_write_uint32 · version)
  modify (stream_write_uint16 · settings.width.toNat)
  modify (stream_write_uint16 · settings.height.toNat)
  modify (stream_write_uint16 · RNS_UD_COLOR_8BPP)
  modify (stream_write_uint16 · RNS_UD_SAS_DEL)
  modify (stream_write_uint32 · settings.kbd_layout.toNat)
  modify (stream_write_uint32 · settings.client_build.toNat)
  write_name clientName 32
  modify (stream_write_uint32 · settings.kbd_type.toNat)
  modify (stream_write_uint32 · settings.kbd_subtype.toNat)
  modify (stream_write_uint32 · settings.kbd_fn_keys.toNat)
  modify (stream_write · (List.replicate 64 0))
  modify (stream_write_uint16 · RNS_UD_COLOR_8BPP)
  modify (stream_write_uint16 · 1)
  modify (stream_write_uint32 · 0)
  modify (stream_write_uint16 · (min settings.color_depth.toNat 24))
  modify (stream_write_uint16 · (core_supported_depths settings))
  modify (stream_write_uint16 · (core_capability_flags settings))
  write_name clientDigProductId 64
  modify (stream_write_uint8 · (core_connection_type settings).toNat)
  modify (stream_write_uint8 · 0)
  modify (stream_write_uint32 · settings.selected_protocol.toNat)

/-! ## The other blocks -/

def gcc_read_client_security_data (settings : rdpSettings) (blockLength : Nat) :
    Fallible rdpSettings := do
  refuse (blockLength < 8)
  if settings.encryption then
    let encryption_method ← stream_read_uint32
    if encryption_method = 0 then
      let extEncryptionMethods ← stream_read_uint32
      return { settings with encryption_method := .ofNat extEncryptionMethods }
    return { settings with encryption_method := .ofNat encryption_method }
  else
    stream_skip 8
    return settings

def gcc_write_client_security_data (settings : rdpSettings) : Fallible PUnit := do
  gcc_write_user_data_header CS_SECURITY 12
  if settings.encryption then
    modify (stream_write_uint32 · settings.encryption_method.toNat)
    modify (stream_write_uint32 · 0)
  else
    modify (stream_write_uint32 · 0)
    modify (stream_write_uint32 · settings.encryption_method.toNat)

/-- `stream_read` into an array. -/
def stream_read_array (n : Nat) : StateM STREAM (Vector UInt8 n) := fun s =>
  (Vector.ofFn fun i => byte_at s (s.pos + i), stream_seek s n)

/-- The loop over the channels from number `i` on. -/
def read_channel_defs : (n i : Nat) → StateM STREAM (List.Vector rdpChannel n)
  | 0, _ => return .nil
  | n + 1, i => do
    let name ← stream_read_array 8
    let options ← stream_read_uint32
    let channels ← read_channel_defs n (i + 1)
    return .cons ⟨name, .ofNat options, MCS_GLOBAL_CHANNEL_ID + 1 + i⟩ channels

def gcc_read_client_network_data (settings : rdpSettings) (blockLength : Nat) :
    Fallible rdpSettings := do
  refuse (blockLength < 4)
  let num_channels ← stream_read_uint32
  refuse (blockLength < 4 + num_channels * 12)
  if hmany : num_channels > 16 then failure
  else
    let channels ← read_channel_defs num_channels 0
    return { settings with
      channels := ⟨channels.toList, by rw [channels.toList_length]; exact Nat.le_of_not_gt hmany⟩ }

def write_channel_defs : List rdpChannel → Fallible PUnit
  | [] => return ⟨⟩
  | channel :: channels => do
    modify (stream_write · channel.name.toList)
    modify (stream_write_uint32 · channel.options.toNat)
    write_channel_defs channels

def gcc_write_client_network_data (settings : rdpSettings) : Fallible PUnit := do
  let num_channels := settings.channels.val.length
  if num_channels > 0 then
    gcc_write_user_data_header CS_NET (num_channels * 12 + 8)
    modify (stream_write_uint32 · num_channels)
    write_channel_defs settings.channels.val

/-- The test of the flags has an `or`, so the number is always read. -/
def gcc_read_client_cluster_data (settings : rdpSettings) (blockLength : Nat) :
    Fallible rdpSettings := do
  refuse (blockLength < 8)
  let flags ← stream_read_uint32
  if flags ||| REDIRECTED_SESSIONID_FIELD_VALID ≠ 0 then
    let redirected_session_id ← stream_read_uint32
    return { settings with redirected_session_id := .ofNat redirected_session_id }
  return settings

def gcc_write_client_cluster_data (settings : rdpSettings) : Fallible PUnit := do
  gcc_write_user_data_header CS_CLUSTER 12
  let flags := REDIRECTION_SUPPORTED ||| (REDIRECTION_VERSION4 <<< 2)
  let flags := if settings.console_session ∨ settings.redirected_session_id ≠ 0
    then flags ||| REDIRECTED_SESSIONID_FIELD_VALID else flags
  modify (stream_write_uint32 · flags)
  modify (stream_write_uint32 · settings.redirected_session_id.toNat)

/-- The server does not look at the monitors. -/
def gcc_read_client_monitor_data (settings : rdpSettings) (_blockLength : Nat) :
    Fallible rdpSettings := return settings

def write_monitor_defs : List rdp_monitor → Fallible PUnit
  | [] => return ⟨⟩
  | monitor :: monitors => do
    modify (stream_write_uint32 · monitor.x.toUInt32.toNat)
    modify (stream_write_uint32 · monitor.y.toUInt32.toNat)
    modify (stream_write_uint32 · (monitor.x + monitor.width - 1).toUInt32.toNat)
    modify (stream_write_uint32 · (monitor.y + monitor.height - 1).toUInt32.toNat)
    modify (stream_write_uint32 · (if monitor.is_primary then MONITOR_PRIMARY else 0))
    write_monitor_defs monitors

def gcc_write_client_monitor_data (settings : rdpSettings) : Fallible PUnit := do
  let num_monitors := settings.monitors.val.length
  if num_monitors > 1 then
    gcc_write_user_data_header CS_MONITOR (20 * num_monitors + 12)
    modify (stream_write_uint32 · 0)
    modify (stream_write_uint32 · num_monitors)
    write_monitor_defs settings.monitors.val

/-! ## All blocks -/

def gcc_read_client_block (settings : rdpSettings) (type blockLength : Nat) :
    Fallible rdpSettings :=
  if type = CS_CORE then gcc_read_client_core_data settings blockLength
  else if type = CS_SECURITY then gcc_read_client_security_data settings blockLength
  else if type = CS_NET then gcc_read_client_network_data settings blockLength
  else if type = CS_CLUSTER then gcc_read_client_cluster_data settings blockLength
  else if type = CS_MONITOR then gcc_read_client_monitor_data settings blockLength
  else return settings

/-- The loop over the blocks, for a number of turns. The check of the header has no effect
here. -/
def gcc_read_client_data_blocks : Nat → rdpSettings → Int → Fallible rdpSettings
  | 0, _, _ => failure
  | turns + 1, settings, length =>
    if length > 0 then do
      let pos := stream_get_pos (← get)
      let (_, type, blockLength) ← gcc_read_user_data_header
      let settings ← gcc_read_client_block settings type ((blockLength + 65532) % 65536)
      modify (stream_set_pos · (pos + blockLength))
      gcc_read_client_data_blocks turns settings (length - blockLength)
    else return settings

def gcc_write_client_data_blocks (settings : rdpSettings) : Fallible PUnit := do
  gcc_write_client_core_data settings
  gcc_write_client_cluster_data settings
  gcc_write_client_security_data settings
  gcc_write_client_network_data settings
  if settings.negotiationFlags ≠ 0 then gcc_write_client_monitor_data settings

end neutrinordp.gcc
