-- Static virtual channels. A message is cut into chunks (channel.c), and the other side puts it
-- together again: the plugins of a client (libchannels.c, svc_plugin.c) or the channels of a
-- server (wtsvc.c). Each channel has a buffer of its own.
import CorporateClient.StreamCodec
import CorporateClient.Lib.Demux

namespace neutrinordp.svc

open demux stream

def CHANNEL_FLAG_FIRST : Nat := 0x01
def CHANNEL_FLAG_LAST : Nat := 0x02
def CHANNEL_FLAG_SHOW_PROTOCOL : Nat := 0x10
def CHANNEL_OPTION_SHOW_PROTOCOL : Nat := 0x00200000

/-! ## The sender -/

structure rdpChannel where
  name : List UInt8
  options : Nat
  channel_id : Nat
deriving Repr, DecidableEq

/-- The settings that the sender reads. -/
structure rdpSettings where
  channels : List rdpChannel
  vc_chunk_size : UInt32
deriving Repr, DecidableEq

/-- A cast from `uint32` to `int`. -/
def int (v : Nat) : Int := (BitVec.ofNat 32 v).toInt

def next_chunk (settings : rdpSettings) (channel : rdpChannel) (left flags : Nat) : Int × Nat :=
  let vc_chunk_size := int settings.vc_chunk_size.toNat
  let (chunk_size, flags) :=
    if (left : Int) > vc_chunk_size then (vc_chunk_size, flags)
    else ((left : Int), flags ||| CHANNEL_FLAG_LAST)
  if channel.options &&& CHANNEL_OPTION_SHOW_PROTOCOL ≠ 0
  then (chunk_size, flags ||| CHANNEL_FLAG_SHOW_PROTOCOL) else (chunk_size, flags)

/-- A chunk with its header. `s` is the stream that `rdp_send_stream_init` has given. -/
def write_chunk (s : STREAM) (size flags : Nat) (data : List UInt8) : STREAM :=
  let s := stream_write_uint32 s size
  let s := stream_write_uint32 s flags
  stream_write (stream_check_size s data.length) data

/-- The loop over the chunks, for a number of turns. The result has a stream for each chunk.
`none` is a loop that does not end, or a chunk of a negative length. -/
def send_chunks (settings : rdpSettings) (channel : rdpChannel) (s : STREAM) (size : Nat) :
    Nat → Nat → List UInt8 → Option (List STREAM)
  | 0, _, _ => none
  | turns + 1, flags, data =>
    if data.length > 0 then
      let (chunk_size, flags) := next_chunk settings channel data.length flags
      if chunk_size < 0 then none
      else
        let chunk := data.take chunk_size.toNat
        (send_chunks settings channel s size turns 0 (data.drop chunk_size.toNat)).map
          (write_chunk s size flags chunk :: ·)
    else some []

/-- A message of `data` on a channel, and the streams that go to `rdp_send`. Each turn sends a
byte at least, if the chunk size is not 0. -/
def freerdp_channel_send (settings : rdpSettings) (s : STREAM) (channel_id : Nat)
    (data : List UInt8) : Option (Bool × List STREAM) :=
  match settings.channels.find? (·.channel_id = channel_id) with
  | none => some (false, [])
  | some channel =>
    (send_chunks settings channel s data.length (data.length + 1) CHANNEL_FLAG_FIRST data).map
      (true, ·)

/-! ## A chunk that comes in -/

structure Chunk where
  total_size : Nat
  flags : Nat
  data : List UInt8
deriving Repr, DecidableEq

/-- What `freerdp_channel_process` and `freerdp_channel_peer_process` take from a packet. -/
def read_chunk (s : STREAM) : Chunk :=
  let (length, s) := stream_read_uint32 s
  let (flags, s) := stream_read_uint32 s
  { total_size := length, flags, data := bytes_at s s.pos (stream_get_left s).toNat }

/-! ## The client -/

/-- An entry of the channel manager. `open_event_proc` says if the channel is open. -/
structure channel_data where
  name : List UInt8
  open_handle : Nat
  open_event_proc : Bool
deriving Repr, DecidableEq

/-- `data_in` is the message that is not complete yet, and `data_in_list` has the messages for
the thread of the plugin. -/
structure rdpSvcPlugin where
  open_handle : Nat
  data_in : Option STREAM
  data_in_list : List STREAM
deriving Repr, DecidableEq

/-- The tables of a client: the channels of the settings, the channel manager, and the list of
all plugins. -/
structure rdpChannels where
  settings_channels : List rdpChannel
  channels_data : List channel_data
  plugins : List rdpSvcPlugin
deriving Repr, DecidableEq

/-- `none` is a chunk without a message to add it to: the code writes to a null pointer. -/
def svc_plugin_process_received (plugin : rdpSvcPlugin) (chunk : Chunk) : Option rdpSvcPlugin :=
  let data_in :=
    if chunk.flags &&& CHANNEL_FLAG_FIRST ≠ 0 then some (stream_new (int chunk.total_size))
    else plugin.data_in
  data_in.map fun data_in =>
    let data_in := stream_write (stream_check_size data_in chunk.data.length) chunk.data
    if chunk.flags &&& CHANNEL_FLAG_LAST ≠ 0 then
      { plugin with
        data_in := none, data_in_list := plugin.data_in_list ++ [stream_set_pos data_in 0] }
    else { plugin with data_in := some data_in }

/-- The event of received data. A handle that no plugin has is only logged. -/
def svc_plugin_open_event (channels : rdpChannels) (openHandle : Nat) (chunk : Chunk) :
    Option rdpChannels :=
  match channels.plugins.find? (·.open_handle = openHandle) with
  | none => some channels
  | some plugin =>
    (svc_plugin_process_received plugin chunk).map fun plugin =>
      { channels with
        plugins := changeFirst (·.open_handle = openHandle) (fun _ => plugin) channels.plugins }

/-- The channel is found by its number, the entry of the manager by the name of the channel. A
chunk for no one is left out. -/
def freerdp_channels_data (channels : rdpChannels) (channel_id : Nat) (chunk : Chunk) :
    Option rdpChannels :=
  match channels.settings_channels.find? (·.channel_id = channel_id) with
  | none => some channels
  | some lrdp_channel =>
    match channels.channels_data.find? (·.name = lrdp_channel.name) with
    | none => some channels
    | some lchannel_data =>
      if lchannel_data.open_event_proc then
        svc_plugin_open_event channels lchannel_data.open_handle chunk
      else some channels

def freerdp_channel_process (channels : rdpChannels) (packet : Nat × STREAM) : Option rdpChannels :=
  freerdp_channels_data channels packet.1 (read_chunk packet.2)

/-! ## The server -/

inductive ChannelType
  | RDP_PEER_CHANNEL_TYPE_SVC
  | RDP_PEER_CHANNEL_TYPE_DVC
deriving Repr, DecidableEq

/-- A channel that the server has opened, with the messages that wait to be read. -/
structure rdpPeerChannel where
  channel_type : ChannelType
  receive_data : STREAM
  receive_queue : List (List UInt8)
deriving Repr, DecidableEq

/-- An entry of the channels of the settings. The handle is set by an open. -/
structure PeerEntry where
  channel_id : Nat
  handle : Option rdpPeerChannel
deriving Repr, DecidableEq

/-- Messages on the channel of the dynamic channels are not handled yet. `none`: `xmalloc` has no
memory for the message, and the code copies it to a null pointer. -/
def WTSProcessChannelData (channel : rdpPeerChannel) (chunk : Chunk) : Option rdpPeerChannel :=
  let receive_data :=
    if chunk.flags &&& CHANNEL_FLAG_FIRST ≠ 0 then stream_set_pos channel.receive_data 0
    else channel.receive_data
  let receive_data := stream_write (stream_check_size receive_data chunk.data.length) chunk.data
  if chunk.flags &&& CHANNEL_FLAG_LAST ≠ 0 then
    let length := stream_get_length receive_data
    match channel.channel_type with
    | .RDP_PEER_CHANNEL_TYPE_DVC =>
      some { channel with receive_data := stream_set_pos receive_data 0 }
    | .RDP_PEER_CHANNEL_TYPE_SVC =>
      if length > 16 * 1024 * 1024 then none
      else some { channel with
        receive_data := stream_set_pos receive_data 0
        receive_queue := channel.receive_queue ++ [bytes_at receive_data 0 length] }
  else some { channel with receive_data }

/-- The result says if there was a channel for the chunk. -/
def WTSReceiveChannelData (entries : List PeerEntry) (channelId : Nat) (chunk : Chunk) :
    Option (Bool × List PeerEntry) :=
  match entries.find? (·.channel_id = channelId) with
  | none => some (false, entries)
  | some entry =>
    match entry.handle with
    | none => some (false, entries)
    | some channel =>
      (WTSProcessChannelData channel chunk).map fun channel =>
        (true, changeFirst (·.channel_id = channelId)
          (fun entry => { entry with handle := some channel }) entries)

def freerdp_channel_peer_process (entries : List PeerEntry) (packet : Nat × STREAM) :
    Option (List PeerEntry) :=
  (WTSReceiveChannelData entries packet.1 (read_chunk packet.2)).map (·.2)

end neutrinordp.svc
