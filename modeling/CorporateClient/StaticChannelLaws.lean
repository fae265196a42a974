-- The laws of the static channels: a message that is sent in chunks arrives in one piece, once,
-- and in order with the other messages of its channel. Chunks of other channels may come in
-- between.
import Mathlib.Data.List.Forall2
import CorporateClient.StaticChannels
import CorporateClient.SlowPathDispatch

namespace neutrinordp.svc

open List bytes demux stream security packet slowpath

/-! ## The chunks of a message -/

def Chunk.bytes (chunk : Chunk) : List UInt8 :=
  le32 chunk.total_size ++ (le32 chunk.flags ++ chunk.data)

/-- The chunks of the bytes `data`. `first` says if the message starts with them. Both receivers
only look at two of the flags. -/
inductive Chunks (total : Nat) : Bool → List UInt8 → List Chunk → Prop
  | last {first : Bool} {flags : Nat} {data : List UInt8} (some_bytes : 0 < data.length)
      (is_first : flags &&& CHANNEL_FLAG_FIRST ≠ 0 ↔ first = true)
      (is_last : flags &&& CHANNEL_FLAG_LAST ≠ 0) :
      Chunks total first data [⟨total, flags, data⟩]
  | more {first : Bool} {flags : Nat} {data rest : List UInt8} {chunks : List Chunk}
      (some_bytes : 0 < data.length)
      (is_first : flags &&& CHANNEL_FLAG_FIRST ≠ 0 ↔ first = true)
      (not_last : ¬ flags &&& CHANNEL_FLAG_LAST ≠ 0) (behind : Chunks total false rest chunks) :
      Chunks total first (data ++ rest) (⟨total, flags, data⟩ :: chunks)

/-! ## The sender -/

/-- The bytes that a packet carries behind its headers. -/
def payload (room : Nat) (s : STREAM) : List UInt8 := (s.data.take s.pos).drop room

/-- The send stream behind the headers, with room for the header of a chunk. -/
structure Ready (s : STREAM) : Prop where
  inside : s.pos + 8 ≤ s.size
  memory : s.size ≤ s.data.length

/-- A packet of the sender with the chunk that it carries. -/
structure Carries (s : STREAM) (limit : Nat) (packet : STREAM) (chunk : Chunk) : Prop where
  payload : payload s.pos packet = chunk.bytes
  pos : packet.pos = s.pos + 8 + chunk.data.length
  memory : packet.pos ≤ packet.data.length
  short : chunk.data.length ≤ limit
  total_size : chunk.total_size < 4294967296
  flags : chunk.flags < 4294967296

variable {s : STREAM} {total limit : Nat} {chunk : Chunk} {acc data : Bytes}

theorem write_chunk.spec (h : Ready s) (chunk : Chunk) (hsome : 0 < chunk.data.length)
    (hshort : chunk.data.length ≤ limit) (htotal : chunk.total_size < 4294967296)
    (hflags : chunk.flags < 4294967296) :
    Carries s limit (write_chunk s chunk.total_size chunk.flags chunk.data) chunk := by
  have hinside := h.inside
  have hmemory := h.memory
  have hpos : s.pos ≤ s.data.length := by omega
  have hheader : stream_write_uint32 (stream_write_uint32 s chunk.total_size) chunk.flags =
      stream_write s (le32 chunk.total_size ++ le32 chunk.flags) :=
    stream_write_write s (le32 chunk.total_size) (le32 chunk.flags) hpos
  have hwrite : write_chunk s chunk.total_size chunk.flags chunk.data = stream_write
      (stream_check_size (stream_write s (le32 chunk.total_size ++ le32 chunk.flags))
        chunk.data.length) chunk.data := by
    unfold write_chunk
    dsimp only
    rw [hheader]
  have hcollected : Collected (stream_write s (le32 chunk.total_size ++ le32 chunk.flags))
      (s.data.take s.pos ++ (le32 chunk.total_size ++ le32 chunk.flags)) := by
    refine ⟨take_stream_write s _ hpos, ?_, hinside, ?_⟩
    · simp [stream_write_pos, hpos]
    · rw [stream_write_length s _ hpos]
      exact Nat.le_trans hmemory (Nat.le_max_left _ _)
  have hadded := hcollected.add hsome
  have hend := hadded.pos
  simp only [length_append, length_take, length_le32, Nat.min_eq_left hpos] at hend
  rw [hwrite]
  refine ⟨?_, by omega, Nat.le_trans hadded.inside hadded.memory, hshort, htotal, hflags⟩
  unfold svc.payload
  rw [hadded.take, append_assoc, drop_left' (by simp [hpos]), Chunk.bytes, append_assoc]

theorem int_of_lt {v : Nat} (h : v < 2 ^ 31) : int v = v := by
  have hsmall : (BitVec.ofNat 32 v).toNat = v := by
    rw [BitVec.toNat_ofNat]
    omega
  unfold int
  rw [BitVec.toInt_eq_toNat_of_lt (by rw [hsmall]; omega), hsmall]

/-- The flags that a turn of the loop starts with. -/
def startFlags (first : Bool) : Nat := if first then CHANNEL_FLAG_FIRST else 0

theorem next_chunk.spec {settings : rdpSettings} (hsize : settings.vc_chunk_size.toNat < 2 ^ 31)
    (channel : rdpChannel) (left : Nat) (first : Bool) :
    ∃ flags, next_chunk settings channel left (startFlags first) =
        (((min left settings.vc_chunk_size.toNat : Nat) : Int), flags) ∧
      (flags &&& CHANNEL_FLAG_FIRST ≠ 0 ↔ first = true) ∧
      (flags &&& CHANNEL_FLAG_LAST ≠ 0 ↔ left ≤ settings.vc_chunk_size.toNat) ∧
      flags < 4294967296 := by
  unfold next_chunk
  dsimp only
  rw [int_of_lt hsize]
  by_cases hmore : left ≤ settings.vc_chunk_size.toNat
  · have hlast : ¬ (left : Int) > (settings.vc_chunk_size.toNat : Int) := by omega
    rw [if_neg hlast, Nat.min_eq_left hmore]
    simp only [hmore, iff_true]
    split
    · refine ⟨_, rfl, ?_⟩
      cases first <;> decide
    · refine ⟨_, rfl, ?_⟩
      cases first <;> decide
  · have hnext : (left : Int) > (settings.vc_chunk_size.toNat : Int) := by omega
    rw [if_pos hnext, Nat.min_eq_right (by omega)]
    simp only [hmore, iff_false]
    split
    · refine ⟨_, rfl, ?_⟩
      cases first <;> decide
    · refine ⟨_, rfl, ?_⟩
      cases first <;> decide

theorem send_chunks.spec {settings : rdpSettings} (hpositive : 1 ≤ settings.vc_chunk_size.toNat)
    (hsize : settings.vc_chunk_size.toNat < 2 ^ 31) (channel : rdpChannel) (hs : Ready s)
    (size turns : Nat) (first : Bool) (data : Bytes) (hturns : data.length < turns)
    (hsome : 0 < data.length) (hle : data.length ≤ size) (htotal : size < 4294967296) :
    ∃ packets chunks,
      send_chunks settings channel s size turns (startFlags first) data = some packets ∧
      Chunks size first data chunks ∧
      Forall₂ (Carries s (min size settings.vc_chunk_size.toNat)) packets chunks := by
  induction turns generalizing first data with
  | zero => omega
  | succ turns ih =>
    obtain ⟨flags, hnext, hfirst, hlast, hflags⟩ := next_chunk.spec hsize channel data.length first
    unfold send_chunks
    rw [if_pos hsome, hnext]
    dsimp only
    rw [if_neg (by omega), Int.toNat_natCast]
    by_cases hend : data.length ≤ settings.vc_chunk_size.toNat
    · -- The last chunk takes all that is left, and the loop ends.
      obtain ⟨turns, rfl⟩ : ∃ n, turns = n + 1 := ⟨turns - 1, by omega⟩
      rw [Nat.min_eq_left hend, drop_length, take_length]
      refine ⟨_, _, rfl, .last hsome hfirst (hlast.mpr hend), .cons ?_ .nil⟩
      exact write_chunk.spec hs ⟨size, flags, data⟩ hsome (Nat.le_min.mpr ⟨hle, hend⟩) htotal hflags
    · have hmin : min data.length settings.vc_chunk_size.toNat = settings.vc_chunk_size.toNat := by
        omega
      rw [hmin]
      generalize settings.vc_chunk_size.toNat = n at *
      have hpiece : (data.take n).length = n := by
        rw [length_take]
        omega
      obtain ⟨packets, chunks, hrest, hchunks, hcarries⟩ := ih false (data.drop n)
        (by rw [length_drop]; omega) (by rw [length_drop]; omega)
        (by rw [length_drop]; omega)
      have hzero : startFlags false = 0 := rfl
      rw [hzero] at hrest
      rw [hrest]
      refine ⟨_, ⟨size, flags, data.take n⟩ :: chunks, rfl, ?_, .cons ?_ hcarries⟩
      · have hmore : Chunks size first (data.take n ++ data.drop n)
            (⟨size, flags, data.take n⟩ :: chunks) :=
          .more (by omega) hfirst (fun h => hend (hlast.mp h)) hchunks
        rwa [take_append_drop] at hmore
      · have hshort : (data.take n).length ≤ min size n := by omega
        exact write_chunk.spec hs ⟨size, flags, data.take n⟩ (by rw [hpiece]; exact hpositive)
          hshort htotal hflags

/-! ## A chunk that comes in -/

theorem read_chunk_of_rest (hs : Rest s chunk.bytes) (hsize : chunk.total_size < 4294967296)
    (hflags : chunk.flags < 4294967296) :
    read_chunk s = chunk := by
  have htotal := takes_uint32 s _ hs
  have hs4 : Rest (stream_seek s 4) (le32 chunk.flags ++ chunk.data) := hs.seek rfl
  have hread := takes_uint32 (stream_seek s 4) _ hs4
  have hs8 : Rest (stream_seek (stream_seek s 4) 4) chunk.data := hs4.seek rfl
  have hdata : bytes_at (stream_seek (stream_seek s 4) 4) (stream_seek (stream_seek s 4) 4).pos
      chunk.data.length = chunk.data := by
    rw [bytes_at_left _ _ (by rw [hs8.left]), hs8.left, take_length]
  unfold read_chunk
  rw [htotal]
  dsimp only
  rw [length_le32, hread]
  dsimp only
  rw [length_le32, hs8.get_left, Int.toNat_natCast, hdata, Nat.mod_eq_of_lt hsize,
    Nat.mod_eq_of_lt hflags]

/-! ## The client -/

/-- The buffer of a message has the size that its first chunk says, and never grows. -/
structure Filling (s : STREAM) (total : Nat) (acc : List UInt8) : Prop where
  collected : Collected s acc
  size : s.size = total
  memory : s.data.length = total

theorem filling_new (hsome : 0 < total) (hsize : total < 2 ^ 31) :
    Filling (stream_new (int total)) total [] := by
  have hnew : stream_new (int total) = ⟨replicate total 0, total, 0⟩ := by
    unfold stream_new
    rw [int_of_lt hsize]
    rw [if_neg (by omega), if_pos (by omega), Int.toNat_natCast]
  rw [hnew]
  exact ⟨⟨rfl, rfl, Nat.zero_le _, by simp⟩, rfl, length_replicate⟩

theorem Filling.check_size {n : Nat} (h : Filling s total acc) (hsome : 0 < n)
    (hroom : acc.length + n ≤ total) :
    stream_check_size s n = s := by
  have hpos := h.collected.pos
  have hsize := h.size
  rw [stream_check_size.spec s _ hsome h.collected.inside, if_neg (by omega)]

theorem Filling.write {chunk : Bytes} (h : Filling s total acc) (hsome : 0 < chunk.length)
    (hroom : acc.length + chunk.length ≤ total) :
    Filling (stream_write s chunk) total (acc ++ chunk) := by
  have hpos := h.collected.pos
  have hmemory := h.memory
  have hadded := h.collected.add hsome
  rw [h.check_size hsome hroom] at hadded
  refine ⟨hadded, h.size, ?_⟩
  rw [stream_write_length s chunk (by omega)]
  omega

theorem Filling.add {chunk : Bytes} (h : Filling s total acc) (hsome : 0 < chunk.length)
    (hroom : acc.length + chunk.length ≤ total) :
    Filling (stream_write (stream_check_size s chunk.length) chunk) total (acc ++ chunk) := by
  rw [h.check_size hsome hroom]
  exact h.write hsome hroom

theorem Filling.full (h : Filling s total data) (hfull : data.length = total) :
    stream_set_pos s 0 = stream_of data := by
  have htake := h.collected.take
  have hpos := h.collected.pos
  have hsize := h.size
  have hmemory := h.memory
  rw [hpos, hfull, ← hmemory, take_length] at htake
  rw [stream_set_pos, stream_of, htake, hsize, hfull]

theorem svc_plugin_process_received.spec {plugin : rdpSvcPlugin} {data_in : STREAM}
    (h : (if chunk.flags &&& CHANNEL_FLAG_FIRST ≠ 0 then some
      (stream_new (int chunk.total_size)) else plugin.data_in) = some data_in) :
    svc_plugin_process_received plugin chunk = some
      (if chunk.flags &&& CHANNEL_FLAG_LAST ≠ 0 then
        { plugin with
          data_in := none, data_in_list := plugin.data_in_list ++ [stream_set_pos
            (stream_write (stream_check_size data_in chunk.data.length) chunk.data) 0] }
      else { plugin with
        data_in := some
          (stream_write (stream_check_size data_in chunk.data.length) chunk.data) }) := by
  unfold svc_plugin_process_received
  rw [h]
  rfl

theorem client_reassembles {first : Bool} {chunks : List Chunk} (h : Chunks total first data chunks)
    (plugin : rdpSvcPlugin) (buffer : STREAM) (acc : Bytes)
    (hbuffer : (if first then some (stream_new (int total)) else plugin.data_in) = some buffer)
    (hfilling : Filling buffer total acc) (htotal : acc.length + data.length = total) :
    chunks.foldlM svc_plugin_process_received plugin = some
      { plugin with
        data_in := none, data_in_list := plugin.data_in_list ++ [stream_of (acc ++ data)] } := by
  induction h generalizing plugin buffer acc with
  | @last first flags data hsome hfirst hlast =>
    have hdata := (if_congr hfirst rfl rfl).trans hbuffer
    have hadded := hfilling.add hsome (by omega)
    rw [foldlM_cons, svc_plugin_process_received.spec hdata, if_pos hlast,
      hadded.full (by rw [length_append]; exact htotal)]
    rfl
  | @more first flags data rest chunks hsome hfirst hmore _ ih =>
    have hdata := (if_congr hfirst rfl rfl).trans hbuffer
    rw [length_append] at htotal
    have hadded := hfilling.add hsome (by omega)
    rw [foldlM_cons, svc_plugin_process_received.spec hdata, if_neg hmore]
    have hrest := ih { plugin with data_in := some _ } _ (acc ++ data) rfl hadded
      (by rw [length_append]; omega)
    rw [append_assoc] at hrest
    exact hrest

/-! ## The server -/

theorem WTSProcessChannelData.spec {channel : rdpPeerChannel} {buffer added : STREAM}
    (htype : channel.channel_type = .RDP_PEER_CHANNEL_TYPE_SVC)
    (h : (if chunk.flags &&& CHANNEL_FLAG_FIRST ≠ 0 then stream_set_pos channel.receive_data 0 else
      channel.receive_data) = buffer)
    (hadded : stream_write (stream_check_size buffer chunk.data.length) chunk.data = added) :
    WTSProcessChannelData channel chunk =
      if chunk.flags &&& CHANNEL_FLAG_LAST ≠ 0 then
        if added.pos > 16 * 1024 * 1024 then none
        else some { channel with
          receive_data := stream_set_pos added 0
          receive_queue := channel.receive_queue ++ [bytes_at added 0 added.pos] }
      else some { channel with receive_data := added } := by
  subst hadded
  unfold WTSProcessChannelData
  rw [h, htype]
  rfl

theorem server_reassembles {first : Bool} {chunks : List Chunk} (h : Chunks total first data chunks)
    (channel : rdpPeerChannel) (acc : Bytes)
    (htype : channel.channel_type = .RDP_PEER_CHANNEL_TYPE_SVC)
    (hcollected : Collected (if first then stream_set_pos channel.receive_data 0 else
      channel.receive_data) acc) :
    (acc ++ data).length > 16 * 1024 * 1024 ∧ chunks.foldlM WTSProcessChannelData channel = none ∨
    (acc ++ data).length ≤ 16 * 1024 * 1024 ∧ ∃ channel',
      chunks.foldlM WTSProcessChannelData channel = some channel' ∧
      channel'.channel_type = .RDP_PEER_CHANNEL_TYPE_SVC ∧
      channel'.receive_data.size ≤ channel'.receive_data.data.length ∧
      channel'.receive_queue = channel.receive_queue ++ [acc ++ data] := by
  induction h generalizing channel acc with
  | @last first flags data hsome hfirst hlast =>
    have hadded := hcollected.add hsome
    rw [foldlM_cons, WTSProcessChannelData.spec htype (if_congr hfirst rfl rfl) rfl, if_pos hlast,
      hadded.pos]
    rcases Nat.lt_or_ge (16 * 1024 * 1024) (acc ++ data).length with hlong | hshort
    · exact .inl ⟨hlong, by rw [if_pos hlong]; rfl⟩
    · rw [if_neg (Nat.not_lt.mpr hshort)]
      refine .inr ⟨hshort, _, rfl, htype, hadded.memory, ?_⟩
      exact congrArg (channel.receive_queue ++ [·]) (hadded.pos ▸ hadded.bytes_at)
  | @more first flags data rest chunks hsome hfirst hmore _ ih =>
    have hadded := hcollected.add hsome
    rw [foldlM_cons, WTSProcessChannelData.spec htype (if_congr hfirst rfl rfl) rfl, if_neg hmore,
      ← append_assoc]
    generalize stream_write _ data = receive_data at hadded ⊢
    exact ih { channel with receive_data } (acc ++ data) htype hadded

/-! ## Channels side by side -/

/-- The handle of the plugin for a channel, if the channel is open. -/
def handleOf (channels : rdpChannels) (channel_id : Nat) : Option Nat :=
  (channels.settings_channels.find? (·.channel_id = channel_id)).bind fun lrdp_channel =>
    (channels.channels_data.find? (·.name = lrdp_channel.name)).bind fun lchannel_data =>
      if lchannel_data.open_event_proc then some lchannel_data.open_handle else none

/-- The plugin of a channel. -/
def pluginOf (channels : rdpChannels) (channel_id : Nat) : Option rdpSvcPlugin :=
  (handleOf channels channel_id).bind fun handle =>
    channels.plugins.find? (·.open_handle = handle)

/-- Two channels never have the same plugin. -/
def Separate (channels : rdpChannels) : Prop :=
  ∀ c c' handle, handleOf channels c = some handle → handleOf channels c' = some handle → c = c'

theorem freerdp_channels_data.spec {channels : rdpChannels} {channel_id handle : Nat}
    (h : handleOf channels channel_id = some handle) (chunk : Chunk) :
    freerdp_channels_data channels channel_id chunk =
      svc_plugin_open_event channels handle chunk := by
  obtain ⟨lrdp_channel, hchannel, h⟩ := Option.bind_eq_some_iff.mp h
  obtain ⟨lchannel_data, hdata, h⟩ := Option.bind_eq_some_iff.mp h
  unfold freerdp_channels_data
  rw [hchannel]
  dsimp only
  rw [hdata]
  dsimp only
  split at h
  · rename_i hopen
    cases h
    rw [if_pos hopen]
  · cases h

theorem process_received_handle {plugin plugin' : rdpSvcPlugin}
    (h : svc_plugin_process_received plugin chunk = some plugin') :
    plugin'.open_handle = plugin.open_handle := by
  obtain ⟨data_in, _, hplugin⟩ := Option.map_eq_some_iff.mp h
  rw [← hplugin]
  split
  · rfl
  · rfl

theorem client_splits : Splits Separate pluginOf
    (fun channels item => freerdp_channels_data channels item.1 item.2)
    svc_plugin_process_received where
  at_key := by
    intro channels c chunk plugin plugin' hseparate hplugin hreceived
    obtain ⟨handle, hhandle, hfind⟩ := Option.bind_eq_some_iff.mp hplugin
    have hself : plugin.open_handle = handle := by simpa using find?_some hfind
    have hself' : plugin'.open_handle = handle := (process_received_handle hreceived).trans hself
    have hkeep : ∀ a : rdpSvcPlugin, decide (a.open_handle = handle) = true →
        decide (plugin'.open_handle = handle) = true := fun _ _ => by simpa using hself'
    refine ⟨{ channels with
      plugins := changeFirst (·.open_handle = handle) (fun _ => plugin') channels.plugins },
      ?_, hseparate, ?_, ?_⟩
    · show freerdp_channels_data channels c chunk = _
      rw [freerdp_channels_data.spec hhandle]
      unfold svc_plugin_open_event
      rw [hfind]
      dsimp only
      rw [hreceived]
      rfl
    · have hsame := find_changeFirst_self hkeep channels.plugins
      rw [hfind] at hsame
      exact Option.bind_eq_some_iff.mpr ⟨handle, hhandle, hsame⟩
    · intro c' hc'
      have htables : ∀ plugins, handleOf { channels with plugins } c' = handleOf channels c' :=
        fun _ => rfl
      unfold pluginOf
      rw [htables]
      cases hother : handleOf channels c' with
      | none => rfl
      | some handle' =>
        refine find_changeFirst_other hkeep (fun a ha ha' => hc' ?_) channels.plugins
        simp only [decide_eq_true_eq] at ha ha'
        rw [ha] at ha'
        exact hseparate c' c handle (ha' ▸ hother) hhandle

/-- The open channel of the server with a number. -/
def channelOf (entries : List PeerEntry) (channel_id : Nat) : Option rdpPeerChannel :=
  (entries.find? (·.channel_id = channel_id)).bind (·.handle)

theorem WTSReceiveChannelData.spec {entries : List PeerEntry} {c : Nat} {channel : rdpPeerChannel}
    (h : channelOf entries c = some channel) (chunk : Chunk) :
    WTSReceiveChannelData entries c chunk =
      (WTSProcessChannelData channel chunk).map fun channel =>
        (true, changeFirst (·.channel_id = c)
          (fun entry => { entry with handle := some channel }) entries) := by
  obtain ⟨entry, hfind, hhandle⟩ := Option.bind_eq_some_iff.mp h
  unfold WTSReceiveChannelData
  rw [hfind]
  dsimp only
  rw [hhandle]

theorem server_splits : Splits (fun _ => True) channelOf
    (fun entries item => (WTSReceiveChannelData entries item.1 item.2).map (·.2))
    WTSProcessChannelData where
  at_key := by
    intro entries c chunk channel channel' _ hchannel hreceived
    obtain ⟨entry, hfind, hhandle⟩ := Option.bind_eq_some_iff.mp hchannel
    have hkeep : ∀ a : PeerEntry, decide (a.channel_id = c) = true →
        decide (({ a with handle := some channel' } : PeerEntry).channel_id = c) = true :=
      fun _ ha => ha
    have hreceive := WTSReceiveChannelData.spec hchannel chunk
    rw [hreceived] at hreceive
    refine ⟨_, congrArg (Option.map (·.2)) hreceive, trivial, ?_, ?_⟩
    · unfold channelOf
      rw [find_changeFirst_self hkeep, hfind]
      rfl
    · intro c' hc'
      unfold channelOf
      rw [find_changeFirst_other hkeep]
      intro a ha ha'
      simp only [decide_eq_true_eq] at ha ha'
      exact hc' (ha'.symm.trans ha)

theorem server_ends (c : Nat) : ∀ (chunks : List Chunk) (entries : List PeerEntry)
    (channel : rdpPeerChannel), channelOf entries c = some channel →
    chunks.foldlM WTSProcessChannelData channel = none →
    chunks.foldlM (fun entries chunk => (WTSReceiveChannelData entries c chunk).map (·.2))
      entries = none := by
  intro chunks
  induction chunks with
  | nil =>
    intro entries channel _ h
    cases h
  | cons chunk chunks ih =>
    intro entries channel hchannel h
    rw [foldlM_cons] at h ⊢
    cases hone : WTSProcessChannelData channel chunk with
    | none => rw [WTSReceiveChannelData.spec hchannel, hone]; rfl
    | some channel' =>
      rw [hone] at h
      obtain ⟨entries', hstep, -, hview, -⟩ := server_splits.at_key trivial hchannel hone
      rw [show (WTSReceiveChannelData entries c chunk).map (·.2) = some entries' from hstep]
      exact ih entries' channel' hview h

/-! ## From one side to the other -/

/-- A channel of the server for chunks of messages, with a buffer in memory. Messages on the
dynamic channel are dropped. -/
structure Static (channel : rdpPeerChannel) : Prop where
  channel_type : channel.channel_type = .RDP_PEER_CHANNEL_TYPE_SVC
  memory : channel.receive_data.size ≤ channel.receive_data.data.length

/-- A message that can be sent: its channel is known, and its length is an `int`. -/
structure Sendable (settings : rdpSettings) (message : Nat × List UInt8) : Prop where
  known : (settings.channels.find? (·.channel_id = message.1)).isSome
  some_bytes : 1 ≤ message.2.length
  size : message.2.length < 2 ^ 31

/-- The packets of a message. -/
def packetsOf (settings : rdpSettings) (s : STREAM) (channel_id : Nat) (data : List UInt8) :
    List STREAM :=
  ((freerdp_channel_send settings s channel_id data).map (·.2)).getD []

/-- The chunk in a packet. -/
def chunkIn (room : Nat) (packet : STREAM) : Chunk := read_chunk (stream_of (payload room packet))

/-- A packet has arrived: the receiver has its channel, and a stream with what the packet carries
in front. -/
structure Arrived (room : Nat) (sent got : Nat × STREAM) : Prop where
  channel : got.1 = sent.1
  payload : Rest got.2 (payload room sent.2)

theorem Carries.chunkIn {packet : STREAM} (h : Carries s limit packet chunk) :
    chunkIn s.pos packet = chunk :=
  read_chunk_of_rest (h.payload ▸ rest_stream_of _) h.total_size h.flags

/-- What the receiver reads from the packets that have arrived. -/
def chunksOf (arrivals : List (Nat × STREAM)) : List (Nat × Chunk) :=
  arrivals.map fun p => (p.1, read_chunk p.2)

theorem peer_process_chunks (arrivals : List (Nat × STREAM)) (server : List PeerEntry) :
    arrivals.foldlM freerdp_channel_peer_process server = (chunksOf arrivals).foldlM
      (fun entries item => (WTSReceiveChannelData entries item.1 item.2).map (·.2)) server := by
  rw [chunksOf, foldlM_map]
  rfl

theorem arrivals_read {trace arrivals : List (Nat × STREAM)}
    (hcarries : ∀ p ∈ trace, ∃ limit chunk, Carries s limit p.2 chunk)
    (harrive : Forall₂ (Arrived s.pos) trace arrivals) :
    chunksOf arrivals = trace.map (fun p => (p.1, chunkIn s.pos p.2)) := by
  unfold chunksOf
  induction harrive with
  | nil => rw [map_nil, map_nil]
  | @cons sent got trace arrivals hfirst _ ih =>
    obtain ⟨limit, chunk, hcarried⟩ := hcarries sent mem_cons_self
    have hrest := hfirst.payload
    rw [hcarried.payload] at hrest
    have hread : read_chunk got.2 = chunkIn s.pos sent.2 := by
      rw [hcarried.chunkIn]
      exact read_chunk_of_rest hrest hcarried.total_size hcarried.flags
    rw [map_cons, map_cons, hfirst.channel, hread,
      ih (forall_mem_cons.mp hcarries).2]

theorem plain_packet_arrives {C : Crypto} (sender receiver : rdpRdp C)
    (hplain : sender.sec_flags = 0) (hconnected : receiver.disconnect = false)
    (hheaders : s.pos = RDP_PACKET_HEADER_MAX_LENGTH) {channel_id : Nat}
    (hchannel : channel_id < 65536) {packet : STREAM} (hcarried : Carries s limit packet chunk)
    (hfits : s.pos + 8 + limit ≤ 32767) :
    ∃ got, open_tpkt_pdu false receiver (stream_of (rdp_send sender packet channel_id).1) =
        some (.opened channel_id got receiver) ∧
      Arrived s.pos (channel_id, packet) (channel_id, got) := by
  have hroom : s.pos = 15 := hheaders
  have hpos := hcarried.pos
  have hshort := hcarried.short
  have hmemory := hcarried.memory
  have hlength : (payload s.pos packet).length = packet.pos - 15 := by
    rw [payload, length_drop, length_take]
    omega
  have hpadded : rdp_padded_length sender packet.pos = packet.pos := by
    simp [rdp_padded_length, hplain]
  have hsend : (rdp_send sender packet channel_id).1 =
      packetHeader sender.server_mode sender.user_id (15 + (payload s.pos packet).length)
        channel_id ++ payload s.pos packet := by
    unfold rdp_send stream_get_length
    dsimp only
    rw [Nat.mod_eq_of_lt (by omega : packet.pos < 65536),
      rdp_write_header.spec sender (by simp) hpadded (by omega) (by omega) hchannel]
    simp only [rdp_security_stream_out, hplain, if_true, Nat.add_zero,
      Nat.mod_eq_of_lt (by omega : packet.pos < 65536), hlength]
    rw [show 15 + (packet.pos - 15) = packet.pos by omega]
    rw [stream_write, stream_set_pos, patch, take_zero, nil_append,
      take_append, length_packetHeader, Nat.zero_add, payload, drop_take, hroom,
      take_of_length_le (by rw [length_packetHeader]; omega)]
  have hrest := rest_stream_of (rdp_send sender packet channel_id).1
  rw [hsend] at hrest ⊢
  obtain ⟨hopen, hbody⟩ := open_plain_packet receiver hconnected hrest (by omega) hchannel
  exact ⟨_, hopen, rfl, hbody⟩

section

variable {settings : rdpSettings} {s : STREAM} (hpositive : 1 ≤ settings.vc_chunk_size.toNat)
  (hint : settings.vc_chunk_size.toNat < 2 ^ 31) (hs : Ready s)

include hpositive hint hs

theorem freerdp_channel_send.spec {message : Nat × Bytes} (h : Sendable settings message) :
    ∃ packets chunks, freerdp_channel_send settings s message.1 message.2 = some (true, packets) ∧
      Chunks message.2.length true message.2 chunks ∧
      Forall₂ (Carries s (min message.2.length settings.vc_chunk_size.toNat)) packets
        chunks := by
  obtain ⟨channel, hknown⟩ := Option.isSome_iff_exists.mp h.known
  have hsize := h.size
  obtain ⟨packets, chunks, hsend, hchunks, hcarries⟩ := send_chunks.spec hpositive hint channel hs
    message.2.length (message.2.length + 1) true message.2 (Nat.lt_succ_self _) h.some_bytes
    (Nat.le_refl _) (by omega)
  have hflags : startFlags true = CHANNEL_FLAG_FIRST := rfl
  refine ⟨packets, chunks, ?_, hchunks, hcarries⟩
  unfold freerdp_channel_send
  rw [hknown]
  dsimp only
  rw [← hflags, hsend]
  rfl

theorem message_chunks {message : Nat × Bytes} (h : Sendable settings message) :
    Chunks message.2.length true message.2
        ((packetsOf settings s message.1 message.2).map (chunkIn s.pos)) ∧
      ∀ packet ∈ packetsOf settings s message.1 message.2, ∃ chunk,
        Carries s (min message.2.length settings.vc_chunk_size.toNat) packet chunk := by
  obtain ⟨packets, chunks, hsend, hchunks, hcarries⟩ :=
    freerdp_channel_send.spec hpositive hint hs h
  have hpackets : packetsOf settings s message.1 message.2 = packets := by
    unfold packetsOf
    rw [hsend]
    rfl
  have hmap : packets.map (chunkIn s.pos) = chunks := by
    rw [← forall₂_eq_eq_eq, forall₂_map_left_iff]
    exact hcarries.imp fun _ _ hcarried => hcarried.chunkIn
  rw [hpackets, hmap]
  refine ⟨hchunks, fun packet hpacket => ?_⟩
  obtain ⟨i, hi, rfl⟩ := getElem_of_mem hpacket
  exact ⟨_, hcarries.get hi (hcarries.length_eq ▸ hi)⟩

variable {messages : List (Nat × Bytes)} {trace : List (Nat × STREAM)}
  (hmessages : ∀ message ∈ messages, Sendable settings message)
  (htrace : ∀ c, onKey c trace = (onKey c messages).flatMap (packetsOf settings s c))

include hmessages htrace

theorem trace_carries : ∀ p ∈ trace, ∃ message ∈ messages, p.1 = message.1 ∧
    ∃ chunk, Carries s (min message.2.length settings.vc_chunk_size.toNat) p.2 chunk := by
  rintro ⟨c, packet⟩ hp
  have hpacket : packet ∈ onKey c trace := mem_onKey.mpr hp
  rw [htrace c, mem_flatMap] at hpacket
  obtain ⟨data, hdata, hpacket⟩ := hpacket
  have hmessage := mem_onKey.mp hdata
  exact ⟨(c, data), hmessage, rfl,
    (message_chunks hpositive hint hs (hmessages _ hmessage)).2 packet hpacket⟩

variable {arrivals : List (Nat × STREAM)}

theorem chunks_on_channel (harrive : Forall₂ (Arrived s.pos) trace arrivals) (c : Nat) :
    onKey c (chunksOf arrivals) = (onKey c messages).flatMap fun data =>
      (packetsOf settings s c data).map (chunkIn s.pos) := by
  have hread := arrivals_read (fun p hp => by
    obtain ⟨_, _, _, chunk, hcarried⟩ := trace_carries hpositive hint hs hmessages htrace p hp
    exact ⟨_, chunk, hcarried⟩) harrive
  rw [hread, onKey_map, htrace c, map_flatMap]

/-- The server has on each of its channels the messages that were sent on it. -/
def ServerDelivers (server : List PeerEntry) (messages : List (Nat × List UInt8))
    (arrivals : List (Nat × STREAM)) : Prop :=
  ∃ server', arrivals.foldlM freerdp_channel_peer_process server = some server' ∧
    ∀ c channel, channelOf server c = some channel → ∃ channel',
      channelOf server' c = some channel' ∧
      channel'.receive_queue = channel.receive_queue ++ onKey c messages

theorem delivers {S σ : Type} {Inv : S → Prop} {view : S → Nat → Option σ}
    {step : S → Nat × Chunk → Option S} {one : σ → Chunk → Option σ}
    (hsplits : Splits Inv view step one) (harrive : Forall₂ (Arrived s.pos) trace arrivals)
    (start : S) (hstart : Inv start) (Got : σ → List Bytes → σ → Prop)
    (hopen : ∀ message ∈ messages, ∃ x, view start message.1 = some x ∧ Got x [] x)
    (htake : ∀ message chunks, message ∈ messages →
      Chunks message.2.length true message.2 chunks → ∀ x0 done x, Got x0 done x →
        ∃ x', chunks.foldlM one x = some x' ∧ Got x0 (done ++ [message.2]) x') :
    ∃ after, (chunksOf arrivals).foldlM step start = some after ∧
      ∀ c x, view start c = some x → ∃ x', view after c = some x' ∧
        (onKey c messages = [] ∧ x' = x ∨ Got x (onKey c messages) x') := by
  have hchunks := chunks_on_channel hpositive hint hs hmessages htrace harrive
  -- What the chunks of one channel do to it.
  have hone : ∀ c x, Got x [] x → ∃ x',
      (onKey c (chunksOf arrivals)).foldlM one x = some x' ∧ Got x (onKey c messages) x' := by
    intro c x hx
    rw [hchunks c]
    refine foldlM_groups (P := Got x) _ [] x hx fun done y data hdata hy => ?_
    have hmessage := mem_onKey.mp hdata
    exact htake _ _ hmessage (message_chunks hpositive hint hs (hmessages _ hmessage)).1 x done y
      hy
  have hsome : ∀ c, onKey c messages ≠ [] → ∃ x, view start c = some x ∧ Got x [] x := by
    intro c hc
    obtain ⟨data, hdata⟩ := exists_mem_of_ne_nil _ hc
    exact hopen _ (mem_onKey.mp hdata)
  obtain ⟨after, hrun, _, hview⟩ := hsplits.run _ start hstart (by
    intro c hc
    obtain ⟨x, hx, hgot⟩ := hsome c fun h => hc (by rw [hchunks c, h]; rfl)
    obtain ⟨x', hx', _⟩ := hone c x hgot
    exact ⟨x, x', hx, hx'⟩)
  refine ⟨after, hrun, fun c x hx => ?_⟩
  rw [hview c, hx]
  by_cases hnone : onKey c messages = []
  · refine ⟨x, ?_, .inl ⟨hnone, rfl⟩⟩
    rw [hchunks c, hnone]
    rfl
  · obtain ⟨x0, hx0, hgot⟩ := hsome c hnone
    cases hx.symm.trans hx0
    obtain ⟨x', hx', hgot'⟩ := hone c x hgot
    exact ⟨x', hx', .inr hgot'⟩

theorem client_delivers (harrive : Forall₂ (Arrived s.pos) trace arrivals)
    (client : rdpChannels) (hseparate : Separate client)
    (hopen : ∀ message ∈ messages, (pluginOf client message.1).isSome) :
    ∃ client', arrivals.foldlM freerdp_channel_process client = some client' ∧
      ∀ c plugin, pluginOf client c = some plugin → ∃ plugin', pluginOf client' c = some plugin' ∧
        plugin'.data_in_list = plugin.data_in_list ++ (onKey c messages).map stream_of := by
  obtain ⟨client', hrun, hview⟩ := delivers hpositive hint hs hmessages htrace client_splits harrive
    client hseparate (fun plugin done plugin' =>
      plugin'.data_in_list = plugin.data_in_list ++ done.map stream_of) (fun message hmessage => by
      obtain ⟨plugin, hplugin⟩ := Option.isSome_iff_exists.mp (hopen message hmessage)
      exact ⟨plugin, hplugin, (append_nil _).symm⟩) (by
      intro message chunks hmessage hchunks plugin done x hx
      refine ⟨_, client_reassembles hchunks x _ [] rfl
        (filling_new (hmessages _ hmessage).some_bytes (hmessages _ hmessage).size)
        (Nat.zero_add _), ?_⟩
      simp [hx])
  rw [chunksOf, foldlM_map] at hrun
  refine ⟨client', hrun, fun c plugin hplugin => ?_⟩
  obtain ⟨plugin', hplugin', ⟨hnone, rfl⟩ | hlist⟩ := hview c plugin hplugin
  · exact ⟨_, hplugin', by rw [hnone, map_nil, append_nil]⟩
  · exact ⟨plugin', hplugin', hlist⟩

theorem server_delivers (harrive : Forall₂ (Arrived s.pos) trace arrivals)
    (hmemory : ∀ message ∈ messages, message.2.length ≤ 16 * 1024 * 1024)
    (server : List PeerEntry)
    (hopen : ∀ message ∈ messages, ∃ channel, channelOf server message.1 = some channel ∧
      Static channel) :
    ServerDelivers server messages arrivals := by
  obtain ⟨server', hrun, hview⟩ := delivers hpositive hint hs hmessages htrace server_splits harrive
    server trivial (fun channel done channel' => Static channel' ∧
      channel'.receive_queue = channel.receive_queue ++ done) (fun message hmessage => by
      obtain ⟨channel, hchannel, hstatic⟩ := hopen message hmessage
      exact ⟨channel, hchannel, hstatic, (append_nil _).symm⟩) (by
      rintro message chunks hmessage hchunks channel done x ⟨hx, hqueue⟩
      obtain ⟨hlong, -⟩ | ⟨-, x', hrun, htype, hmemory, hqueue'⟩ := server_reassembles hchunks x []
        hx.channel_type (collected_start x.receive_data hx.memory)
      · exact absurd (hmemory message hmessage) (Nat.not_le.mpr hlong)
      refine ⟨x', hrun, ⟨htype, hmemory⟩, ?_⟩
      rw [hqueue', hqueue, nil_append, append_assoc])
  rw [← peer_process_chunks] at hrun
  refine ⟨server', hrun, fun c channel hchannel => ?_⟩
  obtain ⟨channel', hchannel', ⟨hnone, rfl⟩ | ⟨_, hqueue⟩⟩ := hview c channel hchannel
  · -- Nothing came in on this channel, whatever its type is.
    exact ⟨_, hchannel', by rw [hnone, append_nil]⟩
  · exact ⟨channel', hchannel', hqueue⟩

end

/-- For every list of messages on any channels, every chunk size, and every order of the packets
in which those of each channel stay in line: every message is sent, every packet gets through
with its chunk, and each side has on each channel the messages that were sent on it, once each,
in order and byte for byte, the server if each message is at most 16 MiB long. -/
theorem static_channel_messages_arrive (settings : rdpSettings) (s : STREAM)
    (messages : List (Nat × List UInt8)) (trace : List (Nat × STREAM)) (hs : Ready s)
    (hpositive : 1 ≤ settings.vc_chunk_size.toNat)
    (hint : settings.vc_chunk_size.toNat < 2 ^ 31)
    (hmessages : ∀ message ∈ messages, Sendable settings message)
    (htrace : ∀ c, onKey c trace = (onKey c messages).flatMap (packetsOf settings s c)) :
    (∀ message ∈ messages, freerdp_channel_send settings s message.1 message.2 =
      some (true, packetsOf settings s message.1 message.2)) ∧
    (∀ (C : Crypto) (sender receiver : rdpRdp C), sender.sec_flags = 0 →
      receiver.disconnect = false → s.pos = RDP_PACKET_HEADER_MAX_LENGTH →
      (∀ message ∈ messages, message.1 < 65536 ∧
        s.pos + 8 + min message.2.length settings.vc_chunk_size.toNat ≤ 32767) →
      ∀ packet ∈ trace, ∃ got,
        open_tpkt_pdu false receiver (stream_of (rdp_send sender packet.2 packet.1).1) =
          some (.opened packet.1 got receiver) ∧
        Arrived s.pos packet (packet.1, got)) ∧
    ∀ arrivals, Forall₂ (Arrived s.pos) trace arrivals →
      (∀ client, Separate client →
        (∀ message ∈ messages, (pluginOf client message.1).isSome) →
        ∃ client', arrivals.foldlM freerdp_channel_process client = some client' ∧
          ∀ c plugin, pluginOf client c = some plugin → ∃ plugin',
            pluginOf client' c = some plugin' ∧
            plugin'.data_in_list = plugin.data_in_list ++ (onKey c messages).map stream_of) ∧
      ((∀ message ∈ messages, message.2.length ≤ 16 * 1024 * 1024) →
        ∀ server, (∀ message ∈ messages, ∃ channel, channelOf server message.1 = some channel ∧
          Static channel) → ServerDelivers server messages arrivals) := by
  refine ⟨fun message hmessage => ?_, ?_, fun arrivals harrive => ⟨?_, ?_⟩⟩
  · obtain ⟨packets, _, hsend, _⟩ :=
      freerdp_channel_send.spec hpositive hint hs (hmessages message hmessage)
    unfold packetsOf
    rw [hsend]
    rfl
  · intro C sender receiver hplain hconnected hheaders hfits packet hpacket
    obtain ⟨message, hmessage, hchannel, chunk, hcarried⟩ :=
      trace_carries hpositive hint hs hmessages htrace packet hpacket
    obtain ⟨hid, hroom⟩ := hfits message hmessage
    exact plain_packet_arrives sender receiver hplain hconnected hheaders (hchannel ▸ hid)
      hcarried hroom
  · exact client_delivers hpositive hint hs hmessages htrace harrive
  · exact server_delivers hpositive hint hs hmessages htrace harrive

/-! ## Two channels -/

/-- Chunks of two bytes on two channels. -/
def twoChannels : rdpSettings where
  channels := [⟨[99, 108, 105, 112], 0, 1004⟩, ⟨[115, 110, 100], 0, 1005⟩]
  vc_chunk_size := 2

/-- The send stream behind the packet header. -/
def sendStream : STREAM := stream_set_pos (stream_new 64) 15

/-- A chunk of the second channel between two chunks of the first. -/
def mixedPackets : List (Nat × STREAM) :=
  [(1004, write_chunk sendStream 3 1 [1, 2]), (1005, write_chunk sendStream 2 3 [7, 8]),
    (1004, write_chunk sendStream 3 2 [3])]

def idleClient : rdpChannels where
  settings_channels := twoChannels.channels
  channels_data := [⟨[99, 108, 105, 112], 1, true⟩, ⟨[115, 110, 100], 2, true⟩]
  plugins := [⟨1, none, []⟩, ⟨2, none, []⟩]

def idleServer : List PeerEntry :=
  [⟨1004, some ⟨.RDP_PEER_CHANNEL_TYPE_SVC, stream_new 16, []⟩⟩,
    ⟨1005, some ⟨.RDP_PEER_CHANNEL_TYPE_SVC, stream_new 16, []⟩⟩]

theorem mixed_packets_arrive :
    let arrivals := mixedPackets.map fun p => (p.1, stream_of (payload 15 p.2))
    (∃ client', arrivals.foldlM freerdp_channel_process idleClient = some client' ∧
      ∃ plugin', pluginOf client' 1004 = some plugin' ∧
        plugin'.data_in_list = [stream_of [1, 2, 3]]) ∧
    ∃ server', arrivals.foldlM freerdp_channel_peer_process idleServer = some server' ∧
      ∃ channel', channelOf server' 1004 = some channel' ∧
        channel'.receive_queue = [[1, 2, 3]] := by
  have hdelivery := (static_channel_messages_arrive twoChannels sendStream
    [(1004, [1, 2, 3]), (1005, [7, 8])] mixedPackets ⟨by decide, by decide⟩ (by decide)
    (by decide)
    (by
      intro message hmessage
      rcases mem_pair.mp hmessage with rfl | rfl
      · exact ⟨by decide, by decide, by decide⟩
      · exact ⟨by decide, by decide, by decide⟩)
    (by
      intro c
      by_cases h₁ : c = 1004
      · subst h₁
        decide +kernel
      by_cases h₂ : c = 1005
      · subst h₂
        decide +kernel
      simp [onKey, mixedPackets, Ne.symm h₁, Ne.symm h₂])).2.2
    (mixedPackets.map fun p => (p.1, stream_of (payload 15 p.2)))
    (by
      rw [forall₂_map_right_iff]
      exact forall₂_same.mpr fun p _ => ⟨rfl, rest_stream_of _⟩)
  constructor
  · obtain ⟨client', hrun, hview⟩ := hdelivery.1 idleClient
      (by
        intro c c' handle h h'
        simp only [handleOf, idleClient, twoChannels, find?_cons, find?_nil] at h h'
        grind)
      (by decide)
    exact ⟨client', hrun, hview 1004 ⟨1, none, []⟩ (by decide)⟩
  · obtain ⟨server', hrun, hview⟩ := hdelivery.2 (by decide) idleServer
      (by
        intro message hmessage
        rcases mem_pair.mp hmessage with rfl | rfl
        · exact ⟨_, rfl, rfl, by decide⟩
        · exact ⟨_, rfl, rfl, by decide⟩)
    exact ⟨server', hrun, hview 1004 ⟨.RDP_PEER_CHANNEL_TYPE_SVC, stream_new 16, []⟩ (by decide)⟩

/-- A message of one byte more than 16 MiB, in chunks of two bytes. -/
def longMessage : Nat × List UInt8 := (1004, replicate (16 * 1024 * 1024 + 1) 0)

def longPackets : List (Nat × STREAM) :=
  (packetsOf twoChannels sendStream longMessage.1 longMessage.2).map (longMessage.1, ·)

/-- The server does not deliver it, although every packet gets through. -/
theorem long_message_does_not_arrive :
    let arrivals := longPackets.map fun p => (p.1, stream_of (payload 15 p.2))
    Sendable twoChannels longMessage ∧ Forall₂ (Arrived 15) longPackets arrivals ∧
      ¬ ServerDelivers idleServer [longMessage] arrivals := by
  intro arrivals
  have hlength : longMessage.2.length = 16 * 1024 * 1024 + 1 := length_replicate
  have hsendable : Sendable twoChannels longMessage :=
    ⟨(by decide : (twoChannels.channels.find? (·.channel_id = 1004)).isSome),
      by rw [hlength]; decide, by rw [hlength]; decide⟩
  have harrive : Forall₂ (Arrived sendStream.pos) longPackets arrivals :=
    forall₂_map_right_iff.mpr (forall₂_same.mpr fun p _ => ⟨rfl, rest_stream_of _⟩)
  refine ⟨hsendable, harrive, ?_⟩
  obtain ⟨hchunks, hcarries⟩ := message_chunks (s := sendStream)
    (by decide) (by decide) ⟨by decide, by decide⟩ hsendable
  have hread := arrivals_read (fun p hp => by
    obtain ⟨packet, hpacket, rfl⟩ := mem_map.mp hp
    obtain ⟨chunk, hcarried⟩ := hcarries packet hpacket
    exact ⟨_, chunk, hcarried⟩) harrive
  obtain ⟨-, htake⟩ | ⟨hshort, -⟩ := server_reassembles hchunks
    ⟨.RDP_PEER_CHANNEL_TYPE_SVC, stream_new 16, []⟩ [] rfl
    (collected_start (stream_new 16) (by decide))
  swap
  · rw [nil_append, hlength] at hshort
    exact absurd hshort (by decide)
  have hends := server_ends 1004 _ idleServer _ rfl htake
  rintro ⟨server', hrun, -⟩
  rw [peer_process_chunks, hread, longPackets, map_map, foldlM_map] at hrun
  rw [foldlM_map] at hends
  exact Option.some_ne_none server' (hrun.symm.trans hends)

end neutrinordp.svc
