-- The laws of the client data blocks: the server reads what the client has written, block by
-- block, and ends where the client has ended.
import CorporateClient.GccBlocks

namespace neutrinordp.gcc

open bytes codec stream unicode
open List hiding Vector

/-! ## What is written -/

/-- A block with its header. -/
def blockBytes (type : Nat) (body : List UInt8) : List UInt8 :=
  le16 type ++ (le16 (body.length + 4) ++ body)

/-- A name in a field of `size` bytes. -/
def nameBytes (name : List UInt8) (size : Nat) : List UInt8 :=
  widen (name.take (size / 2 - 1)) ++ 0 :: 0 ::
    replicate (size - 2 * (name.take (size / 2 - 1)).length - 2) 0

def versionOf (client : rdpSettings) : Nat :=
  if client.rdp_version ≥ 5 then RDP_VERSION_5_PLUS else RDP_VERSION_4

def optionBytes (client : rdpSettings) : List UInt8 :=
  le16 RNS_UD_COLOR_8BPP ++ (le16 1 ++ (le32 0 ++ (le16 (min client.color_depth.toNat 24) ++
    (le16 (core_supported_depths client) ++ (le16 (core_capability_flags client) ++
      (nameBytes client.client_product_id 64 ++
        ([UInt8.ofNat (core_connection_type client).toNat] ++
        ([UInt8.ofNat 0] ++ (le32 client.selected_protocol.toNat ++ [])))))))))

def coreBytes (client : rdpSettings) : List UInt8 :=
  le32 (versionOf client) ++ (le16 client.width.toNat ++ (le16 client.height.toNat ++
    (le16 RNS_UD_COLOR_8BPP ++ (le16 RNS_UD_SAS_DEL ++ (le32 client.kbd_layout.toNat ++
      (le32 client.client_build.toNat ++ (nameBytes client.client_hostname 32 ++
        (le32 client.kbd_type.toNat ++ (le32 client.kbd_subtype.toNat ++
          (le32 client.kbd_fn_keys.toNat ++ (replicate 64 0 ++ optionBytes client)))))))))))

def clusterFlags (client : rdpSettings) : Nat :=
  let flags := REDIRECTION_SUPPORTED ||| (REDIRECTION_VERSION4 <<< 2)
  if client.console_session ∨ client.redirected_session_id ≠ 0
  then flags ||| REDIRECTED_SESSIONID_FIELD_VALID else flags

def clusterBytes (client : rdpSettings) : List UInt8 :=
  le32 (clusterFlags client) ++ (le32 client.redirected_session_id.toNat ++ [])

/-- The security block of a client with encryption. -/
def securityBytes (client : rdpSettings) : List UInt8 :=
  le32 client.encryption_method.toNat ++ (le32 0 ++ [])

def channelBytes : List rdpChannel → List UInt8
  | [] => []
  | channel :: channels =>
    channel.name.toList ++ (le32 channel.options.toNat ++ channelBytes channels)

def networkBytes (client : rdpSettings) : List UInt8 :=
  if client.channels.val.length > 0
  then blockBytes CS_NET (le32 client.channels.val.length ++ channelBytes client.channels.val)
  else []

def monitorDefBytes : List rdp_monitor → List UInt8
  | [] => []
  | monitor :: monitors =>
    le32 monitor.x.toUInt32.toNat ++ (le32 monitor.y.toUInt32.toNat ++
      (le32 (monitor.x + monitor.width - 1).toUInt32.toNat ++
        (le32 (monitor.y + monitor.height - 1).toUInt32.toNat ++
          (le32 (if monitor.is_primary then MONITOR_PRIMARY else 0) ++ monitorDefBytes monitors))))

def monitorBytes (client : rdpSettings) : List UInt8 :=
  if client.negotiationFlags ≠ 0 ∧ client.monitors.val.length > 1
  then blockBytes CS_MONITOR (le32 0 ++ (le32 client.monitors.val.length ++
    monitorDefBytes client.monitors.val))
  else []

def clientBytes (client : rdpSettings) : List UInt8 :=
  blockBytes CS_CORE (coreBytes client) ++ (blockBytes CS_CLUSTER (clusterBytes client) ++
    (blockBytes CS_SECURITY (securityBytes client) ++ (networkBytes client ++
      (monitorBytes client ++ []))))

/-! ### Lengths -/

theorem length_nameBytes (name : Bytes) {size : Nat} (heven : size % 2 = 0)
    (hsize : 2 ≤ size) : (nameBytes name size).length = size := by
  simp only [nameBytes, length_append, length_widen, length_cons, length_replicate, length_take]
  omega

theorem length_coreBytes (client : rdpSettings) : (coreBytes client).length = 212 := by
  have hhost : (nameBytes client.client_hostname 32).length = 32 :=
    length_nameBytes _ rfl (by decide)
  have hproduct : (nameBytes client.client_product_id 64).length = 64 :=
    length_nameBytes _ rfl (by decide)
  simp [coreBytes, optionBytes, hhost, hproduct, length_le32]

theorem length_channelBytes (channels : List rdpChannel) :
    (channelBytes channels).length = 12 * channels.length := by
  induction channels with
  | nil => rfl
  | cons channel channels ih =>
    simp only [channelBytes, length_append, Vector.length_toList, length_le32, ih, length_cons]
    omega

theorem length_monitorDefBytes (monitors : List rdp_monitor) :
    (monitorDefBytes monitors).length = 20 * monitors.length := by
  induction monitors with
  | nil => rfl
  | cons monitor monitors ih =>
    simp only [monitorDefBytes, length_append, length_le32, ih, length_cons]
    omega

/-! ### The writers -/

theorem emits_header (type length : Nat) :
    Emits (gcc_write_user_data_header type length) (le16 type ++ le16 length) ⟨⟩ := by
  exact .uint16 fun _ _ => rfl

variable {client server : rdpSettings} {type : Nat}

theorem emits_block {β : Type} {w : β} {length : Nat} {m : PUnit → Fallible β} {body : Bytes}
    (hlength : body.length + 4 = length) (h : Emits (m ⟨⟩) body w) :
    Emits (gcc_write_user_data_header type length >>= m) (blockBytes type body) w := by
  have hblock := (emits_header type length).bind h
  unfold blockBytes
  rw [hlength]
  exact hblock

theorem emits_name (name : Bytes) {size : Nat} (heven : size % 2 = 0) (hsize : 2 ≤ size) :
    Emits (write_name (widen name) size) (nameBytes name size) ⟨⟩ := by
  have hcut : (if (widen name).length > size - 2 then size - 2 else (widen name).length) =
      2 * (name.take (size / 2 - 1)).length := by
    rw [length_widen, length_take]
    split <;> omega
  have htake : (widen name).take (2 * (name.take (size / 2 - 1)).length) =
      widen (name.take (size / 2 - 1)) := by
    rw [widen_take, length_take, ← take_take, take_length]
  have hzeros : widen (name.take (size / 2 - 1)) ++ 0 :: 0 ::
      replicate (size - 2 * (name.take (size / 2 - 1)).length - 2) 0 =
      (widen (name.take (size / 2 - 1)) ++ [0, 0]) ++
        replicate (size - 2 * (name.take (size / 2 - 1)).length - 2) 0 := by simp
  unfold write_name nameBytes
  dsimp only
  rw [hcut, htake, hzeros]
  exact .bytes fun _ _ => rfl

/-- A text for a field of 32 bytes. -/
def FitsField (str : List UInt8) : Prop := Ascii str ∧ str.length < 32

theorem emits_core (hhost : FitsField client.client_hostname)
    (hproduct : FitsField client.client_product_id) :
    Emits (gcc_write_client_core_data client) (blockBytes CS_CORE (coreBytes client)) ⟨⟩ := by
  have hout : ∀ {str : Bytes}, FitsField str →
      freerdp_uniconv_out (some str) = some (widen str) := fun h =>
    freerdp_uniconv_out_ascii h.1 (by dsimp only [Option.getD]; have := h.2; omega)
  have hname := hout hhost
  have hid := hout hproduct
  refine emits_block (by rw [length_coreBytes]) ?_
  exact .some hname <| .some hid <| .uint32 <| .uint16 <| .uint16 <| .uint16 <| .uint16 <|
    .uint32 <| .uint32 <| .bind (emits_name _ rfl (by decide)) <| .uint32 <| .uint32 <| .uint32 <|
    .bytes <| .uint16 <| .uint16 <| .uint32 <| .uint16 <| .uint16 <| .uint16 <|
    .bind (emits_name _ rfl (by decide)) <| .uint8 <| .uint8 <| .uint32_end

theorem emits_cluster (client : rdpSettings) :
    Emits (gcc_write_client_cluster_data client) (blockBytes CS_CLUSTER (clusterBytes client))
      ⟨⟩ := by
  refine emits_block rfl ?_
  exact .uint32 .uint32_end

theorem emits_security (hencryption : client.encryption = true) :
    Emits (gcc_write_client_security_data client) (blockBytes CS_SECURITY (securityBytes client))
      ⟨⟩ := by
  refine emits_block rfl ?_
  rw [if_pos hencryption]
  exact .uint32 .uint32_end

theorem emits_channel_defs (channels : List rdpChannel) :
    Emits (write_channel_defs channels) (channelBytes channels) ⟨⟩ := by
  induction channels with
  | nil => exact .pure _
  | cons channel channels ih => exact .bytes <| .uint32 ih

theorem emits_network (client : rdpSettings) :
    Emits (gcc_write_client_network_data client) (networkBytes client) ⟨⟩ := by
  unfold gcc_write_client_network_data networkBytes
  dsimp only
  split
  · refine emits_block ?_ <| .uint32 (emits_channel_defs _)
    rw [length_append, length_le32, length_channelBytes]
    omega
  · exact .pure _

theorem emits_monitor_defs (monitors : List rdp_monitor) :
    Emits (write_monitor_defs monitors) (monitorDefBytes monitors) ⟨⟩ := by
  induction monitors with
  | nil => exact .pure _
  | cons monitor monitors ih => exact .uint32 <| .uint32 <| .uint32 <| .uint32 <| .uint32 ih

theorem emits_monitor (client : rdpSettings) :
    Emits (if client.negotiationFlags ≠ 0 then gcc_write_client_monitor_data client
      else pure ⟨⟩) (monitorBytes client) ⟨⟩ := by
  unfold gcc_write_client_monitor_data monitorBytes
  by_cases hflags : client.negotiationFlags ≠ 0
  · rw [if_pos hflags]
    by_cases hmany : client.monitors.val.length > 1
    · rw [if_pos hmany, if_pos ⟨hflags, hmany⟩]
      refine emits_block ?_ <| .uint32 <| .uint32 (emits_monitor_defs _)
      rw [length_append, length_append, length_le32, length_le32, length_monitorDefBytes]
      omega
    · rw [if_neg hmany, if_neg fun h => hmany h.2]
      exact .pure _
  · rw [if_neg hflags, if_neg fun h => hflags h.1]
    exact .pure _

theorem emits_client (hhost : FitsField client.client_hostname)
    (hproduct : FitsField client.client_product_id) (hencryption : client.encryption = true) :
    Emits (gcc_write_client_data_blocks client) (clientBytes client) ⟨⟩ := by
  unfold gcc_write_client_data_blocks clientBytes
  rw [append_nil]
  exact .bind (emits_core hhost hproduct) <| .bind (emits_cluster client) <|
    .bind (emits_security hencryption) <| .bind (emits_network client) <| emits_monitor client

/-! ## What is read -/

theorem name_read {name : Bytes} (hascii : Ascii name) (size : Nat) :
    cstr (uniconv_in (nameBytes name size)) = name.take (size / 2 - 1) :=
  cstr_in_widen_zero (ascii_take hascii _) _

/-- The settings of the server after the core block. -/
def readCore (client server : rdpSettings) : rdpSettings :=
  { server with
    rdp_version := if versionOf client = RDP_VERSION_4 then 4 else 7
    width := client.width
    height := client.height
    kbd_layout := client.kbd_layout
    client_build := client.client_build
    client_hostname := client.client_hostname.take 15
    kbd_type := client.kbd_type
    kbd_subtype := client.kbd_subtype
    kbd_fn_keys := client.kbd_fn_keys
    client_product_id := client.client_product_id.take 31
    performance_flags := (core_connection_type client).toUInt32
    color_depth := .ofNat (min client.color_depth.toNat 24) }

theorem consumes_core_options (hproduct : Ascii client.client_product_id)
    (hprotocol : server.selected_protocol = client.selected_protocol) :
    Consumes (read_core_options server 84) (optionBytes client)
      ⟨RNS_UD_COLOR_8BPP, min client.color_depth.toNat 24, { server with
        client_product_id := client.client_product_id.take 31
        performance_flags := (core_connection_type client).toUInt32 }⟩ := by
  have hdepth : min client.color_depth.toNat 24 % 65536 = min client.color_depth.toNat 24 := by
    omega
  have hname : (cstr (uniconv_in (nameBytes client.client_product_id 64))).take 31 =
      client.client_product_id.take 31 := by
    rw [name_read hproduct, take_take]
    rfl
  have hsame : ¬ server.selected_protocol.toNat ≠
      client.selected_protocol.toNat % 4294967296 := by
    rw [hprotocol, Nat.mod_eq_of_lt client.selected_protocol.toNat_lt]
    exact not_not.mpr rfl
  refine .goOn (by decide) <| .uint16 <| .goOn (by decide) <| .skip rfl <| .goOn (by decide) <|
    .skip rfl <| .goOn (by decide) <| .uint16 <| .goOn (by decide) <| .uint16 <|
    .goOn (by decide) <| .uint16 <| .goOn (by decide) <|
    .block (length_nameBytes _ rfl (by decide)) <| .goOn (by decide) <| .uint8 <|
    .goOn (by decide) <| .skip rfl <| .goOn (by decide) <| .uint32 <| .refuse hsame <| .pure_eq ?_
  rw [hdepth, hname, UInt8.ofNat_toNat]
  rfl

theorem consumes_core (hhost : Ascii client.client_hostname)
    (hproduct : Ascii client.client_product_id) (hwidth : client.width < 65536)
    (hheight : client.height < 65536) (hdepth : 1 ≤ client.color_depth)
    (hprotocol : server.selected_protocol = client.selected_protocol) :
    Consumes (gcc_read_client_core_data server 212) (coreBytes client)
      (readCore client server) := by
  have hshort : ∀ x : UInt32, x < 65536 → UInt32.ofNat (x.toNat % 65536) = x := by
    intro x hx
    have hx : x.toNat < 65536 := UInt32.lt_iff_toNat_lt.mp hx
    rw [Nat.mod_eq_of_lt hx, UInt32.ofNat_toNat]
  have hname : (cstr (uniconv_in (nameBytes client.client_hostname 32))).take 31 =
      client.client_hostname.take 15 := by
    rw [name_read hhost, take_take]
    rfl
  have hpositive : min client.color_depth.toNat 24 > 0 := by
    have hdepth : 1 ≤ client.color_depth.toNat := hdepth
    omega
  have hversion : versionOf client % 4294967296 = versionOf client := by
    unfold versionOf
    split <;> rfl
  unfold gcc_read_client_core_data coreBytes
  rw [← append_nil (optionBytes client)]
  refine .refuse (by decide) <| .uint32 <| .uint16 <| .uint16 <| .uint16 <| .skip rfl <|
    .uint32 <| .uint32 <| .block (length_nameBytes _ rfl (by decide)) <| .uint32 <| .uint32 <|
    .uint32 <| .skip length_replicate <| .bind (consumes_core_options hproduct hprotocol) <|
    .some (if_pos hpositive) <| .pure_eq ?_
  simp [readCore, hshort _ hwidth, hshort _ hheight, hname, hversion]

theorem consumes_security (client server : rdpSettings) (hencryption : server.encryption = true) :
    ∃ used unused, securityBytes client = used ++ unused ∧
      Consumes (gcc_read_client_security_data server 8) used
        { server with encryption_method := client.encryption_method } := by
  unfold gcc_read_client_security_data
  rw [if_pos hencryption]
  by_cases hzero : client.encryption_method = 0
  · refine ⟨securityBytes client, [], (append_nil _).symm, ?_⟩
    unfold securityBytes
    rw [hzero]
    exact .refuse (by decide) <| .uint32 <| .uint32 <| .pure_eq rfl
  · have hmethod : ¬ client.encryption_method.toNat % 4294967296 = 0 := by
      rw [Nat.mod_eq_of_lt client.encryption_method.toNat_lt]
      exact fun h => hzero (UInt32.toNat_inj.mp h)
    refine ⟨le32 client.encryption_method.toNat ++ [], le32 0 ++ [], ?_, ?_⟩
    · rw [append_nil]
      rfl
    · refine .refuse (by decide) <| .uint32 <| .goOn hmethod <| .pure_eq ?_
      rw [uint32_read]

theorem consumes_cluster (client server : rdpSettings) :
    Consumes (gcc_read_client_cluster_data server 8) (clusterBytes client)
      { server with redirected_session_id := client.redirected_session_id } := by
  have hflags : clusterFlags client % 4294967296 ||| REDIRECTED_SESSIONID_FIELD_VALID ≠ 0 := by
    unfold clusterFlags
    split <;> decide
  refine .refuse (by decide) <| .uint32 ?_
  rw [if_pos hflags]
  refine .uint32 <| .pure_eq ?_
  rw [uint32_read]

/-! ### Channels -/

theorem takes_array {n : Nat} (v : Vector UInt8 n) : Takes (stream_read_array n) v.toList v := by
  intro s rest hs
  unfold stream_read_array
  rw [Vector.length_toList]
  congr 1
  ext i hi
  rw [Vector.getElem_ofFn]
  have hbyte : v.toList[i]? = some v[i] := by simp [hi]
  exact congrArg UInt8.toNat (hs.byte i hbyte)

/-- What a server knows of a channel. -/
def rdpChannel.definition (channel : rdpChannel) : Vector UInt8 8 × UInt32 :=
  (channel.name, channel.options)

theorem takes_channel_defs (channels : List rdpChannel) (i : Nat) :
    ∃ read : List.Vector rdpChannel channels.length,
      Takes (read_channel_defs channels.length i) (channelBytes channels) read ∧
      read.toList.map rdpChannel.definition = channels.map rdpChannel.definition := by
  induction channels generalizing i with
  | nil => exact ⟨.nil, .pure _, rfl⟩
  | cons channel channels ih =>
    obtain ⟨read, htakes, hread⟩ := ih (i + 1)
    refine ⟨.cons ⟨channel.name, channel.options, MCS_GLOBAL_CHANNEL_ID + 1 + i⟩ read, ?_, ?_⟩
    · unfold read_channel_defs channelBytes
      rw [← append_nil (channelBytes channels)]
      refine .bind (takes_array channel.name) <| .uint32 <| .bind htakes <| .pure_eq ?_
      rw [uint32_read]
    · rw [List.Vector.toList_cons, map_cons, map_cons, hread]
      rfl

theorem consumes_network (client server : rdpSettings) :
    ∃ channels : Places rdpChannel,
      Consumes (gcc_read_client_network_data server (12 * client.channels.val.length + 4))
        (le32 client.channels.val.length ++ channelBytes client.channels.val)
        { server with channels } ∧
      channels.val.map rdpChannel.definition = client.channels.val.map rdpChannel.definition := by
  obtain ⟨read, htakes, hread⟩ := takes_channel_defs client.channels.val 0
  have hcount := client.channels.property
  have hmod : client.channels.val.length % 4294967296 = client.channels.val.length := by omega
  refine ⟨⟨read.toList, by rw [read.toList_length]; exact hcount⟩, ?_, hread⟩
  refine .refuse (by omega) <| .uint32 ?_
  rw [hmod]
  refine .refuse (by omega) ?_
  rw [dif_neg (Nat.not_lt.mpr hcount), ← append_nil (channelBytes _)]
  exact .bind (.lift htakes) (.pure _)

/-! ## The loop -/

/-- The server has read all the blocks in the bytes `bs`. -/
def Reading (turns : Nat) (server : rdpSettings) (bs : List UInt8) (server' : rdpSettings) : Prop :=
  Consumes (gcc_read_client_data_blocks turns server bs.length) bs server'

theorem Reading.done (turns : Nat) (server : rdpSettings) :
    Reading (turns + 1) server [] server := by
  exact .pure server

theorem read_header {s : STREAM} {length : Nat} {rest : Bytes}
    (hs : Rest s (le16 type ++ (le16 length ++ rest))) :
    gcc_read_user_data_header s = ((!(length % 65536 < 4 ||
      (rest.length : Int) < (length % 65536 : Nat) - 4), type % 65536, length % 65536),
        stream_seek s 4) := by
  have hrest := (hs.seek rfl).seek rfl
  unfold gcc_read_user_data_header
  rw [run_bind (takes_uint16 s _ hs), run_bind (takes_uint16 _ _ (hs.seek rfl)), ← hrest.get_left]
  rfl

theorem Reading.block {turns : Nat} {server' server'' : rdpSettings}
    {body used unused rest : Bytes} (htype : type < 65536) (hbody : body = used ++ unused)
    (hshort : body.length + 4 < 65536)
    (hblock : Consumes (gcc_read_client_block server type body.length) used server')
    (hrest : Reading turns server' rest server'') :
    Reading (turns + 1) server (blockBytes type body ++ rest) server'' := by
  intro s tail hs
  have hlength : (blockBytes type body).length = body.length + 4 := by
    simp only [blockBytes, length_append, length_le16]
    omega
  have htotal : ((blockBytes type body ++ rest).length : Int) = body.length + 4 + rest.length := by
    rw [length_append, hlength]
    omega
  have hcount : (body.length + 4 + 65532) % 65536 = body.length := by omega
  rw [append_assoc] at hs
  have hheader : Rest s (le16 type ++ (le16 (body.length + 4) ++ (body ++ (rest ++ tail)))) := by
    simpa only [blockBytes, append_assoc] using hs
  have hread := read_header hheader
  rw [Nat.mod_eq_of_lt htype, Nat.mod_eq_of_lt hshort] at hread
  have hused : Rest (stream_seek s 4) (used ++ (unused ++ (rest ++ tail))) := by
    rw [← append_assoc, ← hbody]
    exact (hheader.seek rfl).seek rfl
  have hbehind : Rest (stream_seek s (body.length + 4)) (rest ++ tail) := hs.seek hlength
  unfold gcc_read_client_data_blocks
  rw [if_pos (by omega), fallible_get, fallible_bind (congrArg some hread)]
  dsimp only
  rw [hcount, fallible_bind (hblock _ _ hused), fallible_modify]
  -- The position goes to the end of the block, wherever the reader has stopped.
  have hpos : stream_set_pos (stream_seek (stream_seek s 4) used.length)
      (stream_get_pos s + (body.length + 4)) = stream_seek s (body.length + 4) := rfl
  have hleft : ((blockBytes type body ++ rest).length : Int) - (body.length + 4 : Nat) =
      rest.length := by omega
  rw [hpos, hleft, hrest _ tail hbehind, length_append, hlength]
  simp [stream_seek, Nat.add_assoc]

theorem reading_monitor (turns : Nat) (client server : rdpSettings) :
    Reading (turns + 2) server (monitorBytes client ++ []) server := by
  have hcount := client.monitors.property
  unfold monitorBytes
  split
  · refine .block (by decide) (nil_append _).symm ?_ (.pure server) (.done turns server)
    simp only [length_append, length_le32, length_monitorDefBytes]
    omega
  · exact .done _ server

theorem reading_network (client server : rdpSettings)
    (hempty : client.channels.val = [] → server.channels.val = []) :
    ∃ channels : Places rdpChannel,
      (∀ turns, Reading (turns + 3) server (networkBytes client ++ (monitorBytes client ++ []))
        { server with channels }) ∧
      channels.val.map rdpChannel.definition = client.channels.val.map rdpChannel.definition := by
  have hcount := client.channels.property
  have hlength : (le32 client.channels.val.length ++ channelBytes client.channels.val).length =
      12 * client.channels.val.length + 4 := by
    rw [length_append, length_le32, length_channelBytes]
    omega
  unfold networkBytes
  split
  · obtain ⟨channels, hread, hsame⟩ := consumes_network client server
    refine ⟨channels, fun turns => ?_, hsame⟩
    refine .block (by decide) (append_nil _).symm (by omega) ?_
      (reading_monitor turns client _)
    rw [hlength]
    exact hread
  · rename_i hnone
    have hnone := eq_nil_of_length_eq_zero (Nat.eq_zero_of_not_pos hnone)
    refine ⟨server.channels, fun turns => reading_monitor _ client server, ?_⟩
    rw [hnone, hempty hnone]

/-! ## The round trip -/

/-- The settings that a client may send: the strings are ASCII, the size of the desktop has 16
bits, and encryption is on. -/
structure Sendable (client : rdpSettings) : Prop where
  encryption : client.encryption = true
  client_hostname : FitsField client.client_hostname
  client_product_id : FitsField client.client_product_id
  width : client.width < 65536
  height : client.height < 65536
  color_depth : 1 ≤ client.color_depth

/-- The server that waits for the blocks: it has negotiated the same protocol, has encryption
on, and has no channels of another client. -/
structure Awaits (client server : rdpSettings) : Prop where
  selected_protocol : server.selected_protocol = client.selected_protocol
  encryption : server.encryption = true
  channels : client.channels.val = [] → server.channels.val = []

/-- What the server knows of the client afterwards. -/
structure Recovered (client server' : rdpSettings) : Prop where
  width : server'.width = client.width
  height : server'.height = client.height
  kbd_layout : server'.kbd_layout = client.kbd_layout
  kbd_type : server'.kbd_type = client.kbd_type
  kbd_subtype : server'.kbd_subtype = client.kbd_subtype
  kbd_fn_keys : server'.kbd_fn_keys = client.kbd_fn_keys
  client_build : server'.client_build = client.client_build
  client_hostname : server'.client_hostname = client.client_hostname.take 15
  client_product_id : server'.client_product_id = client.client_product_id.take 31
  color_depth : server'.color_depth.toNat = min client.color_depth.toNat 24
  encryption_method : server'.encryption_method = client.encryption_method
  redirected_session_id : server'.redirected_session_id = client.redirected_session_id
  channels : server'.channels.val.map rdpChannel.definition =
    client.channels.val.map rdpChannel.definition

theorem reading_client (hclient : Sendable client) (hserver : Awaits client server) :
    ∃ server', Recovered client server' ∧
      ∀ turns, Reading (turns + 6) server (clientBytes client) server' := by
  have hcore : Consumes (gcc_read_client_core_data server 212) (coreBytes client)
      (readCore client server) :=
    consumes_core hclient.client_hostname.1 hclient.client_product_id.1 hclient.width hclient.height
      hclient.color_depth hserver.selected_protocol
  have hcluster := consumes_cluster client (readCore client server)
  obtain ⟨used, unused, hbytes, hsecurity⟩ := consumes_security client
    { readCore client server with redirected_session_id := client.redirected_session_id }
    hserver.encryption
  obtain ⟨channels, hrest, hsame⟩ := reading_network client { readCore client server with
    redirected_session_id := client.redirected_session_id
    encryption_method := client.encryption_method } hserver.channels
  refine ⟨_, ?_, fun turns => .block (by decide) (append_nil _).symm ?_ ?_ <|
    .block (by decide) (append_nil _).symm (Nat.le_of_ble_eq_true rfl) hcluster <|
    .block (by decide) hbytes (Nat.le_of_ble_eq_true rfl) hsecurity (hrest turns)⟩
  · refine ⟨rfl, rfl, rfl, rfl, rfl, rfl, rfl, rfl, rfl, ?_, rfl, rfl, hsame⟩
    have hdepth : min client.color_depth.toNat 24 < 2 ^ 32 := by omega
    exact UInt32.toNat_ofNat_of_lt' hdepth
  · rw [length_coreBytes]
    decide
  · rw [length_coreBytes]
    exact hcore

/-- The server reads the blocks that the client has written: it ends behind the last of them and
knows the client. Six turns are enough for the loop. -/
def RoundTrip (client server : rdpSettings) : Prop :=
  ∃ bytes, (∀ s : STREAM, s.pos ≤ s.data.length →
    gcc_write_client_data_blocks client s = some (⟨⟩, stream_write s bytes)) ∧
  ∃ server', Recovered client server' ∧ ∀ turns (s : STREAM) tail, Rest s (bytes ++ tail) →
    gcc_read_client_data_blocks (turns + 6) server bytes.length s =
      some (server', stream_seek s bytes.length)

theorem client_data_blocks_are_recovered (client server : rdpSettings) (hclient : Sendable client)
    (hserver : Awaits client server) : RoundTrip client server := by
  refine ⟨clientBytes client, emits_client hclient.client_hostname hclient.client_product_id
    hclient.encryption, ?_⟩
  obtain ⟨server', hrecovered, hreading⟩ := reading_client hclient hserver
  exact ⟨server', hrecovered, hreading⟩

/-- A desktop of 1280 by 1024 with the channels `rdpdr` and `cliprdr`. -/
def desktopSettings : rdpSettings where
  width := 1280
  height := 1024
  rdp_version := 5
  color_depth := 32
  kbd_layout := 0x409
  kbd_type := 4
  kbd_subtype := 0
  kbd_fn_keys := 12
  client_build := 3790
  selected_protocol := 0
  encryption_method := 0x1B
  negotiationFlags := 1
  performance_flags := 0
  encryption := true
  console_session := false
  redirected_session_id := 7
  connection_type := 0
  client_hostname := [69, 76, 84, 79, 78, 83, 45, 68, 69, 86, 50]
  client_product_id := [54, 57, 55, 49, 50]
  rfx_codec := false
  channels := ⟨[⟨#v[114, 100, 112, 100, 114, 0, 0, 0], 0x80800000, 0⟩,
    ⟨#v[99, 108, 105, 112, 114, 100, 114, 0], 0xc0A00000, 0⟩], by decide⟩
  monitors := ⟨[], by decide⟩

/-- A server that has seen no client. -/
def waitingSettings : rdpSettings where
  width := 0
  height := 0
  rdp_version := 7
  color_depth := 16
  kbd_layout := 0
  kbd_type := 0
  kbd_subtype := 0
  kbd_fn_keys := 0
  client_build := 0
  selected_protocol := 0
  encryption_method := 0
  negotiationFlags := 0
  performance_flags := 0
  encryption := true
  console_session := false
  redirected_session_id := 0
  connection_type := 0
  client_hostname := []
  client_product_id := []
  rfx_codec := false
  channels := ⟨[], by decide⟩
  monitors := ⟨[], by decide⟩

theorem sendable_desktop (selected_protocol : UInt32) :
    Sendable { desktopSettings with selected_protocol } :=
  ⟨rfl, by simp [FitsField, Ascii, desktopSettings], by simp [FitsField, Ascii, desktopSettings],
    (by decide : desktopSettings.width < 65536), (by decide : desktopSettings.height < 65536),
    (by decide : 1 ≤ desktopSettings.color_depth)⟩

theorem desktop_blocks_are_recovered : RoundTrip desktopSettings waitingSettings :=
  client_data_blocks_are_recovered desktopSettings waitingSettings (sendable_desktop 0)
    ⟨rfl, rfl, fun _ => rfl⟩

/-- A desktop that has negotiated TLS, and the server that `nego.c` has left without
encryption then. -/
def tlsDesktop : rdpSettings := { desktopSettings with selected_protocol := 1 }

def tlsServer : rdpSettings :=
  { waitingSettings with selected_protocol := 1, encryption := false }

/-- The server skips the encryption method of the client. -/
theorem tls_server_skips_the_method : Sendable tlsDesktop ∧
    tlsServer.selected_protocol = tlsDesktop.selected_protocol ∧
    ¬ RoundTrip tlsDesktop tlsServer := by
  have hclient : Sendable tlsDesktop := sendable_desktop 1
  refine ⟨hclient, rfl, ?_⟩
  rintro ⟨bytes, hwrite, server', hrecovered, hread⟩
  have hsame := (hwrite (stream_of []) (Nat.le_refl 0)).symm.trans (emits_client
    hclient.client_hostname hclient.client_product_id hclient.encryption (stream_of [])
    (Nat.le_refl 0))
  have hbytes : bytes = clientBytes tlsDesktop := by
    injection hsame with hsame
    simpa [stream_write, stream_of, patch] using congrArg (·.2.data) hsame
  have hresult := hread 0 (stream_of bytes) [] (by rw [append_nil]; exact rest_stream_of bytes)
  rw [hbytes] at hresult
  have hmethod : (gcc_read_client_data_blocks 6 tlsServer (clientBytes tlsDesktop).length
      (stream_of (clientBytes tlsDesktop))).map (·.1.encryption_method) = some 0 := by
    decide +kernel
  rw [hresult, Option.map_some, hrecovered.encryption_method] at hmethod
  exact absurd hmethod (by decide)

end neutrinordp.gcc
