-- The connection of the client (connection.c, activation.c, rdp.c): `rdp_recv_callback` gets
-- each packet of the server and hands it to the code of the state that the connection is in,
-- from the first answer of the server to the running session.
import CorporateClient.SlowPath

namespace neutrinordp.connection

open stream headers security packet update slowpath

def DomainMCSPDU_AttachUserConfirm : Nat := 11
def DomainMCSPDU_ChannelJoinRequest : Nat := 14
def DomainMCSPDU_ChannelJoinConfirm : Nat := 15

def SEC_INFO_PKT : Nat := 0x0040

def PDU_TYPE_DEMAND_ACTIVE : Nat := 0x1

def CTRLACTION_GRANTED_CONTROL : Nat := 0x0002
def CTRLACTION_COOPERATE : Nat := 0x0004

def FINALIZE_SC_SYNCHRONIZE_PDU : UInt32 := 0x01
def FINALIZE_SC_CONTROL_COOPERATE_PDU : UInt32 := 0x02
def FINALIZE_SC_CONTROL_GRANTED_PDU : UInt32 := 0x04
def FINALIZE_SC_FONT_MAP_PDU : UInt32 := 0x08
def FINALIZE_SC_COMPLETE : UInt32 := 0x0F

/-! ## The state -/

/-- The PDUs of the server that end the start of a session. -/
inductive FinalizationPdu
  | synchronize | control_cooperate | control_granted | font_map
deriving Repr, DecidableEq

/-- What the handlers of the share PDUs work on. `received` is not in the code: it holds the
finalization PDUs since the last Demand Active PDU. A Control PDU that is too short to hold
its action is none of them. `user` is the rest of the client. -/
structure Session (κ : Type) where
  finalize_sc_pdus : UInt32
  received : List FinalizationPdu
  user : κ
deriving Repr, DecidableEq

/-- A static channel of the settings. -/
structure rdpChannel where
  channel_id : Nat
  joined : Bool
deriving Repr, DecidableEq

structure rdpMcs where
  user_channel_joined : Bool
  global_channel_joined : Bool
deriving Repr, DecidableEq

/-- The parts of the client that a connection needs. The user id of MCS is in `rdp`. The
last four fields before `sent` are settings. `sent` is not in the code: it holds the join
requests that were written. -/
structure Connection (C : Crypto) (κ : Type) where
  rdp : rdpRdp C
  client : Client (Session κ)
  mcs : rdpMcs
  channels : List rdpChannel
  encryption : Bool
  secure_checksum : Bool
  server_random : List UInt8
  sent : List (List UInt8)

/-- What the first answer of the server sets. `plain`: the server wants no encryption. -/
structure ServerData where
  channel_ids : List Nat
  plain : Bool
  encryption_method : Nat
  server_random : List UInt8

inductive LicenseResult
  | failed | aborted | completed | pending
deriving Repr, DecidableEq

/-- The code around the connection. A redirection starts a connection of its own, and is
only seen as a change of the rest of the client here. The fast path brings updates only.
`confirm_active` is all that is sent after a Demand Active PDU, with the calls to the user
interface. -/
structure Environment (C : Crypto) (κ : Type) extends UpdateCallbacks κ where
  rdp_recv_save_session_info : STREAM → κ → κ
  rdp_recv_enhanced_security_redirection_packet : STREAM → κ → κ
  freerdp_channel_process : STREAM → Nat → κ → κ
  decompress_rdp : STREAM → Int → UInt8 → κ → Option STREAM × κ
  rdp_recv_fastpath_pdu : STREAM → rdpRdp C → κ → Option (Bool × rdpRdp C × κ)
  mcs_recv_connect_response : STREAM → κ → Option ServerData × κ
  license_recv : STREAM → rdpRdp C → κ → LicenseResult × rdpRdp C × κ
  rdp_read_capability_sets : STREAM → Nat → κ → Bool × κ
  rdp_write_info_packet : STREAM → κ → STREAM
  confirm_active : rdpRdp C → κ → rdpRdp C × κ

/-- What happens while one packet is handled: which of the writes to the network succeed,
the random number of the client, and what the variable `action` holds before it is set. -/
structure Turn where
  writes : Nat → Bool
  client_random : List UInt8
  action : Nat

section

variable {C : Crypto} {κ : Type}

def Connection.session (c : Connection C κ) : Session κ := c.client.update.context

def Connection.with_session (c : Connection C κ) (session : Session κ) : Connection C κ :=
  { c with client := c.client.with_context session }

def Connection.with_user (c : Connection C κ) (user : κ) : Connection C κ :=
  c.with_session { c.session with user }

def Connection.with_state (c : Connection C κ) (state : ConnectionState) : Connection C κ :=
  { c with client := { c.client with state } }

/-! ## Finalization PDUs -/

/-- A finalization PDU sets its bit. -/
def Session.finalize (session : Session κ) (bit : UInt32) (pdus : List FinalizationPdu) :
    Session κ :=
  { session with
    finalize_sc_pdus := session.finalize_sc_pdus ||| bit
    received := session.received ++ pdus }

def rdp_recv_client_synchronize_pdu (s : STREAM) (session : Session κ) : Bool × Session κ :=
  let session := session.finalize FINALIZE_SC_SYNCHRONIZE_PDU [.synchronize]
  if stream_get_left s < 4 then (false, session)
  else
    let (messageType, _) := stream_read_uint16 s
    (messageType = 1, session)

def rdp_recv_control_pdu (action : Nat) (s : STREAM) : Nat :=
  if stream_get_left s < 8 then action else (stream_read_uint16 s).1

def rdp_recv_server_control_pdu (action : Nat) (s : STREAM) (session : Session κ) : Session κ :=
  let action := rdp_recv_control_pdu action s
  if action = CTRLACTION_COOPERATE then
    session.finalize FINALIZE_SC_CONTROL_COOPERATE_PDU
      (if stream_get_left s < 8 then [] else [.control_cooperate])
  else if action = CTRLACTION_GRANTED_CONTROL then
    session.finalize FINALIZE_SC_CONTROL_GRANTED_PDU
      (if stream_get_left s < 8 then [] else [.control_granted])
  else session

def rdp_recv_client_font_map_pdu (_s : STREAM) (session : Session κ) : Session κ :=
  session.finalize FINALIZE_SC_FONT_MAP_PDU [.font_map]

/-- A function on the rest of the client. -/
def Session.over (f : κ → κ) (session : Session κ) : Session κ :=
  { session with user := f session.user }

variable (env : Environment C κ)

/-- The updates of the server work on the rest of the client. -/
def updateCallbacks : UpdateCallbacks (Session κ) where
  BeginPaint := Session.over env.BeginPaint
  EndPaint := Session.over env.EndPaint
  Synchronize := Session.over env.Synchronize
  BitmapUpdate u := Session.over (env.BitmapUpdate u)
  Palette u := Session.over (env.Palette u)
  PlaySound u := Session.over (env.PlaySound u)
  PointerPosition u := Session.over (env.PointerPosition u)
  PointerSystem u := Session.over (env.PointerSystem u)
  PointerColor u := Session.over (env.PointerColor u)
  PointerNew u := Session.over (env.PointerNew u)
  PointerCached u := Session.over (env.PointerCached u)
  update_recv_order session s :=
    (env.update_recv_order session.user s).map fun (user, s) => ({ session with user }, s)

/-- The handlers of the share PDUs. -/
def handlers (turn : Turn) : Handlers (Session κ) where
  toUpdateCallbacks := updateCallbacks env
  rdp_recv_server_control_pdu := rdp_recv_server_control_pdu turn.action
  rdp_recv_synchronize_pdu s session := (rdp_recv_client_synchronize_pdu s session).2
  rdp_recv_save_session_info s := Session.over (env.rdp_recv_save_session_info s)
  rdp_recv_font_map_pdu := rdp_recv_client_font_map_pdu
  rdp_recv_enhanced_security_redirection_packet s :=
    Session.over (env.rdp_recv_enhanced_security_redirection_packet s)
  freerdp_channel_process s channelId := Session.over (env.freerdp_channel_process s channelId)
  decompress_rdp s length type session :=
    let (comp_stream, user) := env.decompress_rdp s length type session.user
    (comp_stream, { session with user })

/-! ## Packets of a session -/

/-- `none` is a fault. -/
def rdp_recv_pdu (fuel : Nat) (turn : Turn) (c : Connection C κ) (s : STREAM) :
    Option (Bool × Connection C κ) :=
  if tpkt_verify_header s then
    (rdp_recv_tpkt_pdu (handlers env turn) fuel c.encryption c.rdp c.client s).map
      fun (ok, rdp, client) => (ok, { c with rdp, client })
  else
    (env.rdp_recv_fastpath_pdu s c.rdp c.session.user).map fun (ok, rdp, user) =>
      (ok, { c with rdp }.with_user user)

def rdp_recv_get_active_header (encryption : Bool) (rdp : rdpRdp C) (s : STREAM) :
    Option (Bool × STREAM × rdpRdp C) :=
  match rdp_read_header rdp s with
  | (none, s, rdp) => some (false, s, rdp)
  | (some (length, channelId), s, rdp) =>
    if rdp.disconnect then some (true, s, rdp)
    else if encryption then
      let (securityFlags, s) := rdp_read_security_header s
      if securityFlags &&& SEC_ENCRYPT ≠ 0 then
        (rdp_decrypt rdp s (length - 4) securityFlags).map fun d =>
          (d.ok && channelId == MCS_GLOBAL_CHANNEL_ID, d.stream, d.rdp)
      else some (channelId == MCS_GLOBAL_CHANNEL_ID, s, rdp)
    else some (channelId == MCS_GLOBAL_CHANNEL_ID, s, rdp)

def read_demand_active (c : Connection C κ) (s : STREAM) : Bool × STREAM × Connection C κ :=
  match rdp_read_share_control_header s with
  | ((_, none), s) => (false, s, c)
  | ((_, some (pduType, pduSource)), s) =>
    let c := { c with client := { c.client with pdu_source := pduSource } }
    if pduType ≠ PDU_TYPE_DEMAND_ACTIVE then (false, s, c)
    else
      let (share_id, s) := stream_read_uint32 s
      let c := { c with client := { c.client with share_id } }
      let (lengthSourceDescriptor, s) := stream_read_uint16 s
      let (_lengthCombinedCapabilities, s) := stream_read_uint16 s
      let s := stream_seek s lengthSourceDescriptor
      let (numberCapabilities, s) := stream_read_uint16 s
      let s := stream_seek s 2
      let (ok, user) := env.rdp_read_capability_sets s numberCapabilities c.session.user
      (ok, s, c.with_user user)

/-- The result, the stream as it was left, and the connection. -/
def rdp_recv_demand_active (c : Connection C κ) (s : STREAM) :
    Option (Bool × STREAM × Connection C κ) :=
  (rdp_recv_get_active_header c.encryption c.rdp s).map fun (ok, s, rdp) =>
    let c := { c with rdp }
    if ok = false then (false, s, c)
    else if rdp.disconnect then (true, s, c)
    else read_demand_active env c s

/-- `none` is a fault: the type of the PDU was never set, or a handler has failed. -/
def rdp_recv_out_of_sequence_pdu (fuel : Nat) (turn : Turn) (c : Connection C κ) (s : STREAM) :
    Option (Bool × Connection C κ) :=
  match rdp_read_share_control_header s with
  | ((_, none), _) => none
  | ((_, some (type, _)), s) =>
    if type = PDU_TYPE_DATA then
      (rdp_recv_data_pdu (handlers env turn) fuel c.client s).map fun (ok, client) =>
        (ok, { c with client })
    else if type = PDU_TYPE_SERVER_REDIRECTION then
      let user := env.rdp_recv_enhanced_security_redirection_packet s c.session.user
      some (true, c.with_user user)
    else some (false, c)

/-- The end of `rdp_client_connect_demand_active`, after a Demand Active PDU. -/
def activate (turn : Turn) (c : Connection C κ) : Bool × Connection C κ :=
  if c.rdp.disconnect then (true, c)
  else if turn.writes 0 = false then (false, c)
  else
    let (rdp, user) := env.confirm_active c.rdp c.session.user
    let c := { c with rdp }
    (true, (c.with_session { c.session with user, received := [] }).with_state .FINALIZATION)

def rdp_client_connect_demand_active (fuel : Nat) (turn : Turn) (c : Connection C κ)
    (s : STREAM) : Option (Bool × Connection C κ) :=
  let mark := stream_get_pos s
  match rdp_recv_demand_active env c s with
  | none => none
  | some (true, _, c) => some (activate env turn c)
  | some (false, s, c) =>
    match rdp_recv_get_active_header c.encryption c.rdp (stream_set_pos s mark) with
    | none => none
    | some (_, s, rdp) => rdp_recv_out_of_sequence_pdu env fuel turn { c with rdp } s

/-! ## MCS -/

def set_channel_ids (ids : List Nat) (channels : List rdpChannel) : List rdpChannel :=
  channels.mapIdx fun i channel => { channel with channel_id := ids.getD i channel.channel_id }

/-- The two requests that are sent here have no content. -/
def rdp_client_connect_mcs_connect_response (turn : Turn) (c : Connection C κ) (s : STREAM) :
    Bool × Connection C κ :=
  match env.mcs_recv_connect_response s c.session.user with
  | (none, user) => (false, c.with_user user)
  | (some data, user) =>
    let c := { c with
      channels := set_channel_ids data.channel_ids c.channels
      encryption := c.encryption && !data.plain
      rdp := { c.rdp with encryption_method := data.encryption_method }
      server_random := data.server_random }.with_user user
    if turn.writes 0 = false then (false, c)
    else if turn.writes 1 = false then (false, c)
    else (true, c.with_state .MCS_ATTACH_USER)

def mcs_read_domain_mcspdu_header_check (domainMCSPDU : Nat) : StateM STREAM Bool := do
  let header ← mcs_read_domain_mcspdu_header
  match header with
  | none => return false
  | some (MCSPDU, _) => return MCSPDU = domainMCSPDU

def channel_join_request (user_id channel_id : Nat) : List UInt8 :=
  let s := mcs_write_domain_mcspdu_header (stream_new 12) DomainMCSPDU_ChannelJoinRequest 12 0
  let s := per_write_integer16 s user_id MCS_BASE_CHANNEL_ID
  let s := per_write_integer16 s channel_id 0
  s.data.take (stream_get_length s)

def mcs_send_channel_join_request (written : Bool) (c : Connection C κ) (channel_id : Nat) :
    Bool × Connection C κ :=
  if written then
    (true, { c with sent := c.sent ++ [channel_join_request c.rdp.user_id channel_id] })
  else (false, c)

/-- The user id. The result of the request is not looked at, and an id that is too large
stays as it was read. -/
def mcs_recv_attach_user_confirm : StateM STREAM (Option Nat) := do
  let ok ← mcs_read_domain_mcspdu_header_check DomainMCSPDU_AttachUserConfirm
  if ok = false then return none
  else
    let _ ← per_read_enumerated
    let integer ← stream_read_uint16_be
    return some (if integer + MCS_BASE_CHANNEL_ID > 0xFFFF then integer
      else integer + MCS_BASE_CHANNEL_ID)

/-- The channel id. The result and the other ids are not looked at. -/
def mcs_recv_channel_join_confirm : StateM STREAM (Option Nat) := do
  let ok ← mcs_read_domain_mcspdu_header_check DomainMCSPDU_ChannelJoinConfirm
  if ok = false then return none
  else
    let _ ← per_read_enumerated
    let _ ← per_read_integer16 MCS_BASE_CHANNEL_ID
    let _ ← per_read_integer16 0
    let channel_id ← stream_read_uint16_be
    return some channel_id

def rdp_client_connect_mcs_attach_user_confirm (turn : Turn) (c : Connection C κ) (s : STREAM) :
    Bool × Connection C κ :=
  match (mcs_recv_attach_user_confirm s).1 with
  | none => (false, c)
  | some user_id =>
    let c := { c with rdp := { c.rdp with user_id } }
    match mcs_send_channel_join_request (turn.writes 0) c user_id with
    | (false, c) => (false, c)
    | (true, c) => (true, c.with_state .MCS_CHANNEL_JOIN)

def rdp_client_establish_keys (turn : Turn) (written : Bool) (c : Connection C κ) :
    Bool × Connection C κ :=
  if c.encryption = false then (true, c)
  else if written = false then (false, c)
  else
    let rdp := security_establish_keys turn.client_random c.server_random c.rdp
    (true, { c with rdp := establish_ciphers c.secure_checksum rdp })

def rdp_send_client_info (written : Bool) (c : Connection C κ) : Bool × Connection C κ :=
  let rdp := { c.rdp with sec_flags := c.rdp.sec_flags ||| SEC_INFO_PKT }
  let (rdp, s) :=
    rdp_security_stream_init rdp (stream_seek (stream_new 2048) RDP_PACKET_HEADER_MAX_LENGTH)
  let s := env.rdp_write_info_packet s c.session.user
  let (_, rdp) := rdp_send rdp s MCS_GLOBAL_CHANNEL_ID
  (written, { c with rdp })

/-- The end of `rdp_client_connect_mcs_channel_join_confirm`, when all is joined. There were
`n` writes before. -/
def all_channels_joined (turn : Turn) (n : Nat) (c : Connection C κ) : Bool × Connection C κ :=
  match rdp_client_establish_keys turn (turn.writes n) c with
  | (false, c) => (false, c)
  | (true, c) =>
    match rdp_send_client_info env (turn.writes (n + 1)) c with
    | (false, c) => (false, c)
    | (true, c) => (true, c.with_state .LICENSE)

/-- The loop over the channels: the first one that is not joined is joined, if the id is the
right one. The result is the index where the loop ends, or `none` for a wrong id. -/
def join_first (channel_id : Nat) : List rdpChannel → Option (Nat × List rdpChannel)
  | [] => some (0, [])
  | channel :: channels =>
    if channel.joined then
      (join_first channel_id channels).map fun (i, channels) => (i + 1, channel :: channels)
    else if channel.channel_id ≠ channel_id then none
    else some (0, { channel with joined := true } :: channels)

def join_static_channel (turn : Turn) (c : Connection C κ) (channel_id : Nat) :
    Bool × Connection C κ :=
  match join_first channel_id c.channels with
  | none => (false, c)
  | some (i, channels) =>
    let c := { c with channels }
    match channels[i + 1]? with
    | some next => mcs_send_channel_join_request (turn.writes 0) c next.channel_id
    | none => all_channels_joined env turn 0 c

def rdp_client_connect_mcs_channel_join_confirm (turn : Turn) (c : Connection C κ) (s : STREAM) :
    Bool × Connection C κ :=
  match (mcs_recv_channel_join_confirm s).1 with
  | none => (false, c)
  | some channel_id =>
    if c.mcs.user_channel_joined = false then
      if channel_id ≠ c.rdp.user_id then (false, c)
      else
        let c := { c with mcs := { c.mcs with user_channel_joined := true } }
        match mcs_send_channel_join_request (turn.writes 0) c MCS_GLOBAL_CHANNEL_ID with
        | (false, c) => (false, c)
        | (true, c) =>
          if c.mcs.global_channel_joined then all_channels_joined env turn 1 c else (true, c)
    else if c.mcs.global_channel_joined = false then
      if channel_id ≠ MCS_GLOBAL_CHANNEL_ID then (false, c)
      else
        let c := { c with mcs := { c.mcs with global_channel_joined := true } }
        match c.channels with
        | first :: _ => mcs_send_channel_join_request (turn.writes 0) c first.channel_id
        | [] => all_channels_joined env turn 0 c
    else join_static_channel env turn c channel_id

/-! ## The callback -/

def rdp_client_connect_license (c : Connection C κ) (s : STREAM) : Bool × Connection C κ :=
  match env.license_recv s c.rdp c.session.user with
  | (.failed, rdp, user) | (.aborted, rdp, user) => (false, { c with rdp }.with_user user)
  | (.completed, rdp, user) => (true, ({ c with rdp }.with_user user).with_state .CAPABILITY)
  | (.pending, rdp, user) => (true, { c with rdp }.with_user user)

def recv_finalization (fuel : Nat) (turn : Turn) (c : Connection C κ) (s : STREAM) :
    Option (Bool × Connection C κ) :=
  match rdp_recv_pdu env fuel turn c s with
  | none => none
  | some (false, c) => some (false, c)
  | some (true, c) =>
    if c.session.finalize_sc_pdus = FINALIZE_SC_COMPLETE then some (true, c.with_state .ACTIVE)
    else some (true, c)

/-- `none` is a fault, or the end of the fuel, which bounds the loop over the PDUs of a
packet. -/
def rdp_recv_callback (fuel : Nat) (turn : Turn) (c : Connection C κ) (s : STREAM) :
    Option (Bool × Connection C κ) :=
  match c.client.state with
  | .NEGO => some (rdp_client_connect_mcs_connect_response env turn c s)
  | .MCS_ATTACH_USER => some (rdp_client_connect_mcs_attach_user_confirm turn c s)
  | .MCS_CHANNEL_JOIN => some (rdp_client_connect_mcs_channel_join_confirm env turn c s)
  | .LICENSE => some (rdp_client_connect_license env c s)
  | .CAPABILITY => rdp_client_connect_demand_active env fuel turn c s
  | .FINALIZATION => recv_finalization env fuel turn c s
  | .ACTIVE => rdp_recv_pdu env fuel turn c s
  | _ => some (false, c)

/-- The packets of the server, one after the other. The connection ends with the first one
that is refused: then there is no state any more. -/
def recv_packets (fuel : Nat) : Connection C κ → List (Turn × STREAM) → Option (Connection C κ)
  | c, [] => some c
  | c, (turn, s) :: packets =>
    match rdp_recv_callback env fuel turn c s with
    | some (true, c) => recv_packets fuel c packets
    | _ => none

end

end neutrinordp.connection
