-- The slow path (rdp.c, update.c): one packet holds several share PDUs, and each of
-- them goes to its handler. Two places look for the next PDU: the loop of
-- `rdp_recv_tpkt_pdu`, and the end of `update_recv`.
import CorporateClient.Packet
import CorporateClient.Updates

namespace neutrinordp.slowpath

open stream security packet update

def PDU_TYPE_DEACTIVATE_ALL : Nat := 0x6
def PDU_TYPE_DATA : Nat := 0x7
def PDU_TYPE_SERVER_REDIRECTION : Nat := 0xA

def DATA_PDU_TYPE_UPDATE : UInt8 := 0x02
def DATA_PDU_TYPE_CONTROL : UInt8 := 0x14
def DATA_PDU_TYPE_POINTER : UInt8 := 0x1B
def DATA_PDU_TYPE_SYNCHRONIZE : UInt8 := 0x1F
def DATA_PDU_TYPE_PLAY_SOUND : UInt8 := 0x22
def DATA_PDU_TYPE_SAVE_SESSION_INFO : UInt8 := 0x26
def DATA_PDU_TYPE_FONT_MAP : UInt8 := 0x28
def DATA_PDU_TYPE_SET_ERROR_INFO : UInt8 := 0x2F

def PACKET_COMPRESSED : UInt8 := 0x20

def RDP_SHARE_DATA_HEADER_LENGTH : Int := 12

/-! ## Share headers -/

/-- The length, and the type with the source. When the length is too long for the
stream the C function returns false before it sets the last two: this is `none`. -/
def rdp_read_share_control_header : StateM STREAM (Nat × Option (Nat × Nat)) := fun s =>
  let (length, s) := stream_read_uint16 s
  if (length : Int) - 2 > stream_get_left s then ((length, none), s)
  else
    let (type, s) := stream_read_uint16 s
    let type := type &&& 0x0F
    if length > 4 then
      let (channel_id, s) := stream_read_uint16 s
      ((length, some (type, channel_id)), s)
    else ((length, some (type, 0)), s)

structure ShareDataHeader where
  share_id : Nat
  length : Nat
  type : UInt8
  compressed_type : UInt8
  compressed_len : Nat
deriving Repr, DecidableEq

/-- `none` when the header is cut short. The caller does not look at the result and
goes on with unset variables. -/
def rdp_read_share_data_header (s : STREAM) : Option (ShareDataHeader × STREAM) :=
  if stream_get_left s < 12 then none
  else
    let (share_id, s) := stream_read_uint32 s
    let (length, s) := stream_read_uint16 (stream_seek s 2)
    let (type, s) := stream_read_uint8 s
    let (compressed_type, s) := stream_read_uint8 s
    let (compressed_len, s) := stream_read_uint16 s
    some ({ share_id, length, type, compressed_type, compressed_len }, s)

/-! ## The state of the client -/

inductive ConnectionState
  | INITIAL | NEGO | MCS_CONNECT | MCS_ERECT_DOMAIN | MCS_ATTACH_USER | MCS_CHANNEL_JOIN
  | ESTABLISH_KEYS | LICENSE | CAPABILITY | FINALIZATION | ACTIVE
deriving Repr, DecidableEq

/-- The handlers of the share PDUs. A PDU type without a handler is only logged. -/
inductive Handler
  | data (type : UInt8)
  | deactivate_all
  | redirection
  | incorrect (pduType : Nat)
deriving Repr, DecidableEq

/-- A handler was entered with the stream at `pos`. -/
structure Event where
  handler : Handler
  pos : Nat
deriving Repr, DecidableEq

/-- The part of the client that the share PDUs work on. `log` is not in the code: it
says which handlers were entered. -/
structure Client (κ : Type) where
  update : rdpUpdate κ
  state : ConnectionState
  share_id : Nat
  pdu_source : Nat
  errorInfo : Nat
  log : List Event
deriving Repr, DecidableEq

/-- The handlers that are not part of this model. `decompress_rdp` gives a stream over
the history buffer, or `none` when it fails. -/
structure Handlers (κ : Type) extends UpdateCallbacks κ where
  rdp_recv_server_control_pdu : STREAM → κ → κ
  rdp_recv_synchronize_pdu : STREAM → κ → κ
  rdp_recv_save_session_info : STREAM → κ → κ
  rdp_recv_font_map_pdu : STREAM → κ → κ
  rdp_recv_enhanced_security_redirection_packet : STREAM → κ → κ
  freerdp_channel_process : STREAM → Nat → κ → κ
  decompress_rdp : STREAM → Int → UInt8 → κ → Option STREAM × κ

section

variable {κ : Type}

def Client.enter (c : Client κ) (handler : Handler) (s : STREAM) : Client κ :=
  { c with log := c.log ++ [{ handler, pos := s.pos }] }

def Client.with_context (c : Client κ) (context : κ) : Client κ :=
  { c with update := { c.update with context } }

/-- Runs a handler that works on the context. -/
def Client.run (c : Client κ) (f : STREAM → κ → κ) (s : STREAM) : Client κ :=
  c.with_context (f s c.update.context)

def rdp_recv_set_error_info_data_pdu (c : Client κ) (s : STREAM) : Client κ :=
  { c with errorInfo := (stream_read_uint32 s).1 }

/-- A short PDU has no share id. It is told by the end of the packet, not by its own
length. -/
def rdp_recv_deactivate_all (c : Client κ) (s : STREAM) : Client κ :=
  { c with
    share_id := if stream_get_left s > 0 then (stream_read_uint32 s).1 else c.share_id
    state := .CAPABILITY }

variable (h : Handlers κ)

/-! ## Data PDUs -/

/-- The switch of `rdp_recv_data_pdu`, but for the updates. -/
def recv_data_type (type : UInt8) (c : Client κ) (s : STREAM) : Client κ :=
  if type = DATA_PDU_TYPE_CONTROL then c.run h.rdp_recv_server_control_pdu s
  else if type = DATA_PDU_TYPE_POINTER then
    { c with update := (update_recv_pointer h.toUpdateCallbacks c.update s).1 }
  else if type = DATA_PDU_TYPE_SYNCHRONIZE then c.run h.rdp_recv_synchronize_pdu s
  else if type = DATA_PDU_TYPE_PLAY_SOUND then
    { c with update := update_recv_play_sound h.toUpdateCallbacks c.update s }
  else if type = DATA_PDU_TYPE_SAVE_SESSION_INFO then c.run h.rdp_recv_save_session_info s
  else if type = DATA_PDU_TYPE_FONT_MAP then c.run h.rdp_recv_font_map_pdu s
  else if type = DATA_PDU_TYPE_SET_ERROR_INFO then rdp_recv_set_error_info_data_pdu c s
  else c

/-- Enters the handler of a data PDU. `recv` is the handler of the updates. -/
def enter_data (recv : Client κ → STREAM → Option (Client κ)) (type : UInt8) (c : Client κ)
    (s : STREAM) : Option (Bool × Client κ) :=
  if type = DATA_PDU_TYPE_UPDATE then (recv (c.enter (.data type) s) s).map (true, ·)
  else some (true, recv_data_type h type (c.enter (.data type) s) s)

/-- `rdp_recv_data_pdu` with the handler of the updates as a parameter. -/
def recv_data_pdu (recv : Client κ → STREAM → Option (Client κ)) (c : Client κ) (s : STREAM) :
    Option (Bool × Client κ) :=
  match rdp_read_share_data_header s with
  | none => none
  | some (header, s) =>
    if header.compressed_type &&& PACKET_COMPRESSED ≠ 0 then
      match h.decompress_rdp s ((header.compressed_len : Int) - 18) header.compressed_type
          c.update.context with
      | (none, context) => some (false, c.with_context context)
      | (some comp_stream, context) =>
        enter_data h recv header.type (c.with_context context) comp_stream
    else enter_data h recv header.type c s

def update_alone (c : Client κ) (s : STREAM) : Option (Client κ × STREAM) :=
  (update_body h.toUpdateCallbacks c.update s).map fun (update, s) => ({ c with update }, s)

/-- The end of `update_recv`: it looks behind the update, and when more than 12 bytes
are left there it takes them for a PDU. -/
def update_behind (recv : Client κ → STREAM → Option (Bool × Client κ)) (c : Client κ)
    (s : STREAM) : Option (Client κ) :=
  if stream_get_left s > RDP_SHARE_DATA_HEADER_LENGTH then
    match rdp_read_share_control_header s with
    | ((_, none), _) => none
    | ((_, some (pduType, _)), s) =>
      if pduType ≠ PDU_TYPE_DATA then some c
      else (recv c s).map (·.2)
  else some c

def update_recv (recv : Client κ → STREAM → Option (Bool × Client κ)) (c : Client κ)
    (s : STREAM) : Option (Client κ) :=
  (update_alone h c s).bind fun (c, s) => update_behind recv c s

/-- `none` is a fault: a variable that was never set. It is also the end of the fuel,
which bounds how deep `update_recv` and this function call each other. -/
def rdp_recv_data_pdu : Nat → Client κ → STREAM → Option (Bool × Client κ)
  | 0, _, _ => none
  | fuel + 1, c, s => recv_data_pdu h (update_recv h (rdp_recv_data_pdu fuel)) c s

/-! ## The loop over the PDUs of a packet -/

/-- The switch of `rdp_recv_tpkt_pdu`. `recv` is the handler of the data PDUs. -/
def recv_share_pdu (recv : Client κ → STREAM → Option (Bool × Client κ)) (pduType : Nat)
    (c : Client κ) (s : STREAM) : Option (Bool × Client κ) :=
  if pduType = PDU_TYPE_DATA then recv c s
  else if pduType = PDU_TYPE_DEACTIVATE_ALL then
    some (true, rdp_recv_deactivate_all (c.enter .deactivate_all s) s)
  else if pduType = PDU_TYPE_SERVER_REDIRECTION then
    some (true, (c.enter .redirection s).run h.rdp_recv_enhanced_security_redirection_packet s)
  else some (true, c.enter (.incorrect pduType) s)

/-- `held` is what the variables `pduType` and `pduSource` hold from the PDU before. The
next PDU starts where the length says, whatever the handler has read. -/
def share_pdu_loop : Nat → Option (Nat × Nat) → Client κ → STREAM → Option (Bool × Client κ)
  | 0, _, _, _ => none
  | fuel + 1, held, c, s =>
    if stream_get_left s > 3 then
      let mark := stream_get_pos s
      let ((pduLength, header), s) := rdp_read_share_control_header s
      match header.or held with
      | none => none
      | some (pduType, pduSource) =>
        match recv_share_pdu h (rdp_recv_data_pdu h fuel) pduType
            { c with pdu_source := pduSource } s with
        | none => none
        | some (false, c) => some (false, c)
        | some (true, c) =>
          share_pdu_loop fuel (some (pduType, pduSource)) c (stream_set_pos s (mark + pduLength))
    else some (true, c)

/-! ## Packets -/

variable {C : Crypto}

/-- What the start of `rdp_recv_tpkt_pdu` makes of a packet. -/
inductive Opened (C : Crypto)
  | rejected (rdp : rdpRdp C)
  | redirection (s : STREAM) (rdp : rdpRdp C)
  | opened (channelId : Nat) (s : STREAM) (rdp : rdpRdp C)

def open_security (rdp : rdpRdp C) (s : STREAM) (length channelId : Nat) : Option (Opened C) :=
  let (securityFlags, s) := rdp_read_security_header s
  if securityFlags &&& (SEC_ENCRYPT ||| SEC_REDIRECTION_PKT) ≠ 0 then
    (rdp_decrypt rdp s (length - 4) securityFlags).map fun d =>
      if d.ok = false then .rejected d.rdp
      else if securityFlags &&& SEC_REDIRECTION_PKT ≠ 0 then
        -- The redirection packet has no padding in front, so two bytes are read again.
        .redirection (stream_set_pos d.stream (d.stream.pos - 2)) d.rdp
      else .opened channelId d.stream d.rdp
  else some (.opened channelId s rdp)

def open_tpkt_pdu (encryption : Bool) (rdp : rdpRdp C) (s : STREAM) : Option (Opened C) :=
  match rdp_read_header rdp s with
  | (none, _, rdp) => some (.rejected rdp)
  | (some (length, channelId), s, rdp) =>
    if rdp.disconnect then some (.rejected rdp)
    else if encryption then open_security rdp s length channelId
    else some (.opened channelId s rdp)

def rdp_recv_tpkt_pdu (fuel : Nat) (encryption : Bool) (rdp : rdpRdp C) (c : Client κ)
    (s : STREAM) : Option (Bool × rdpRdp C × Client κ) :=
  match open_tpkt_pdu encryption rdp s with
  | none => none
  | some (.rejected rdp) => some (false, rdp, c)
  | some (.redirection s rdp) =>
    some (true, rdp, c.run h.rdp_recv_enhanced_security_redirection_packet s)
  | some (.opened channelId s rdp) =>
    if channelId ≠ MCS_GLOBAL_CHANNEL_ID then
      some (true, rdp, c.run (h.freerdp_channel_process · channelId) s)
    else (share_pdu_loop h fuel none c s).map fun (ok, c) => (ok, rdp, c)

end

end neutrinordp.slowpath
