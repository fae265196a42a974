-- The security negotiation of the client (nego.c): the request, the answer of the server,
-- and the attempts with NLA, TLS and RDP security, one after the other.
import CorporateClient.Security
import CorporateClient.Transport

namespace neutrinordp.nego

open stream headers security transport

/-! ## The state -/

def PROTOCOL_RDP : Nat := 0x00000000
def PROTOCOL_TLS : Nat := 0x00000001
def PROTOCOL_NLA : Nat := 0x00000002

def TYPE_RDP_NEG_REQ : UInt8 := 0x1
def TYPE_RDP_NEG_RSP : UInt8 := 0x2
def TYPE_RDP_NEG_FAILURE : UInt8 := 0x3

def ENCRYPTION_LEVEL_CLIENT_COMPATIBLE : Nat := 0x00000002

inductive NEGO_STATE
  | INITIAL
  | NLA
  | TLS
  | RDP
  | FAIL
  | FINAL
deriving Repr, DecidableEq, Inhabited

/-- The settings that the negotiation changes. -/
structure rdpSettings where
  requested_protocols : Nat
  selected_protocol : Nat
  negotiationFlags : Nat
  encryption : Bool
  encryption_method : Nat
  encryption_level : Nat
deriving Repr, DecidableEq, Inhabited

/-- `settings` are the ones of the transport. `sent` is not in the code: it holds the
requests that `transport_write` got. -/
structure rdpNego where
  flags : Nat
  cookie : Option (List UInt8)
  state : NEGO_STATE
  tcp_connected : Bool
  routing_token : Option (List UInt8)
  selected_protocol : Nat
  requested_protocols : Nat
  enabled_protocols : Vector UInt8 3
  settings : rdpSettings
  sent : List (List UInt8)
deriving DecidableEq

/-- What the network does with one attempt: if `transport_connect` and `transport_write`
succeed, and the bytes of the receive stream after `transport_read`. There are none if the
read fails. -/
structure Attempt where
  connects : Bool
  writes : Bool
  answer : Option (List UInt8)
deriving Repr, DecidableEq

def nego_init (nego : rdpNego) : rdpNego :=
  { nego with state := .INITIAL, requested_protocols := PROTOCOL_RDP, flags := 0 }

def nego_new (settings : rdpSettings) : rdpNego :=
  nego_init
    { flags := 0, cookie := none, state := .INITIAL, tcp_connected := false, routing_token := none,
      selected_protocol := 0, requested_protocols := 0,
      enabled_protocols := Vector.replicate 3 0, settings, sent := [] }

/-- The test `enabled_protocols[protocol] > 0`. A number that is not a protocol is not
enabled. -/
def rdpNego.enabled (nego : rdpNego) (protocol : Nat) : Bool :=
  nego.enabled_protocols.toList.getD protocol 0 > 0

/-- The common form of `nego_enable_rdp`, `nego_enable_tls` and `nego_enable_nla`. -/
def enable_protocol (protocol : Nat) (nego : rdpNego) (enable : Bool) : rdpNego :=
  { nego with enabled_protocols :=
      nego.enabled_protocols.setIfInBounds protocol (if enable then 1 else 0) }

def nego_enable_rdp : rdpNego → Bool → rdpNego := enable_protocol PROTOCOL_RDP
def nego_enable_nla : rdpNego → Bool → rdpNego := enable_protocol PROTOCOL_NLA

/-! ## The request -/

def TPDU_CONNECTION_REQUEST_LENGTH : Nat := 11

/-- The text `Cookie: mstshash=`. -/
def cookieText : List UInt8 :=
  [0x43, 0x6F, 0x6F, 0x6B, 0x69, 0x65, 0x3A, 0x20, 0x6D, 0x73, 0x74, 0x73, 0x68, 0x61, 0x73, 0x68,
   0x3D]

def write_cookie (nego : rdpNego) (s : STREAM) (length : Nat) : STREAM × Nat :=
  match nego.routing_token, nego.cookie with
  | some routing_token, _ => (stream_write s routing_token, length + routing_token.length)
  | none, some cookie =>
    let s := stream_write s cookieText
    let s := stream_write s cookie
    let s := stream_write_uint8 s 0x0D
    (stream_write_uint8 s 0x0A, length + (cookie.length + 19))
  | none, none => (s, length)

def write_neg_data (nego : rdpNego) (s : STREAM) (length : Nat) : STREAM × Nat :=
  if nego.requested_protocols > PROTOCOL_RDP then
    let s := stream_write_uint8 s TYPE_RDP_NEG_REQ.toNat
    let s := stream_write_uint8 s 0
    let s := stream_write_uint16 s 8
    (stream_write_uint32 s nego.requested_protocols, length + 8)
  else (s, length)

/-- Every byte of the request is written, so the bytes that the send stream held before do
not count: it is a new stream here. -/
def nego_send_negotiation_request (a : Attempt) (nego : rdpNego) : Bool × rdpNego :=
  let s := stream_new BUFFER_SIZE
  let length := TPDU_CONNECTION_REQUEST_LENGTH
  let bm := stream_get_pos s
  let s := stream_seek s length
  let (s, length) := write_cookie nego s length
  let (s, length) := write_neg_data nego s length
  let em := stream_get_pos s
  let s := stream_set_pos s bm
  let s := tpkt_write_header s length
  let s := tpdu_write_connection_request s (length - 5)
  let s := stream_set_pos s em
  (a.writes, { nego with sent := nego.sent ++ [s.data.take (stream_get_length s)] })

/-! ## The answer -/

def nego_process_negotiation_response (nego : rdpNego) (s : STREAM) : rdpNego :=
  let (flags, s) := stream_read_uint8 s
  let (_, s) := stream_read_uint16 s
  let (selected_protocol, _) := stream_read_uint32 s
  { nego with flags := flags.toNat, selected_protocol, state := .FINAL }

/-- The failure code is only printed. -/
def nego_process_negotiation_failure (nego : rdpNego) : rdpNego := { nego with state := .FAIL }

def nego_recv (nego : rdpNego) (s : STREAM) : Bool × rdpNego :=
  let (length, s) := tpkt_read_header s
  if length = 0 then (false, nego)
  else
    let (li, s) := tpdu_read_connection_confirm s
    if li > 6 then
      let (type, s) := stream_read_uint8 s
      if type = TYPE_RDP_NEG_RSP then (true, nego_process_negotiation_response nego s)
      else if type = TYPE_RDP_NEG_FAILURE then (true, nego_process_negotiation_failure nego)
      else (true, nego)
    else (true, { nego with state := .FINAL })

def nego_recv_response (a : Attempt) (nego : rdpNego) : Bool × rdpNego :=
  match a.answer with
  | none => (false, nego)
  | some bytes => nego_recv nego (stream_of bytes)

/-! ## The attempts -/

def nego_tcp_connect (a : Attempt) (nego : rdpNego) : Bool × rdpNego :=
  if nego.tcp_connected = false then (a.connects, { nego with tcp_connected := a.connects })
  else (true, nego)

def nego_tcp_disconnect (nego : rdpNego) : rdpNego := { nego with tcp_connected := false }

/-- The common form of the attempts. `retreat` is what comes after an answer that does not
end the negotiation. -/
def nego_attempt (requested_protocols : Nat) (retreat : rdpNego → rdpNego) (a : Attempt)
    (nego : rdpNego) : rdpNego :=
  let nego := { nego with requested_protocols }
  let (connected, nego) := nego_tcp_connect a nego
  if connected = false then { nego with state := .FAIL }
  else
    let (sent, nego) := nego_send_negotiation_request a nego
    if sent = false then { nego with state := .FAIL }
    else
      let (received, nego) := nego_recv_response a nego
      if received = false then { nego with state := .FAIL }
      else if nego.state ≠ .FINAL then retreat nego
      else nego

def nego_attempt_nla : Attempt → rdpNego → rdpNego :=
  nego_attempt (PROTOCOL_NLA ||| PROTOCOL_TLS) fun nego =>
    let nego := nego_tcp_disconnect nego
    if nego.enabled PROTOCOL_TLS then { nego with state := .TLS }
    else if nego.enabled PROTOCOL_RDP then { nego with state := .RDP }
    else { nego with state := .FAIL }

def nego_attempt_tls : Attempt → rdpNego → rdpNego :=
  nego_attempt PROTOCOL_TLS fun nego =>
    let nego := nego_tcp_disconnect nego
    if nego.enabled PROTOCOL_RDP then { nego with state := .RDP }
    else { nego with state := .FAIL }

/-- There is nothing behind RDP security. The connection stays. -/
def nego_attempt_rdp : Attempt → rdpNego → rdpNego := nego_attempt PROTOCOL_RDP id

def nego_send (a : Attempt) (nego : rdpNego) : rdpNego :=
  match nego.state with
  | .NLA => nego_attempt_nla a nego
  | .TLS => nego_attempt_tls a nego
  | .RDP => nego_attempt_rdp a nego
  | _ => nego

/-! ## The negotiation -/

def first_state (nego : rdpNego) : NEGO_STATE :=
  if nego.enabled PROTOCOL_NLA then .NLA
  else if nego.enabled PROTOCOL_TLS then .TLS
  else if nego.enabled PROTOCOL_RDP then .RDP
  else .FAIL

/-- The loop of `nego_connect`. Every turn has its own attempt, used or not. `none`: the
loop goes on after the last attempt. -/
def nego_connect_loop : List Attempt → rdpNego → Option (Bool × rdpNego)
  | [], _ => none
  | a :: attempts, nego =>
    let nego := nego_send a nego
    if nego.state = .FAIL then some (false, { nego with state := .FINAL })
    else if nego.state ≠ .FINAL then nego_connect_loop attempts nego
    else some (true, nego)

def update_settings (nego : rdpNego) : rdpSettings :=
  let settings := { nego.settings with
    requested_protocols := nego.requested_protocols
    selected_protocol := nego.selected_protocol
    negotiationFlags := nego.flags }
  if nego.selected_protocol = PROTOCOL_RDP then
    { settings with
      encryption := true
      encryption_method :=
        ENCRYPTION_METHOD_40BIT ||| ENCRYPTION_METHOD_128BIT ||| ENCRYPTION_METHOD_FIPS
      encryption_level := ENCRYPTION_LEVEL_CLIENT_COMPATIBLE }
  else settings

def nego_connect (attempts : List Attempt) (nego : rdpNego) : Option (Bool × rdpNego) :=
  let nego := if nego.state = .INITIAL then { nego with state := first_state nego } else nego
  (nego_connect_loop attempts nego).map fun (connected, nego) =>
    (connected, if connected then { nego with settings := update_settings nego } else nego)

end neutrinordp.nego
