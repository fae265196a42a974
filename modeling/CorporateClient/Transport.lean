-- The receiving side of the transport (transport.c). The layer below it hands out
-- the bytes of the server in pieces. `transport_check_fds` puts the pieces together
-- and calls back once it has a whole packet.
import CorporateClient.Headers

namespace neutrinordp.transport

open stream headers

inductive TransportLayer
  | TCP
  | TLS
  | TSG
  | CLOSED
deriving Repr, DecidableEq

/-- What the transport calls. Both functions get the state behind `recv_extra` and
`tsg`, and a stream that they may change in any way. -/
structure Callbacks (κ : Type) where
  recv_callback : κ → STREAM → Bool × κ × STREAM
  tsg_skip_pdu : κ → STREAM → Bool × κ × STREAM

/-- `reads` says how the next reads of the socket will end: `none` is an error,
`some k` hands out up to `k` bytes, and once the list is used up a read gives
nothing. `wire` has the bytes that were not handed out yet. `calls` has the streams
that `recv_callback` got, oldest first. -/
structure rdpTransport (κ : Type) where
  layer : TransportLayer
  blocking : Bool
  level : Nat
  recv_buffer : STREAM
  proc_buffer : STREAM
  extra : κ
  reads : List (Option Nat)
  wire : List UInt8
  calls : List STREAM
deriving Repr

def BUFFER_SIZE : Nat := 16384 * 2

section

variable {κ : Type}

def transport_new (extra : κ) (reads : List (Option Nat)) (wire : List UInt8) : rdpTransport κ :=
  { layer := .TCP, blocking := true, level := 0,
    recv_buffer := stream_new BUFFER_SIZE, proc_buffer := stream_new BUFFER_SIZE,
    extra, reads, wire, calls := [] }

/-! ## The reads of the layer -/

/-- `tls_read` and `tcp_read`: at most `bytes` bytes, or `none` for an error. An
unknown layer reads nothing and keeps the status -1. -/
def layer_read (t : rdpTransport κ) (bytes : Nat) : Option (List UInt8) × rdpTransport κ :=
  if t.layer = .CLOSED then (none, t)
  else
    match t.reads with
    | [] => (some [], t)
    | none :: reads => (none, { t with reads })
    | some k :: reads =>
      (some (t.wire.take (min k bytes)), { t with reads, wire := t.wire.drop (min k bytes) })

/-- The loop of `transport_read_layer`. A blocking read waits for ever when no more
bytes come: this is `none`. -/
def transport_read_layer_loop (data bytes : Nat) :
    Nat → rdpTransport κ → STREAM → Nat → Option (Int × STREAM × rdpTransport κ)
  | 0, _, _, _ => none
  | fuel + 1, t, s, read =>
    if read < bytes then
      match layer_read t (bytes - read) with
      | (none, t) => some (-1, s, t)
      | (some got, t) =>
        let s := stream_poke s (data + read) got
        if t.blocking = false then some (got.length, s, t)
        else transport_read_layer_loop data bytes fuel t s (read + got.length)
    else some (read, s, t)

/-- Reads `bytes` bytes to the index `data` of the stream. Each turn of the loop
uses up one read. -/
def transport_read_layer (t : rdpTransport κ) (s : STREAM) (data : Nat) (bytes : Int) :
    Option (Int × STREAM × rdpTransport κ) :=
  transport_read_layer_loop data bytes.toNat (t.reads.length + 1) t s 0

/-- The size of the PDU whose header is at the start of the stream, as
`transport_read` works it out. -/
def transport_pdu_bytes (layer : TransportLayer) (s : STREAM) : Nat :=
  let b := fun i => (byte_at s i).toNat
  if layer = .TSG then b 8 ||| (b 9 <<< 8)
  else if byte_at s 0 = 0x03 then (b 2 <<< 8) ||| b 3
  else if byte_at s 0 = 0x30 then
    -- TSRequest (NLA)
    if byte_at s 1 &&& 0x80 ≠ 0 then
      if byte_at s 1 &&& 0x7F = 1 then b 2 + 3
      else if byte_at s 1 &&& 0x7F = 2 then ((b 2 <<< 8) ||| b 3) + 4
      else 0
    else b 1 + 2
  else if byte_at s 1 &&& 0x80 ≠ 0 then ((byte_at s 1 &&& 0x7F).toNat <<< 8) ||| b 2
  else b 1

/-- The first read of `transport_read`. It is left out when the header is there. -/
def transport_read_header (t : rdpTransport κ) (s : STREAM) (header_bytes : Nat) :
    Option (Int × STREAM × rdpTransport κ) :=
  let stream_bytes := stream_get_length s
  if stream_bytes < header_bytes then
    transport_read_layer t s stream_bytes (header_bytes - stream_bytes)
  else some (0, s, t)

/-- Reads the rest of the header and then the rest of the PDU. The fuel bounds the
number of gateway PDUs that a blocking read skips. -/
def transport_read (cb : Callbacks κ) :
    Nat → rdpTransport κ → STREAM → Option (Int × STREAM × rdpTransport κ)
  | 0, _, _ => none
  | fuel + 1, t, s => do
    let header_bytes := if t.layer = .TSG then 10 else 4
    let stream_bytes := stream_get_length s
    let (status, s, t) ← transport_read_header t s header_bytes
    if status < 0 then return (status, s, t)
    else if stream_bytes + status < header_bytes then return (status, s, t)
    else
      let transport_status := status
      let stream_bytes := stream_bytes + status.toNat
      let pdu_bytes := transport_pdu_bytes t.layer s
      let (status, s, t) ← transport_read_layer t s stream_bytes (pdu_bytes - stream_bytes)
      if status < 0 then return (status, s, t)
      else
        let transport_status := transport_status + status
        let got_whole_pdu : Bool := stream_bytes + status ≥ pdu_bytes
        if t.blocking ∧ t.layer = .TSG ∧ got_whole_pdu then
          let (skip, extra, s) := cb.tsg_skip_pdu t.extra (stream_set_pos s 0)
          let t := { t with extra }
          if skip then transport_read cb fuel t (stream_set_pos s 0)
          else return (transport_status, s, t)
        else return (transport_status, s, t)

def transport_read_nonblocking (cb : Callbacks κ) (fuel : Nat) (t : rdpTransport κ) :
    Option (Int × rdpTransport κ) := do
  let (status, s, t) ← transport_read cb fuel t (stream_check_size t.recv_buffer (32 * 1024))
  if status ≤ 0 then return (status, { t with recv_buffer := s })
  else return (status, { t with recv_buffer := stream_seek s status.toNat })

/-! ## Whole packets -/

def get_rdp_pdu_length (s : STREAM) : Nat :=
  let b := fun i => (byte_at s i).toNat
  if byte_at s 0 = 0x03 then (b 2 <<< 8) ||| b 3
  else if byte_at s 1 &&& 0x80 ≠ 0 then ((byte_at s 1 &&& 0x7F).toNat <<< 8) ||| b 2
  else b 1

/-- The callback runs one level deeper. A call of `transport_check_fds` from inside
it sees this level and fails. -/
def do_callback (cb : Callbacks κ) (t : rdpTransport κ) (s : STREAM) :
    Int × STREAM × rdpTransport κ :=
  let (ok, extra, s') := cb.recv_callback t.extra s
  (if ok then 0 else -1, s', { t with extra, calls := t.calls ++ [s] })

def tsg_pdu_loop (cb : Callbacks κ) :
    Nat → rdpTransport κ → STREAM → Option (Int × rdpTransport κ)
  | 0, _, _ => none
  | fuel + 1, t, s =>
    let pos := stream_get_pos s
    let rdp_pdu_length := get_rdp_pdu_length s
    if pos > 3 ∧ pos ≥ rdp_pdu_length then
      let s := stream_set_pos (stream_seal (stream_set_pos s rdp_pdu_length)) 0
      let (rv, s, t) := do_callback cb t s
      if rv ≠ 0 then some (-1, { t with proc_buffer := s })
      else
        let extra_bytes := pos - rdp_pdu_length
        let moved := (s.data.drop rdp_pdu_length).take extra_bytes
        let s := stream_poke (stream_set_pos s 0) 0 moved
        tsg_pdu_loop cb fuel t (stream_seek s extra_bytes)
    else some (0, { t with proc_buffer := s })

/-- The part of `transport_check_fds` for a gateway. The RPC header has 24 bytes, and
the trailer is found from `frag_length` and `auth_length`. `none` is also a read in
front of the buffer. -/
def check_tsg_pdu (cb : Callbacks κ) (fuel : Nat) (t : rdpTransport κ) :
    Option (Int × rdpTransport κ) :=
  let pos := stream_get_pos t.recv_buffer
  if pos ≤ 10 then some (0, t)
  else
    let length := (stream_read_uint16 (stream_set_pos t.recv_buffer 8)).1
    if length = 0 then some (-1, { t with recv_buffer := stream_set_pos t.recv_buffer 0 })
    else if pos < length then some (0, t)
    else
      let (skip, extra, s) := cb.tsg_skip_pdu t.extra (stream_set_pos t.recv_buffer 0)
      let t := { t with extra, recv_buffer := stream_set_pos s 0 }
      if skip then some (0, t)
      else
        let frag_length := (stream_read_uint16 (stream_set_pos s 8)).1
        let auth_length := (stream_read_uint16 (stream_set_pos s 10)).1
        if frag_length < auth_length + 6 then none
        else
          let auth_pad_length := (byte_at s (frag_length - auth_length - 6)).toNat
          let length :=
            (((frag_length : Int) - auth_length - 24 - 8 - auth_pad_length) % 65536).toNat
          let copied := bytes_at s 24 length
          let proc := stream_poke t.proc_buffer t.proc_buffer.pos copied
          tsg_pdu_loop cb fuel t (stream_seek proc length)

def read_pdu_length : StateM STREAM (Option Nat) := fun s =>
  if tpkt_verify_header s then (tpkt_read_header s).map some id else fastpath_read_header s

/-- The part of `transport_check_fds` for the other layers: the buffer holds one RDP
PDU. -/
def check_rdp_pdu (cb : Callbacks κ) (t : rdpTransport κ) : Option (Int × rdpTransport κ) :=
  let pos := stream_get_pos t.recv_buffer
  -- The length of the header must be there before it is parsed.
  if pos ≤ 4 then some (0, t)
  else
    match read_pdu_length (stream_set_pos t.recv_buffer 0) with
    | (none, _) => none
    | (some length, s) =>
      if length = 0 then some (-1, { t with recv_buffer := s })
      else if pos < length then some (0, { t with recv_buffer := stream_set_pos s pos })
      else
        let s := stream_set_pos (stream_seal (stream_set_pos s length)) 0
        let (rv, s, t) := do_callback cb t s
        if rv ≠ 0 then some (-1, { t with recv_buffer := s })
        else some (0, { t with recv_buffer := stream_set_pos s 0 })

def transport_check_fds (cb : Callbacks κ) (fuel : Nat) (t : rdpTransport κ) :
    Option (Int × rdpTransport κ) :=
  if t.level ≠ 0 then some (-1, t)
  else
    (transport_read_nonblocking cb fuel t).bind fun (status, t) =>
      if status < 0 then some (status, t)
      else if t.recv_buffer.pos = 0 then some (0, t)
      else if t.layer = .TSG then check_tsg_pdu cb fuel t
      else check_rdp_pdu cb t

/-- Up to `n` calls, one after the other. The client gives up after a call that
fails. -/
def check_fds_run (cb : Callbacks κ) (fuel : Nat) :
    Nat → rdpTransport κ → Option (Int × rdpTransport κ)
  | 0, t => some (0, t)
  | n + 1, t =>
    (transport_check_fds cb fuel t).bind fun (status, t) =>
      if status ≠ 0 then some (status, t) else check_fds_run cb fuel n t

end

end neutrinordp.transport
