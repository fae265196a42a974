-- The fast path (fastpath.c): updates in small PDUs. A long update is cut into
-- fragments when it is sent, and put together again by the receiver.
import CorporateClient.Packet
import CorporateClient.Updates

namespace neutrinordp.fastpath

open stream security packet update

def FASTPATH_MAX_PACKET_SIZE : Nat := 0x3FFF

def FASTPATH_OUTPUT_SECURE_CHECKSUM : UInt8 := 0x1
def FASTPATH_OUTPUT_ENCRYPTED : UInt8 := 0x2
def FASTPATH_OUTPUT_COMPRESSION_USED : UInt8 := 0x2

def FASTPATH_UPDATETYPE_PTR_NULL : UInt8 := 0x5
def FASTPATH_UPDATETYPE_PTR_DEFAULT : UInt8 := 0x6
def FASTPATH_UPDATETYPE_PTR_POSITION : UInt8 := 0x8

def SYSPTR_NULL : Nat := 0x00000000

def PACKET_COMPRESSED : UInt8 := 0x20

/-! ## Fragments -/

inductive FASTPATH_FRAGMENT
  | SINGLE | LAST | FIRST | NEXT
deriving Repr, DecidableEq

def FASTPATH_FRAGMENT.code : FASTPATH_FRAGMENT → UInt8
  | .SINGLE => 0
  | .LAST => 1
  | .FIRST => 2
  | .NEXT => 3

def fragment_of (code : UInt8) : FASTPATH_FRAGMENT :=
  if code &&& 3 = 0 then .SINGLE
  else if code &&& 3 = 1 then .LAST
  else if code &&& 3 = 2 then .FIRST
  else .NEXT

/-- The update code, the fragment kind and the compression, in one byte. -/
def update_header (updateCode : UInt8) (fragmentation : FASTPATH_FRAGMENT) (compression : UInt8) :
    UInt8 :=
  let low : UInt8 := updateCode &&& 0x0F
  let kind : UInt8 := fragmentation.code <<< 4
  let high : UInt8 := (compression &&& 0x03) <<< 6
  low ||| kind ||| high

def fastpath_read_update_header : StateM STREAM (UInt8 × FASTPATH_FRAGMENT × UInt8) := do
  let updateHeader ← stream_read_uint8
  return (updateHeader &&& 0x0F, fragment_of (updateHeader >>> 4), (updateHeader >>> 6) &&& 3)

def fastpath_write_update_header (s : STREAM) (updateCode : UInt8)
    (fragmentation : FASTPATH_FRAGMENT) (compression : UInt8) : STREAM :=
  stream_write s [update_header updateCode fragmentation compression]

/-! ## The receiver -/

/-- The receiver works on `context`. `calls` is not in the code: it holds the update
code and the bytes of each call of `fastpath_recv_update`. -/
structure rdpFastPath (κ : Type) where
  encryptionFlags : UInt8
  numberEvents : UInt8
  updateData : STREAM
  context : κ
  calls : List (UInt8 × List UInt8)
deriving Repr, DecidableEq

/-- What the receiver calls. `fastpath_recv_update` gets the code, the size and the
stream, and gives back the stream as it leaves it. -/
structure FastPathHandlers (κ : Type) where
  BeginPaint : κ → κ
  EndPaint : κ → κ
  fastpath_recv_update : UInt8 → Nat → STREAM → κ → κ × STREAM
  decompress_rdp : STREAM → Nat → UInt8 → κ → Option STREAM × κ

section

variable {κ : Type}

/-- The length behind the header, in 16 bits: a length below the size of the header
wraps around. -/
def fastpath_read_header_rdp (fastpath : rdpFastPath κ) (s : STREAM) :
    Nat × STREAM × rdpFastPath κ :=
  let (header, s) := stream_read_uint8 s
  let fastpath := { fastpath with
    encryptionFlags := (header &&& 0xC0) >>> 6, numberEvents := (header &&& 0x3C) >>> 2 }
  let (byte, s) := stream_read_uint8 s
  if byte &&& 0x80 ≠ 0 then
    let (low, s) := stream_read_uint8 s
    ((((byte &&& 0x7F).toNat <<< 8 ||| low.toNat) + 65536 - 3) % 65536, s, fastpath)
  else ((byte.toNat + 65536 - 2) % 65536, s, fastpath)

variable (h : FastPathHandlers κ)

/-- The bytes of an update, the stream they are in, and the stream of the packet. When
they cannot be unpacked, the code skips them and goes on with what is behind them. -/
def decompress_update (fastpath : rdpFastPath κ) (s : STREAM) (size : Nat)
    (compressionFlags : UInt8) : Nat × STREAM × STREAM × rdpFastPath κ :=
  if compressionFlags &&& PACKET_COMPRESSED ≠ 0 then
    match h.decompress_rdp s size compressionFlags fastpath.context with
    | (some comp_stream, context) =>
      (comp_stream.size % 65536, comp_stream, s, { fastpath with context })
    | (none, context) => (size, stream_seek s size, stream_seek s size, { fastpath with context })
  else (size, s, s, fastpath)

/-- Calls `fastpath_recv_update` and gives back the stream that it has read. -/
def call_update (fastpath : rdpFastPath κ) (updateCode : UInt8) (totalSize : Nat) (s : STREAM) :
    STREAM × rdpFastPath κ :=
  let (context, s') := h.fastpath_recv_update updateCode totalSize s fastpath.context
  (s', { fastpath with
         context, calls := fastpath.calls ++ [(updateCode, bytes_at s s.pos totalSize)] })

def add_fragment (updateData comp_stream : STREAM) (size : Nat) : STREAM :=
  stream_write (stream_check_size updateData size) (bytes_at comp_stream comp_stream.pos size)

/-- The part of `fastpath_recv_update_data` that puts the fragments together. -/
def recv_fragment (fastpath : rdpFastPath κ) (updateCode : UInt8)
    (fragmentation : FASTPATH_FRAGMENT) (size : Nat) (comp_stream : STREAM) : rdpFastPath κ :=
  match fragmentation with
  | .SINGLE => (call_update h fastpath updateCode size comp_stream).2
  | .FIRST =>
    { fastpath with
      updateData := add_fragment (stream_set_pos fastpath.updateData 0) comp_stream size }
  | .NEXT => { fastpath with updateData := add_fragment fastpath.updateData comp_stream size }
  | .LAST =>
    let updateData := add_fragment fastpath.updateData comp_stream size
    let (updateData, fastpath) := call_update h fastpath updateCode
      (stream_get_length updateData) (stream_set_pos updateData 0)
    { fastpath with updateData }

/-- One update of a PDU. The next one starts where the size says. -/
def fastpath_recv_update_data (fastpath : rdpFastPath κ) (s : STREAM) : STREAM × rdpFastPath κ :=
  let ((updateCode, fragmentation, compression), s) := fastpath_read_update_header s
  let (compressionFlags, s) :=
    if compression = FASTPATH_OUTPUT_COMPRESSION_USED then stream_read_uint8 s else (0, s)
  let (size, s) := stream_read_uint16 s
  let next_pos := stream_get_pos s + size
  let (size, comp_stream, s, fastpath) := decompress_update h fastpath s size compressionFlags
  (stream_set_pos s next_pos, recv_fragment h fastpath updateCode fragmentation size comp_stream)

/-- The loop of `fastpath_recv_updates`. Each turn takes at least three bytes, so as many
turns as there are bytes are enough. -/
def recv_updates_loop : Nat → rdpFastPath κ → STREAM → rdpFastPath κ
  | 0, fastpath, _ => fastpath
  | fuel + 1, fastpath, s =>
    if stream_get_left s ≥ 3 then
      let (s, fastpath) := fastpath_recv_update_data h fastpath s
      recv_updates_loop fuel fastpath s
    else fastpath

def fastpath_recv_updates (fastpath : rdpFastPath κ) (s : STREAM) : rdpFastPath κ :=
  let fastpath := { fastpath with context := h.BeginPaint fastpath.context }
  let fastpath := recv_updates_loop h (stream_get_left s).toNat fastpath s
  { fastpath with context := h.EndPaint fastpath.context }

variable {C : Crypto}

/-- `none` is a fault in `rdp_decrypt`. Its result is not looked at. -/
def rdp_recv_fastpath_pdu (rdp : rdpRdp C) (fastpath : rdpFastPath κ) (s : STREAM) :
    Option (Bool × rdpRdp C × rdpFastPath κ) :=
  let (length, s, fastpath) := fastpath_read_header_rdp fastpath s
  if length = 0 ∨ (length : Int) > stream_get_left s then some (false, rdp, fastpath)
  else if fastpath.encryptionFlags &&& FASTPATH_OUTPUT_ENCRYPTED ≠ 0 then
    let securityFlags :=
      if fastpath.encryptionFlags &&& FASTPATH_OUTPUT_SECURE_CHECKSUM ≠ 0 then SEC_SECURE_CHECKSUM
      else 0
    (rdp_decrypt rdp s length securityFlags).map fun d =>
      (true, d.rdp, fastpath_recv_updates h fastpath d.stream)
  else some (true, rdp, fastpath_recv_updates h fastpath s)

/-- Several PDUs, one after the other. The connection ends with the first one that is
refused. -/
def recv_fastpath_pdus (rdp : rdpRdp C) :
    rdpFastPath κ → List (List UInt8) → Option (Bool × rdpRdp C × rdpFastPath κ)
  | fastpath, [] => some (true, rdp, fastpath)
  | fastpath, pdu :: pdus =>
    match rdp_recv_fastpath_pdu h rdp fastpath (stream_of pdu) with
    | some (true, rdp, fastpath) => recv_fastpath_pdus rdp fastpath pdus
    | r => r

end

/-! ## The sender -/

section

variable {C : Crypto}

def fastpath_get_sec_bytes (rdp : rdpRdp C) : Nat :=
  if rdp.do_crypt then
    if rdp.encryption_method = ENCRYPTION_METHOD_FIPS then 12 else 8
  else 0

def fastpath_update_pdu_init (rdp : rdpRdp C) (s : STREAM) : STREAM :=
  stream_seek (stream_seek (stream_seek s 3) (fastpath_get_sec_bytes rdp)) 3

/-- The PDUs that went out, and what the function returns. -/
structure Sent (C : Crypto) where
  pdus : List (List UInt8)
  result : Bool
  rdp : rdpRdp C

/-- The place of a fragment: `more` is what is left after it. -/
def fragmentation_of (fragment more : Nat) : FASTPATH_FRAGMENT :=
  if more = 0 then if fragment = 0 then .SINGLE else .LAST
  else if fragment = 0 then .FIRST
  else .NEXT

def write_fragment_header (s : STREAM) (updateCode : UInt8) (fragmentation : FASTPATH_FRAGMENT)
    (length sec_bytes : Nat) : STREAM :=
  let pduLength := length + 6 + sec_bytes
  let header := if sec_bytes > 0 then FASTPATH_OUTPUT_ENCRYPTED <<< 6 else 0
  let s := stream_write s [header]
  let s := stream_write_uint8 s (0x80 ||| (pduLength >>> 8))
  let s := stream_write_uint8 s (pduLength &&& 0xFF)
  let s := stream_seek s sec_bytes
  let s := fastpath_write_update_header s updateCode fragmentation 0
  stream_write_uint16 s length

/-- Signs and encrypts the fragment that starts at `bm`. There is no case for FIPS. -/
def secure_fragment (rdp : rdpRdp C) (s : STREAM) (bm length sec_bytes : Nat) : STREAM × rdpRdp C :=
  if sec_bytes > 0 then
    let ptr := bm + 3 + sec_bytes
    let s := stream_poke s (bm + 3) (rdp_packet_signature rdp (bytes_at s ptr (length + 3)))
    let (crypted, rdp) := security_encrypt (bytes_at s ptr (length + 3)) rdp
    (stream_poke s ptr crypted, rdp)
  else (s, rdp)

/-- The loop of `fastpath_send_update_pdu`. `written` says if `transport_write` can write
the PDU. The header of the next fragment goes over the end of this one, which has been
sent by then. Each turn sends at least one byte. -/
def send_fragments (written : List UInt8 → Bool) (updateCode : UInt8) (sec_bytes maxLength : Nat) :
    Nat → Nat → Nat → STREAM → rdpRdp C → Sent C
  | 0, _, _, _, rdp => { pdus := [], result := true, rdp }
  | fuel + 1, fragment, totalLength, s, rdp =>
    if totalLength > 0 then
      let length := min maxLength totalLength
      let totalLength := totalLength - length
      let pduLength := length + 6 + sec_bytes
      let fragmentation := fragmentation_of fragment totalLength
      let bm := stream_get_pos s
      let s := write_fragment_header s updateCode fragmentation length sec_bytes
      let (s, rdp) := secure_fragment rdp s bm length sec_bytes
      let pdu := bytes_at s bm pduLength
      if written pdu then
        let s := stream_set_pos s (s.pos + length - (6 + sec_bytes))
        let rest := send_fragments written updateCode sec_bytes maxLength fuel (fragment + 1)
          totalLength s rdp
        { rest with pdus := pdu :: rest.pdus }
      else { pdus := [], result := false, rdp }
    else { pdus := [], result := true, rdp }

def fastpath_send_update_pdu (written : List UInt8 → Bool) (rdp : rdpRdp C) (updateCode : UInt8)
    (s : STREAM) : Sent C :=
  let sec_bytes := fastpath_get_sec_bytes rdp
  let maxLength := FASTPATH_MAX_PACKET_SIZE - 6 - sec_bytes
  let totalLength := stream_get_length s - 6 - sec_bytes
  send_fragments written updateCode sec_bytes maxLength totalLength 0 totalLength
    (stream_set_pos s 0) rdp

def update_send_pointer_system (written : List UInt8 → Bool) (rdp : rdpRdp C) (s : STREAM)
    (type : Nat) : Sent C :=
  let s := fastpath_update_pdu_init rdp s
  let updateCode :=
    if type = SYSPTR_NULL then FASTPATH_UPDATETYPE_PTR_NULL else FASTPATH_UPDATETYPE_PTR_DEFAULT
  fastpath_send_update_pdu written rdp updateCode s

end

end neutrinordp.fastpath
