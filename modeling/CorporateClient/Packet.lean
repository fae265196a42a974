-- RDP packets on the wire (rdp.c): the headers of a packet, its signature and
-- encryption when it is sent, and the way back when it comes in.
import CorporateClient.Headers
import CorporateClient.Security

namespace neutrinordp.packet

open stream headers security

def SEC_ENCRYPT : Nat := 0x0008
def SEC_REDIRECTION_PKT : Nat := 0x0400
def SEC_SECURE_CHECKSUM : Nat := 0x0800

def RDP_PACKET_HEADER_MAX_LENGTH : Nat := 15

def MCS_BASE_CHANNEL_ID : Nat := 1001
def MCS_GLOBAL_CHANNEL_ID : Nat := 1003

def DomainMCSPDU_DisconnectProviderUltimatum : Nat := 8
def DomainMCSPDU_SendDataRequest : Nat := 25
def DomainMCSPDU_SendDataIndication : Nat := 26

/-! ## MCS -/

/-- The kind of the MCS PDU and the TPKT length, or `none` when the packet is not an
X.224 data packet. -/
def mcs_read_domain_mcspdu_header : StateM STREAM (Option (Nat × Nat)) := do
  let length ← tpkt_read_header
  let li ← tpdu_read_data
  if li = 0 then return none
  else
    let choice ← per_read_choice
    return some (choice.toNat >>> 2, length)

def mcs_write_domain_mcspdu_header (s : STREAM) (domainMCSPDU length options : Nat) : STREAM :=
  let s := tpkt_write_header s length
  let s := tpdu_write_data s
  per_write_choice s ((domainMCSPDU <<< 2) ||| options)

/-! ## Security headers -/

def rdp_read_security_header : StateM STREAM Nat := do
  let flags ← stream_read_uint16
  modify fun s => stream_seek s 2
  return flags

def rdp_write_security_header (s : STREAM) (flags : Nat) : STREAM :=
  stream_write_uint16 (stream_write_uint16 s flags) 0

section

variable {C : Crypto}

def rdp_security_stream_init (rdp : rdpRdp C) (s : STREAM) : rdpRdp C × STREAM :=
  if rdp.do_crypt then
    let s := stream_seek s 12
    let s := if rdp.encryption_method = ENCRYPTION_METHOD_FIPS then stream_seek s 4 else s
    let sec_flags := rdp.sec_flags ||| SEC_ENCRYPT
    let sec_flags := if rdp.do_secure_checksum then sec_flags ||| SEC_SECURE_CHECKSUM else sec_flags
    ({ rdp with sec_flags }, s)
  else if rdp.sec_flags ≠ 0 then (rdp, stream_seek s 4)
  else (rdp, s)

/-! ## Packet headers -/

/-- The length and the channel of a packet, or `none` for a parse error. -/
def rdp_read_header (rdp : rdpRdp C) (s : STREAM) : Option (Nat × Nat) × STREAM × rdpRdp C :=
  match mcs_read_domain_mcspdu_header s with
  | (none, s) => (none, s, rdp)
  | (some (MCSPDU, length), s) =>
    if (length : Int) - 8 > stream_get_left s then (none, s, rdp)
    else if MCSPDU = DomainMCSPDU_DisconnectProviderUltimatum then
      match per_read_enumerated s with
      | (none, s) => (none, s, rdp)
      | (some _, s) =>
        (some (length, MCS_GLOBAL_CHANNEL_ID), s, { rdp with disconnect := true })
    else if stream_get_left s < 5 then (none, s, rdp)
    else
      -- The result of reading the initiator is not looked at.
      let s := (per_read_integer16 MCS_BASE_CHANNEL_ID s).2
      let (channel_id, s) := stream_read_uint16_be s
      match per_read_length (stream_seek s 1) with
      | (none, s) => (none, s, rdp)
      | (some length, s) =>
        if (length : Int) > stream_get_left s then (none, s, rdp)
        else (some (length, channel_id), s, rdp)

/-- The length that `rdp_write_header` puts in the header: FIPS pads the body to whole
blocks. -/
def rdp_padded_length (rdp : rdpRdp C) (length : Nat) : Nat :=
  if rdp.sec_flags &&& SEC_ENCRYPT ≠ 0 ∧ rdp.encryption_method = ENCRYPTION_METHOD_FIPS then
    let body_length : Int := (length : Int) - RDP_PACKET_HEADER_MAX_LENGTH - 16
    let pad := 8 - Int.tmod body_length 8
    if pad ≠ 8 then (((length : Int) + pad) % 65536).toNat else length
  else length

def rdp_write_header (rdp : rdpRdp C) (s : STREAM) (length channel_id : Nat) : STREAM :=
  let MCSPDU :=
    if rdp.server_mode then DomainMCSPDU_SendDataIndication else DomainMCSPDU_SendDataRequest
  let length := rdp_padded_length rdp length
  let s := mcs_write_domain_mcspdu_header s MCSPDU length 0
  let s := per_write_integer16 s rdp.user_id MCS_BASE_CHANNEL_ID
  let s := per_write_integer16 s channel_id 0
  let s := stream_write_uint8 s 0x70
  -- The length always takes two bytes, so that the header has a fixed size.
  stream_write_uint16_be s
    ((((length : Int) - RDP_PACKET_HEADER_MAX_LENGTH) % 65536).toNat ||| 0x8000)

/-! ## Sending -/

def rdp_packet_signature (rdp : rdpRdp C) (data : List UInt8) : List UInt8 :=
  if rdp.sec_flags &&& SEC_SECURE_CHECKSUM ≠ 0 then security_salted_mac_signature rdp data true
  else security_mac_signature rdp data

def rdp_stream_out_rc4 (rdp : rdpRdp C) (s : STREAM) (length : Nat) : STREAM × rdpRdp C :=
  let data := s.pos + 8
  let length := length - data
  let s := stream_seek (stream_poke s s.pos (rdp_packet_signature rdp (bytes_at s data length))) 8
  let (crypted, rdp) := security_encrypt (bytes_at s data length) rdp
  (stream_poke s data crypted, rdp)

def rdp_stream_out_fips (rdp : rdpRdp C) (s : STREAM) (length : Nat) : Nat × STREAM × rdpRdp C :=
  let data := s.pos + 12
  let length := length - data
  let s := stream_write_uint16 s 0x10
  let s := stream_write_uint8 s 0x1
  let pad := (8 - length % 8) &&& 7
  let s := stream_poke s (data + length) (List.replicate pad 0)
  let s := stream_write_uint8 s pad
  let s := stream_seek (stream_poke s s.pos
    (security_hmac_signature (bytes_at s data length) rdp)) 8
  let (crypted, rdp) := security_fips_encrypt (bytes_at s data (length + pad)) rdp
  (pad, stream_poke s data crypted, rdp)

def clear_sec_flags (rdp : rdpRdp C) : rdpRdp C := { rdp with sec_flags := 0 }

/-- Writes the security header, signs the data behind it and encrypts it. `length` is
the length of the whole packet so far, and the result is the padding that was added
to it. -/
def rdp_security_stream_out (rdp : rdpRdp C) (s : STREAM) (length : Nat) :
    Nat × STREAM × rdpRdp C :=
  if rdp.sec_flags = 0 then (0, s, rdp)
  else
    let s := rdp_write_security_header s rdp.sec_flags
    if rdp.sec_flags &&& SEC_ENCRYPT = 0 then (0, s, clear_sec_flags rdp)
    else if rdp.encryption_method = ENCRYPTION_METHOD_FIPS then
      let (pad, s, rdp) := rdp_stream_out_fips rdp s length
      (pad, s, clear_sec_flags rdp)
    else
      let (s, rdp) := rdp_stream_out_rc4 rdp s length
      (0, s, clear_sec_flags rdp)

/-- Sends the packet in the stream. The result is what `transport_write` gets. -/
def rdp_send (rdp : rdpRdp C) (s : STREAM) (channel_id : Nat) : List UInt8 × rdpRdp C :=
  let length := stream_get_length s % 65536
  let s := rdp_write_header rdp (stream_set_pos s 0) length channel_id
  let (pad, s, rdp) := rdp_security_stream_out rdp s length
  (s.data.take ((length + pad) % 65536), rdp)

/-! ## Receiving -/

/-- The end of `rdp_decrypt`. Without FIPS a wrong signature is only logged:
`signature_ok` is what the log says. -/
structure Decrypted (C : Crypto) where
  ok : Bool
  signature_ok : Bool
  stream : STREAM
  rdp : rdpRdp C

/-- The signature that the receiver of a packet without FIPS works out from the plain
data. -/
def rdp_check_signature (rdp : rdpRdp C) (securityFlags : Nat) (data : List UInt8) : List UInt8 :=
  if securityFlags &&& SEC_SECURE_CHECKSUM ≠ 0 then security_salted_mac_signature rdp data false
  else security_mac_signature rdp data

/-- `none` is a fault: the length is too small for the signature or the padding, or the
data is not made of whole blocks. -/
def rdp_decrypt (rdp : rdpRdp C) (s : STREAM) (length securityFlags : Nat) : Option (Decrypted C) :=
  if rdp.encryption_method = ENCRYPTION_METHOD_FIPS then
    let (_len, s) := stream_read_uint16 s
    let (_version, s) := stream_read_uint8 s
    let (pad, s) := stream_read_uint8 s
    let (sig, s) := stream_read 8 s
    if length < 12 + pad.toNat then none
    else
      let length := length - 12
      (security_fips_decrypt (bytes_at s s.pos length) rdp).map fun (plain, rdp) =>
        let s := stream_poke s s.pos plain
        let (ok, rdp) :=
          security_fips_check_signature (bytes_at s s.pos (length - pad.toNat)) sig rdp
        if ok then
          { ok, signature_ok := ok, stream := { s with size := s.size - pad.toNat }, rdp }
        else { ok, signature_ok := ok, stream := s, rdp }
  else
    let (wmac, s) := stream_read 8 s
    if length < 8 then none
    else
      let length := length - 8
      let (plain, rdp) := security_decrypt (bytes_at s s.pos length) rdp
      let s := stream_poke s s.pos plain
      let cmac := rdp_check_signature rdp securityFlags (bytes_at s s.pos length)
      some { ok := true, signature_ok := wmac == cmac, stream := s, rdp }

end

end neutrinordp.packet
