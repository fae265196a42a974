-- Network level authentication (credssp.c): the messages of CredSSP, the credentials, and
-- the exchange with the server. The sealing of messages is the one of ntlmssp.c. Its three
-- handshake messages, RC4 and HMAC-MD5 are parameters.
import CorporateClient.Ber

namespace neutrinordp.credssp

open bytes stream ber

/-! ## Sealed messages -/

/-- RC4 with its state, and HMAC-MD5 with its key. -/
structure Crypto (ρ : Type) where
  crypto_rc4 : ρ → List UInt8 → List UInt8 × ρ
  hmac_md5 : List UInt8 → List UInt8 → List UInt8
  length_rc4 : ∀ r m, (crypto_rc4 r m).1.length = m.length

/-- The state of NTLMSSP that CredSSP needs. -/
structure NTLMSSP (ρ : Type) where
  send_rc4_seal : ρ
  recv_rc4_seal : ρ
  client_signing_key : List UInt8
  server_signing_key : List UInt8
  send_seq_num : Nat
  recv_seq_num : Nat
  domain : List UInt8
  username : List UInt8
  password : List UInt8
deriving DecidableEq

section

variable {ρ : Type} (cr : Crypto ρ)

def ntlmssp_encrypt_message (ntlmssp : NTLMSSP ρ) (msg : List UInt8) :
    List UInt8 × List UInt8 × NTLMSSP ρ :=
  let digest := cr.hmac_md5 ntlmssp.client_signing_key (le32 ntlmssp.send_seq_num ++ msg)
  let (encrypted_msg, rc4) := cr.crypto_rc4 ntlmssp.send_rc4_seal msg
  let (checksum, rc4) := cr.crypto_rc4 rc4 (digest.take 8)
  let signature := le32 1 ++ checksum ++ le32 ntlmssp.send_seq_num
  (encrypted_msg, signature,
    { ntlmssp with
      send_rc4_seal := rc4, send_seq_num := (ntlmssp.send_seq_num + 1) % 4294967296 })

/-- The message, and if the signature is the expected one. With a wrong signature, the
number of the next message stays. -/
def ntlmssp_decrypt_message (ntlmssp : NTLMSSP ρ) (encrypted_msg signature : List UInt8) :
    Bool × List UInt8 × NTLMSSP ρ :=
  let (msg, rc4) := cr.crypto_rc4 ntlmssp.recv_rc4_seal encrypted_msg
  let digest := cr.hmac_md5 ntlmssp.server_signing_key (le32 ntlmssp.recv_seq_num ++ msg)
  let (checksum, rc4) := cr.crypto_rc4 rc4 (digest.take 8)
  let expected_signature := le32 1 ++ checksum ++ le32 ntlmssp.recv_seq_num
  if signature ≠ expected_signature then (false, msg, { ntlmssp with recv_rc4_seal := rc4 })
  else (true, msg,
    { ntlmssp with
      recv_rc4_seal := rc4, recv_seq_num := (ntlmssp.recv_seq_num + 1) % 4294967296 })

end

/-! ## The credentials -/

section

variable {ρ : Type} (ntlmssp : NTLMSSP ρ)

def credssp_skip_ts_password_creds : Nat :=
  let length := ber_skip_octet_string ntlmssp.domain.length
  let length := length + ber_skip_contextual_tag length
  let ts_password_creds_length := length
  let length := ber_skip_octet_string ntlmssp.username.length
  let length := length + ber_skip_contextual_tag length
  let ts_password_creds_length := ts_password_creds_length + length
  let length := ber_skip_octet_string ntlmssp.password.length
  let length := length + ber_skip_contextual_tag length
  let ts_password_creds_length := ts_password_creds_length + length
  ber_skip_sequence ts_password_creds_length

def credssp_write_ts_password_creds : StateM STREAM Unit := do
  let length := credssp_skip_ts_password_creds ntlmssp
  -- TSPasswordCreds (SEQUENCE)
  let length := ber_get_content_length length
  let _ ← ber_write_sequence_tag length
  -- [0] domainName (OCTET STRING)
  let _ ← ber_write_contextual_tag 0 (ntlmssp.domain.length + 2) true
  ber_write_octet_string ntlmssp.domain ntlmssp.domain.length
  -- [1] userName (OCTET STRING)
  let _ ← ber_write_contextual_tag 1 (ntlmssp.username.length + 2) true
  ber_write_octet_string ntlmssp.username ntlmssp.username.length
  -- [2] password (OCTET STRING)
  let _ ← ber_write_contextual_tag 2 (ntlmssp.password.length + 2) true
  ber_write_octet_string ntlmssp.password ntlmssp.password.length

def credssp_skip_ts_credentials : Nat :=
  let length := ber_skip_integer 0
  let length := length + ber_skip_contextual_tag length
  let ts_credentials_length := length
  let ts_password_creds_length := credssp_skip_ts_password_creds ntlmssp
  let length := ber_skip_octet_string ts_password_creds_length
  let length := length + ber_skip_contextual_tag length
  let ts_credentials_length := ts_credentials_length + length
  ber_skip_sequence ts_credentials_length

def credssp_write_ts_credentials : StateM STREAM Unit := do
  let length := credssp_skip_ts_credentials ntlmssp
  let ts_password_creds_length := credssp_skip_ts_password_creds ntlmssp
  -- TSCredentials (SEQUENCE)
  let length := ber_get_content_length length
  let n ← ber_write_sequence_tag length
  let length := length - n
  -- [0] credType (INTEGER)
  let n ← ber_write_contextual_tag 0 3 true
  let length := length - n
  let n ← ber_write_integer 1
  let length := length - n
  -- [1] credentials (OCTET STRING)
  let length := length - 1
  let n ← ber_write_contextual_tag 1 length true
  let length := length - n
  let n ← ber_write_octet_string_tag ts_password_creds_length
  let _ := length - n
  credssp_write_ts_password_creds ntlmssp

/-- The encoded credentials. The buffer has as many bytes as `credssp_skip_ts_credentials`
says. -/
def credssp_encode_ts_credentials : List UInt8 :=
  let length := credssp_skip_ts_credentials ntlmssp
  ((credssp_write_ts_credentials ntlmssp).run (stream_of (List.replicate length 0))).2.data.take
    length

end

/-! ## Messages -/

def credssp_skip_nego_token (length : Nat) : Nat :=
  let length := ber_skip_octet_string length
  length + ber_skip_contextual_tag length

def credssp_skip_nego_tokens (length : Nat) : Nat :=
  let length := credssp_skip_nego_token length
  let length := length + ber_skip_sequence_tag length
  let length := length + ber_skip_sequence_tag length
  length + ber_skip_contextual_tag length

/-- The common form of `credssp_skip_pub_key_auth` and `credssp_skip_auth_info`. -/
def skip_field (length : Nat) : Nat :=
  let length := ber_skip_octet_string length
  length + ber_skip_contextual_tag length

def credssp_skip_pub_key_auth : Nat → Nat := skip_field
def credssp_skip_auth_info : Nat → Nat := skip_field

def credssp_skip_ts_request (length : Nat) : Nat :=
  let length := length + ber_skip_integer 2
  let length := length + ber_skip_contextual_tag 3
  length + ber_skip_sequence_tag length

/-- The fields of a message. -/
structure TSRequest where
  negoToken : Option (List UInt8)
  authInfo : Option (List UInt8)
  pubKeyAuth : Option (List UInt8)
deriving Repr, DecidableEq

def write_nego_tokens (nego_tokens_length : Nat) (negoToken : List UInt8) : StateM STREAM Unit := do
  let length := ber_get_content_length nego_tokens_length
  let n ← ber_write_contextual_tag 1 length true
  let length := length - n
  let n ← ber_write_sequence_tag length
  let length := length - n
  let n ← ber_write_sequence_tag length
  let length := length - n
  let n ← ber_write_contextual_tag 0 length true
  let length := length - n
  ber_write_octet_string negoToken length

def write_auth_info (auth_info_length : Nat) (authInfo : List UInt8) : StateM STREAM Unit := do
  let length := ber_get_content_length auth_info_length
  let _ ← ber_write_contextual_tag 2 length true
  ber_write_octet_string authInfo authInfo.length

def write_pub_key_auth (pub_key_auth_length : Nat) (pubKeyAuth : List UInt8) :
    StateM STREAM Unit := do
  let length := ber_get_content_length pub_key_auth_length
  let n ← ber_write_contextual_tag 3 length true
  let length := length - n
  ber_write_octet_string pubKeyAuth length

def TSRequest.nego_tokens_length (m : TSRequest) : Nat :=
  match m.negoToken with
  | some negoToken => credssp_skip_nego_tokens negoToken.length
  | none => 0

def TSRequest.pub_key_auth_length (m : TSRequest) : Nat :=
  match m.pubKeyAuth with
  | some pubKeyAuth => credssp_skip_pub_key_auth pubKeyAuth.length
  | none => 0

def TSRequest.auth_info_length (m : TSRequest) : Nat :=
  match m.authInfo with
  | some authInfo => credssp_skip_auth_info authInfo.length
  | none => 0

def TSRequest.ts_request_length (m : TSRequest) : Nat :=
  credssp_skip_ts_request (m.nego_tokens_length + m.pub_key_auth_length + m.auth_info_length)

/-- Writes the fields that are there. The length of a field that is there is not 0. -/
def write_ts_request (m : TSRequest) : StateM STREAM Unit := do
  -- TSRequest
  let length := ber_get_content_length m.ts_request_length
  let _ ← ber_write_sequence_tag length
  -- [0] version
  let _ ← ber_write_contextual_tag 0 3 true
  let _ ← ber_write_integer 2
  m.negoToken.forM (write_nego_tokens m.nego_tokens_length)
  m.authInfo.forM (write_auth_info m.auth_info_length)
  m.pubKeyAuth.forM (write_pub_key_auth m.pub_key_auth_length)

/-- The bytes that `tls_write` gets. -/
def credssp_send (m : TSRequest) : List UInt8 :=
  let s := ((write_ts_request m).run (stream_new m.ts_request_length)).2
  s.data.take (stream_get_length s)

/-- What the variables of `credssp_recv` hold before they are set, and the memory behind
its stream. -/
structure Junk where
  length : Int
  integer_length : Int
  version : Nat
  heap : List UInt8

/-- The stream after `tls_read`, which reads up to 2048 bytes. -/
def recv_stream (junk : Junk) (bytes : List UInt8) : STREAM :=
  let s := stream_poke (stream_new 2048) 0 (bytes.take 2048)
  { s with data := s.data ++ junk.heap }

/-- Reads into a new blob. `none`: there is no memory for the blob, and the code writes to
a null pointer. -/
def read_blob (length : Int) : StateM STREAM (Option (List UInt8)) :=
  if length < 0 ∨ length > 16 * 1024 * 1024 then pure none
  else do
    let data ← stream_read length.toNat
    return some data

/-- The content of a field that is there. `wanted`: the caller has a blob for the field.
Without one the code writes to a null pointer. -/
def read_content (wanted : Bool) (length : Int) :
    StateM STREAM (Option (Option (List UInt8)) × Int) := do
  let (_, length) ← ber_read_octet_string length
  if wanted then
    let data ← read_blob length
    return (data.map some, length)
  else return (none, length)

def read_nego_tokens (length : Int) : StateM STREAM (Option (Option (List UInt8)) × Int) := do
  let (present, length) ← ber_read_contextual_tag 1 length true
  if present then
    let (_, length) ← ber_read_sequence_tag length
    let (_, length) ← ber_read_sequence_tag length
    let (_, length) ← ber_read_contextual_tag 0 length true
    read_content true length
  else return (some none, length)

def read_octets (tag : UInt8) (wanted : Bool) (length : Int) :
    StateM STREAM (Option (Option (List UInt8)) × Int) := do
  let (present, length) ← ber_read_contextual_tag tag length true
  if present then read_content wanted length
  else return (some none, length)

/-- The fields of a message. `none`: the code writes to a null pointer. -/
def read_ts_request (junk : Junk) (auth_info pub_key_auth : Bool) :
    StateM STREAM (Option TSRequest) := do
  -- TSRequest
  let (_, length) ← ber_read_sequence_tag junk.length
  let (_, length) ← ber_read_contextual_tag 0 length true
  let _ ← ber_read_integer junk.integer_length junk.version
  let (negoToken, length) ← read_nego_tokens length
  let (authInfo, length) ← read_octets 2 auth_info length
  let (pubKeyAuth, _) ← read_octets 3 pub_key_auth length
  return do
    let negoToken ← negoToken
    let authInfo ← authInfo
    let pubKeyAuth ← pubKeyAuth
    return { negoToken, authInfo, pubKeyAuth }

/-- `auth_info` and `pub_key_auth` say if the caller has a blob for these fields. -/
def credssp_recv (junk : Junk) (auth_info pub_key_auth : Bool) (bytes : List UInt8) :
    Option TSRequest :=
  ((read_ts_request junk auth_info pub_key_auth).run (recv_stream junk bytes)).1

/-! ## The exchange with the server -/

section

variable {ρ : Type} (cr : Crypto ρ)

/-- The three messages of the NTLMSSP handshake: `ntlmssp_send` of a NEGOTIATE message,
`ntlmssp_recv` of a CHALLENGE message and `ntlmssp_send` of an AUTHENTICATE message. -/
structure Handshake (ρ : Type) where
  negotiate : NTLMSSP ρ → List UInt8 × NTLMSSP ρ
  challenge : NTLMSSP ρ → List UInt8 → NTLMSSP ρ
  authenticate : NTLMSSP ρ → List UInt8 × NTLMSSP ρ

/-- `sent` holds the messages that were sent. It is not in the code. -/
structure rdpCredssp (ρ : Type) where
  ntlmssp : NTLMSSP ρ
  public_key : List UInt8
  negoToken : List UInt8
  pubKeyAuth : List UInt8
  sent : List TSRequest
deriving DecidableEq

/-- What happens around one exchange: if `credssp_ntlmssp_init` succeeds, the key of the
TLS connection, the answers of the server (`none`: `tls_read` fails), and the memory. -/
structure World where
  init : Bool
  public_key : Option (List UInt8)
  first : Option (List UInt8)
  second : Option (List UInt8)
  first_junk : Junk
  second_junk : Junk
  behind_key : Nat → UInt8

def rdpCredssp.send (credssp : rdpCredssp ρ) (m : TSRequest) : rdpCredssp ρ :=
  { credssp with sent := credssp.sent ++ [m] }

/-- The common form of `credssp_encrypt_public_key` and `credssp_encrypt_ts_credentials`. -/
def credssp_encrypt (ntlmssp : NTLMSSP ρ) (msg : List UInt8) : List UInt8 × NTLMSSP ρ :=
  let (encrypted, signature, ntlmssp) := ntlmssp_encrypt_message cr ntlmssp msg
  (signature ++ encrypted, ntlmssp)

def memory_at (block : List UInt8) (behind : Nat → UInt8) (i : Nat) : UInt8 :=
  if i < block.length then block.getD i 0 else behind (i - block.length)

def decrement_first : List UInt8 → List UInt8
  | [] => []
  | b :: bs => (b - 1) :: bs

/-- Compares as many bytes as were received. The result of `ntlmssp_decrypt_message` is not
used. `none`: for less than 16 bytes the length of the key is negative, and the code writes
to a null pointer. -/
def credssp_verify_public_key (world : World) (credssp : rdpCredssp ρ) (d : List UInt8) :
    Option (Bool × rdpCredssp ρ) :=
  if d.length < 16 then none
  else
    let signature := d.take 16
    let encrypted_public_key := d.drop 16
    let (_, public_key, ntlmssp) :=
      ntlmssp_decrypt_message cr credssp.ntlmssp encrypted_public_key signature
    let p2 := decrement_first public_key
    let equal := (List.range public_key.length).all fun i =>
      memory_at credssp.public_key world.behind_key i = p2.getD i 0
    some (equal, { credssp with ntlmssp })

/-- The exchange up to the last answer of the server. An `error` is what
`credssp_authenticate` returns early. -/
def credssp_exchange (hs : Handshake ρ) (world : World) (credssp : rdpCredssp ρ) :
    Option (rdpCredssp ρ × Except Int TSRequest) :=
  match world.init, world.public_key with
  | false, _ => some (credssp, .error 0)
  | true, none => some (credssp, .error 0)
  | true, some public_key =>
    let credssp := { credssp with public_key }
    -- NTLMSSP NEGOTIATE MESSAGE
    let (negoToken, ntlmssp) := hs.negotiate credssp.ntlmssp
    let credssp := { credssp with negoToken, ntlmssp }
    let credssp := credssp.send ⟨some negoToken, none, none⟩
    -- NTLMSSP CHALLENGE MESSAGE
    match world.first with
    | none => some (credssp, .error (-1))
    | some bytes => do
      let m ← credssp_recv world.first_junk false false bytes
      let negoToken := m.negoToken.getD credssp.negoToken
      let credssp := { credssp with ntlmssp := hs.challenge credssp.ntlmssp negoToken }
      -- NTLMSSP AUTHENTICATE MESSAGE
      let (negoToken, ntlmssp) := hs.authenticate credssp.ntlmssp
      let (pubKeyAuth, ntlmssp) := credssp_encrypt cr ntlmssp credssp.public_key
      let credssp := { credssp with negoToken, ntlmssp }
      let credssp := credssp.send ⟨some negoToken, none, some pubKeyAuth⟩
      -- freerdp_blob_free leaves an empty blob
      let credssp := { credssp with pubKeyAuth := [] }
      -- Encrypted Public Key +1
      match world.second with
      | none => return (credssp, .error (-1))
      | some bytes =>
        let m ← credssp_recv world.second_junk false true bytes
        let credssp := { credssp with
          negoToken := m.negoToken.getD credssp.negoToken
          pubKeyAuth := m.pubKeyAuth.getD credssp.pubKeyAuth }
        return (credssp, .ok m)

def credssp_finish (world : World) (credssp : rdpCredssp ρ) : Option (Int × rdpCredssp ρ) := do
  let (equal, credssp) ← credssp_verify_public_key cr world credssp credssp.pubKeyAuth
  if equal = false then return (0, credssp)
  else
    let ts_credentials := credssp_encode_ts_credentials credssp.ntlmssp
    let (authInfo, ntlmssp) := credssp_encrypt cr credssp.ntlmssp ts_credentials
    let credssp := { credssp with ntlmssp, negoToken := [], pubKeyAuth := [] }
    return (1, credssp.send ⟨none, some authInfo, none⟩)

def credssp_authenticate (hs : Handshake ρ) (world : World) (credssp : rdpCredssp ρ) :
    Option (Int × rdpCredssp ρ) := do
  let (credssp, result) ← credssp_exchange cr hs world credssp
  match result with
  | .error status => return (status, credssp)
  | .ok _ => credssp_finish cr world credssp

end

end neutrinordp.credssp
