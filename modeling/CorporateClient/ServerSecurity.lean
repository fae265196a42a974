-- The security block of the server (gcc.c) and the certificate in it (certificate.c). The
-- server writes its random and its public key, and the client reads both for the exchange of
-- the session keys.
import CorporateClient.GccBlockLaws
import CorporateClient.Security

namespace neutrinordp.gcc

open bytes codec stream security
open List hiding Vector

def SC_SECURITY : Nat := 0x0C02

def ENCRYPTION_METHOD_40BIT : Nat := 0x01
def ENCRYPTION_LEVEL_CLIENT_COMPATIBLE : Nat := 2

def CERT_CHAIN_VERSION_1 : Nat := 1
def CERT_CHAIN_VERSION_2 : Nat := 2
def CERT_CHAIN_VERSION_MASK : Nat := 0x7FFFFFFF
def SIGNATURE_ALG_RSA : Nat := 1
def KEY_EXCHANGE_ALG_RSA : Nat := 1
def BB_RSA_KEY_BLOB : Nat := 6
def BB_RSA_SIGNATURE_BLOB : Nat := 8

/-- The text in front of a key: `RSA1`. -/
def RSA1 : List UInt8 := [0x52, 0x53, 0x41, 0x31]

/-- A public key, as the server has it and as the client reads it. -/
structure rdpCertInfo where
  modulus : List UInt8
  exponent : Vector UInt8 4
deriving DecidableEq

/-- The settings that the block is about. The server has its key in `key`, and the client puts
there what it reads of the certificate. -/
structure SecuritySettings where
  encryption : Bool
  encryption_method : UInt32
  encryption_level : UInt32
  server_random : List UInt8
  server_certificate : List UInt8
  key : rdpCertInfo
deriving DecidableEq

/-! ## The certificate -/

def certificate_process_server_public_key (info : rdpCertInfo) :
    StateM STREAM (Bool × rdpCertInfo) := do
  let magic ← stream_read 4
  if magic ≠ RSA1 then return (false, info)
  let keylen ← stream_read_uint32
  let _bitlen ← stream_read_uint32
  let _datalen ← stream_read_uint32
  let exponent ← stream_read 4
  let modlen := (keylen + 4294967296 - 8) % 4294967296
  let modulus ← stream_read modlen
  stream_skip 8
  return (true, ⟨modulus, .ofFn fun i => exponent.getD i 0⟩)

/-- The signature is compared, but a difference is only printed. -/
def certificate_process_server_public_signature (siglen : Nat) : StateM STREAM Bool := do
  stream_skip siglen
  return true

def read_key_blob (info : rdpCertInfo) : StateM STREAM (Bool × rdpCertInfo) := do
  let dwSigAlgId ← stream_read_uint32
  let dwKeyAlgId ← stream_read_uint32
  if ¬ (dwSigAlgId = SIGNATURE_ALG_RSA ∧ dwKeyAlgId = KEY_EXCHANGE_ALG_RSA) then
    return (false, info)
  let wPublicKeyBlobType ← stream_read_uint16
  if wPublicKeyBlobType ≠ BB_RSA_KEY_BLOB then return (false, info)
  let _wPublicKeyBlobLen ← stream_read_uint16
  certificate_process_server_public_key info

def read_signature_blob : StateM STREAM Bool := do
  let wSignatureBlobType ← stream_read_uint16
  if wSignatureBlobType ≠ BB_RSA_SIGNATURE_BLOB then return false
  let wSignatureBlobLen ← stream_read_uint16
  if wSignatureBlobLen ≠ 72 then return false
  certificate_process_server_public_signature wSignatureBlobLen

def certificate_read_server_proprietary_certificate (info : rdpCertInfo) :
    StateM STREAM (Bool × rdpCertInfo) := do
  let (ok, info) ← read_key_blob info
  if !ok then return (false, info)
  let ok ← read_signature_blob
  return (ok, info)

/-- The chain of X.509 certificates is read by `x509_chain`. What the readers return is not
looked at. -/
def certificate_read_server_certificate (x509_chain : rdpCertInfo → STREAM → rdpCertInfo)
    (info : rdpCertInfo) (server_cert : List UInt8) : Bool × rdpCertInfo :=
  if server_cert.length < 1 then (false, info)
  else
    let (dwVersion, s) := stream_read_uint32 (stream_of server_cert)
    let version := dwVersion &&& CERT_CHAIN_VERSION_MASK
    if version = CERT_CHAIN_VERSION_1 then
      (true, (certificate_read_server_proprietary_certificate info s).1.2)
    else if version = CERT_CHAIN_VERSION_2 then (true, x509_chain info s)
    else (true, info)

/-! ## The block -/

def gcc_read_server_security_data (x509_chain : rdpCertInfo → STREAM → rdpCertInfo)
    (settings : SecuritySettings) : Fallible SecuritySettings := do
  let encryption_method ← stream_read_uint32
  let encryption_level ← stream_read_uint32
  let settings := { settings with
    encryption_method := UInt32.ofNat encryption_method
    encryption_level := UInt32.ofNat encryption_level }
  if encryption_method = 0 ∧ encryption_level = 0 then
    return { settings with encryption := false }
  let serverRandomLen ← stream_read_uint32
  let serverCertLen ← stream_read_uint32
  refuse (serverRandomLen = 0)
  let server_random ← stream_read serverRandomLen
  refuse (serverCertLen = 0)
  let server_certificate ← stream_read serverCertLen
  -- The certificate of an earlier connection is dropped.
  let (ok, key) := certificate_read_server_certificate x509_chain ⟨[], .replicate 4 0⟩
    server_certificate
  refuse (ok = false)
  return { settings with server_random, server_certificate, key }

def chosen_method (settings : SecuritySettings) : UInt32 :=
  let method := settings.encryption_method.toNat
  if !settings.encryption then 0
  else if method &&& ENCRYPTION_METHOD_FIPS ≠ 0 then .ofNat ENCRYPTION_METHOD_FIPS
  else if method &&& ENCRYPTION_METHOD_128BIT ≠ 0 then .ofNat ENCRYPTION_METHOD_128BIT
  else if method &&& ENCRYPTION_METHOD_40BIT ≠ 0 then .ofNat ENCRYPTION_METHOD_40BIT
  else settings.encryption_method

def chosen_level (settings : SecuritySettings) : UInt32 :=
  if chosen_method settings ≠ 0 then .ofNat ENCRYPTION_LEVEL_CLIENT_COMPATIBLE
  else if !settings.encryption then 0
  else settings.encryption_level

/-- The magic, three lengths, the exponent, the modulus and eight bytes of padding. -/
def wPublicKeyBlobLen (keyLen : Nat) : Nat := 4 + 4 + 4 + 4 + 4 + keyLen + 8

/-- The version, the algorithms, and both blobs with their types and lengths. -/
def serverCertLen (keyLen : Nat) : Nat :=
  4 + 4 + 4 + 2 + 2 + wPublicKeyBlobLen keyLen + 2 + 2 + 64 + 8

def write_key_blob (key : rdpCertInfo) : Fallible PUnit := do
  let keyLen := key.modulus.length
  modify (stream_write_uint32 · CERT_CHAIN_VERSION_1)
  modify (stream_write_uint32 · SIGNATURE_ALG_RSA)
  modify (stream_write_uint32 · KEY_EXCHANGE_ALG_RSA)
  modify (stream_write_uint16 · BB_RSA_KEY_BLOB)
  modify (stream_write_uint16 · (wPublicKeyBlobLen keyLen))
  modify (stream_write · RSA1)
  modify (stream_write_uint32 · (keyLen + 8))
  modify (stream_write_uint32 · (keyLen * 8))
  modify (stream_write_uint32 · (keyLen + 4294967296 - 1))
  modify (stream_write · key.exponent.toList)
  modify (stream_write · key.modulus)
  modify (stream_write · (replicate 8 0))

def write_signature_blob (sign : List UInt8 → Vector UInt8 64) (keyLen : Nat)
    (signed : List UInt8) : Fallible PUnit := do
  modify (stream_write_uint16 · BB_RSA_SIGNATURE_BLOB)
  modify (stream_write_uint16 · (keyLen + 8))
  modify (stream_write · (sign signed).toList)
  modify (stream_write · (replicate 8 0))

/-- `nonce` is the new random, and `sign` gives the encrypted signature of the certificate. -/
def gcc_write_server_security_data (nonce : Vector UInt8 32)
    (sign : List UInt8 → Vector UInt8 64) (settings : SecuritySettings) :
    Fallible SecuritySettings := do
  let settings := { settings with
    encryption_method := chosen_method settings, encryption_level := chosen_level settings }
  let keyLen := settings.key.modulus.length
  if settings.encryption_method = 0 ∧ settings.encryption_level = 0 then
    gcc_write_user_data_header SC_SECURITY 12
    modify (stream_write_uint32 · settings.encryption_method.toNat)
    modify (stream_write_uint32 · settings.encryption_level.toNat)
    return settings
  gcc_write_user_data_header SC_SECURITY (12 + 4 + 4 + 32 + serverCertLen keyLen)
  modify (stream_write_uint32 · settings.encryption_method.toNat)
  modify (stream_write_uint32 · settings.encryption_level.toNat)
  modify (stream_write_uint32 · 32)
  modify (stream_write_uint32 · (serverCertLen keyLen))
  modify (stream_write · nonce.toList)
  let sigData := (← get).pos
  write_key_blob settings.key
  let s ← get
  write_signature_blob sign keyLen ((s.data.drop sigData).take (s.pos - sigData))
  return { settings with server_random := nonce.toList }

/-! ## What is written -/

/-- The signed part behind the version. -/
def keyBlobRest (key : rdpCertInfo) : List UInt8 :=
  le32 1 ++ (le32 1 ++ (le16 6 ++ (le16 (wPublicKeyBlobLen key.modulus.length) ++ (RSA1 ++
    (le32 (key.modulus.length + 8) ++ (le32 (key.modulus.length * 8) ++
      (le32 (key.modulus.length + 4294967296 - 1) ++ (key.exponent.toList ++
        (key.modulus ++ replicate 8 0)))))))))

def keyBlobBytes (key : rdpCertInfo) : List UInt8 := le32 1 ++ keyBlobRest key

def signatureBytes (sign : List UInt8 → Vector UInt8 64) (key : rdpCertInfo) : List UInt8 :=
  le16 8 ++ (le16 (key.modulus.length + 8) ++ ((sign (keyBlobBytes key)).toList ++ replicate 8 0))

def certificateBytes (sign : List UInt8 → Vector UInt8 64) (key : rdpCertInfo) : List UInt8 :=
  keyBlobBytes key ++ signatureBytes sign key

/-- The body of the block behind its header. -/
def securityBody (nonce : Vector UInt8 32) (sign : List UInt8 → Vector UInt8 64)
    (method level : UInt32) (key : rdpCertInfo) : List UInt8 :=
  le32 method.toNat ++ (le32 level.toNat ++
    if method = 0 ∧ level = 0 then []
    else le32 32 ++ (le32 (serverCertLen key.modulus.length) ++ (nonce.toList ++
      certificateBytes sign key)))

variable {nonce : Vector UInt8 32} {sign : Bytes → Vector UInt8 64} {key : rdpCertInfo}

theorem length_keyBlobBytes : (keyBlobBytes key).length = 44 + key.modulus.length := by
  simp only [keyBlobBytes, keyBlobRest, RSA1, length_append, length_le32, length_le16,
    length_cons,
    length_nil, Vector.length_toList, length_replicate]
  omega

theorem length_certificateBytes :
    (certificateBytes sign key).length = serverCertLen key.modulus.length := by
  simp only [certificateBytes, signatureBytes, length_keyBlobBytes, serverCertLen,
    wPublicKeyBlobLen,
    length_append, length_le16, Vector.length_toList, length_replicate]
  omega

theorem emits_key_blob : Emits (write_key_blob key) (keyBlobBytes key) ⟨⟩ :=
  .uint32 (.uint32 (.uint32 (.uint16 (.uint16 (.bytes (.uint32 (.uint32 (.uint32 (.bytes (.bytes
    fun _ _ => rfl))))))))))

theorem emits_signed {β : Type} {m : Fallible PUnit} {f : Bytes → Fallible β}
    {bs rest : Bytes} {w : β} (hm : Emits m bs ⟨⟩) (hf : Emits (f bs) rest w) :
    Emits (do
      let sigData := (← get).pos
      m
      let s ← get
      f ((s.data.drop sigData).take (s.pos - sigData))) (bs ++ rest) w := by
  intro s hs
  have hsigned : ((stream_write s bs).data.drop s.pos).take ((stream_write s bs).pos - s.pos) =
      bs := by
    rw [stream_write_pos, Nat.add_sub_cancel_left]
    exact take_drop_patch _ _ _ hs
  have hroom : (stream_write s bs).pos ≤ (stream_write s bs).data.length := out.room_append s bs hs
  rw [fallible_get, fallible_bind (hm s hs), fallible_get, hsigned, hf _ hroom,
    stream_write_write s bs rest hs]

theorem emits_server_security (nonce : Vector UInt8 32) (sign : Bytes → Vector UInt8 64)
    (settings : SecuritySettings) :
    Emits (gcc_write_server_security_data nonce sign settings)
      (blockBytes SC_SECURITY (securityBody nonce sign (chosen_method settings)
        (chosen_level settings) settings.key))
      { settings with
        encryption_method := chosen_method settings, encryption_level := chosen_level settings
        server_random := if chosen_method settings = 0 ∧ chosen_level settings = 0
          then settings.server_random else nonce.toList } := by
  unfold gcc_write_server_security_data securityBody
  by_cases hnone : chosen_method settings = 0 ∧ chosen_level settings = 0
  · simp only [if_pos hnone]
    refine emits_block (by simp) (.uint32 (.uint32 (.pure _)))
  · simp only [if_neg hnone]
    refine emits_block ?_ (.uint32 (.uint32 (.uint32 (.uint32 (.bytes ?_)))))
    · simp [length_certificateBytes]
      omega
    · have hsignature : Emits (write_signature_blob sign settings.key.modulus.length
          (keyBlobBytes settings.key)) (signatureBytes sign settings.key) ⟨⟩ := .uint16
            (.uint16 (.bytes fun _ _ => rfl))
      have hend : ∀ v : SecuritySettings, Emits (write_signature_blob sign _ _ >>= fun _ => pure v)
          _ v := fun v => hsignature.bind (.pure v)
      simp only [append_nil] at hend
      exact emits_signed (f := fun signed => write_signature_blob sign _ signed >>= fun _ => pure _)
        emits_key_blob (hend _)

/-! ## What is read -/

variable (x509_chain : rdpCertInfo → STREAM → rdpCertInfo)

theorem takes_key_blob (info : rdpCertInfo) (h : key.modulus.length + 8 < 4294967296) :
    Takes (read_key_blob info) (keyBlobRest key) (true, key) := by
  have hexponent : Vector.ofFn (fun i : Fin 4 => key.exponent.toList.getD i 0) = key.exponent := by
    ext i hi
    simp
  refine .uint32 (.uint32 ?_)
  refine .uint16 ?_
  refine .uint16 (.block rfl ?_)
  refine .uint32 (.uint32 (.uint32 (.block (Vector.length_toList) (.block ?_ ?_))))
  · omega
  · rw [← append_nil (replicate 8 0)]
    exact .skip length_replicate (.pure_eq (by rw [hexponent]))

theorem proprietary_certificate_key (info : rdpCertInfo) {s : STREAM} {rest : Bytes}
    (h : key.modulus.length + 8 < 4294967296) (hs : Rest s (keyBlobRest key ++ rest)) :
    (certificate_read_server_proprietary_certificate info s).1.2 = key := by
  unfold certificate_read_server_proprietary_certificate
  rw [run_bind (takes_key_blob info h s rest hs)]
  rfl

theorem certificate_is_read (sign : Bytes → Vector UInt8 64) (info : rdpCertInfo)
    (h : key.modulus.length + 8 < 4294967296) :
    certificate_read_server_certificate x509_chain info (certificateBytes sign key) =
      (true, key) := by
  have hrest : Rest (stream_of (certificateBytes sign key)) (le32 1 ++ (keyBlobRest key ++
      signatureBytes sign key)) := by
    exact rest_stream_of _
  have hlength : ¬ (certificateBytes sign key).length < 1 := by
    rw [length_certificateBytes, serverCertLen]
    omega
  unfold certificate_read_server_certificate
  rw [if_neg hlength, takes_uint32 _ _ hrest]
  dsimp only
  rw [if_pos (by decide), proprietary_certificate_key info h (hrest.seek rfl)]

/-- What the client knows when it has read the block. -/
def readSecurity (nonce : Vector UInt8 32) (sign : List UInt8 → Vector UInt8 64)
    (method level : UInt32) (key : rdpCertInfo) (client : SecuritySettings) : SecuritySettings :=
  if method = 0 ∧ level = 0 then
    { client with encryption := false, encryption_method := method, encryption_level := level }
  else
    { client with
      encryption_method := method, encryption_level := level, server_random := nonce.toList
      server_certificate := certificateBytes sign key, key }

theorem consumes_server_security (method level : UInt32) (client : SecuritySettings)
    (h : key.modulus.length ≤ 512) :
    Consumes (gcc_read_server_security_data x509_chain client)
      (securityBody nonce sign method level key)
      (readSecurity nonce sign method level key client) := by
  unfold securityBody readSecurity
  refine .uint32 (.uint32 ?_)
  have hzero : ∀ v : UInt32, v.toNat % 4294967296 = 0 ↔ v = 0 := fun v => by
    rw [Nat.mod_eq_of_lt v.toNat_lt, ← UInt32.toNat_inj]
    rfl
  have hcertificate := certificate_is_read x509_chain sign ⟨[], .replicate 4 0⟩
    (show key.modulus.length + 8 < 4294967296 by omega)
  have hlen : serverCertLen key.modulus.length % 4294967296 = serverCertLen key.modulus.length :=
    Nat.mod_eq_of_lt (by rw [serverCertLen, wPublicKeyBlobLen]; omega)
  simp only [hzero, uint32_read]
  split
  · exact .pure _
  · refine .uint32 (.uint32 (.refuse (by decide) (.block Vector.length_toList ?_)))
    rw [hlen]
    refine .refuse (by rw [serverCertLen]; omega) ?_
    conv => arg 2; rw [← append_nil (certificateBytes sign key)]
    refine .block length_certificateBytes ?_
    rw [hcertificate]
    exact .refuse nofun (.pure _)

theorem length_securityBody (method level : UInt32) (h : key.modulus.length ≤ 512) :
    (securityBody nonce sign method level key).length + 4 < 65536 := by
  unfold securityBody
  split
  · simp
  · simp only [length_append, length_le32, Vector.length_toList, length_certificateBytes,
      serverCertLen, wPublicKeyBlobLen]
    omega

/-- The client reads the block that the server has written, up to its end, and then has the
same method and level, and, if there is encryption, the random and the key of the server. -/
def Understood (x509_chain : rdpCertInfo → STREAM → rdpCertInfo) (nonce : Vector UInt8 32)
    (sign : List UInt8 → Vector UInt8 64) (server client : SecuritySettings) : Prop :=
  ∃ bytes server', (∀ s : STREAM, s.pos ≤ s.data.length →
      gcc_write_server_security_data nonce sign server s = some (server', stream_write s bytes)) ∧
    ∀ s rest, Rest s (bytes ++ rest) → ∃ s' client',
      gcc_read_user_data_header s = ((true, SC_SECURITY, bytes.length), s') ∧
      gcc_read_server_security_data x509_chain client s' =
        some (client', stream_seek s bytes.length) ∧
      client'.encryption_method = server'.encryption_method ∧
      client'.encryption_level = server'.encryption_level ∧
      (server'.encryption_method ≠ 0 ∨ server'.encryption_level ≠ 0 →
        client'.server_random = server'.server_random ∧ client'.key = server.key)

/-- The signature is written with a length that only fits keys of 64 bytes, but the client reads
the key in front of it and goes on. -/
theorem server_key_is_understood (x509_chain : rdpCertInfo → STREAM → rdpCertInfo)
    (nonce : Vector UInt8 32) (sign : List UInt8 → Vector UInt8 64)
    (server client : SecuritySettings) (hkey : server.key.modulus.length ≤ 512) :
    Understood x509_chain nonce sign server client := by
  have hemits := emits_server_security nonce sign server
  generalize chosen_method server = method at hemits
  generalize chosen_level server = level at hemits
  set body := securityBody nonce sign method level server.key
  have hshort : body.length + 4 < 65536 := length_securityBody method level hkey
  have hlength : (blockBytes SC_SECURITY body).length = body.length + 4 := by
    simp only [blockBytes, length_append, length_le16]
    omega
  refine ⟨blockBytes SC_SECURITY body, _, hemits, ?_⟩
  intro s rest hs
  have hheader : Rest s (le16 SC_SECURITY ++ (le16 (body.length + 4) ++ (body ++ rest))) := by
    simpa only [blockBytes, List.append_assoc] using hs
  have hok : (!(decide (body.length + 4 < 4) ||
      decide (((body ++ rest).length : Int) < (body.length + 4 : Nat) - 4))) = true := by
    rw [length_append, decide_eq_false (by omega), decide_eq_false (by omega)]
    rfl
  have hread := read_header hheader
  rw [Nat.mod_eq_of_lt hshort, hok, ← hlength] at hread
  have hbody := consumes_server_security x509_chain method level client hkey _ _
    ((hheader.seek rfl).seek rfl)
  have hend : stream_seek (stream_seek (stream_seek s 2) 2) body.length =
      stream_seek s (blockBytes SC_SECURITY body).length := by
    rw [hlength]
    simp [stream_seek, Nat.add_assoc, Nat.add_comm body.length]
  refine ⟨stream_seek s 4, readSecurity nonce sign method level server.key client, hread,
    hbody.trans (by rw [← hend]; rfl), ?_⟩
  unfold readSecurity
  by_cases hnone : method = 0 ∧ level = 0
  · rw [if_pos hnone]
    exact ⟨rfl, rfl, fun hsome => hsome.elim (absurd hnone.1) (absurd hnone.2)⟩
  · rw [if_neg hnone]
    refine ⟨rfl, rfl, fun _ => ⟨?_, rfl⟩⟩
    rw [if_neg hnone]

/-- A key of 2048 bits. -/
theorem long_key_is_understood :
    let key : rdpCertInfo := ⟨replicate 256 1, .replicate 4 1⟩
    key.modulus.length = 256 ∧ Understood (fun info _ => info) (.replicate 32 7)
      (fun _ => .replicate 64 9) ⟨true, 2, 0, [], [], key⟩ ⟨false, 0, 0, [], [], ⟨[], default⟩⟩ :=
  ⟨length_replicate,
    server_key_is_understood _ _ _ _ _ (le_of_eq_of_le length_replicate (by decide))⟩

end neutrinordp.gcc
