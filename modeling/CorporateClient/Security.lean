-- Standard RDP security (security.c): signatures, encryption with a key update
-- every 4096 packets, and the keys of a session. The hashes and ciphers themselves come
-- from a library, so they are parameters here.
import CorporateClient.Lib.Bytes
import CorporateClient.Lib.Ciphers

open bytes ciphers

namespace neutrinordp.security

/-! ## The state -/

/-- The functions of the crypto library. A digest has a fixed size. `rc4` gives the
keystream of a key. -/
structure Crypto where
  sha1 : List UInt8 → List UInt8
  md5 : List UInt8 → List UInt8
  hmac_sha1 : List UInt8 → List UInt8 → List UInt8
  rc4 : List UInt8 → Nat → UInt8
  des3 : BlockCipher 8
  length_sha1 : ∀ m, (sha1 m).length = 20
  length_md5 : ∀ m, (md5 m).length = 16
  length_hmac_sha1 : ∀ key m, (hmac_sha1 key m).length = 20

def ENCRYPTION_METHOD_40BIT : Nat := 0x01
def ENCRYPTION_METHOD_128BIT : Nat := 0x02
def ENCRYPTION_METHOD_FIPS : Nat := 0x10

/-- The RC4 state of one direction. For the packets that go out these are
`encrypt_key`, `encrypt_update_key`, `rc4_encrypt_key` and `encrypt_use_count` of
`rdpRdp`, and for the packets that come in the four fields named `decrypt`. -/
structure Direction where
  key : List UInt8
  update_key : List UInt8
  rc4_key : StreamState
  use_count : Nat
deriving Repr, DecidableEq

/-- The part of `rdpRdp` and its settings that the security code and the packet
headers use. -/
structure rdpRdp (C : Crypto) where
  server_mode : Bool
  encryption_method : Nat
  user_id : Nat
  sec_flags : Nat
  do_crypt : Bool
  do_secure_checksum : Bool
  disconnect : Bool
  rc4_key_len : Nat
  sign_key : List UInt8
  encrypt : Direction
  decrypt : Direction
  fips_sign_key : List UInt8
  fips_encrypt_key : List UInt8
  fips_decrypt_key : List UInt8
  fips_encrypt : C.des3.Enc
  fips_decrypt : C.des3.Dec

def pad1 : List UInt8 := List.replicate 40 0x36

def pad2 : List UInt8 := List.replicate 48 0x5C

def salt40 : List UInt8 := [0xD1, 0x26, 0x9E]

section

variable {C : Crypto}

/-! ## Signatures -/

/-- The four bytes of a value that C casts to `uint32`. -/
def security_uint32_le (value : Int) : List UInt8 := le32 (value % 4294967296).toNat

/-- `security_mac_signature` and `security_salted_mac_signature`. They differ in the
bytes that they hash behind the data: none, or the use count. -/
def mac_signature (rdp : rdpRdp C) (data salt : List UInt8) : List UInt8 :=
  let sign_key := rdp.sign_key.take rdp.rc4_key_len
  let sha1_digest := C.sha1 (sign_key ++ pad1 ++ security_uint32_le data.length ++ data ++ salt)
  (C.md5 (sign_key ++ pad2 ++ sha1_digest)).take 8

def security_mac_signature (rdp : rdpRdp C) (data : List UInt8) : List UInt8 :=
  mac_signature rdp data []

/-- The count that a salted signature covers. The sender asks before the packet is
encrypted, the receiver after it is decrypted, so the receiver takes one off. -/
def saltCount (rdp : rdpRdp C) (encryption : Bool) : Int :=
  if encryption then rdp.encrypt.use_count else (rdp.decrypt.use_count : Int) - 1

def security_salted_mac_signature (rdp : rdpRdp C) (data : List UInt8) (encryption : Bool) :
    List UInt8 :=
  mac_signature rdp data (security_uint32_le (saltCount rdp encryption))

/-! ## RC4 -/

def crypto_rc4_init (key : List UInt8) (length : Nat) : StreamState := ⟨key.take length, 0⟩

def security_key_update (C : Crypto) (key update_key : List UInt8) (key_len : Nat) : List UInt8 :=
  let sha1h := C.sha1 (update_key.take key_len ++ pad1 ++ key.take key_len)
  let key := C.md5 (update_key.take key_len ++ pad2 ++ sha1h)
  -- The new key is encrypted with itself.
  let key := patch key 0 (crypt C.rc4 (crypto_rc4_init key key_len) (key.take key_len)).1
  if key_len = 8 then patch key 0 salt40 else key

/-- The key update at 4096 uses. -/
def Direction.refresh (C : Crypto) (key_len : Nat) (d : Direction) : Direction :=
  if d.use_count ≥ 4096 then
    let key := security_key_update C d.key d.update_key key_len
    { d with key, rc4_key := crypto_rc4_init key key_len, use_count := 0 }
  else d

/-- `security_encrypt` and `security_decrypt`, which only differ in the direction. -/
def Direction.crypt (C : Crypto) (key_len : Nat) (d : Direction) (data : List UInt8) :
    List UInt8 × Direction :=
  let d := d.refresh C key_len
  let (data, rc4_key) := ciphers.crypt C.rc4 d.rc4_key data
  (data, { d with rc4_key, use_count := d.use_count + 1 })

def security_encrypt (data : List UInt8) (rdp : rdpRdp C) : List UInt8 × rdpRdp C :=
  let (data, encrypt) := rdp.encrypt.crypt C rdp.rc4_key_len data
  (data, { rdp with encrypt })

def security_decrypt (data : List UInt8) (rdp : rdpRdp C) : List UInt8 × rdpRdp C :=
  let (data, decrypt) := rdp.decrypt.crypt C rdp.rc4_key_len data
  (data, { rdp with decrypt })

/-! ## FIPS -/

def hmac_signature (rdp : rdpRdp C) (data : List UInt8) (use_count : Nat) : List UInt8 :=
  (C.hmac_sha1 (rdp.fips_sign_key.take 20) (data ++ security_uint32_le use_count)).take 8

def security_hmac_signature (data : List UInt8) (rdp : rdpRdp C) : List UInt8 :=
  hmac_signature rdp data rdp.encrypt.use_count

def security_fips_encrypt (data : List UInt8) (rdp : rdpRdp C) : List UInt8 × rdpRdp C :=
  let (data, fips_encrypt) := C.des3.encrypt rdp.fips_encrypt data
  (data, { rdp with
    fips_encrypt, encrypt := { rdp.encrypt with use_count := rdp.encrypt.use_count + 1 } })

/-- The program aborts on data that is not made of whole blocks: this is `none`. -/
def security_fips_decrypt (data : List UInt8) (rdp : rdpRdp C) : Option (List UInt8 × rdpRdp C) :=
  if data.length % 8 ≠ 0 then none
  else
    let (data, fips_decrypt) := C.des3.decrypt rdp.fips_decrypt data
    some (data, { rdp with fips_decrypt })

def security_fips_check_signature (data sig : List UInt8) (rdp : rdpRdp C) : Bool × rdpRdp C :=
  (sig == hmac_signature rdp data rdp.decrypt.use_count,
    { rdp with decrypt := { rdp.decrypt with use_count := rdp.decrypt.use_count + 1 } })

/-! ## The keys of a session -/

def fips_reverse_table : List UInt8 :=
  [
    0x00, 0x80, 0x40, 0xc0, 0x20, 0xa0, 0x60, 0xe0, 0x10, 0x90, 0x50, 0xd0, 0x30, 0xb0, 0x70, 0xf0,
    0x08, 0x88, 0x48, 0xc8, 0x28, 0xa8, 0x68, 0xe8, 0x18, 0x98, 0x58, 0xd8, 0x38, 0xb8, 0x78, 0xf8,
    0x04, 0x84, 0x44, 0xc4, 0x24, 0xa4, 0x64, 0xe4, 0x14, 0x94, 0x54, 0xd4, 0x34, 0xb4, 0x74, 0xf4,
    0x0c, 0x8c, 0x4c, 0xcc, 0x2c, 0xac, 0x6c, 0xec, 0x1c, 0x9c, 0x5c, 0xdc, 0x3c, 0xbc, 0x7c, 0xfc,
    0x02, 0x82, 0x42, 0xc2, 0x22, 0xa2, 0x62, 0xe2, 0x12, 0x92, 0x52, 0xd2, 0x32, 0xb2, 0x72, 0xf2,
    0x0a, 0x8a, 0x4a, 0xca, 0x2a, 0xaa, 0x6a, 0xea, 0x1a, 0x9a, 0x5a, 0xda, 0x3a, 0xba, 0x7a, 0xfa,
    0x06, 0x86, 0x46, 0xc6, 0x26, 0xa6, 0x66, 0xe6, 0x16, 0x96, 0x56, 0xd6, 0x36, 0xb6, 0x76, 0xf6,
    0x0e, 0x8e, 0x4e, 0xce, 0x2e, 0xae, 0x6e, 0xee, 0x1e, 0x9e, 0x5e, 0xde, 0x3e, 0xbe, 0x7e, 0xfe,
    0x01, 0x81, 0x41, 0xc1, 0x21, 0xa1, 0x61, 0xe1, 0x11, 0x91, 0x51, 0xd1, 0x31, 0xb1, 0x71, 0xf1,
    0x09, 0x89, 0x49, 0xc9, 0x29, 0xa9, 0x69, 0xe9, 0x19, 0x99, 0x59, 0xd9, 0x39, 0xb9, 0x79, 0xf9,
    0x05, 0x85, 0x45, 0xc5, 0x25, 0xa5, 0x65, 0xe5, 0x15, 0x95, 0x55, 0xd5, 0x35, 0xb5, 0x75, 0xf5,
    0x0d, 0x8d, 0x4d, 0xcd, 0x2d, 0xad, 0x6d, 0xed, 0x1d, 0x9d, 0x5d, 0xdd, 0x3d, 0xbd, 0x7d, 0xfd,
    0x03, 0x83, 0x43, 0xc3, 0x23, 0xa3, 0x63, 0xe3, 0x13, 0x93, 0x53, 0xd3, 0x33, 0xb3, 0x73, 0xf3,
    0x0b, 0x8b, 0x4b, 0xcb, 0x2b, 0xab, 0x6b, 0xeb, 0x1b, 0x9b, 0x5b, 0xdb, 0x3b, 0xbb, 0x7b, 0xfb,
    0x07, 0x87, 0x47, 0xc7, 0x27, 0xa7, 0x67, 0xe7, 0x17, 0x97, 0x57, 0xd7, 0x37, 0xb7, 0x77, 0xf7,
    0x0f, 0x8f, 0x4f, 0xcf, 0x2f, 0xaf, 0x6f, 0xef, 0x1f, 0x9f, 0x5f, 0xdf, 0x3f, 0xbf, 0x7f, 0xff ]

def fips_oddparity_table : List UInt8 :=
  [
    0x01, 0x01, 0x02, 0x02, 0x04, 0x04, 0x07, 0x07, 0x08, 0x08, 0x0b, 0x0b, 0x0d, 0x0d, 0x0e, 0x0e,
    0x10, 0x10, 0x13, 0x13, 0x15, 0x15, 0x16, 0x16, 0x19, 0x19, 0x1a, 0x1a, 0x1c, 0x1c, 0x1f, 0x1f,
    0x20, 0x20, 0x23, 0x23, 0x25, 0x25, 0x26, 0x26, 0x29, 0x29, 0x2a, 0x2a, 0x2c, 0x2c, 0x2f, 0x2f,
    0x31, 0x31, 0x32, 0x32, 0x34, 0x34, 0x37, 0x37, 0x38, 0x38, 0x3b, 0x3b, 0x3d, 0x3d, 0x3e, 0x3e,
    0x40, 0x40, 0x43, 0x43, 0x45, 0x45, 0x46, 0x46, 0x49, 0x49, 0x4a, 0x4a, 0x4c, 0x4c, 0x4f, 0x4f,
    0x51, 0x51, 0x52, 0x52, 0x54, 0x54, 0x57, 0x57, 0x58, 0x58, 0x5b, 0x5b, 0x5d, 0x5d, 0x5e, 0x5e,
    0x61, 0x61, 0x62, 0x62, 0x64, 0x64, 0x67, 0x67, 0x68, 0x68, 0x6b, 0x6b, 0x6d, 0x6d, 0x6e, 0x6e,
    0x70, 0x70, 0x73, 0x73, 0x75, 0x75, 0x76, 0x76, 0x79, 0x79, 0x7a, 0x7a, 0x7c, 0x7c, 0x7f, 0x7f,
    0x80, 0x80, 0x83, 0x83, 0x85, 0x85, 0x86, 0x86, 0x89, 0x89, 0x8a, 0x8a, 0x8c, 0x8c, 0x8f, 0x8f,
    0x91, 0x91, 0x92, 0x92, 0x94, 0x94, 0x97, 0x97, 0x98, 0x98, 0x9b, 0x9b, 0x9d, 0x9d, 0x9e, 0x9e,
    0xa1, 0xa1, 0xa2, 0xa2, 0xa4, 0xa4, 0xa7, 0xa7, 0xa8, 0xa8, 0xab, 0xab, 0xad, 0xad, 0xae, 0xae,
    0xb0, 0xb0, 0xb3, 0xb3, 0xb5, 0xb5, 0xb6, 0xb6, 0xb9, 0xb9, 0xba, 0xba, 0xbc, 0xbc, 0xbf, 0xbf,
    0xc1, 0xc1, 0xc2, 0xc2, 0xc4, 0xc4, 0xc7, 0xc7, 0xc8, 0xc8, 0xcb, 0xcb, 0xcd, 0xcd, 0xce, 0xce,
    0xd0, 0xd0, 0xd3, 0xd3, 0xd5, 0xd5, 0xd6, 0xd6, 0xd9, 0xd9, 0xda, 0xda, 0xdc, 0xdc, 0xdf, 0xdf,
    0xe0, 0xe0, 0xe3, 0xe3, 0xe5, 0xe5, 0xe6, 0xe6, 0xe9, 0xe9, 0xea, 0xea, 0xec, 0xec, 0xef, 0xef,
    0xf1, 0xf1, 0xf2, 0xf2, 0xf4, 0xf4, 0xf7, 0xf7, 0xf8, 0xf8, 0xfb, 0xfb, 0xfd, 0xfd, 0xfe, 0xfe ]

/-- Byte `i` of a 24-byte key before its bits are turned around: seven bits of the
buffer, from bit `7 * i` on. The C code reads `buf[p + 1]` past the end for the last
byte, where all bits of it are shifted away. -/
def fips_key_byte (buf : List UInt8) (i : Nat) : UInt8 :=
  let p := 7 * i / 8
  let r := 7 * i % 8
  if r = 0 then buf.getD p 0 &&& 0xfe
  else
    let c := (buf.getD p 0).toNat <<< r
    let c := UInt8.ofNat c ||| UInt8.ofNat ((buf.getD (p + 1) 0).toNat >>> (8 - r))
    c &&& 0xfe

def fips_expand_key_bits (key : List UInt8) : List UInt8 :=
  let buf := (List.range 21).map fun i => fips_reverse_table.getD (key.getD i 0).toNat 0
  (List.range 24).map fun i =>
    fips_oddparity_table.getD (fips_reverse_table.getD (fips_key_byte buf i).toNat 0).toNat 0

def security_salted_hash (C : Crypto) (salt input salt1 salt2 : List UInt8) : List UInt8 :=
  let sha1_digest := C.sha1 (input ++ salt.take 48 ++ salt1.take 32 ++ salt2.take 32)
  C.md5 (salt.take 48 ++ sha1_digest)

def security_premaster_hash (C : Crypto) (input premaster_secret client_random server_random :
    List UInt8) : List UInt8 :=
  security_salted_hash C premaster_secret input client_random server_random

/-- `security_A` and `security_X`: three hashes, with one, two and three letters. -/
def security_secret (C : Crypto) (a b c : UInt8) (secret client_random server_random :
    List UInt8) : List UInt8 :=
  security_premaster_hash C [a] secret client_random server_random ++
  security_premaster_hash C [b, b] secret client_random server_random ++
  security_premaster_hash C [c, c, c] secret client_random server_random

def security_A (C : Crypto) (master_secret client_random server_random : List UInt8) : List UInt8 :=
  security_secret C 0x41 0x42 0x43 master_secret client_random server_random

def security_X (C : Crypto) (master_secret client_random server_random : List UInt8) : List UInt8 :=
  security_secret C 0x58 0x59 0x5A master_secret client_random server_random

def security_md5_16_32_32 (C : Crypto) (in0 in1 in2 : List UInt8) : List UInt8 :=
  C.md5 (in0.take 16 ++ in1.take 32 ++ in2.take 32)

/-- The part of `security_establish_keys` for FIPS. It does not look at
`server_mode`. -/
def establish_fips_keys (client_random server_random : List UInt8) (rdp : rdpRdp C) : rdpRdp C :=
  let client_encrypt_key_t :=
    C.sha1 ((client_random.drop 16).take 16 ++ (server_random.drop 16).take 16)
  let client_decrypt_key_t := C.sha1 (client_random.take 16 ++ server_random.take 16)
  -- The 21st byte is the first one again.
  let expand := fun key : List UInt8 => fips_expand_key_bits (key ++ key.take 1)
  { rdp with
    fips_encrypt_key := expand client_encrypt_key_t
    fips_decrypt_key := expand client_decrypt_key_t
    fips_sign_key := C.sha1 (client_decrypt_key_t ++ client_encrypt_key_t) }

/-- The part of `security_establish_keys` for RC4. -/
def establish_rc4_keys (client_random server_random : List UInt8) (rdp : rdpRdp C) : rdpRdp C :=
  let pre_master_secret := client_random.take 24 ++ server_random.take 24
  let master_secret := security_A C pre_master_secret client_random server_random
  let session_key_blob := security_X C master_secret client_random server_random
  let key1 := security_md5_16_32_32 C (session_key_blob.drop 16) client_random server_random
  let key2 := security_md5_16_32_32 C (session_key_blob.drop 32) client_random server_random
  let sign_key := session_key_blob.take 16
  let encrypt_key := if rdp.server_mode then key1 else key2
  let decrypt_key := if rdp.server_mode then key2 else key1
  -- Only the 40-bit method salts the keys. FIPS leaves the key length as it was.
  let salt := fun key =>
    if rdp.encryption_method = ENCRYPTION_METHOD_40BIT then patch key 0 salt40 else key
  let rc4_key_len :=
    if rdp.encryption_method = ENCRYPTION_METHOD_40BIT then 8
    else if rdp.encryption_method = ENCRYPTION_METHOD_128BIT then 16
    else rdp.rc4_key_len
  { rdp with
    sign_key := salt sign_key
    rc4_key_len
    encrypt := { rdp.encrypt with key := salt encrypt_key, update_key := salt encrypt_key }
    decrypt := { rdp.decrypt with key := salt decrypt_key, update_key := salt decrypt_key } }

def security_establish_keys (client_random server_random : List UInt8) (rdp : rdpRdp C) :
    rdpRdp C :=
  let rdp :=
    if rdp.encryption_method = ENCRYPTION_METHOD_FIPS then
      establish_fips_keys client_random server_random rdp
    else rdp
  establish_rc4_keys client_random server_random rdp

def fips_ivec : List UInt8 := [0x12, 0x34, 0x56, 0x78, 0x90, 0xAB, 0xCD, 0xEF]

/-- The end of `rdp_client_establish_keys` and of `rdp_server_establish_keys`, where
the ciphers are made from the keys. -/
def establish_ciphers (secure_checksum : Bool) (rdp : rdpRdp C) : rdpRdp C :=
  let rdp := { rdp with
    do_crypt := true, do_secure_checksum := rdp.do_secure_checksum || secure_checksum }
  if rdp.encryption_method = ENCRYPTION_METHOD_FIPS then
    { rdp with
      fips_encrypt := C.des3.encrypt_init rdp.fips_encrypt_key fips_ivec
      fips_decrypt := C.des3.decrypt_init rdp.fips_decrypt_key fips_ivec }
  else
    { rdp with
      encrypt := { rdp.encrypt with
        rc4_key := crypto_rc4_init rdp.encrypt.key rdp.rc4_key_len }
      decrypt := { rdp.decrypt with
        rc4_key := crypto_rc4_init rdp.decrypt.key rdp.rc4_key_len } }

end

end neutrinordp.security
