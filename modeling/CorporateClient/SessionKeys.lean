-- The keys that a client and a server derive from the same two random numbers. The
-- RC4 keys of the two sides fit together. The FIPS keys do not. Each of them has the bits
-- of its input in seven bits of every byte.
import CorporateClient.Security

open List bytes ciphers

namespace neutrinordp.security

section

variable {C : Crypto}

/-- A new connection, as `rdp_new` leaves it: every key is zero. The two ciphers are
not set up yet, so `e` and `d` are never used. -/
def rdp_new (server_mode : Bool) (encryption_method : Nat) (e : C.des3.Enc) (d : C.des3.Dec) :
    rdpRdp C :=
  let zeros := fun n => replicate n (0 : UInt8)
  let direction : Direction :=
    { key := zeros 16, update_key := zeros 16, rc4_key := ⟨[], 0⟩, use_count := 0 }
  { server_mode, encryption_method, user_id := 0, sec_flags := 0, do_crypt := false,
    do_secure_checksum := false, disconnect := false, rc4_key_len := 0, sign_key := zeros 16,
    encrypt := direction, decrypt := direction, fips_sign_key := zeros 20,
    fips_encrypt_key := zeros 24, fips_decrypt_key := zeros 24,
    fips_encrypt := e, fips_decrypt := d }

@[simp] theorem rdp_new_method (server_mode : Bool) (method : Nat) (e : C.des3.Enc)
    (d : C.des3.Dec) : (rdp_new server_mode method e d).encryption_method = method := rfl

/-- What one side encrypts with, the other side decrypts with. -/
structure Complementary (client server : rdpRdp C) : Prop where
  to_server : client.encrypt.key = server.decrypt.key
  to_client : server.encrypt.key = client.decrypt.key
  update_to_server : client.encrypt.update_key = server.decrypt.update_key
  update_to_client : server.encrypt.update_key = client.decrypt.update_key
  fips_to_server : client.fips_encrypt_key = server.fips_decrypt_key
  fips_to_client : server.fips_encrypt_key = client.fips_decrypt_key
  sign : client.sign_key = server.sign_key
  fips_sign : client.fips_sign_key = server.fips_sign_key
  key_len : client.rc4_key_len = server.rc4_key_len

/-- The 3DES key that comes from 16 bytes of each random number. -/
def fipsKeyOf (C : Crypto) (client_part server_part : List UInt8) : List UInt8 :=
  let digest := C.sha1 (client_part ++ server_part)
  fips_expand_key_bits (digest ++ digest.take 1)

/-- Both halves of the random numbers give the same 3DES key. -/
def HalvesCollide (C : Crypto) (client_random server_random : List UInt8) : Prop :=
  fipsKeyOf C ((client_random.drop 16).take 16) ((server_random.drop 16).take 16) =
    fipsKeyOf C (client_random.take 16) (server_random.take 16)

theorem establish_rc4_keys_complementary (client_random server_random : Bytes)
    (client server : rdpRdp C) (hclient : client.server_mode = false)
    (hserver : server.server_mode = true)
    (hmethod : client.encryption_method = server.encryption_method)
    (hlen : client.rc4_key_len = server.rc4_key_len)
    (hfips : client.fips_sign_key = server.fips_sign_key) :
    Complementary (establish_rc4_keys client_random server_random client)
        (establish_rc4_keys client_random server_random server) ↔
      client.fips_encrypt_key = server.fips_decrypt_key ∧
        server.fips_encrypt_key = client.fips_decrypt_key := by
  constructor
  · intro h
    exact ⟨h.fips_to_server, h.fips_to_client⟩
  · rintro ⟨hto_server, hto_client⟩
    constructor <;>
      simp [establish_rc4_keys, hclient, hserver, hmethod, hlen, hfips, hto_server, hto_client]

/-- The keys of client and server fit together exactly when the method is not FIPS, or
when the two FIPS keys happen to be the same. With FIPS both sides encrypt with the
key that is meant for the client. -/
theorem keys_fit_unless_fips (client_random server_random : List UInt8) (method : Nat)
    (e e' : C.des3.Enc) (d d' : C.des3.Dec) :
    Complementary
        (security_establish_keys client_random server_random (rdp_new false method e d))
        (security_establish_keys client_random server_random (rdp_new true method e' d')) ↔
      method ≠ ENCRYPTION_METHOD_FIPS ∨ HalvesCollide C client_random server_random := by
  unfold security_establish_keys
  by_cases hfips : method = ENCRYPTION_METHOD_FIPS
  · subst hfips
    simp only [rdp_new_method, if_true, ne_eq, not_true, false_or]
    refine (establish_rc4_keys_complementary _ _ _ _ (by rfl) (by rfl) (by rfl) (by rfl)
      (by rfl)).trans ?_
    simp only [establish_fips_keys, HalvesCollide, fipsKeyOf]
    constructor
    · rintro ⟨h, -⟩
      exact h
    · intro h
      exact ⟨h, h⟩
  · simp only [rdp_new_method, hfips, if_false, ne_eq, not_false_iff, true_or, iff_true]
    refine (establish_rc4_keys_complementary _ _ _ _ (by rfl) (by rfl) (by rfl) (by rfl)
      (by rfl)).mpr ?_
    exact ⟨rfl, rfl⟩

end

/-! ## A session where the FIPS keys differ -/

/-- A block cipher that turns over every bit. -/
def flipCipher : BlockCipher 8 where
  Enc := Unit
  Dec := Unit
  encrypt_init := fun _ _ => ()
  decrypt_init := fun _ _ => ()
  encrypt := fun _ data => (data.map (~~~ ·), ())
  decrypt := fun _ data => (data.map (~~~ ·), ())
  Matches := fun _ _ => True
  matches_init := fun _ _ => trivial
  length_encrypt := fun _ _ _ => length_map _
  decrypt_encrypt := fun _ _ data _ _ => ⟨by simp [Function.comp_def], trivial⟩

/-- The first `n` bytes of a message, filled up with zeros. -/
def firstBytes (n : Nat) (m : List UInt8) : List UInt8 := (m ++ replicate n 0).take n

theorem length_firstBytes (n : Nat) (m : Bytes) : (firstBytes n m).length = n := by
  simp only [firstBytes, length_take, length_append, length_replicate]
  omega

/-- A checksum over all bytes of a message. -/
def checksumOf (m : List UInt8) : Nat := m.foldl (fun sum b => (sum * 31 + b.toNat) % 4294967296) 1

/-- A crypto library that is easy to compute with. Its digests are checksums. -/
def sampleCrypto : Crypto where
  sha1 := fun m => firstBytes 20 (le32 (checksumOf m))
  md5 := fun m => firstBytes 16 (le32 (checksumOf m))
  hmac_sha1 := fun key m => firstBytes 20 (le32 (checksumOf (key ++ m)))
  rc4 := fun key i => UInt8.ofNat (i + key.length)
  des3 := flipCipher
  length_sha1 := fun _ => length_firstBytes 20 _
  length_md5 := fun _ => length_firstBytes 16 _
  length_hmac_sha1 := fun _ _ => length_firstBytes 20 _

theorem keys_fit_unless_fips_counterexample :
    ¬ Complementary (C := sampleCrypto)
      (security_establish_keys (replicate 16 0x00 ++ replicate 16 0xFF)
        (replicate 32 0x00) (rdp_new false ENCRYPTION_METHOD_FIPS () ()))
      (security_establish_keys (replicate 16 0x00 ++ replicate 16 0xFF)
        (replicate 32 0x00) (rdp_new true ENCRYPTION_METHOD_FIPS () ())) := by
  intro h
  have hkeys := h.fips_to_server
  revert hkeys
  decide +kernel

/-! ## The bits of a FIPS key -/

/-- The buffer that `fips_expand_key_bits` works on. -/
def work_buffer (key : List UInt8) : List UInt8 :=
  (range 21).map fun i => fips_reverse_table.getD (key.getD i 0).toNat 0

def expanded_byte (buf : List UInt8) (i : Nat) : UInt8 :=
  fips_oddparity_table.getD (fips_reverse_table.getD (fips_key_byte buf i).toNat 0).toNat 0

def bit (b : UInt8) (j : Nat) : Bool := b.toNat.testBit j

/-- Bit `k` of the input, the low bit of each byte first. -/
def input_bit (key : List UInt8) (k : Nat) : Bool := bit (key.getD (k / 8) 0) (k % 8)

def odd_parity (b : UInt8) : Bool := (range 8).countP (bit b) % 2 = 1

theorem reversed_bit : ∀ (b : UInt8) (j : Fin 8),
    bit (fips_reverse_table.getD b.toNat 0) j = bit b (7 - j) := by
  decide +kernel

theorem oddparity_table_bit : ∀ b : UInt8, odd_parity (fips_oddparity_table.getD b.toNat 0) ∧
    ∀ j : Fin 7, bit (fips_oddparity_table.getD b.toNat 0) (j + 1) = bit b (j + 1) := by
  decide +kernel

theorem masked_bit : ∀ (c : UInt8) (m : Fin 8), bit (c &&& 0xfe) m = (m.val ≠ 0 && bit c m) := by
  decide +kernel

variable (key past buf : Bytes)

theorem key_byte_bit (i : Nat) (m : Fin 8) : bit (fips_key_byte buf i) m =
    (m.val ≠ 0 && (7 * i % 8 ≤ m && bit (buf.getD (7 * i / 8) 0) (m - 7 * i % 8) ||
      bit (buf.getD (7 * i / 8 + 1) 0) (8 - 7 * i % 8 + m))) := by
  have hbyte (n : Nat) : bit (UInt8.ofNat n) m = n.testBit m := by
    simp only [bit, UInt8.toNat_ofNat', Nat.testBit_mod_two_pow, m.isLt, decide_true, Bool.true_and]
  have hjoin (a b : UInt8) (r : Nat) :
      bit (UInt8.ofNat (a.toNat <<< r) ||| UInt8.ofNat (b.toNat >>> (8 - r))) m =
        (r ≤ m && bit a (m - r) || bit b (8 - r + m)) := by
    rw [bit, UInt8.toNat_or, Nat.testBit_or]
    exact congrArg₂ _ ((hbyte _).trans (Nat.testBit_shiftLeft ..))
      ((hbyte _).trans (Nat.testBit_shiftRight ..))
  have hzero (a b : UInt8) : a = UInt8.ofNat (a.toNat <<< 0) ||| UInt8.ofNat (b.toNat >>> 8) := by
    simp [Nat.shiftRight_eq_div_pow, Nat.div_eq_of_lt b.toNat_lt]
  rw [← hjoin, ← masked_bit]
  simp only [fips_key_byte]
  split_ifs with h
  · rw [h, ← hzero]
  · rfl

variable (i : Fin 24)

theorem key_byte_input (m : Fin 8) : bit (fips_key_byte (work_buffer key ++ past) i) m =
    (m.val ≠ 0 && input_bit key (7 * i + (7 - m))) := by
  have hwork (p x : Nat) (hp : p < 21) (hx : x < 8) :
      bit ((work_buffer key ++ past).getD p 0) x = bit (key.getD p 0) (7 - x) := by
    rw [getD_append _ _ _ _ (by simpa [work_buffer] using hp), getD_eq_getElem?_getD, work_buffer,
      getElem?_map, getElem?_range hp]
    exact reversed_bit _ ⟨x, hx⟩
  rw [key_byte_bit, input_bit]
  by_cases h0 : m.val = 0
  · simp [h0]
  by_cases hr : 7 * i.val % 8 ≤ m
  · have hhigh (b : UInt8) : bit b (8 - 7 * i % 8 + m) = false :=
      Nat.testBit_lt_two_pow (b.toNat_lt.trans_le (Nat.pow_le_pow_right Nat.two_pos (by omega)))
    rw [hhigh, Bool.or_false, decide_eq_true hr, Bool.true_and, hwork _ _ (by omega) (by omega),
      show 7 * i.val / 8 = (7 * i + (7 - m)) / 8 by omega,
      show 7 - (m - 7 * i.val % 8) = (7 * i + (7 - m)) % 8 by omega]
  · rw [decide_eq_false hr, Bool.false_and, Bool.false_or, hwork _ _ (by omega) (by omega),
      show 7 * i.val / 8 + 1 = (7 * i + (7 - m)) / 8 by omega,
      show 7 - (8 - 7 * i.val % 8 + m) = (7 * i + (7 - m)) % 8 by omega]

/-- Every byte of the key has seven bits of the input, of which the parity takes the first.
The byte behind the buffer does not matter. -/
theorem fips_key_layout (key past : List UInt8) (i : Fin 24) :
    ∃ out, (fips_expand_key_bits key)[i.val]? = some out ∧
    out = expanded_byte (work_buffer key ++ past) i ∧ bit out 7 = false ∧
    (∀ j : Fin 6, bit out (j + 1) = input_bit key (7 * i + (j + 1))) ∧ odd_parity out := by
  have hpast : fips_key_byte (work_buffer key) i = fips_key_byte (work_buffer key ++ past) i := by
    refine UInt8.toBitVec_inj.mp (BitVec.eq_of_getLsbD_eq fun m hm => ?_)
    have hnone := key_byte_input key [] i ⟨m, hm⟩
    rw [append_nil] at hnone
    exact hnone.trans (key_byte_input key past i ⟨m, hm⟩).symm
  have hbit (j : Fin 7) : bit (expanded_byte (work_buffer key ++ past) i) (j + 1) =
      (7 - (j.val + 1) ≠ 0 && input_bit key (7 * i + (7 - (7 - (j + 1))))) := by
    have hrev := reversed_bit (fips_key_byte (work_buffer key ++ past) i) ⟨j + 1, by omega⟩
    have hin := key_byte_input key past i ⟨7 - (j + 1), by omega⟩
    exact ((oddparity_table_bit _).2 j).trans (hrev.trans hin)
  refine ⟨_, ?_, rfl, hbit 6, ?_, (oddparity_table_bit _).1⟩
  · rw [fips_expand_key_bits, getElem?_map, getElem?_range i.isLt, expanded_byte, ← hpast]
    rfl
  · intro j
    have hj : 7 - (7 - (j.val + 1)) = j + 1 := by omega
    have hfirst : 7 - (j.val + 1) ≠ 0 := by omega
    refine (hbit j.castSucc).trans ?_
    rw [Fin.val_castSucc, hj, decide_eq_true hfirst, Bool.true_and]

end neutrinordp.security
