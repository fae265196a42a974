-- Standard RDP security over a whole session. Sender and receiver go through the same
-- key updates and stay in step, packet after packet.
import CorporateClient.PacketWire
import CorporateClient.SessionKeys

namespace neutrinordp.packet

open List bytes ciphers stream security

section

variable {C : Crypto}

/-! ## Sessions -/

/-- A packet to be sent: the flags that `rdp_security_stream_init` and its callers set
for it, and a stream with room for the headers and the payload behind it. -/
structure Outgoing where
  channel_id : Nat
  sec_flags : Nat
  stream : STREAM
deriving Repr

/-- What a packet was at both ends: the channel and the payload that the receiver got,
if the signature was right, and the use counts that a salted signature covers. -/
structure Exchange where
  channel_id : Nat
  payload : List UInt8
  signature_ok : Bool
  sent_count : Int
  checked_count : Int
deriving Repr, DecidableEq

/-- The start of `rdp_recv_tpkt_pdu`, for a packet with a security header. -/
def rdp_receive (rdp : rdpRdp C) (s : STREAM) : Option (Nat × Decrypted C) :=
  match rdp_read_header rdp s with
  | (none, _, _) => none
  | (some (length, channel_id), s, rdp) =>
    let (flags, s) := rdp_read_security_header s
    (rdp_decrypt rdp s (length - 4) flags).map fun d => (channel_id, d)

def set_sec_flags (rdp : rdpRdp C) (sec_flags : Nat) : rdpRdp C := { rdp with sec_flags }

/-- One packet from a sender to a receiver, and the new states of both. -/
def exchange (sender receiver : rdpRdp C) (p : Outgoing) :
    Option (Exchange × rdpRdp C × rdpRdp C) :=
  let sender := set_sec_flags sender p.sec_flags
  let (bytes, sender') := rdp_send sender p.stream p.channel_id
  match rdp_receive receiver (stream_of bytes) with
  | none => none
  | some (channel_id, d) =>
    if d.ok then
      some ({ channel_id, payload := d.stream.left, signature_ok := d.signature_ok,
              sent_count := saltCount sender true, checked_count := saltCount d.rdp false },
        sender', d.rdp)
    else none

/-- A whole session, with every packet from the same side. -/
def session : rdpRdp C → rdpRdp C → List Outgoing → Option (List Exchange)
  | _, _, [] => some []
  | sender, receiver, p :: ps =>
    (exchange sender receiver p).bind fun (e, sender, receiver) =>
      (session sender receiver ps).map (e :: ·)

/-- The receiver decrypts with what the sender encrypts with. For RC4 the keys and the
use count of the direction are the same on both sides. For FIPS the decryptor is in
step with the encryptor. -/
structure Lockstep (sender receiver : rdpRdp C) : Prop where
  method : sender.encryption_method = receiver.encryption_method
  rc4 : sender.encryption_method ≠ ENCRYPTION_METHOD_FIPS →
    sender.encrypt = receiver.decrypt ∧ sender.sign_key = receiver.sign_key ∧
    sender.rc4_key_len = receiver.rc4_key_len
  fips : sender.encryption_method = ENCRYPTION_METHOD_FIPS →
    sender.encrypt.use_count = receiver.decrypt.use_count ∧
    sender.fips_sign_key = receiver.fips_sign_key ∧
    C.des3.Matches sender.fips_encrypt receiver.fips_decrypt

/-- The bytes in front of the payload: the packet header and the security header. -/
def headerRoom (method : Nat) : Nat := if method = ENCRYPTION_METHOD_FIPS then 31 else 27

def Outgoing.payload (method : Nat) (p : Outgoing) : List UInt8 :=
  bytes_at p.stream (headerRoom method) (p.stream.pos - headerRoom method)

/-- A packet that is to be encrypted. With its padding it has at most 32767 bytes. -/
structure Outgoing.Fits (method : Nat) (p : Outgoing) : Prop where
  channel : p.channel_id < 65536
  flags : p.sec_flags < 65536
  encrypted : p.sec_flags &&& SEC_ENCRYPT ≠ 0
  room : headerRoom method ≤ p.stream.pos
  memory : p.stream.pos ≤ p.stream.data.length
  length : (if method = ENCRYPTION_METHOD_FIPS then paddedLength p.stream.pos else p.stream.pos)
    ≤ 32767

/-! ## One packet with RC4 -/

theorem Direction.crypt_crypt (key_len : Nat) (d : Direction) (data : Bytes) :
    d.crypt C key_len (d.crypt C key_len data).1 = (data, (d.crypt C key_len data).2) := by
  have hcrypt := ciphers.crypt_crypt C.rc4 (d.refresh C key_len).rc4_key data
  simp only [Direction.crypt, hcrypt]

theorem stream_of_whole (bs : Bytes) : IsWhole (stream_of bs) bs := ⟨take_length, rfl, rfl⟩

variable {sender receiver : rdpRdp C} {s : STREAM} {channel_id : Nat} {p : Outgoing}

theorem rdp_receive_packet (rdp : rdpRdp C) {mode : Bool} {user_id length flags : Nat}
    {body bs : Bytes} (hs : IsWhole s bs)
    (hbs : bs = packetHeader mode user_id length channel_id ++ securityHeader flags ++ body)
    (hlen : length = 19 + body.length) (hle : length ≤ 32767) (hch : channel_id < 65536)
    (hflags : flags < 65536) :
    rdp_receive rdp s =
      (rdp_decrypt rdp (stream_seek s 19) body.length flags).map fun d => (channel_id, d) := by
  have hleft : s.left = packetHeader mode user_id length channel_id ++
      (securityHeader flags ++ body) := by rw [hs.left, hbs, append_assoc]
  have hpos : s.pos ≤ s.size := by rw [hs.pos]; exact Nat.zero_le _
  have hbody : (securityHeader flags ++ body).length = 4 + body.length := by
    rw [length_append]
    rfl
  have hheader := rdp_read_header_packet rdp hpos hs.size_le hleft (by omega) hle hch
  have hnext : (stream_seek s 15).left = securityHeader flags ++ body := by
    rw [left_seek, hleft]
    exact drop_left' (length_packetHeader _ _ _ _)
  have hread : rdp_read_security_header (stream_seek s 15) = (flags, stream_seek s 19) := by
    have h0 := byte_at_left (stream_seek s 15) 0 (by rw [hnext, hbody]; omega)
    have h1 := byte_at_left (stream_seek s 15) 1 (by rw [hnext, hbody]; omega)
    rw [hnext] at h0 h1
    have hvalue : (stream_read_uint16 (stream_seek s 15)).1 = flags := by
      simp only [stream_read_uint16]
      rw [h1, ← Nat.add_zero (stream_seek s 15).pos, h0]
      exact (ofLe16_le16 flags).trans (Nat.mod_eq_of_lt hflags)
    exact Prod.ext hvalue rfl
  have hrest : length - 15 - 4 = body.length := by omega
  simp only [rdp_receive, hheader, hread, hrest]

theorem security_decrypt_encrypt (hkeys : sender.encrypt = receiver.decrypt)
    (hlen : sender.rc4_key_len = receiver.rc4_key_len) (data : Bytes) :
    security_decrypt (security_encrypt data sender).1 receiver =
      (data, { receiver with decrypt := (security_encrypt data sender).2.encrypt }) := by
  have hcrypt := Direction.crypt_crypt (C := C) sender.rc4_key_len sender.encrypt data
  simp only [security_decrypt, security_encrypt, ← hkeys, ← hlen, hcrypt]

theorem security_encrypt_use_count (data : Bytes) (rdp : rdpRdp C) :
    (security_encrypt data rdp).2.encrypt.use_count =
      (if rdp.encrypt.use_count ≥ 4096 then 0 else rdp.encrypt.use_count) + 1 := by
  simp only [security_encrypt, Direction.crypt, Direction.refresh]
  split <;> rfl

theorem signatures_agree (sender receiver : rdpRdp C) (hsign : sender.sign_key = receiver.sign_key)
    (hlen : sender.rc4_key_len = receiver.rc4_key_len) (data : Bytes)
    (hcount : sender.sec_flags &&& SEC_SECURE_CHECKSUM = 0 ∨
      saltCount sender true = saltCount receiver false) :
    rdp_packet_signature sender data = rdp_check_signature receiver sender.sec_flags data := by
  have hmac : ∀ salt, mac_signature sender data salt = mac_signature receiver data salt := by
    intro salt
    simp only [mac_signature, hsign, hlen]
  unfold rdp_packet_signature rdp_check_signature security_salted_mac_signature
    security_mac_signature
  rcases hcount with hplain | hsame
  · simp [hplain, hmac]
  · simp only [hmac, hsame]

/-- The receiver after it decrypted a packet of the sender. -/
def followed (sender receiver : rdpRdp C) (payload : List UInt8) : rdpRdp C :=
  { receiver with decrypt := (security_encrypt payload sender).2.encrypt }

theorem rdp_receive_rc4 {payload : Bytes} (h : Lockstep sender receiver)
    (hrc4 : sender.encryption_method ≠ ENCRYPTION_METHOD_FIPS)
    (hflags : sender.sec_flags &&& SEC_ENCRYPT ≠ 0) (hflagslt : sender.sec_flags < 65536)
    (hpos : 27 ≤ s.pos) (hle : s.pos ≤ 32767) (hmem : s.pos ≤ s.data.length)
    (hch : channel_id < 65536) (hpayload : bytes_at s 27 (s.pos - 27) = payload) :
    ∃ s', rdp_receive receiver (stream_of (rdp_send sender s channel_id).1) =
        some (channel_id, {
          ok := true
          signature_ok := rdp_packet_signature sender payload ==
            rdp_check_signature (followed sender receiver payload) sender.sec_flags payload
          stream := s'
          rdp := followed sender receiver payload }) ∧
      s'.left = payload := by
  obtain ⟨hkeys, hsign, hlen⟩ := h.rc4 hrc4
  have hdecrypt := security_decrypt_encrypt hkeys hlen payload
  have hsig := length_rdp_packet_signature sender payload
  have hcrypted := length_security_encrypt payload sender
  have hpaylen : payload.length = s.pos - 27 := by rw [← hpayload, length_bytes_at]
  rw [rdp_send_rc4 sender hflags hrc4 hpos hle hmem hch hpayload, append_assoc]
  have hwhole := stream_of_whole (packetHeader sender.server_mode sender.user_id s.pos
    channel_id ++ securityHeader sender.sec_flags ++
      (rdp_packet_signature sender payload ++ (security_encrypt payload sender).1))
  rw [rdp_receive_packet receiver hwhole rfl (by rw [length_append]; omega) hle hch hflagslt]
  obtain ⟨hleft, hbound⟩ := hwhole.left_seek (n := 19) rfl
  obtain ⟨s', hdec, hs'⟩ := rdp_decrypt_rc4 receiver sender.sec_flags (h.method ▸ hrc4) hbound
    hwhole.size_le hsig hleft
  rw [hdecrypt] at hdec hs'
  refine ⟨s', ?_, hs'⟩
  rw [length_append, hsig, hdec]
  rfl

/-- The use count that the keys of a packet start from: a key update sets it back. -/
def countAfterUpdate (count : Nat) : Nat := if count ≥ 4096 then 0 else count

/-- What one packet with RC4 does. The receiver gets the payload, and both sides take
the same key update, so they are in step again. The signature is right when it has no
salt, or when the use count has not reached 4096. -/
structure Rc4Step (sender : rdpRdp C) (p : Outgoing) (e : Exchange)
    (sender' receiver' : rdpRdp C) : Prop where
  channel : e.channel_id = p.channel_id
  payload : e.payload = p.payload sender.encryption_method
  sent : e.sent_count = sender.encrypt.use_count
  checked : e.checked_count = countAfterUpdate sender.encrypt.use_count
  signature : p.sec_flags &&& SEC_SECURE_CHECKSUM = 0 ∨ sender.encrypt.use_count < 4096 →
    e.signature_ok = true
  lockstep : Lockstep sender' receiver'
  method : sender'.encryption_method = sender.encryption_method
  use_count : sender'.encrypt.use_count = countAfterUpdate sender.encrypt.use_count + 1

theorem exchange_rc4 (h : Lockstep sender receiver)
    (hrc4 : sender.encryption_method ≠ ENCRYPTION_METHOD_FIPS)
    (hp : p.Fits sender.encryption_method) :
    ∃ e sender' receiver', exchange sender receiver p = some (e, sender', receiver') ∧
      Rc4Step sender p e sender' receiver' := by
  obtain ⟨hkeys, hsign, hlen⟩ := h.rc4 hrc4
  have hroom := hp.room
  have hle := hp.length
  simp only [headerRoom, hrc4, if_false] at hroom hle
  obtain ⟨payload, hpayload'⟩ : ∃ payload, payload = p.payload sender.encryption_method := ⟨_, rfl⟩
  have hpayload : bytes_at p.stream 27 (p.stream.pos - 27) = payload := by
    simp [hpayload', Outgoing.payload, headerRoom, hrc4]
  let flagged := set_sec_flags sender p.sec_flags
  have hflagged : set_sec_flags sender p.sec_flags = flagged := rfl
  have h1 : Lockstep flagged receiver := ⟨h.method, h.rc4, h.fips⟩
  have hcount : (security_encrypt payload flagged).2.encrypt.use_count =
      countAfterUpdate sender.encrypt.use_count + 1 :=
    security_encrypt_use_count payload flagged
  have hagree := signatures_agree flagged
    (followed flagged receiver payload) hsign hlen payload
  have hsender := congrArg Prod.snd (rdp_send_rc4 flagged hp.encrypted
    hrc4 hroom hle hp.memory hp.channel hpayload)
  obtain ⟨s', hreceive, hs'⟩ := rdp_receive_rc4 h1 hrc4 hp.encrypted hp.flags hroom hle hp.memory
    hp.channel hpayload
  have hchecked : saltCount (followed flagged receiver payload) false =
      countAfterUpdate sender.encrypt.use_count := by
    simp only [saltCount, followed, Bool.false_eq_true, if_false, hcount]
    omega
  refine ⟨{ channel_id := p.channel_id, payload,
            signature_ok := rdp_packet_signature flagged payload ==
              rdp_check_signature (followed flagged receiver payload)
                p.sec_flags payload
            sent_count := sender.encrypt.use_count
            checked_count := countAfterUpdate sender.encrypt.use_count },
    clear_sec_flags (security_encrypt payload flagged).2,
    followed flagged receiver payload, ?_,
    { channel := rfl, payload := hpayload', sent := rfl, checked := rfl, signature := ?_,
      lockstep := ?_, method := rfl, use_count := hcount }⟩
  · simp only [exchange, hflagged, hreceive, if_true, hs', hchecked, hsender]
    rfl
  · intro hok
    rw [hagree ?_]
    · exact beq_self_eq_true _
    · refine hok.imp id fun hlt => ?_
      rw [hchecked, countAfterUpdate, if_neg (by omega)]
      rfl
  · exact ⟨h.method, fun _ => ⟨rfl, hsign, hlen⟩, fun hfips => absurd hfips hrc4⟩

/-! ## One packet with FIPS -/

/-- The padding of a FIPS payload. -/
def padOf (payload : List UInt8) : Nat := (8 - payload.length % 8) % 8

/-- The receiver after it decrypted a FIPS packet of the sender. -/
def followedFips (sender receiver : rdpRdp C) (payload : List UInt8) : rdpRdp C :=
  let crypted := (security_fips_encrypt (payload ++ replicate (padOf payload) 0) sender).1
  { receiver with
    fips_decrypt := (C.des3.decrypt receiver.fips_decrypt crypted).2
    decrypt := { receiver.decrypt with use_count := receiver.decrypt.use_count + 1 } }

theorem rdp_receive_fips {payload : Bytes} (h : Lockstep sender receiver)
    (hfips : sender.encryption_method = ENCRYPTION_METHOD_FIPS)
    (hflags : sender.sec_flags &&& SEC_ENCRYPT ≠ 0) (hflagslt : sender.sec_flags < 65536)
    (hpos : 31 ≤ s.pos) (hle : s.pos + padOf payload ≤ 32767) (hmem : s.pos ≤ s.data.length)
    (hch : channel_id < 65536) (hpayload : bytes_at s 31 (s.pos - 31) = payload) :
    ∃ s', rdp_receive receiver (stream_of (rdp_send sender s channel_id).1) =
        some (channel_id, { ok := true, signature_ok := true, stream := s',
                            rdp := followedFips sender receiver payload }) ∧
      s'.left = payload := by
  obtain ⟨hcount, hsign, hmatch⟩ := h.fips hfips
  have hpaylen : payload.length = s.pos - 31 := by rw [← hpayload, length_bytes_at]
  have hpadlt : padOf payload < 8 := by unfold padOf; omega
  have hpadded : (payload ++ replicate (padOf payload) (0 : UInt8)).length =
      payload.length + padOf payload := by rw [length_append, length_replicate]
  have hblocks : 8 ∣ (payload ++ replicate (padOf payload) (0 : UInt8)).length := by
    rw [hpadded, padOf]
    omega
  have hplain := C.des3.decrypt_encrypt _ _ _ hmatch hblocks
  have hcrypted := length_security_fips_encrypt _ sender hblocks
  have hsig : (security_hmac_signature payload sender).length = 8 := length_hmac_signature _ _ _
  rw [rdp_send_fips sender hflags hfips hpos hle hmem hch hpayload rfl]
  simp only [append_assoc]
  rw [← append_assoc]
  have hwhole := stream_of_whole (packetHeader sender.server_mode sender.user_id
    (s.pos + padOf payload) channel_id ++ securityHeader sender.sec_flags ++
      ([0x10, 0, 1] ++ ([UInt8.ofNat (padOf payload)] ++ (security_hmac_signature payload sender ++
        (security_fips_encrypt (payload ++ replicate (padOf payload) 0) sender).1))))
  rw [rdp_receive_packet receiver hwhole rfl (by
    simp only [length_append, length_cons, length_nil, hsig, hcrypted, length_replicate]
    omega) hle hch hflagslt]
  obtain ⟨hleft, hbound⟩ := hwhole.left_seek (n := 19) rfl
  have hmac : security_hmac_signature payload sender =
      hmac_signature receiver payload receiver.decrypt.use_count := by
    simp only [security_hmac_signature, hmac_signature, hcount, hsign]
  obtain ⟨s', hdec, hs'⟩ := rdp_decrypt_fips receiver sender.sec_flags (h.method ▸ hfips) hbound
    hwhole.size_le hsig hpadlt (by rw [hleft]; simp only [append_assoc])
    (hcrypted.trans hpadded) (hcrypted ▸ hblocks) (Prod.ext hplain.1 rfl) hmac
  refine ⟨s', ?_, hs'⟩
  rw [show ([0x10, 0, 1] ++ ([UInt8.ofNat (padOf payload)] ++
      (security_hmac_signature payload sender ++ (security_fips_encrypt
        (payload ++ replicate (padOf payload) 0) sender).1)) : Bytes).length =
      12 + (security_fips_encrypt (payload ++ replicate (padOf payload) 0) sender).1.length by
    simp only [length_append, length_cons, length_nil, hsig]
    omega, hdec]
  rfl

theorem exchange_fips (h : Lockstep sender receiver)
    (hfips : sender.encryption_method = ENCRYPTION_METHOD_FIPS)
    (hp : p.Fits sender.encryption_method) :
    ∃ e sender' receiver', exchange sender receiver p = some (e, sender', receiver') ∧
      e.channel_id = p.channel_id ∧ e.payload = p.payload sender.encryption_method ∧
      e.signature_ok = true ∧ Lockstep sender' receiver' ∧
      sender'.encryption_method = sender.encryption_method := by
  obtain ⟨hcount, hsign, hmatch⟩ := h.fips hfips
  have hroom := hp.room
  have hle := hp.length
  simp only [headerRoom, hfips, if_true] at hroom hle
  have hpayload : bytes_at p.stream 31 (p.stream.pos - 31) =
      p.payload sender.encryption_method := by
    simp [Outgoing.payload, headerRoom, hfips]
  generalize p.payload sender.encryption_method = payload at hpayload ⊢
  have hpaylen : payload.length = p.stream.pos - 31 := by rw [← hpayload, length_bytes_at]
  have hpadded : p.stream.pos + padOf payload ≤ 32767 := by
    rw [paddedLength, ← hpaylen] at hle
    exact hle
  let flagged := set_sec_flags sender p.sec_flags
  have hflagged : set_sec_flags sender p.sec_flags = flagged := rfl
  have h1 : Lockstep flagged receiver := ⟨h.method, h.rc4, h.fips⟩
  have hblocks : 8 ∣ (payload ++ replicate (padOf payload) (0 : UInt8)).length := by
    rw [length_append, length_replicate, padOf]
    omega
  have hnext := (C.des3.decrypt_encrypt _ _ _ hmatch hblocks).2
  have hsender := congrArg Prod.snd (rdp_send_fips flagged hp.encrypted
    hfips hroom hpadded hp.memory hp.channel hpayload rfl)
  obtain ⟨s', hreceive, hs'⟩ := rdp_receive_fips h1 hfips hp.encrypted hp.flags hroom hpadded
    hp.memory hp.channel hpayload
  refine ⟨{ channel_id := p.channel_id, payload, signature_ok := true,
            sent_count := saltCount flagged true,
            checked_count := saltCount
              (followedFips flagged receiver payload) false },
    clear_sec_flags (security_fips_encrypt (payload ++ replicate (padOf payload) 0)
      flagged).2,
    followedFips flagged receiver payload, ?_, rfl, rfl, rfl,
    ⟨h.method, fun hrc4 => absurd hfips hrc4, fun _ => ⟨?_, hsign, hnext⟩⟩, rfl⟩
  · simp [exchange, hflagged, hreceive, hs', hsender]
  · exact congrArg (· + 1) hcount

/-! ## Whole sessions -/

/-- The receiver got the channel and the payload of the packet, and its signature was
right. -/
structure Delivered (method : Nat) (e : Exchange) (p : Outgoing) : Prop where
  channel : e.channel_id = p.channel_id
  payload : e.payload = p.payload method
  signature : e.signature_ok = true

theorem exchange_delivers (h : Lockstep sender receiver) (hp : p.Fits sender.encryption_method)
    (hplain : p.sec_flags &&& SEC_SECURE_CHECKSUM = 0) :
    ∃ e sender' receiver', exchange sender receiver p = some (e, sender', receiver') ∧
      Delivered sender.encryption_method e p ∧ Lockstep sender' receiver' ∧
      sender'.encryption_method = sender.encryption_method := by
  by_cases hfips : sender.encryption_method = ENCRYPTION_METHOD_FIPS
  · obtain ⟨e, sender', receiver', hex, hch, hpay, hsig, hstep, hmethod⟩ :=
      exchange_fips h hfips hp
    exact ⟨e, sender', receiver', hex, ⟨hch, hpay, hsig⟩, hstep, hmethod⟩
  · obtain ⟨e, sender', receiver', hex, hstep⟩ := exchange_rc4 h hfips hp
    exact ⟨e, sender', receiver', hex,
      ⟨hstep.channel, hstep.payload, hstep.signature (Or.inl hplain)⟩, hstep.lockstep,
      hstep.method⟩

/-- Every packet of a session without salted signatures arrives: with its channel, with
its payload and nothing else, and with a signature that is right. Neither the key
updates nor the padding change that, however long the session is. -/
theorem every_packet_arrives (sender receiver : rdpRdp C) (h : Lockstep sender receiver)
    (packets : List Outgoing) (hfits : ∀ p ∈ packets, p.Fits sender.encryption_method)
    (hplain : ∀ p ∈ packets, p.sec_flags &&& SEC_SECURE_CHECKSUM = 0) :
    ∃ exchanges, session sender receiver packets = some exchanges ∧
      Forall₂ (Delivered sender.encryption_method) exchanges packets := by
  induction packets generalizing sender receiver with
  | nil => exact ⟨[], rfl, .nil⟩
  | cons p ps ih =>
    obtain ⟨e, sender', receiver', hex, hdelivered, hstep, hmethod⟩ :=
      exchange_delivers h (hfits p (by simp)) (hplain p (by simp))
    have hfits' : ∀ q ∈ ps, q.Fits sender'.encryption_method := by
      intro q hq
      rw [hmethod]
      exact hfits q (mem_cons_of_mem p hq)
    obtain ⟨es, hsession, hall⟩ := ih sender' receiver' hstep hfits'
      (forall_mem_cons.mp hplain).2
    rw [hmethod] at hall
    refine ⟨e :: es, ?_, .cons hdelivered hall⟩
    simp [session, hex, hsession]

/-- The use count has reached 4096 when packet `n` comes, counted from 0, in a session
that started at the count `start`. -/
def AtKeyUpdate (start n : Nat) : Prop :=
  0 < min start 4096 + n ∧ (min start 4096 + n) % 4096 = 0

instance (start n : Nat) : Decidable (AtKeyUpdate start n) := by
  unfold AtKeyUpdate
  infer_instance

theorem atKeyUpdate_zero (start : Nat) : AtKeyUpdate start 0 ↔ start ≥ 4096 := by
  unfold AtKeyUpdate
  omega

theorem atKeyUpdate_succ (start n : Nat) :
    AtKeyUpdate start (n + 1) ↔ AtKeyUpdate (countAfterUpdate start + 1) n := by
  unfold AtKeyUpdate countAfterUpdate
  split <;> omega

/-- The two counts of packet `n`, and if its signature is right. -/
structure Salted (start n : Nat) (e : Exchange) : Prop where
  counts : e.sent_count = e.checked_count ↔ ¬ AtKeyUpdate start n
  signature : ¬ AtKeyUpdate start n → e.signature_ok = true

/-- A salted signature covers the same count on both sides exactly for the packets that
do not meet a key update. The sender takes its count before the update sets it back,
the receiver after. -/
theorem salted_counts_agree_between_key_updates (sender receiver : rdpRdp C)
    (h : Lockstep sender receiver)
    (hrc4 : sender.encryption_method ≠ ENCRYPTION_METHOD_FIPS)
    (packets : List Outgoing) (hfits : ∀ p ∈ packets, p.Fits sender.encryption_method) :
    ∃ exchanges, session sender receiver packets = some exchanges ∧
      exchanges.length = packets.length ∧
      ∀ n (hn : n < exchanges.length), Salted sender.encrypt.use_count n exchanges[n] := by
  induction packets generalizing sender receiver with
  | nil => exact ⟨[], rfl, rfl, fun n hn => absurd hn (Nat.not_lt_zero n)⟩
  | cons p ps ih =>
    obtain ⟨e, sender', receiver', hex, hstep⟩ := exchange_rc4 h hrc4 (hfits p (by simp))
    have hmethod := hstep.method
    have hfits' : ∀ q ∈ ps, q.Fits sender'.encryption_method := by
      intro q hq
      rw [hmethod]
      exact hfits q (mem_cons_of_mem p hq)
    obtain ⟨es, hsession, hlen, hall⟩ := ih sender' receiver' hstep.lockstep (hmethod ▸ hrc4) hfits'
    refine ⟨e :: es, ?_, by simp [hlen], ?_⟩
    · simp [session, hex, hsession]
    · intro n hn
      cases n with
      | zero =>
        rw [getElem_cons_zero]
        refine ⟨?_, ?_⟩
        · rw [atKeyUpdate_zero, hstep.sent, hstep.checked, countAfterUpdate]
          split <;> omega
        · rw [atKeyUpdate_zero]
          intro hlt
          exact hstep.signature (Or.inr (by omega))
      | succ n =>
        have hn' := hall n (by simpa using hn)
        rw [hstep.use_count] at hn'
        exact ⟨by rw [atKeyUpdate_succ]; exact hn'.counts,
          by rw [atKeyUpdate_succ]; exact hn'.signature⟩

/-! ## The start of a session -/

theorem establish_ciphers_lockstep (hmethod : sender.encryption_method = receiver.encryption_method)
    (hrc4 : sender.encryption_method ≠ ENCRYPTION_METHOD_FIPS)
    (hkey : sender.encrypt.key = receiver.decrypt.key)
    (hupdate : sender.encrypt.update_key = receiver.decrypt.update_key)
    (hcount : sender.encrypt.use_count = receiver.decrypt.use_count)
    (hsign : sender.sign_key = receiver.sign_key) (hlen : sender.rc4_key_len = receiver.rc4_key_len)
    (checksum checksum' : Bool) :
    Lockstep (establish_ciphers checksum sender) (establish_ciphers checksum' receiver) := by
  have hrc4' : receiver.encryption_method ≠ ENCRYPTION_METHOD_FIPS := hmethod ▸ hrc4
  simp only [establish_ciphers, hrc4, hrc4', if_false]
  refine ⟨hmethod, fun _ => ⟨?_, hsign, hlen⟩, fun hfips => absurd hfips hrc4⟩
  simp only [hkey, hupdate, hcount, hlen]

theorem established_in_lockstep (client_random server_random : Bytes) (method : Nat)
    (hrc4 : method ≠ ENCRYPTION_METHOD_FIPS) (checksum checksum' : Bool)
    (e e' : C.des3.Enc) (d d' : C.des3.Dec) :
    let client := establish_ciphers checksum
      (security_establish_keys client_random server_random (rdp_new false method e d))
    let server := establish_ciphers checksum'
      (security_establish_keys client_random server_random (rdp_new true method e' d'))
    Lockstep client server ∧ Lockstep server client := by
  have hset : ∀ mode (e : C.des3.Enc) (d : C.des3.Dec),
      security_establish_keys client_random server_random (rdp_new mode method e d) =
        establish_rc4_keys client_random server_random (rdp_new mode method e d) := by
    intro mode e d
    simp [security_establish_keys, hrc4]
  have hkeys := (establish_rc4_keys_complementary client_random server_random
    (rdp_new false method e d) (rdp_new true method e' d') rfl rfl rfl rfl rfl).mpr ⟨rfl, rfl⟩
  simp only [hset]
  exact ⟨establish_ciphers_lockstep (by rfl) hrc4 hkeys.to_server hkeys.update_to_server (by rfl)
      hkeys.sign hkeys.key_len checksum checksum',
    establish_ciphers_lockstep (by rfl) hrc4 hkeys.to_client hkeys.update_to_client (by rfl)
      hkeys.sign.symm hkeys.key_len.symm checksum' checksum⟩

/-! ## Packets of both sides -/

/-- A session in which both sides send. At `none` the other side takes its turn. -/
def duplex : rdpRdp C → rdpRdp C → List (Option Outgoing) → Option (List Exchange)
  | _, _, [] => some []
  | a, b, none :: ps => duplex b a ps
  | a, b, some p :: ps =>
    (exchange a b p).bind fun (e, a, b) => (duplex a b ps).map (e :: ·)

theorem Lockstep.send (h : Lockstep receiver sender) (s : STREAM) (channel_id : Nat) :
    Lockstep receiver (rdp_send sender s channel_id).2 := by
  simp only [rdp_send, rdp_security_stream_out]
  split_ifs <;> exact ⟨h.method, h.rc4, h.fips⟩

theorem Lockstep.decrypt (h : Lockstep receiver sender) {length flags : Nat} {d : Decrypted C}
    (hd : rdp_decrypt receiver s length flags = some d) : Lockstep d.rdp sender := by
  unfold rdp_decrypt at hd
  split at hd
  · obtain ⟨-, hd⟩ := Option.ite_none_left_eq_some.mp hd
    obtain ⟨_, hplain, rfl⟩ := Option.map_eq_some_iff.mp hd
    obtain ⟨-, hplain⟩ := Option.ite_none_left_eq_some.mp hplain
    cases hplain
    dsimp only
    split <;> exact ⟨h.method, h.rc4, h.fips⟩
  · obtain ⟨-, hd⟩ := Option.ite_none_left_eq_some.mp hd
    cases hd
    exact ⟨h.method, h.rc4, h.fips⟩

theorem Lockstep.receive (h : Lockstep receiver sender) {d : Decrypted C}
    (hd : rdp_receive receiver s = some (channel_id, d)) : Lockstep d.rdp sender := by
  have hread : Lockstep (rdp_read_header receiver s).2.2 sender := by
    simp only [rdp_read_header]
    repeat' split
    all_goals exact ⟨h.method, h.rc4, h.fips⟩
  unfold rdp_receive at hd
  split at hd
  · cases hd
  · rename_i hheader
    rw [hheader] at hread
    obtain ⟨_, hdecrypt, heq⟩ := Option.map_eq_some_iff.mp hd
    cases heq
    exact hread.decrypt hdecrypt

theorem exchange_back {e : Exchange} {sender' receiver' : rdpRdp C}
    (h : exchange sender receiver p = some (e, sender', receiver'))
    (hback : Lockstep receiver sender) : Lockstep receiver' sender' := by
  have hflagged : Lockstep receiver (set_sec_flags sender p.sec_flags) :=
    ⟨hback.method, hback.rc4, hback.fips⟩
  unfold exchange at h
  dsimp only at h
  split at h
  · cases h
  · rename_i hreceive
    obtain ⟨-, heq⟩ := Option.ite_none_right_eq_some.mp h
    cases heq
    exact (hflagged.send _ _).receive hreceive

/-- In whatever order the two sides send, every packet arrives. -/
theorem packets_of_both_sides_arrive (a b : rdpRdp C) (hto : Lockstep a b) (hback : Lockstep b a)
    (packets : List (Option Outgoing)) (hfits : ∀ p, some p ∈ packets →
      p.Fits a.encryption_method ∧ p.sec_flags &&& SEC_SECURE_CHECKSUM = 0) :
    ∃ exchanges, duplex a b packets = some exchanges ∧
      Forall₂ (Delivered a.encryption_method) exchanges packets.reduceOption := by
  induction packets generalizing a b with
  | nil => exact ⟨[], rfl, .nil⟩
  | cons q ps ih =>
    have hps := fun p hp => hfits p (mem_cons_of_mem q hp)
    cases q with
    | none =>
      rw [hto.method] at hps ⊢
      exact ih b a hback hto hps
    | some p =>
      obtain ⟨hp, hplain⟩ := hfits p mem_cons_self
      obtain ⟨e, a', b', hex, hgot, hstep, hsame⟩ := exchange_delivers hto hp hplain
      obtain ⟨es, hrest, hall⟩ := ih a' b' hstep (exchange_back hex hback) (hsame ▸ hps)
      exact ⟨e :: es, by simp [duplex, hex, hrest], .cons hgot (hsame ▸ hall)⟩

end

/-- A client with 128-bit keys, ready to send. -/
def sampleClient : rdpRdp sampleCrypto :=
  establish_ciphers false (security_establish_keys (replicate 32 0x11)
    (replicate 32 0x22) (rdp_new false ENCRYPTION_METHOD_128BIT () ()))

def sampleServer : rdpRdp sampleCrypto :=
  establish_ciphers false (security_establish_keys (replicate 32 0x11)
    (replicate 32 0x22) (rdp_new true ENCRYPTION_METHOD_128BIT () ()))

/-- A packet with a payload of three bytes. -/
def samplePacket (sec_flags : Nat) : Outgoing :=
  { channel_id := 1004, sec_flags,
    stream := { data := replicate 27 0 ++ [7, 8, 9, 0], size := 31, pos := 30 } }

theorem samplePacket_fits (sec_flags : Nat) (hlt : sec_flags < 65536)
    (h : sec_flags &&& SEC_ENCRYPT ≠ 0) :
    (samplePacket sec_flags).Fits ENCRYPTION_METHOD_128BIT :=
  ⟨show 1004 < 65536 by decide, hlt, h, show 27 ≤ 30 by decide, show 30 ≤ 31 by decide,
    show 30 ≤ 32767 by decide⟩

theorem sample_lockstep : Lockstep sampleClient sampleServer := by
  exact (established_in_lockstep (C := sampleCrypto) _
    (replicate 32 0x22) ENCRYPTION_METHOD_128BIT (by decide) false false () () () ()).1

theorem every_packet_arrives_sample :
    ∃ exchanges, session sampleClient sampleServer [samplePacket 0x48, samplePacket 0x08] =
        some exchanges ∧
      Forall₂ (Delivered ENCRYPTION_METHOD_128BIT) exchanges
        [samplePacket 0x48, samplePacket 0x08] :=
  every_packet_arrives sampleClient sampleServer sample_lockstep
    [samplePacket 0x48, samplePacket 0x08]
    (by
      intro p hp
      rcases mem_pair.mp hp with rfl | rfl
      · exact samplePacket_fits 0x48 (by decide) (by decide)
      · exact samplePacket_fits 0x08 (by decide) (by decide))
    (by decide)

theorem salted_counts_agree_between_key_updates_sample :
    ∃ exchanges, session sampleClient sampleServer [samplePacket 0x808] = some exchanges ∧
      exchanges.length = 1 ∧ ∀ n (hn : n < exchanges.length), Salted 0 n exchanges[n] :=
  salted_counts_agree_between_key_updates sampleClient sampleServer sample_lockstep (by decide)
    [samplePacket 0x808]
    (by
      intro p hp
      rw [mem_singleton.mp hp]
      exact samplePacket_fits 0x808 (by decide) (by decide))

/-- The two sides after 4096 uses of the same keys. -/
def wornClient : rdpRdp sampleCrypto :=
  { sampleClient with encrypt := { sampleClient.encrypt with use_count := 4096 } }

def wornServer : rdpRdp sampleCrypto :=
  { sampleServer with decrypt := { sampleServer.decrypt with use_count := 4096 } }

theorem worn_lockstep : Lockstep wornClient wornServer := by
  obtain ⟨hkeys, hsign, hlen⟩ := sample_lockstep.rc4 (by decide)
  refine ⟨sample_lockstep.method, fun _ => ⟨?_, hsign, hlen⟩, fun hfips => absurd hfips (by decide)⟩
  simp only [wornClient, wornServer, hkeys]

theorem salted_counts_agree_between_key_updates_counterexample :
    Lockstep wornClient wornServer ∧
    session wornClient wornServer [samplePacket 0x808] =
      some [{ channel_id := 1004, payload := [7, 8, 9], signature_ok := false,
              sent_count := 4096, checked_count := 0 }] :=
  ⟨worn_lockstep, by decide +kernel⟩

theorem packets_of_both_sides_arrive_sample :
    ∃ exchanges, duplex sampleClient sampleServer
        [some (samplePacket 8), none, some (samplePacket 8)] = some exchanges ∧
      Forall₂ (Delivered ENCRYPTION_METHOD_128BIT) exchanges [samplePacket 8, samplePacket 8] := by
  refine packets_of_both_sides_arrive sampleClient sampleServer sample_lockstep
    (established_in_lockstep (C := sampleCrypto) (replicate 32 0x11) (replicate 32 0x22)
      ENCRYPTION_METHOD_128BIT (by decide) false false () () () ()).2 _ ?_
  intro p hp
  obtain rfl : p = samplePacket 8 := by simpa using hp
  exact ⟨samplePacket_fits 8 (by decide) (by decide), rfl⟩

end neutrinordp.packet
