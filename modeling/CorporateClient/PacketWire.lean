-- The bytes of a packet: what the sender puts on the wire, and that the receiver gets
-- the parts back from them.
import CorporateClient.Packet

namespace neutrinordp.packet

open List bytes ciphers stream headers security

/-! ## The packet header -/

/-- The 15 bytes in front of a packet of `length` bytes. -/
def packetHeader (server_mode : Bool) (user_id length channel_id : Nat) : List UInt8 :=
  [3, 0] ++ be16 length ++ [2, 0xF0, 0x80] ++
    [if server_mode then 0x68 else 0x64] ++
    be16 (((user_id : Int) - 1001) % 65536).toNat ++ be16 channel_id ++ [0x70] ++
    be16 ((length - 15) ||| 0x8000)

theorem length_packetHeader (server_mode : Bool) (user_id length channel_id : Nat) :
    (packetHeader server_mode user_id length channel_id).length = 15 := rfl

section

variable {C : Crypto}

theorem mcs_read_domain_mcspdu_header.spec (s : STREAM) (htpkt : byte_at s s.pos = 3)
    (hli : byte_at s (s.pos + 4) ≠ 0) (hcode : byte_at s (s.pos + 5) = X224_TPDU_DATA) :
    mcs_read_domain_mcspdu_header s =
      (some ((byte_at s (s.pos + 7)).toNat >>> 2,
        ofBe16 (byte_at s (s.pos + 2)) (byte_at s (s.pos + 3))), stream_seek s 8) := by
  simp only [mcs_read_domain_mcspdu_header, bind, StateT.bind]
  rw [tpkt_read_header.spec s htpkt]
  simp only []
  rw [tpdu_read_data.spec _ hcode]
  have hne : ¬ byte_at (stream_seek s 4) (stream_seek s 4).pos = 0 := hli
  simp only [hne, if_false]
  rfl

variable {s : STREAM} {length channel_id pad : Nat} {payload sig : Bytes}

variable (rdp : rdpRdp C)

theorem rdp_read_header_packet {mode : Bool} {user_id : Nat} {rest : Bytes}
    (hpos : s.pos ≤ s.size) (hsize : s.size ≤ s.data.length)
    (h : s.left = packetHeader mode user_id length channel_id ++ rest)
    (hlen : length = 15 + rest.length) (hle : length ≤ 32767) (hch : channel_id < 65536) :
    rdp_read_header rdp s = (some (length - 15, channel_id), stream_seek s 15, rdp) := by
  have hleft := stream_get_left_eq s hpos hsize
  rw [h, length_append, length_packetHeader] at hleft
  have hb : ∀ i, i < 15 → byte_at s (s.pos + i) =
      (packetHeader mode user_id length channel_id).getD i 0 := by
    intro i hi
    rw [byte_at_left s i (by rw [h, length_append, length_packetHeader]; omega), h,
      getD_append _ _ _ _ (by rw [length_packetHeader]; exact hi)]
  have hmcs : mcs_read_domain_mcspdu_header s =
      (some (if mode then 26 else 25, length), stream_seek s 8) := by
    have hbe : ofBe16 (byte_at s (s.pos + 2)) (byte_at s (s.pos + 3)) = length := by
      rw [hb 2 (by omega), hb 3 (by omega)]
      exact (ofBe16_be16 length).trans (Nat.mod_eq_of_lt (by omega))
    have hli : byte_at s (s.pos + 4) ≠ 0 := by
      rw [hb 4 (by omega)]
      exact (by decide : (2 : UInt8) ≠ 0)
    have hchoice : byte_at s (s.pos + 7) = if mode then 0x68 else 0x64 := hb 7 (by omega)
    rw [mcs_read_domain_mcspdu_header.spec s (hb 0 (by omega)) hli (hb 5 (by omega)), hbe, hchoice]
    cases mode <;> rfl
  have hchannel : stream_read_uint16_be (stream_seek s 10) = (channel_id, stream_seek s 12) := by
    simp only [stream_read_uint16_be, byte_at_seek, stream_seek_pos, Nat.add_assoc]
    rw [hb 10 (by omega), hb 11 (by omega)]
    exact congrArg (·, stream_seek s 12)
      ((ofBe16_be16 channel_id).trans (Nat.mod_eq_of_lt hch))
  have hlength : per_read_length (stream_seek s 13) = (some (length - 15), stream_seek s 15) := by
    apply per_read_length_be16 _ _ (by omega)
    · simp only [stream_seek_pos, stream_seek_size]
      simp only [stream_get_left] at hleft
      omega
    · exact hb 13 (by omega)
    · exact hb 14 (by omega)
  have hkind : ¬ (if mode then 26 else 25) = DomainMCSPDU_DisconnectProviderUltimatum := by
    cases mode <;> decide
  have hleft8 : stream_get_left (stream_seek s 8) = 7 + rest.length := by
    simp only [stream_get_left, stream_seek_pos, stream_seek_size] at hleft ⊢
    omega
  have hleft15 : stream_get_left (stream_seek s 15) = rest.length := by
    simp only [stream_get_left, stream_seek_pos, stream_seek_size] at hleft ⊢
    omega
  have hinitiator : (per_read_integer16 MCS_BASE_CHANNEL_ID (stream_seek s 8)).2 =
      stream_seek s 10 := rfl
  have hseek : stream_seek (stream_seek s 12) 1 = stream_seek s 13 := rfl
  unfold rdp_read_header
  rw [hmcs]
  simp only [hkind, if_false, hleft8, hinitiator, hchannel, hseek, hlength, hleft15]
  rw [if_neg (by omega), if_neg (by omega), if_neg (by omega)]

/-! ## The packet header, written -/

/-- The length of a packet of `length` bytes when its body is padded to whole blocks. -/
def paddedLength (length : Nat) : Nat := length + (8 - (length - 31) % 8) % 8

theorem rdp_padded_length_fips (hflags : rdp.sec_flags &&& SEC_ENCRYPT ≠ 0)
    (hfips : rdp.encryption_method = ENCRYPTION_METHOD_FIPS) (hlen : 31 ≤ length)
    (hle : paddedLength length ≤ 32767) : rdp_padded_length rdp length = paddedLength length := by
  have hbody : Int.tmod ((length : Int) - RDP_PACKET_HEADER_MAX_LENGTH - 16) 8 =
      ((length - 31) % 8 : Nat) := by
    have hnat : (length : Int) - RDP_PACKET_HEADER_MAX_LENGTH - 16 = (length - 31 : Nat) := by
      simp only [RDP_PACKET_HEADER_MAX_LENGTH]
      omega
    rw [hnat]
    rfl
  simp only [rdp_padded_length, hflags, hfips, ne_eq, not_false_iff, and_self, if_true, hbody]
  unfold paddedLength at hle ⊢
  split <;> omega

theorem rdp_padded_length_rc4 (length : Nat)
    (hrc4 : rdp.encryption_method ≠ ENCRYPTION_METHOD_FIPS) :
    rdp_padded_length rdp length = length := by
  simp [rdp_padded_length, hrc4]

theorem rdp_write_header.spec {padded : Nat} (hs : s.pos ≤ s.data.length)
    (hpadded : rdp_padded_length rdp length = padded) (hlen : 15 ≤ padded) (hle : padded ≤ 32767)
    (hch : channel_id < 65536) :
    rdp_write_header rdp s length channel_id =
      stream_write s (packetHeader rdp.server_mode rdp.user_id padded channel_id) := by
  have hbody : (((padded : Int) - RDP_PACKET_HEADER_MAX_LENGTH) % 65536).toNat = padded - 15 := by
    simp only [RDP_PACKET_HEADER_MAX_LENGTH]
    omega
  have hchannel : (((channel_id : Int) - (0 : Nat)) % 65536).toNat = channel_id := by omega
  unfold rdp_write_header
  simp only [hpadded, hbody, mcs_write_domain_mcspdu_header, tpkt_write_header, tpdu_write_data,
    tpdu_write_header, per_write_choice, per_write_integer16, hchannel, stream_write_uint8,
    stream_write_uint16_be, if_true, stream_write_write _ _ _ hs]
  cases rdp.server_mode <;> rfl

/-! ## The body, written -/

theorem length_mac_signature (data salt : Bytes) : (mac_signature rdp data salt).length = 8 := by
  simp [mac_signature, C.length_md5]

theorem length_hmac_signature (data : Bytes) (use_count : Nat) :
    (hmac_signature rdp data use_count).length = 8 := by
  simp [hmac_signature, C.length_hmac_sha1]

theorem length_rdp_packet_signature (data : Bytes) :
    (rdp_packet_signature rdp data).length = 8 := by
  unfold rdp_packet_signature security_salted_mac_signature security_mac_signature
  split <;> exact length_mac_signature _ _ _

def securityHeader (flags : Nat) : List UInt8 := le16 flags ++ le16 0

theorem rdp_write_security_header.spec (flags : Nat) (hs : s.pos ≤ s.data.length) :
    rdp_write_security_header s flags = stream_write s (securityHeader flags) := by
  simp only [rdp_write_security_header, stream_write_uint16, stream_write_write _ _ _ hs,
    securityHeader]

theorem encrypt_flag_ne_zero {flags : Nat} (h : flags &&& SEC_ENCRYPT ≠ 0) : flags ≠ 0 := by
  intro h0
  rw [h0] at h
  exact h (Nat.zero_and _)

theorem length_security_encrypt (data : Bytes) (rdp : rdpRdp C) :
    (security_encrypt data rdp).1.length = data.length :=
  length_crypt _ _ _

theorem seek_poke_eight (s : STREAM) (h : sig.length = 8) :
    stream_seek (stream_poke s s.pos sig) 8 = stream_write s sig := by
  simp only [stream_seek, stream_poke, stream_write, h]

theorem rdp_stream_out_rc4.spec (hpos : s.pos + 8 ≤ length) (hmem : length ≤ s.data.length)
    (hpayload : bytes_at s (s.pos + 8) (length - (s.pos + 8)) = payload) :
    ∃ s', rdp_stream_out_rc4 rdp s length = (s', (security_encrypt payload rdp).2) ∧
      s'.data.take length = s.data.take s.pos ++ rdp_packet_signature rdp payload ++
        (security_encrypt payload rdp).1 := by
  have hlen : payload.length = length - (s.pos + 8) := by rw [← hpayload, length_bytes_at]
  have hcrypted := length_security_encrypt payload rdp
  have hsig := length_rdp_packet_signature rdp payload
  have hread := bytes_at_write s (rdp_packet_signature rdp payload) (s.pos + 8)
    (length - (s.pos + 8)) (by omega) (by omega)
  refine ⟨stream_poke (stream_write s (rdp_packet_signature rdp payload)) (s.pos + 8)
    (security_encrypt payload rdp).1, ?_, ?_⟩
  · simp only [rdp_stream_out_rc4, hpayload, seek_poke_eight s hsig, hread]
  · have htake := take_poke_write s (rdp_packet_signature rdp payload)
      (security_encrypt payload rdp).1 (by omega)
    rw [hsig, show s.pos + 8 + (security_encrypt payload rdp).1.length = length by omega] at htake
    exact htake

theorem length_security_fips_encrypt (data : Bytes) (rdp : rdpRdp C)
    (h : 8 ∣ data.length) : (security_fips_encrypt data rdp).1.length = data.length :=
  C.des3.length_encrypt _ _ h

theorem rdp_stream_out_fips.spec (hpos : s.pos + 12 ≤ length) (hmem : length ≤ s.data.length)
    (hpayload : bytes_at s (s.pos + 12) (length - (s.pos + 12)) = payload)
    (hpad : pad = (8 - payload.length % 8) % 8) :
    ∃ s', rdp_stream_out_fips rdp s length =
        (pad, s', (security_fips_encrypt (payload ++ replicate pad 0) rdp).2) ∧
      s'.data.take (length + pad) = s.data.take s.pos ++ [0x10, 0, 1] ++ [UInt8.ofNat pad] ++
        security_hmac_signature payload rdp ++
        (security_fips_encrypt (payload ++ replicate pad 0) rdp).1 := by
  have hlen : payload.length = length - (s.pos + 12) := by rw [← hpayload, length_bytes_at]
  have hand : (8 - (length - (s.pos + 12)) % 8) &&& 7 = pad := by
    rw [hpad, hlen]
    exact Nat.and_two_pow_sub_one_eq_mod _ 3
  have hzeros : (replicate pad (0 : UInt8)).length = pad := length_replicate
  have hsig : (security_hmac_signature payload rdp).length = 8 := length_hmac_signature _ _ _
  have hcrypted := length_security_fips_encrypt (payload ++ replicate pad 0) rdp
    (by rw [length_append, hzeros]; omega)
  rw [length_append, hzeros] at hcrypted
  -- `s1` is the stream after the version, `s2` after the padding, `s3` after its length.
  have hwrite1 : stream_write_uint8 (stream_write_uint16 s 0x10) 0x1 =
      stream_write s [0x10, 0, 1] := stream_write_write s _ _ (by omega)
  have hpos1 : (stream_write s [0x10, 0, 1]).pos = s.pos + 3 := rfl
  have hmem1 := stream_write_length s [0x10, 0, 1] (by omega)
  have htake1 := take_stream_write s [0x10, 0, 1] (by omega)
  have hread1 := bytes_at_write s [0x10, 0, 1] (s.pos + 12) (length - (s.pos + 12)) (by omega)
    (by simp)
  rw [hpayload] at hread1
  generalize stream_write s [0x10, 0, 1] = s1 at hwrite1 hpos1 hmem1 htake1 hread1
  have hlength : s.pos + 12 + (length - (s.pos + 12)) = length := by omega
  have hread2 := bytes_at_poke_behind s1 (replicate pad 0) (s.pos + 12)
    (length - (s.pos + 12)) (by omega)
  have hplain2 := bytes_at_poke_before s1 (replicate pad 0) length (s.pos + 12)
    (length - (s.pos + 12)) (by omega) (by omega)
  have hmem2 := length_patch s1.data (replicate pad 0) length (by omega)
  have htake2 := take_patch_of_le s1.data (replicate pad 0) length s1.pos (by omega) (by omega)
  have hpos2 : (stream_poke s1 length (replicate pad 0)).pos = s1.pos := rfl
  rw [hlength, hread1, hzeros] at hread2
  rw [hread1] at hplain2
  rw [htake1] at htake2
  change (stream_poke s1 length (replicate pad 0)).data.length = _ at hmem2
  change (stream_poke s1 length (replicate pad 0)).data.take _ = _ at htake2
  generalize hs2 : stream_poke s1 length (replicate pad 0) = s2 at *
  rw [← hpos2] at htake2
  have hpos3 : (stream_write s2 [UInt8.ofNat pad]).pos = s2.pos + 1 := rfl
  have hmem3 := stream_write_length s2 [UInt8.ofNat pad] (by omega)
  have htake3 := take_stream_write s2 [UInt8.ofNat pad] (by omega)
  have hread3 := fun n => bytes_at_write s2 [UInt8.ofNat pad] (s.pos + 12) n (by omega)
    (by simp only [length_singleton]; omega)
  rw [htake2] at htake3
  generalize hs3 : stream_write s2 [UInt8.ofNat pad] = s3 at *
  have hread4 := bytes_at_write s3 (security_hmac_signature payload rdp) (s.pos + 12)
    (length - (s.pos + 12) + pad) (by omega) (by omega)
  refine ⟨stream_poke (stream_write s3 (security_hmac_signature payload rdp)) (s.pos + 12)
    (security_fips_encrypt (payload ++ replicate pad 0) rdp).1, ?_, ?_⟩
  · have hwrite3 : stream_write_uint8 s2 pad = s3 := hs3
    simp only [rdp_stream_out_fips, hwrite1, hlength, hand, hs2, hwrite3, hread3,
      hplain2, seek_poke_eight s3 hsig, hread4, hread2]
  · have htake := take_poke_write s3 (security_hmac_signature payload rdp)
      (security_fips_encrypt (payload ++ replicate pad 0) rdp).1 (by omega)
    have hstart : s3.pos + 8 = s.pos + 12 := by omega
    have hend : s.pos + 12 + (security_fips_encrypt (payload ++ replicate pad 0) rdp).1.length
        = length + pad := by omega
    rw [htake3, hsig, hstart, hend] at htake
    exact htake

/-! ## A packet on the wire -/

theorem headers_written {padded : Nat} (hmem : 19 ≤ s.data.length)
    (hpadded : rdp_padded_length rdp s.pos = padded) (hlen : 15 ≤ padded) (hle : padded ≤ 32767)
    (hch : channel_id < 65536) :
    ∃ s1, rdp_write_security_header (rdp_write_header rdp (stream_set_pos s 0) s.pos channel_id)
        rdp.sec_flags = s1 ∧ s1.pos = 19 ∧ s1.data.length = s.data.length ∧
      s1.data.take 19 = packetHeader rdp.server_mode rdp.user_id padded channel_id ++
        securityHeader rdp.sec_flags ∧
      ∀ i n, 19 ≤ i → bytes_at s1 i n = bytes_at s i n := by
  have hhead : (packetHeader rdp.server_mode rdp.user_id padded channel_id ++
      securityHeader rdp.sec_flags).length = 19 := rfl
  rw [rdp_write_header.spec rdp (by simp) hpadded hlen hle hch,
    rdp_write_security_header.spec _ (by
      rw [stream_write_length _ _ (by simp)]
      simp only [stream_write_pos]
      omega),
    stream_write_write _ _ _ (by simp)]
  generalize packetHeader rdp.server_mode rdp.user_id padded channel_id ++
    securityHeader rdp.sec_flags = head at hhead
  refine ⟨_, rfl, ?_, ?_, ?_, ?_⟩
  · rw [stream_write_pos, hhead, stream_set_pos_pos]
  · rw [stream_write_length _ _ (by simp), hhead, stream_set_pos_pos, stream_set_pos_data]
    omega
  · have htake := take_stream_write (stream_set_pos s 0) head (by simp)
    rw [stream_write_pos, hhead] at htake
    simpa using htake
  · intro i n hi
    exact bytes_at_write _ head i n (by simp) (by rw [hhead]; simpa using hi)

theorem rdp_send_rc4 (hflags : rdp.sec_flags &&& SEC_ENCRYPT ≠ 0)
    (hrc4 : rdp.encryption_method ≠ ENCRYPTION_METHOD_FIPS) (hpos : 27 ≤ s.pos)
    (hle : s.pos ≤ 32767) (hmem : s.pos ≤ s.data.length) (hch : channel_id < 65536)
    (hpayload : bytes_at s 27 (s.pos - 27) = payload) :
    rdp_send rdp s channel_id =
      (packetHeader rdp.server_mode rdp.user_id s.pos channel_id ++
          securityHeader rdp.sec_flags ++ rdp_packet_signature rdp payload ++
          (security_encrypt payload rdp).1,
        clear_sec_flags (security_encrypt payload rdp).2) := by
  obtain ⟨s1, hwritten, hpos1, hmem1, htake1, hread1⟩ := headers_written rdp (s := s)
    (by omega) (rdp_padded_length_rc4 rdp s.pos hrc4) (by omega) hle hch
  have hbody : bytes_at s1 (s1.pos + 8) (s.pos - (s1.pos + 8)) = payload := by
    rw [hpos1, hread1 _ _ (by omega), hpayload]
  obtain ⟨s', hout, htake⟩ := rdp_stream_out_rc4.spec rdp (by omega) (by omega) hbody
  rw [hpos1, htake1] at htake
  have hlength : stream_get_length s % 65536 = s.pos := Nat.mod_eq_of_lt (by
    simp only [stream_get_length]; omega)
  simp [rdp_send, hlength, rdp_security_stream_out, encrypt_flag_ne_zero hflags, hflags, hrc4,
    hwritten, hout, Nat.mod_eq_of_lt (show s.pos < 65536 by omega), htake]

theorem rdp_send_fips (hflags : rdp.sec_flags &&& SEC_ENCRYPT ≠ 0)
    (hfips : rdp.encryption_method = ENCRYPTION_METHOD_FIPS) (hpos : 31 ≤ s.pos)
    (hle : s.pos + pad ≤ 32767) (hmem : s.pos ≤ s.data.length) (hch : channel_id < 65536)
    (hpayload : bytes_at s 31 (s.pos - 31) = payload) (hpad : pad = (8 - payload.length % 8) % 8) :
    rdp_send rdp s channel_id =
      (packetHeader rdp.server_mode rdp.user_id (s.pos + pad) channel_id ++
          securityHeader rdp.sec_flags ++ [0x10, 0, 1] ++ [UInt8.ofNat pad] ++
          security_hmac_signature payload rdp ++
          (security_fips_encrypt (payload ++ replicate pad 0) rdp).1,
        clear_sec_flags (security_fips_encrypt (payload ++ replicate pad 0) rdp).2) := by
  have hlen : payload.length = s.pos - 31 := by rw [← hpayload, length_bytes_at]
  have hpadded : paddedLength s.pos = s.pos + pad := by rw [paddedLength, hpad, hlen]
  obtain ⟨s1, hwritten, hpos1, hmem1, htake1, hread1⟩ := headers_written rdp (s := s)
    (by omega) ((rdp_padded_length_fips rdp hflags hfips hpos (by omega)).trans hpadded)
    (by omega) hle hch
  have hbody : bytes_at s1 (s1.pos + 12) (s.pos - (s1.pos + 12)) = payload := by
    rw [hpos1, hread1 _ _ (by omega), hpayload]
  obtain ⟨s', hout, htake⟩ := rdp_stream_out_fips.spec rdp (by omega) (by omega) hbody hpad
  rw [hpos1, htake1] at htake
  have hlength : stream_get_length s % 65536 = s.pos := Nat.mod_eq_of_lt (by
    simp only [stream_get_length]; omega)
  simp [rdp_send, hlength, rdp_security_stream_out, encrypt_flag_ne_zero hflags, hflags, hfips,
    hwritten, hout, Nat.mod_eq_of_lt (show s.pos + pad < 65536 by omega), htake]

/-! ## A packet that comes in -/

theorem rdp_decrypt_rc4 {crypted : Bytes} (flags : Nat)
    (hrc4 : rdp.encryption_method ≠ ENCRYPTION_METHOD_FIPS) (hpos : s.pos ≤ s.size)
    (hsize : s.size ≤ s.data.length) (hsig : sig.length = 8) (h : s.left = sig ++ crypted) :
    ∃ s', rdp_decrypt rdp s (8 + crypted.length) flags =
        some { ok := true,
               signature_ok := sig == rdp_check_signature (security_decrypt crypted rdp).2 flags
                 (security_decrypt crypted rdp).1,
               stream := s', rdp := (security_decrypt crypted rdp).2 } ∧
      s'.left = (security_decrypt crypted rdp).1 := by
  have hplain : (security_decrypt crypted rdp).1.length = crypted.length := length_crypt _ _ _
  have hleft := stream_get_left_eq s hpos hsize
  rw [h, length_append, hsig] at hleft
  simp only [stream_get_left] at hleft
  have hread : bytes_at s s.pos 8 = sig := by
    rw [bytes_at_left s 8 (by rw [h, length_append]; omega), h]
    exact take_left' hsig
  have hnext : (stream_seek s 8).left = crypted := by
    rw [left_seek, h]
    exact drop_left' hsig
  have hbody : bytes_at (stream_seek s 8) (stream_seek s 8).pos crypted.length = crypted := by
    rw [bytes_at_left _ _ (by rw [hnext]), hnext, take_length]
  have hagain := bytes_at_poke_self (stream_seek s 8) (security_decrypt crypted rdp).1
    (stream_seek s 8).pos (by simp only [stream_seek_pos, stream_seek_data]; omega)
  rw [hplain] at hagain
  refine ⟨stream_poke (stream_seek s 8) (stream_seek s 8).pos (security_decrypt crypted rdp).1,
    ?_, ?_⟩
  · have hlong : ¬ 8 + crypted.length < 8 := by omega
    simp only [rdp_decrypt, hrc4, if_false, stream_read, hread, hlong, Nat.add_sub_cancel_left,
      hbody, stream_poke_pos, hagain]
  · apply left_poke
    · simp only [stream_seek_pos, stream_seek_size]; omega
    · exact hsize
    · rw [hnext, hplain]

theorem rdp_decrypt_fips {crypted : Bytes} {after : C.des3.Dec} (flags : Nat)
    (hfips : rdp.encryption_method = ENCRYPTION_METHOD_FIPS) (hpos : s.pos ≤ s.size)
    (hsize : s.size ≤ s.data.length) (hsig : sig.length = 8) (hpad : pad < 8)
    (h : s.left = [0x10, 0, 1] ++ [UInt8.ofNat pad] ++ sig ++ crypted)
    (hcrypted : crypted.length = payload.length + pad) (hblocks : 8 ∣ crypted.length)
    (hplain : C.des3.decrypt rdp.fips_decrypt crypted = (payload ++ replicate pad 0, after))
    (hmac : sig = hmac_signature rdp payload rdp.decrypt.use_count) :
    ∃ s', rdp_decrypt rdp s (12 + crypted.length) flags =
        some { ok := true, signature_ok := true, stream := s',
               rdp := { rdp with
                 fips_decrypt := after
                 decrypt := { rdp.decrypt with use_count := rdp.decrypt.use_count + 1 } } } ∧
      s'.left = payload := by
  have hleft := stream_get_left_eq s hpos hsize
  rw [h] at hleft
  simp only [stream_get_left, length_append, length_cons, length_nil, hsig] at hleft
  have hpadbyte : (byte_at s (s.pos + 3)).toNat = pad := by
    rw [byte_at_left s 3 (by rw [h]; simp), h]
    simp only [cons_append, nil_append, getD_cons_succ, getD_cons_zero, UInt8.toNat_ofNat']
    omega
  have hleft4 : (stream_seek s 4).left = sig ++ crypted := by
    rw [left_seek, h]
    rfl
  have hread : bytes_at (stream_seek s 4) (stream_seek s 4).pos 8 = sig := by
    rw [bytes_at_left _ 8 (by rw [hleft4, length_append]; omega), hleft4]
    exact take_left' hsig
  have hleft12 : (stream_seek s 12).left = crypted := by
    have hseek : stream_seek s 12 = stream_seek (stream_seek s 4) 8 := rfl
    rw [hseek, left_seek, hleft4]
    exact drop_left' hsig
  have hbody : bytes_at (stream_seek s 12) (stream_seek s 12).pos crypted.length = crypted := by
    rw [bytes_at_left _ _ (by rw [hleft12]), hleft12, take_length]
  have hplainlen : (payload ++ replicate pad (0 : UInt8)).length = crypted.length := by
    rw [length_append, length_replicate, hcrypted]
  let opened := stream_poke (stream_seek s 12) (s.pos + 12) (payload ++ replicate pad 0)
  have hpoked : opened.left = payload ++ replicate pad 0 := left_poke (stream_seek s 12) _
    (by simp only [stream_seek_pos, stream_seek_size]; omega) hsize (by rw [hleft12, hplainlen])
  have hpayload : bytes_at opened (s.pos + 12) payload.length = payload := by
    have hfirst := bytes_at_left opened payload.length (by rw [hpoked]; simp)
    rw [hpoked, take_left] at hfirst
    exact hfirst
  refine ⟨{ opened with size := s.size - pad }, ?_, ?_⟩
  · have hlong : ¬ 12 + crypted.length < 12 + pad := by omega
    have hwhole : ¬ crypted.length % 8 ≠ 0 := by omega
    have hrest : crypted.length - pad = payload.length := by omega
    have hb : byte_at s (s.pos + 2 + 1) = byte_at s (s.pos + 3) := rfl
    have hs4 : stream_seek (stream_seek (stream_seek s 2) 1) 1 = stream_seek s 4 := rfl
    have hs12 : stream_seek (stream_seek s 4) 8 = stream_seek s 12 := rfl
    unfold rdp_decrypt
    rw [if_pos hfips]
    simp only [stream_read_uint16, stream_read_uint8, stream_read,
      byte_at_seek, stream_seek_pos, hb, hpadbyte, hlong, if_false, hs4, hs12,
        Nat.add_sub_cancel_left]
    simp only [stream_seek_pos, opened] at hread hbody hpayload
    have hcheck : (sig == hmac_signature { rdp with fips_decrypt := after } payload
        rdp.decrypt.use_count) = true := by rw [hmac]; exact beq_self_eq_true _
    simp only [security_fips_decrypt, hbody, hwhole, if_false, hplain, Option.map_some, hrest,
      stream_poke_pos, stream_seek_pos, hpayload, hread, security_fips_check_signature, hcheck,
      if_true]
    rfl
  · have hsize : opened.size = s.size := rfl
    have hpos : opened.pos = s.pos + 12 := rfl
    refine (left_shrink opened pad (by omega)).trans ?_
    rw [hpoked, show opened.size - pad - opened.pos = payload.length by omega, take_left]

end

end neutrinordp.packet
