-- The encoded credentials of CredSSP. Their size is always the predicted one. They are in DER
-- when no string is too long, and when the sum of the strings is not in the range where a length
-- around them has its value between 128 and 255 or changes its width.
import CorporateClient.CredsspMessages

namespace neutrinordp.credssp

open List bytes codec stream ber

/-! ## The bytes of the credentials -/

section

variable {ρ : Type} (ntlmssp : NTLMSSP ρ)

/-- A string of the credentials, with right lengths. -/
def stringField (tag : UInt8) (bs : List UInt8) : List UInt8 :=
  tlv (contextualTag tag) (tlv octetStringTag bs)

/-- The three strings, with right lengths. -/
def tsPasswordCreds : List UInt8 :=
  tlv sequenceTag (stringField 0 ntlmssp.domain ++
    (stringField 1 ntlmssp.username ++ stringField 2 ntlmssp.password))

def credTypeBytes : List UInt8 := tlv (contextualTag 0) (tlv integerTag [1])

/-- The credentials, with right lengths in one of the two forms that the code has. -/
def tsCredentials : List UInt8 :=
  tlv sequenceTag (credTypeBytes ++
    tlv (contextualTag 1) (tlv octetStringTag (tsPasswordCreds ntlmssp)))

/-- A length below 65536 in its shortest form. -/
def derLength (length : Nat) : List UInt8 :=
  if length ≤ 0x7F then [UInt8.ofNat length]
  else if length ≤ 0xFF then [0x81, UInt8.ofNat length]
  else 0x82 :: be16 length

def der (tag : UInt8) (content : List UInt8) : List UInt8 :=
  tag :: (derLength content.length ++ content)

def derField (tag : UInt8) (bs : List UInt8) : List UInt8 :=
  der (contextualTag tag) (der octetStringTag bs)

/-- The credentials in DER. -/
def derCredentials : List UInt8 :=
  der sequenceTag (der (contextualTag 0) (der integerTag [1]) ++
    der (contextualTag 1) (der octetStringTag (der sequenceTag (derField 0 ntlmssp.domain ++
      (derField 1 ntlmssp.username ++ derField 2 ntlmssp.password)))))

/-- What the code writes for the three strings. -/
def passwordCredsBytes : List UInt8 :=
  header sequenceTag (ber_get_content_length (credssp_skip_ts_password_creds ntlmssp)) ++
    (fieldBytes 0 (ntlmssp.domain.length + 2) ntlmssp.domain ++
      (fieldBytes 1 (ntlmssp.username.length + 2) ntlmssp.username ++
        fieldBytes 2 (ntlmssp.password.length + 2) ntlmssp.password))

/-- The length that the code writes around the password credentials. -/
def innerLength : Nat :=
  behind (ber_get_content_length (credssp_skip_ts_credentials ntlmssp)) - 2 - 2 - 1

def credentialsBytes : List UInt8 :=
  header sequenceTag (ber_get_content_length (credssp_skip_ts_credentials ntlmssp)) ++
    (credTypeBytes ++ (header (contextualTag 1) (innerLength ntlmssp) ++
      (header octetStringTag (credssp_skip_ts_password_creds ntlmssp) ++
        passwordCredsBytes ntlmssp)))

variable (tag : UInt8)

theorem writes_string_field (bs : Bytes) {α : Type} {next : StateM STREAM α}
    {rest : Bytes} {v : α} (h : Writes out next rest v) :
    Writes out (do
        let _ ← ber_write_contextual_tag tag (bs.length + 2) true
        ber_write_octet_string bs bs.length
        next)
      (fieldBytes tag (bs.length + 2) bs ++ rest) v := by
  have hpart := writes_part bs (Nat.le_refl bs.length)
  rw [take_length] at hpart
  unfold fieldBytes
  rw [append_assoc]
  exact (writes_contextual_tag tag _).bind (hpart.bind h)

theorem writes_ts_password_creds :
    Writes out (credssp_write_ts_password_creds ntlmssp) (passwordCredsBytes ntlmssp) () := by
  have hpassword := writes_string_field 2 ntlmssp.password (Writes.pure (k := out) ())
  rw [append_nil] at hpassword
  exact (writes_sequence_tag _).bind
    (writes_string_field 0 _ (writes_string_field 1 _ hpassword))

theorem writes_ts_credentials :
    Writes out (credssp_write_ts_credentials ntlmssp) (credentialsBytes ntlmssp) () := by
  exact (writes_sequence_tag _).bind ((writes_contextual_tag 0 3).bind
    ((writes_integer (by decide)).bind ((writes_contextual_tag 1 _).bind
      ((writes_octet_string_tag _).bind (writes_ts_password_creds ntlmssp)))))

/-! ## The lengths of the credentials -/

theorem lengthBytes_inj {a b : Nat} (ha : a < 65536) (hb : b < 65536)
    (h : lengthBytes a = lengthBytes b) : a = b := by
  obtain ⟨_, hread, -⟩ := reads_length ha 0 (stream_of (lengthBytes a ++ [])) [] (rest_stream_of _)
  obtain ⟨_, hread', -⟩ := reads_length hb 0 (stream_of (lengthBytes b ++ [])) [] (rest_stream_of _)
  rw [h, hread'] at hread
  have hvalue := congrArg Prod.fst hread
  exact (Int.ofNat.inj hvalue).symm

theorem header_append_iff {tag : UInt8} {a b : Nat} {x y : Bytes} (ha : a < 65536)
    (hb : b < 65536) (hwidth : _ber_skip_length a = _ber_skip_length b) :
    header tag a ++ x = header tag b ++ y ↔ a = b ∧ x = y := by
  constructor
  · intro h
    have hlength : (header tag a).length = (header tag b).length := by
      rw [length_header, length_header, ber_skip_contextual_tag, ber_skip_contextual_tag, hwidth]
    obtain ⟨hheader, hrest⟩ := append_inj h hlength
    exact ⟨lengthBytes_inj ha hb (tail_eq_of_cons_eq hheader), hrest⟩
  · rintro ⟨rfl, rfl⟩
    rfl

theorem content_length_iff (n : Nat) :
    ber_get_content_length (n + (_ber_skip_length n + 1)) = n ↔ n ≠ 127 := by
  by_cases h : n ≤ 127
  · by_cases hedge : n = 127
    · subst hedge
      decide
    · simp (disch := omega) only [skip_length_short, content_length_short]
      omega
  · simp (disch := omega) only [skip_length_long, content_length_long]
    omega

theorem content_length_lt {n : Nat} (h : n < 65532) :
    ber_get_content_length (n + (_ber_skip_length n + 1)) < 65536 := by
  have hle := content_length_le (n + (_ber_skip_length n + 1))
  have hskip := skip_length_le n
  omega

theorem skip_octet_string_iff (n : Nat) : n + 2 = ber_skip_octet_string n ↔ n ≤ 127 := by
  unfold ber_skip_octet_string
  by_cases h : n ≤ 127
  · rw [skip_length_short h]
    omega
  · rw [skip_length_long (by omega)]
    omega

theorem skip_length_add_two (n : Nat) :
    _ber_skip_length (n + 2) = _ber_skip_length (ber_skip_octet_string n) := by
  unfold ber_skip_octet_string
  by_cases h : n ≤ 127
  · rw [skip_length_short h, Nat.add_comm n 2]
  · simp (disch := omega) only [skip_length_long]

theorem stringField_eq (bs : Bytes) :
    stringField tag bs = fieldBytes tag (ber_skip_octet_string bs.length) bs := by
  unfold stringField fieldBytes
  rw [tlv, length_tlv, tlv]
  congr 2
  unfold ber_skip_contextual_tag ber_skip_octet_string
  omega

theorem length_stringField (bs : Bytes) : (stringField tag bs).length = skip_field bs.length := by
  rw [stringField_eq]
  unfold fieldBytes skip_field
  simp only [length_append, length_header, ber_skip_contextual_tag, ber_skip_octet_string]
  omega

theorem fieldBytes_append_iff {bs : Bytes} (h : bs.length < 32768) (x y : Bytes) :
    fieldBytes tag (bs.length + 2) bs ++ x = stringField tag bs ++ y ↔ bs.length ≤ 127 ∧ x = y := by
  have hle := skip_octet_string_le bs.length
  rw [stringField_eq, ← skip_octet_string_iff]
  unfold fieldBytes
  simp only [append_assoc]
  rw [header_append_iff (by omega) (by omega) (skip_length_add_two _),
    append_cancel_left_eq, append_cancel_left_eq]

theorem length_fieldBytes_add_two (bs : Bytes) :
    (fieldBytes tag (bs.length + 2) bs).length = skip_field bs.length := by
  rw [← length_stringField tag bs, stringField_eq]
  unfold fieldBytes
  simp [ber_skip_contextual_tag, skip_length_add_two]

/-- The length of the three strings with their tags. -/
def stringsLength : Nat :=
  skip_field ntlmssp.domain.length + skip_field ntlmssp.username.length +
    skip_field ntlmssp.password.length

theorem skip_ts_password_creds_eq :
    credssp_skip_ts_password_creds ntlmssp =
      stringsLength ntlmssp + (_ber_skip_length (stringsLength ntlmssp) + 1) := by
  show 1 + _ber_skip_length (stringsLength ntlmssp) + stringsLength ntlmssp = _
  omega

theorem length_passwordCredsBytes :
    (passwordCredsBytes ntlmssp).length = credssp_skip_ts_password_creds ntlmssp := by
  unfold passwordCredsBytes
  simp only [length_append, length_header, length_fieldBytes_add_two,
    ber_skip_contextual_tag, skip_ts_password_creds_eq, skip_content_length]
  unfold stringsLength
  omega

theorem length_strings :
    (stringField 0 ntlmssp.domain ++
      (stringField 1 ntlmssp.username ++ stringField 2 ntlmssp.password)).length =
      stringsLength ntlmssp := by
  simp [length_stringField, stringsLength, Nat.add_assoc]

theorem length_tsPasswordCreds :
    (tsPasswordCreds ntlmssp).length = credssp_skip_ts_password_creds ntlmssp := by
  unfold tsPasswordCreds
  rw [length_tlv, skip_ts_password_creds_eq, length_strings, Nat.add_comm]
  rfl

/-- The length of the password credentials as a string. -/
def octetsLength : Nat := ber_skip_octet_string (credssp_skip_ts_password_creds ntlmssp)

/-- The length of what stands inside the credentials. -/
def contentLength : Nat := 5 + (octetsLength ntlmssp +
    (_ber_skip_length (octetsLength ntlmssp) + 1))

theorem skip_ts_credentials_eq :
    credssp_skip_ts_credentials ntlmssp =
      contentLength ntlmssp + (_ber_skip_length (contentLength ntlmssp) + 1) := by
  show 1 + _ber_skip_length (contentLength ntlmssp) + contentLength ntlmssp = _
  omega

theorem innerLength_eq :
    innerLength ntlmssp =
      if 120 ≤ octetsLength ntlmssp ∧ octetsLength ntlmssp ≤ 127 then octetsLength ntlmssp - 2
      else octetsLength ntlmssp := by
  unfold innerLength behind ber_skip_contextual_tag
  rw [skip_ts_credentials_eq, skip_content_length]
  unfold contentLength
  generalize octetsLength ntlmssp = n
  split
  · rename_i h
    obtain ⟨hlo, hhi⟩ := h
    interval_cases n <;> rfl
  · by_cases hn : n ≤ 127
    · simp (disch := omega) only [skip_length_short, content_length_short]
      omega
    · simp (disch := omega) only [skip_length_long, content_length_long]
      omega

theorem skip_innerLength :
    _ber_skip_length (innerLength ntlmssp) = _ber_skip_length (octetsLength ntlmssp) := by
  rw [innerLength_eq]
  split
  · rw [skip_length_short (by omega), skip_length_short (by omega)]
  · rfl

theorem outer_lengths_iff :
    contentLength ntlmssp ≠ 127 ∧ innerLength ntlmssp = octetsLength ntlmssp ↔
      ¬ (120 ≤ octetsLength ntlmssp ∧ octetsLength ntlmssp ≤ 127) := by
  have hskip : contentLength ntlmssp = 127 → octetsLength ntlmssp = 120 := by
    unfold contentLength
    intro h
    by_cases hn : octetsLength ntlmssp ≤ 127
    · rw [skip_length_short hn] at h
      omega
    · omega
  rw [innerLength_eq]
  split
  · omega
  · omega

theorem passwordCredsBytes_eq_iff
    (h : ntlmssp.domain.length + ntlmssp.username.length + ntlmssp.password.length < 32768) :
    passwordCredsBytes ntlmssp = tsPasswordCreds ntlmssp ↔
      stringsLength ntlmssp ≠ 127 ∧ ntlmssp.domain.length ≤ 127 ∧
        ntlmssp.username.length ≤ 127 ∧ ntlmssp.password.length ≤ 127 := by
  have hd := skip_field_le ntlmssp.domain.length
  have hu := skip_field_le ntlmssp.username.length
  have hp := skip_field_le ntlmssp.password.length
  have hsize : stringsLength ntlmssp < 65532 := by
    unfold stringsLength
    omega
  have hcontent := content_length_lt hsize
  have hlast := fieldBytes_append_iff 2 (show ntlmssp.password.length < 32768 by omega) [] []
  rw [append_nil, append_nil] at hlast
  unfold passwordCredsBytes tsPasswordCreds tlv
  rw [length_strings, skip_ts_password_creds_eq,
    header_append_iff hcontent (by omega) (skip_content_length _), content_length_iff,
    fieldBytes_append_iff 0 (by omega), fieldBytes_append_iff 1 (by omega), hlast]
  simp

theorem length_octets :
    (tlv octetStringTag (tsPasswordCreds ntlmssp)).length = octetsLength ntlmssp := by
  rw [length_tlv, length_tsPasswordCreds]
  unfold octetsLength ber_skip_octet_string ber_skip_contextual_tag
  rw [Nat.add_comm 1]

theorem length_content :
    (credTypeBytes ++ tlv (contextualTag 1) (tlv octetStringTag (tsPasswordCreds ntlmssp))).length =
      contentLength ntlmssp := by
  have htype : credTypeBytes.length = 5 := rfl
  rw [length_append, length_tlv, length_octets, htype]
  unfold contentLength ber_skip_contextual_tag
  omega

theorem length_credentialsBytes :
    (credentialsBytes ntlmssp).length = credssp_skip_ts_credentials ntlmssp := by
  have htype : credTypeBytes.length = 5 := rfl
  unfold credentialsBytes
  simp only [length_append, length_header, length_passwordCredsBytes, htype,
    ber_skip_contextual_tag, skip_innerLength]
  rw [skip_ts_credentials_eq, skip_content_length]
  unfold contentLength octetsLength ber_skip_octet_string
  omega

theorem credentialsBytes_eq_iff
    (h : ntlmssp.domain.length + ntlmssp.username.length + ntlmssp.password.length < 32768) :
    credentialsBytes ntlmssp = tsCredentials ntlmssp ↔
      ¬ (120 ≤ octetsLength ntlmssp ∧ octetsLength ntlmssp ≤ 127) ∧
        stringsLength ntlmssp ≠ 127 ∧ ntlmssp.domain.length ≤ 127 ∧
          ntlmssp.username.length ≤ 127 ∧ ntlmssp.password.length ≤ 127 := by
  have hoctets : octetsLength ntlmssp < 65000 := by
    have hd := skip_field_le ntlmssp.domain.length
    have hu := skip_field_le ntlmssp.username.length
    have hp := skip_field_le ntlmssp.password.length
    have hsum : stringsLength ntlmssp < 64000 := by
      unfold stringsLength
      omega
    have hcreds := skip_length_le (stringsLength ntlmssp)
    have houter := skip_octet_string_le (credssp_skip_ts_password_creds ntlmssp)
    rw [skip_ts_password_creds_eq] at houter
    rw [octetsLength, skip_ts_password_creds_eq]
    omega
  have hinner : innerLength ntlmssp < 65536 := by
    rw [innerLength_eq]
    split <;> omega
  have hcontent : contentLength ntlmssp < 65532 := by
    have hskip := skip_length_le (octetsLength ntlmssp)
    unfold contentLength
    omega
  rw [← outer_lengths_iff, ← passwordCredsBytes_eq_iff ntlmssp h]
  unfold credentialsBytes tsCredentials
  rw [tlv, length_content, skip_ts_credentials_eq,
    header_append_iff (content_length_lt hcontent) (by omega) (skip_content_length _),
    content_length_iff, append_cancel_left_eq, tlv, length_octets,
    header_append_iff hinner (by omega) (skip_innerLength ntlmssp), tlv, length_tsPasswordCreds,
    append_cancel_left_eq, and_assoc]

/-! ## The shortest form -/

/-- A length that has the same form in DER as in the code. -/
def Minimal (n : Nat) : Prop := ¬ (128 ≤ n ∧ n ≤ 255)

/-- What is in DER under a condition, and shorter in DER otherwise. -/
structure Agree (P : Prop) (a b : List UInt8) : Prop where
  same : P → a = b
  shorter : ¬ P → a.length < b.length

variable {P Q : Prop} {a b a' b' : Bytes} {tag}

theorem agree_self (a : Bytes) : Agree True a a := ⟨fun _ => rfl, fun h => absurd trivial h⟩

theorem Agree.length_le (h : Agree P a b) : a.length ≤ b.length := by
  by_cases hP : P
  · exact Nat.le_of_eq (congrArg length (h.same hP))
  · exact Nat.le_of_lt (h.shorter hP)

theorem Agree.append (h : Agree P a b) (h' : Agree Q a' b') :
    Agree (P ∧ Q) (a ++ a') (b ++ b') := by
  refine ⟨fun hboth => by rw [h.same hboth.1, h'.same hboth.2], fun hnot => ?_⟩
  have hle := h.length_le
  have hle' := h'.length_le
  rw [length_append, length_append]
  by_cases hP : P
  · have hless := h'.shorter fun hQ => hnot ⟨hP, hQ⟩
    omega
  · have hless := h.shorter hP
    omega

theorem Agree.eq_iff (h : Agree P a b) {x : Bytes} (hx : x.length = b.length) :
    x = a ↔ x = b ∧ P := by
  constructor
  · rintro rfl
    have hP : P := by
      by_contra hnot
      exact absurd hx (Nat.ne_of_lt (h.shorter hnot))
    exact ⟨h.same hP, hP⟩
  · rintro ⟨rfl, hP⟩
    exact (h.same hP).symm

theorem length_derLength (n : Nat) :
    (derLength n).length = if n ≤ 127 then 1 else if n ≤ 255 then 2 else 3 := by
  unfold derLength
  split_ifs <;> rfl

theorem Agree.der (h : Agree P a b) : Agree (P ∧ Minimal b.length) (der tag a) (tlv tag b) := by
  constructor
  · rintro ⟨hP, hminimal⟩
    have hlength : derLength b.length = lengthBytes b.length := by
      unfold derLength lengthBytes
      unfold Minimal at hminimal
      split_ifs <;> first | rfl | omega
    rw [h.same hP, credssp.der, hlength]
    rfl
  · intro hnot
    have hle := h.length_le
    have hshort : a.length < b.length ∨ ¬ Minimal b.length := by
      by_cases hP : P
      · exact .inr fun hminimal => hnot ⟨hP, hminimal⟩
      · exact .inl (h.shorter hP)
    rw [length_tlv, ber_skip_contextual_tag, credssp.der, length_cons, length_append,
      length_derLength, _ber_skip_length]
    unfold Minimal at hshort
    split_ifs <;> omega

/-- The strings of the credentials are not too long, and their sum is not in the range where
the code goes wrong or has a length in a form that is not the shortest. -/
structure KeepsStrings : Prop where
  domain : ntlmssp.domain.length ≤ 125
  username : ntlmssp.username.length ≤ 125
  password : ntlmssp.password.length ≤ 125
  sum : ntlmssp.domain.length + ntlmssp.username.length + ntlmssp.password.length ≤ 103 ∨
    244 ≤ ntlmssp.domain.length + ntlmssp.username.length + ntlmssp.password.length

theorem minimal_string {n : Nat} (h : n ≤ 127) :
    Minimal n ∧ Minimal (ber_skip_octet_string n) ↔ n ≤ 125 := by
  unfold Minimal ber_skip_octet_string
  rw [skip_length_short h]
  omega

theorem skip_field_eq {n : Nat} (h : n ≤ 125) : skip_field n = n + 4 := by
  unfold skip_field ber_skip_octet_string ber_skip_contextual_tag
  simp (disch := omega) only [skip_length_short]
  omega

theorem outer_minimal_iff (hd : ntlmssp.domain.length ≤ 125) (hu : ntlmssp.username.length ≤ 125)
    (hp : ntlmssp.password.length ≤ 125) :
    (¬ (120 ≤ octetsLength ntlmssp ∧ octetsLength ntlmssp ≤ 127) ∧ stringsLength ntlmssp ≠ 127) ∧
      Minimal (stringsLength ntlmssp) ∧ Minimal (credssp_skip_ts_password_creds ntlmssp) ∧
      Minimal (octetsLength ntlmssp) ∧ Minimal (contentLength ntlmssp) ↔
    ntlmssp.domain.length + ntlmssp.username.length + ntlmssp.password.length ≤ 103 ∨
      244 ≤ ntlmssp.domain.length + ntlmssp.username.length + ntlmssp.password.length := by
  have hsum : stringsLength ntlmssp =
      ntlmssp.domain.length + ntlmssp.username.length + ntlmssp.password.length + 12 := by
    rw [stringsLength, skip_field_eq hd, skip_field_eq hu, skip_field_eq hp]
    omega
  unfold Minimal contentLength octetsLength ber_skip_octet_string
  rw [skip_ts_password_creds_eq, hsum]
  unfold _ber_skip_length
  split_ifs <;> omega

theorem credentialsBytes_eq_der_iff
    (h : ntlmssp.domain.length + ntlmssp.username.length + ntlmssp.password.length < 32768) :
    credentialsBytes ntlmssp = derCredentials ntlmssp ↔ KeepsStrings ntlmssp := by
  have hfield : ∀ (tag : UInt8) (bs : Bytes), Agree _ (derField tag bs) (stringField tag bs) :=
    fun _ bs => (agree_self bs).der.der
  have hagree : Agree _ (derCredentials ntlmssp) (tsCredentials ntlmssp) :=
    ((agree_self [1]).der.der.append ((hfield 0 _).append
      ((hfield 1 _).append (hfield 2 _))).der.der.der).der
  have hlength : (credentialsBytes ntlmssp).length = (tsCredentials ntlmssp).length := by
    rw [length_credentialsBytes, tsCredentials, length_tlv, length_content, skip_ts_credentials_eq,
      Nat.add_comm]
    rfl
  have htype : (Minimal [(1 : UInt8)].length ∧ Minimal (tlv integerTag [1]).length) := by
    unfold Minimal
    decide
  have hstring : ∀ bs : Bytes,
      (tlv octetStringTag bs).length = ber_skip_octet_string bs.length := by
    intro bs
    rw [length_tlv, ber_skip_contextual_tag, ber_skip_octet_string, Nat.add_comm 1]
  rw [hagree.eq_iff hlength, credentialsBytes_eq_iff ntlmssp h, ← tsPasswordCreds, length_strings,
    length_octets, length_tsPasswordCreds, ← credTypeBytes, length_content]
  simp only [hstring, true_and, htype]
  constructor
  · rintro ⟨⟨houter, hinner, hd, hu, hp⟩, ⟨⟨⟨⟨hd', hu', hp'⟩, hs⟩, hc⟩, ho⟩, hall⟩
    have hd := (minimal_string hd).mp hd'
    have hu := (minimal_string hu).mp hu'
    have hp := (minimal_string hp).mp hp'
    exact ⟨hd, hu, hp, (outer_minimal_iff ntlmssp hd hu hp).mp
      ⟨⟨houter, hinner⟩, hs, hc, ho, hall⟩⟩
  · rintro ⟨hd, hu, hp, hsum⟩
    obtain ⟨⟨houter, hinner⟩, hs, hc, ho, hall⟩ := (outer_minimal_iff ntlmssp hd hu hp).mpr hsum
    have hstring : ∀ {n}, n ≤ 125 → n ≤ 127 ∧ Minimal n ∧ Minimal (ber_skip_octet_string n) :=
      fun hn => ⟨by omega, (minimal_string (by omega)).mpr hn⟩
    exact ⟨⟨houter, hinner, (hstring hd).1, (hstring hu).1, (hstring hp).1⟩,
      ⟨⟨⟨⟨(hstring hd).2, (hstring hu).2, (hstring hp).2⟩, hs⟩, hc⟩, ho⟩, hall⟩

end

/-! ## Messages and credentials -/

/-- For every message, and for all strings: the message is received as it was sent exactly
when no length in it is at a bad place and the message fits into the buffer. The credentials
are as long as predicted, and they are in DER exactly for the good strings. -/
theorem credssp_messages_are_well_formed_iff {ρ : Type} (m : TSRequest) (hm : total m < 2048)
    (ntlmssp : NTLMSSP ρ)
    (hn : ntlmssp.domain.length + ntlmssp.username.length + ntlmssp.password.length < 32768) :
    ((∀ junk, credssp_recv junk true true (credssp_send m) = some m) ↔ KeepsLengths m ∧ Fits m) ∧
    ∃ bytes, Writes out (credssp_write_ts_credentials ntlmssp) bytes () ∧
      bytes.length = credssp_skip_ts_credentials ntlmssp ∧
      (bytes = derCredentials ntlmssp ↔ KeepsStrings ntlmssp) := by
  refine ⟨recovered_iff hm, credentialsBytes ntlmssp, ?_, ?_, ?_⟩
  · exact writes_ts_credentials ntlmssp
  · exact length_credentialsBytes ntlmssp
  · exact credentialsBytes_eq_der_iff ntlmssp hn

/-- A client with a password and no domain. -/
def passwordOnly (password : List UInt8) : NTLMSSP Unit where
  send_rc4_seal := ()
  recv_rc4_seal := ()
  client_signing_key := []
  server_signing_key := []
  send_seq_num := 0
  recv_seq_num := 0
  domain := []
  username := [0x75, 0]
  password := password

theorem credssp_messages_are_well_formed_sample :
    (∀ junk, credssp_recv junk true true (credssp_send ⟨some [1, 2, 3], none, some [4]⟩) =
        some ⟨some [1, 2, 3], none, some [4]⟩) ∧
      ∃ bytes, Writes out (credssp_write_ts_credentials (passwordOnly [0x70, 0])) bytes () ∧
        bytes.length = credssp_skip_ts_credentials (passwordOnly [0x70, 0]) ∧
        bytes = derCredentials (passwordOnly [0x70, 0]) := by
  have h := credssp_messages_are_well_formed_iff ⟨some [1, 2, 3], none, some [4]⟩ (by decide)
    (passwordOnly [0x70, 0]) (by decide)
  obtain ⟨hmessage, bytes, hwrites, hlength, hbytes⟩ := h
  refine ⟨hmessage.mpr ⟨?_, ?_⟩, bytes, hwrites, hlength, hbytes.mpr ?_⟩
  · exact ⟨by simp, by simp⟩
  · exact .inl (by decide)
  · exact ⟨by decide, by decide, by decide, by decide⟩

/-- A token of 120 bytes loses the last two. A password of 128 bytes gets a tag with a wrong
length, and one of 120 bytes has lengths in three bytes where two are enough. -/
theorem credssp_messages_are_well_formed_counterexample :
    credssp_recv (heaped []) true true
        (credssp_send ⟨some (replicate 120 0x41), none, none⟩) =
      some ⟨some (replicate 118 0x41), none, none⟩ ∧
    credssp_encode_ts_credentials (passwordOnly (replicate 128 0x41)) ≠
      derCredentials (passwordOnly (replicate 128 0x41)) ∧
    credssp_encode_ts_credentials (passwordOnly (replicate 120 0x41)) ≠
      derCredentials (passwordOnly (replicate 120 0x41)) := by
  decide +kernel

end neutrinordp.credssp
