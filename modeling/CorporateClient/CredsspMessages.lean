-- The messages of CredSSP as bytes. A message is read back as it was written when the code
-- took the right lengths off each other, and when the message fits into the buffer of the
-- receiver.
import Mathlib.Data.List.TakeDrop
import Mathlib.Tactic.IntervalCases
import CorporateClient.Credssp

namespace neutrinordp.credssp

open List bytes codec stream ber

/-! ## The bytes of a message -/

/-- A string with a contextual tag around it. The reader does not look at the length of the
outer tag. -/
def fieldBytes (tag : UInt8) (length : Nat) (bs : List UInt8) : List UInt8 :=
  header (contextualTag tag) length ++ (header octetStringTag bs.length ++ bs)

/-- The lengths that stand in the tags around the strings of a message. -/
structure Outer where
  request : Nat
  nego : Nat
  items : Nat
  item : Nat
  token : Nat
  auth : Nat
  pub : Nat

/-- All of them are written in two bytes at most. -/
structure Outer.Small (o : Outer) : Prop where
  request : o.request < 65536
  nego : o.nego < 65536
  items : o.items < 65536
  item : o.item < 65536
  token : o.token < 65536
  auth : o.auth < 65536
  pub : o.pub < 65536

/-- A field that is there or not. -/
def optional (encode : List UInt8 → List UInt8) : Option (List UInt8) → List UInt8
  | none => []
  | some bs => encode bs

def negoBytes (o : Outer) (bs : List UInt8) : List UInt8 :=
  header (contextualTag 1) o.nego ++
    (header sequenceTag o.items ++ (header sequenceTag o.item ++ fieldBytes 0 o.token bs))

def versionBytes : List UInt8 :=
  header (contextualTag 0) 3 ++ (header integerTag 1 ++ [UInt8.ofNat 2])

def wire (o : Outer) (m : TSRequest) : List UInt8 :=
  header sequenceTag o.request ++ (versionBytes ++ (optional (negoBytes o) m.negoToken ++
    (optional (fieldBytes 2 o.auth) m.authInfo ++ optional (fieldBytes 3 o.pub) m.pubKeyAuth)))

/-! ## What is written -/

/-- What the code takes for the content behind a header. -/
def behind (length : Nat) : Nat := length - ber_skip_contextual_tag length

/-- The number of bytes of a token that are written. -/
def negoKept (n : Nat) : Nat :=
  behind (behind (behind (behind (ber_get_content_length (credssp_skip_nego_tokens n)))))

/-- The number of bytes of an encrypted key that are written. -/
def pubKept (n : Nat) : Nat := behind (ber_get_content_length (credssp_skip_pub_key_auth n))

variable {m : TSRequest} {n a b : Nat} {bs rest bytes : Bytes} {o : Outer}

theorem skip_length_short (h : n ≤ 127) : _ber_skip_length n = 1 := if_neg (by omega)

theorem skip_length_long (h : 127 < n) : _ber_skip_length n = 3 := if_pos (by omega)

theorem content_length_short (h : n ≤ 128) : ber_get_content_length n = n - 2 := if_neg (by omega)

theorem content_length_long (h : 128 < n) : ber_get_content_length n = n - 4 := if_pos (by omega)

theorem negoKept_eq (n : Nat) : negoKept n = if 119 ≤ n ∧ n ≤ 127 then n - 2 else n := by
  unfold negoKept credssp_skip_nego_tokens credssp_skip_nego_token ber_skip_octet_string
    ber_skip_sequence_tag behind ber_skip_contextual_tag
  split
  · rename_i h
    obtain ⟨hlo, hhi⟩ := h
    interval_cases n <;> rfl
  · by_cases h : n ≤ 127
    · simp (disch := omega) only [skip_length_short, content_length_short]
      omega
    · simp (disch := omega) only [skip_length_long, content_length_long]
      omega

theorem pubKept_eq (n : Nat) : pubKept n = if 125 ≤ n ∧ n ≤ 127 then n - 2 else n := by
  unfold pubKept credssp_skip_pub_key_auth skip_field ber_skip_octet_string behind
    ber_skip_contextual_tag
  split
  · rename_i h
    obtain ⟨hlo, hhi⟩ := h
    interval_cases n <;> rfl
  · by_cases h : n ≤ 127
    · simp (disch := omega) only [skip_length_short, content_length_short]
      omega
    · simp (disch := omega) only [skip_length_long, content_length_long]
      omega

theorem negoKept_le (n : Nat) : negoKept n ≤ n := by
  rw [negoKept_eq]
  split <;> omega

theorem pubKept_le (n : Nat) : pubKept n ≤ n := by
  rw [pubKept_eq]
  split <;> omega

/-- The lengths in the tags of a message, as the code computes them. -/
def outer (m : TSRequest) : Outer where
  request := ber_get_content_length m.ts_request_length
  nego := ber_get_content_length m.nego_tokens_length
  items := behind (ber_get_content_length m.nego_tokens_length)
  item := behind (behind (ber_get_content_length m.nego_tokens_length))
  token := behind (behind (behind (ber_get_content_length m.nego_tokens_length)))
  auth := ber_get_content_length m.auth_info_length
  pub := ber_get_content_length m.pub_key_auth_length

/-- The message without the bytes that are lost. -/
def kept (m : TSRequest) : TSRequest where
  negoToken := m.negoToken.map fun bs => bs.take (negoKept bs.length)
  authInfo := m.authInfo
  pubKeyAuth := m.pubKeyAuth.map fun bs => bs.take (pubKept bs.length)

theorem writes_part (bs : Bytes) (h : n ≤ bs.length) :
    Writes out (ber_write_octet_string bs n)
      (header octetStringTag (bs.take n).length ++ bs.take n) () := by
  rw [length_take_of_le h]
  exact writes_octet_string bs n

theorem writes_nego_tokens (m : TSRequest) :
    Writes out (m.negoToken.forM (write_nego_tokens m.nego_tokens_length))
      (optional (negoBytes (outer m)) (kept m).negoToken) () := by
  obtain ⟨_ | bs, _, _⟩ := m
  · exact .pure _
  · have hpart := writes_part bs (negoKept_le bs.length)
    unfold negoKept at hpart
    simp only [kept, Option.map_some, optional, negoKept, outer, TSRequest.nego_tokens_length]
    generalize credssp_skip_nego_tokens bs.length = length at hpart
    exact (writes_contextual_tag 1 _).bind ((writes_sequence_tag _).bind
      ((writes_sequence_tag _).bind ((writes_contextual_tag 0 _).bind hpart)))

theorem writes_auth_info (m : TSRequest) :
    Writes out (m.authInfo.forM (write_auth_info m.auth_info_length))
      (optional (fieldBytes 2 (outer m).auth) (kept m).authInfo) () := by
  obtain ⟨_, _ | bs, _⟩ := m
  · exact .pure _
  · have hpart := writes_part bs (Nat.le_refl bs.length)
    rw [take_length] at hpart
    exact (writes_contextual_tag 2 _).bind hpart

theorem writes_pub_key_auth (m : TSRequest) :
    Writes out (m.pubKeyAuth.forM (write_pub_key_auth m.pub_key_auth_length))
      (optional (fieldBytes 3 (outer m).pub) (kept m).pubKeyAuth) () := by
  obtain ⟨_, _, _ | bs⟩ := m
  · exact .pure _
  · exact (writes_contextual_tag 3 _).bind (writes_part bs (pubKept_le bs.length))

theorem writes_ts_request (m : TSRequest) :
    Writes out (write_ts_request m) (wire (outer m) (kept m)) () := by
  exact (writes_sequence_tag _).bind ((writes_contextual_tag 0 3).bind
    ((writes_integer (by decide)).bind ((writes_nego_tokens m).bind
      ((writes_auth_info m).bind (writes_pub_key_auth m)))))

theorem credssp_send.spec (m : TSRequest) : credssp_send m = wire (outer m) (kept m) := by
  have hroom : out.Room (stream_new m.ts_request_length) := Nat.zero_le _
  show List.take (stream_get_length (write_ts_request m _).2) (write_ts_request m _).2.data = _
  rw [writes_ts_request m _ hroom]
  have htake := take_stream_write (stream_new m.ts_request_length) (wire (outer m) (kept m)) hroom
  exact htake

/-! ## What is read -/

/-- The strings of a message are shorter than the number that two bytes hold. -/
structure Short (m : TSRequest) : Prop where
  negoToken : ∀ bs, m.negoToken = some bs → bs.length < 65536
  authInfo : ∀ bs, m.authInfo = some bs → bs.length < 65536
  pubKeyAuth : ∀ bs, m.pubKeyAuth = some bs → bs.length < 65536

theorem reads_content (bs : Bytes) (h : bs.length < 65536) (old : Int) :
    Reads Rest (read_content true old) (header octetStringTag bs.length ++ bs)
      (some (some bs), (bs.length : Int)) := by
  have hblob : Reads Rest (read_blob bs.length) bs (some bs) := by
    have hsize : ¬ ((bs.length : Int) < 0 ∨ (bs.length : Int) > 16 * 1024 * 1024) := by omega
    unfold read_blob
    rw [if_neg hsize]
    exact (reads_bytes bs rfl).last (.pure _)
  exact (reads_octet_string h old).bind (hblob.last (.pure _))

variable (tag : UInt8)

theorem reads_octets {length : Nat} (hlength : length < 65536) (bs : Bytes)
    (h : bs.length < 65536) (old : Int) :
    Reads Rest (read_octets tag true old) (fieldBytes tag length bs)
      (some (some bs), (bs.length : Int)) :=
  (reads_contextual_tag tag hlength old).bind (reads_content bs h length)

theorem reads_nego_tokens (ho : o.Small) (bs : Bytes) (h : bs.length < 65536) (old : Int) :
    Reads Rest (read_nego_tokens old) (negoBytes o bs) (some (some bs), (bs.length : Int)) :=
  (reads_contextual_tag 1 ho.nego old).bind ((reads_sequence_tag ho.items _).bind
    ((reads_sequence_tag ho.item _).bind ((reads_contextual_tag 0 ho.token _).bind
      (reads_content bs h _))))

/-- The bytes start with another byte than the given one. -/
def StartsOther (tag : UInt8) (bs : List UInt8) : Prop :=
  ∃ b rest, bs = b :: rest ∧ b ≠ contextualTag tag

theorem reads_optional {tag : UInt8} {old : Int} {encode : Bytes → Bytes}
    {read : Int → StateM STREAM (Option (Option Bytes) × Int)}
    (present : ∀ bs, bs.length < 65536 → Reads Rest (read old) (encode bs)
      (some (some bs), (bs.length : Int)))
    (absent : ∀ s, ber_read_contextual_tag tag old true s = ((false, old), s) → read old s =
      ((some none, old), s))
    {field : Option Bytes} (hfield : ∀ bs, field = some bs → bs.length < 65536) {s : STREAM}
    (hs : Rest s (optional encode field ++ rest)) (hrest : field = none → StartsOther tag rest) :
    ∃ length s', read old s = ((some field, length), s') ∧ Rest s' rest := by
  cases field with
  | none =>
    obtain ⟨b, bs, rfl, hb⟩ := hrest rfl
    exact ⟨old, s, absent s (no_contextual_tag hs hb old), hs⟩
  | some bs =>
    obtain ⟨s', hread, hs'⟩ := present bs (hfield bs rfl) s rest hs
    exact ⟨_, s', hread, hs'⟩

theorem read_octets_absent (wanted : Bool) (old : Int) (s : STREAM)
    (h : ber_read_contextual_tag tag old true s = ((false, old), s)) :
    read_octets tag wanted old s = ((some none, old), s) := by
  unfold read_octets
  rw [run_bind h]
  rfl

theorem read_nego_tokens_absent (old : Int) (s : STREAM)
    (h : ber_read_contextual_tag 1 old true s = ((false, old), s)) :
    read_nego_tokens old s = ((some none, old), s) := by
  unfold read_nego_tokens
  rw [run_bind h]
  rfl

/-- What stands behind a message, so that a last field that is missing is not found. -/
def Ended (m : TSRequest) (rest : List UInt8) : Prop :=
  m.pubKeyAuth = none → ∃ bs, rest = 0 :: bs

theorem starts_other_pub (h : Ended m rest) {tag : UInt8} (h0 : 0 ≠ contextualTag tag)
    (h3 : contextualTag 3 ≠ contextualTag tag) :
    StartsOther tag (optional (fieldBytes 3 o.pub) m.pubKeyAuth ++ rest) := by
  cases hpub : m.pubKeyAuth with
  | none =>
    obtain ⟨bs, rfl⟩ := h hpub
    exact ⟨0, bs, rfl, h0⟩
  | some bs => exact ⟨contextualTag 3, _, rfl, h3⟩

theorem starts_other_auth (h : Ended m rest) :
    StartsOther 1 (optional (fieldBytes 2 o.auth) m.authInfo ++
      (optional (fieldBytes 3 o.pub) m.pubKeyAuth ++ rest)) := by
  cases hauth : m.authInfo with
  | none => exact starts_other_pub h (by decide) (by decide)
  | some bs => exact ⟨contextualTag 2, _, rfl, by decide⟩

theorem read_ts_request.spec (ho : o.Small) (hm : Short m) (junk : Junk) {s : STREAM}
    (hrest : Ended m rest) (hs : Rest s (wire o m ++ rest)) :
    (read_ts_request junk true true s).1 = some m := by
  unfold wire versionBytes at hs
  simp only [append_assoc] at hs
  obtain ⟨s1, h1, hs1⟩ := reads_sequence_tag ho.request junk.length s _ hs
  obtain ⟨s2, h2, hs2⟩ := reads_contextual_tag 0 (by decide) o.request s1 _ hs1
  obtain ⟨s3, h3, hs3⟩ := reads_integer (by decide) junk.integer_length junk.version s2 _ hs2
  obtain ⟨n4, s4, h4, hs4⟩ := reads_optional (reads_nego_tokens ho · · (3 : Nat))
    (read_nego_tokens_absent _) hm.negoToken hs3 fun _ => starts_other_auth hrest
  obtain ⟨n5, s5, h5, hs5⟩ := reads_optional (reads_octets 2 ho.auth · · n4)
    (read_octets_absent 2 true n4) hm.authInfo hs4
    fun _ => starts_other_pub hrest (by decide) (by decide)
  obtain ⟨n6, s6, h6, -⟩ := reads_optional (reads_octets 3 ho.pub · · n5)
    (read_octets_absent 3 true n5) hm.pubKeyAuth hs5 fun hpub => by
      obtain ⟨bs, rfl⟩ := hrest hpub
      exact ⟨0, bs, rfl, by decide⟩
  unfold read_ts_request
  simp only [run_bind h1, run_bind h2, run_bind h3, run_bind h4, run_bind h5, run_bind h6]
  rfl

theorem ignores_size_content (wanted : Bool) (old : Int) :
    IgnoresSize (read_content wanted old) := by
  apply (ignores_size_octet_string old).bind
  rintro ⟨_, length⟩
  apply IgnoresSize.ite
  · apply IgnoresSize.bind
    · apply IgnoresSize.ite
      · exact .pure _
      · exact (ignores_size_bytes _).bind fun _ => .pure _
    · exact fun _ => .pure _
  · exact .pure _

theorem ignores_size_octets (wanted : Bool) (old : Int) :
    IgnoresSize (read_octets tag wanted old) := by
  apply (ignores_size_contextual_tag tag old true).bind
  rintro ⟨present, length⟩
  apply IgnoresSize.ite
  · exact ignores_size_content wanted length
  · exact .pure _

theorem ignores_size_nego_tokens (old : Int) : IgnoresSize (read_nego_tokens old) := by
  apply (ignores_size_contextual_tag 1 old true).bind
  rintro ⟨present, length⟩
  apply IgnoresSize.ite
  · exact (ignores_size_sequence_tag length).bind fun ⟨_, length⟩ =>
      (ignores_size_sequence_tag length).bind fun ⟨_, length⟩ =>
        (ignores_size_contextual_tag 0 length true).bind fun ⟨_, length⟩ =>
          ignores_size_content true length
  · exact .pure _

theorem ignores_size_ts_request (junk : Junk) (auth_info pub_key_auth : Bool) :
    IgnoresSize (read_ts_request junk auth_info pub_key_auth) :=
  (ignores_size_sequence_tag _).bind fun ⟨_, _⟩ =>
    (ignores_size_contextual_tag 0 _ true).bind fun ⟨_, _⟩ =>
      (ignores_size_integer _ _).bind fun _ =>
        (ignores_size_nego_tokens _).bind fun ⟨_, _⟩ =>
          (ignores_size_octets 2 _ _).bind fun ⟨_, _⟩ =>
            (ignores_size_octets 3 _ _).bind fun ⟨_, _⟩ => .pure _

/-- The memory that `credssp_recv` reads from. -/
def memory (junk : Junk) (bytes : List UInt8) : List UInt8 :=
  bytes.take 2048 ++ (replicate (2048 - bytes.length) 0 ++ junk.heap)

theorem recv_stream_data (junk : Junk) (bytes : Bytes) :
    (recv_stream junk bytes).data = memory junk bytes := by
  have hzeros : (stream_new 2048).data = replicate 2048 0 := rfl
  unfold recv_stream stream_poke memory patch
  rw [hzeros]
  simp only [take_zero, nil_append, drop_replicate, length_take, append_assoc]
  congr 3
  omega

theorem credssp_recv.spec (ho : o.Small) (hm : Short m) {junk : Junk} (hrest : Ended m rest)
    (hmem : memory junk bytes = wire o m ++ rest) :
    credssp_recv junk true true bytes = some m := by
  have hstream : recv_stream junk bytes = resize (stream_of (wire o m ++ rest)) 2048 := by
    rw [← hmem, ← recv_stream_data]
    rfl
  have hread := ignores_size_ts_request junk true true (stream_of (wire o m ++ rest)) 2048
  rw [read_ts_request.spec ho hm junk hrest (rest_stream_of _)] at hread
  unfold credssp_recv StateT.run
  rw [hstream, hread]

/-! ## The size of a message -/

/-- No string has a length at which bytes of it are lost. -/
structure KeepsLengths (m : TSRequest) : Prop where
  negoToken : ∀ bs, m.negoToken = some bs → ¬ (119 ≤ bs.length ∧ bs.length ≤ 127)
  pubKeyAuth : ∀ bs, m.pubKeyAuth = some bs → ¬ (125 ≤ bs.length ∧ bs.length ≤ 127)

theorem take_kept_iff {lo hi : Nat}
    (h : n = if lo ≤ bs.length ∧ bs.length ≤ hi then bs.length - 2 else bs.length) (hlo : 0 < lo) :
    bs.take n = bs ↔ ¬ (lo ≤ bs.length ∧ bs.length ≤ hi) := by
  rw [take_eq_self_iff]
  split at h
  · constructor
    · omega
    · intro hne
      contradiction
  · constructor
    · intro _
      assumption
    · omega

theorem kept_eq_iff (m : TSRequest) : kept m = m ↔ KeepsLengths m := by
  obtain ⟨nego, auth, pub⟩ := m
  have hnego : nego.map (fun bs => bs.take (negoKept bs.length)) = nego ↔
      ∀ bs, nego = some bs → ¬ (119 ≤ bs.length ∧ bs.length ≤ 127) := by
    cases nego with
    | none => simp
    | some bs => simp [take_kept_iff (negoKept_eq bs.length) (by decide)]
  have hpub : pub.map (fun bs => bs.take (pubKept bs.length)) = pub ↔
      ∀ bs, pub = some bs → ¬ (125 ≤ bs.length ∧ bs.length ≤ 127) := by
    cases pub with
    | none => simp
    | some bs => simp [take_kept_iff (pubKept_eq bs.length) (by decide)]
  constructor
  · intro h
    injection h with hn _ hp
    exact ⟨hnego.mp hn, hpub.mp hp⟩
  · rintro ⟨hn, hp⟩
    rw [TSRequest.mk.injEq]
    exact ⟨hnego.mpr hn, rfl, hpub.mpr hp⟩

theorem skip_content_length (n : Nat) :
    _ber_skip_length (ber_get_content_length (n + (_ber_skip_length n + 1))) =
      _ber_skip_length n := by
  by_cases h : n ≤ 127
  · by_cases hedge : n = 127
    · subst hedge
      rfl
    · simp (disch := omega) only [skip_length_short, content_length_short]
  · simp (disch := omega) only [skip_length_long, content_length_long]

theorem length_fieldBytes (bs : Bytes) :
    (fieldBytes tag (ber_get_content_length (skip_field bs.length)) bs).length =
      skip_field bs.length := by
  unfold fieldBytes skip_field
  simp only [length_append, length_header, ber_skip_contextual_tag]
  rw [skip_content_length]
  unfold ber_skip_octet_string
  omega

theorem length_negoBytes {authInfo pubKeyAuth : Option Bytes}
    (hm : KeepsLengths ⟨some bs, authInfo, pubKeyAuth⟩) :
    (negoBytes (outer ⟨some bs, authInfo, pubKeyAuth⟩) bs).length =
      credssp_skip_nego_tokens bs.length := by
  have hkeeps := hm.negoToken bs rfl
  unfold negoBytes fieldBytes outer TSRequest.nego_tokens_length
  simp only [length_append, length_header]
  generalize bs.length = n at hkeeps
  unfold credssp_skip_nego_tokens credssp_skip_nego_token ber_skip_octet_string
    ber_skip_sequence_tag behind ber_skip_contextual_tag
  by_cases hn : n ≤ 127
  · simp (disch := omega) only [skip_length_short, content_length_short]
    omega
  · simp (disch := omega) only [skip_length_long, content_length_long]
    omega

theorem length_wire (hm : KeepsLengths m) : (wire (outer m) m).length = m.ts_request_length := by
  have hnego : (optional (negoBytes (outer m)) m.negoToken).length = m.nego_tokens_length := by
    obtain ⟨_ | bs, _, _⟩ := m
    · rfl
    · exact length_negoBytes hm
  have hauth : (optional (fieldBytes 2 (outer m).auth) m.authInfo).length =
      m.auth_info_length := by
    obtain ⟨_, _ | bs, _⟩ := m
    · rfl
    · exact length_fieldBytes 2 bs
  have hpub : (optional (fieldBytes 3 (outer m).pub) m.pubKeyAuth).length =
      m.pub_key_auth_length := by
    obtain ⟨_, _, _ | bs⟩ := m
    · rfl
    · exact length_fieldBytes 3 bs
  unfold wire
  simp only [length_append, length_header, hnego, hauth, hpub]
  unfold outer TSRequest.ts_request_length credssp_skip_ts_request ber_skip_sequence_tag
    ber_skip_contextual_tag
  simp only [Nat.add_comm 1 (_ber_skip_length _), skip_content_length]
  have hversion : versionBytes.length = 5 := rfl
  have hfive : ber_skip_integer 2 = 3 ∧ _ber_skip_length 3 = 1 := ⟨rfl, rfl⟩
  omega

/-- The length of all the strings of a message. -/
def total (m : TSRequest) : Nat :=
  (m.negoToken.getD []).length + (m.authInfo.getD []).length + (m.pubKeyAuth.getD []).length

theorem skip_length_le (n : Nat) : _ber_skip_length n ≤ 3 := by
  unfold _ber_skip_length
  split <;> omega

theorem add_contextual_tag_le (h : a ≤ b) : a + ber_skip_contextual_tag a ≤ b + 4 := by
  have hskip := skip_length_le a
  unfold ber_skip_contextual_tag
  omega

theorem add_sequence_tag_le (h : a ≤ b) : a + ber_skip_sequence_tag a ≤ b + 4 := by
  have hskip := skip_length_le a
  unfold ber_skip_sequence_tag
  omega

theorem skip_octet_string_le (n : Nat) : ber_skip_octet_string n ≤ n + 4 := by
  have hskip := skip_length_le n
  unfold ber_skip_octet_string
  omega

theorem skip_field_le (n : Nat) : skip_field n ≤ n + 4 + 4 :=
  add_contextual_tag_le (skip_octet_string_le n)

theorem skip_nego_tokens_le (n : Nat) : credssp_skip_nego_tokens n ≤ n + 4 + 4 + 4 + 4 + 4 :=
  add_contextual_tag_le (add_sequence_tag_le (add_sequence_tag_le (skip_field_le n)))

theorem skip_ts_request_le (h : a ≤ b) : credssp_skip_ts_request a ≤ b + 3 + 2 + 4 :=
  add_sequence_tag_le (Nat.add_le_add_right (Nat.add_le_add_right h 3) 2)

theorem nego_tokens_length_le (m : TSRequest) :
    m.nego_tokens_length ≤ (m.negoToken.getD []).length + 20 := by
  obtain ⟨_ | bs, _, _⟩ := m
  · exact Nat.zero_le _
  · exact skip_nego_tokens_le bs.length

theorem auth_info_length_le (m : TSRequest) :
    m.auth_info_length ≤ (m.authInfo.getD []).length + 8 := by
  obtain ⟨_, _ | bs, _⟩ := m
  · exact Nat.zero_le _
  · exact skip_field_le bs.length

theorem pub_key_auth_length_le (m : TSRequest) :
    m.pub_key_auth_length ≤ (m.pubKeyAuth.getD []).length + 8 := by
  obtain ⟨_, _, _ | bs⟩ := m
  · exact Nat.zero_le _
  · exact skip_field_le bs.length

theorem content_length_le (n : Nat) : ber_get_content_length n ≤ n := by
  unfold ber_get_content_length
  split <;> omega

theorem behind_le (n : Nat) : behind n ≤ n := Nat.sub_le _ _

theorem outer_small (h : total m < 2048) : (outer m).Small := by
  have hnego := nego_tokens_length_le m
  have hauth := auth_info_length_le m
  have hpub := pub_key_auth_length_le m
  have hrequest : m.ts_request_length ≤ total m + 36 + 3 + 2 + 4 := by
    apply skip_ts_request_le
    unfold total
    omega
  have hcontent := content_length_le m.ts_request_length
  have hn1 := content_length_le m.nego_tokens_length
  have hn2 := behind_le (ber_get_content_length m.nego_tokens_length)
  have hn3 := behind_le (behind (ber_get_content_length m.nego_tokens_length))
  have hn4 := behind_le (behind (behind (ber_get_content_length m.nego_tokens_length)))
  have ha := content_length_le m.auth_info_length
  have hp := content_length_le m.pub_key_auth_length
  unfold total at *
  constructor <;> simp only [outer] <;> omega

theorem short_of_total (h : total m < 2048) : Short m := by
  unfold total at h
  constructor
  · intro bs hbs
    rw [hbs, Option.getD_some] at h
    omega
  · intro bs hbs
    rw [hbs, Option.getD_some] at h
    omega
  · intro bs hbs
    rw [hbs, Option.getD_some] at h
    omega

theorem short_kept (h : Short m) : Short (kept m) := by
  constructor
  · intro bs hbs
    obtain ⟨whole, hwhole, rfl⟩ := Option.map_eq_some_iff.mp hbs
    have hlt := h.negoToken whole hwhole
    rw [length_take]
    omega
  · exact h.authInfo
  · intro bs hbs
    obtain ⟨whole, hwhole, rfl⟩ := Option.map_eq_some_iff.mp hbs
    have hlt := h.pubKeyAuth whole hwhole
    rw [length_take]
    omega

/-! ## Messages that do not fit -/

/-- The message fits into the buffer of the receiver. A byte that is no tag must follow,
unless the last field is there. -/
def Fits (m : TSRequest) : Prop :=
  m.ts_request_length < 2048 ∨ (m.ts_request_length = 2048 ∧ m.pubKeyAuth ≠ none)

/-- Two strings of bytes that differ from the last byte of the first one on. -/
def Differs (a b : List UInt8) : Prop := ∃ front x y, a = front ++ [x] ∧ b = front ++ y

theorem Differs.append {a b : Bytes} (h : Differs a b) (c : Bytes) :
    Differs (c ++ a) (c ++ b) := by
  obtain ⟨front, x, y, rfl, rfl⟩ := h
  exact ⟨c ++ front, x, y, (append_assoc ..).symm, (append_assoc ..).symm⟩

theorem Differs.take {a b : Bytes} (h : Differs a b) (hn : n < a.length) :
    a.take n = b.take n := by
  obtain ⟨front, x, y, rfl, rfl⟩ := h
  rw [length_append, length_singleton] at hn
  rw [take_append_of_le_length (by omega), take_append_of_le_length (by omega)]

theorem differs_field (length : Nat) (h : bs.length < 65536) :
    ∃ bs', bs' ≠ bs ∧ bs'.length < 65536 ∧
      Differs (fieldBytes tag length bs) (fieldBytes tag length bs') := by
  rcases eq_nil_or_concat bs with rfl | ⟨front, x, rfl⟩
  · refine ⟨[0], by simp, by simp, Differs.append ?_ _⟩
    exact ⟨[octetStringTag], 0, [1, 0], rfl, rfl⟩
  · rw [concat_eq_append] at h ⊢
    have hlength : (front ++ [x + 1]).length = (front ++ [x]).length := by simp
    refine ⟨front ++ [x + 1], by simp, by rw [hlength]; exact h, Differs.append ?_ _⟩
    rw [hlength]
    exact Differs.append ⟨front, x, [x + 1], rfl, rfl⟩ _

theorem differs_wire (o : Outer) (h : Short m) (hlong : 20 < (wire o m).length) :
    ∃ m', m' ≠ m ∧ Short m' ∧ Differs (wire o m) (wire o m') := by
  obtain ⟨nego, auth, pub⟩ := m
  rcases pub with - | pub
  · rcases auth with - | auth
    · rcases nego with - | nego
      · have hheader := skip_length_le o.request
        simp [wire, optional, versionBytes, ber_skip_contextual_tag, skip_length_short] at hlong
        omega
      · obtain ⟨bs, hne, hbs, hdiff⟩ := differs_field 0 o.token (h.negoToken nego rfl)
        refine ⟨⟨some bs, none, none⟩, by simpa using hne, ⟨?_, by simp, by simp⟩, ?_⟩
        · simpa using hbs
        · simp only [wire, optional, negoBytes, append_nil]
          exact (((hdiff.append _).append _).append _ |>.append _).append _
    · obtain ⟨bs, hne, hbs, hdiff⟩ := differs_field 2 o.auth (h.authInfo auth rfl)
      refine ⟨⟨nego, some bs, none⟩, by simpa using hne, ⟨h.negoToken, ?_, by simp⟩, ?_⟩
      · simpa using hbs
      · simp only [wire, optional, append_nil]
        exact ((hdiff.append _).append _).append _
  · obtain ⟨bs, hne, hbs, hdiff⟩ := differs_field 3 o.pub (h.pubKeyAuth pub rfl)
    refine ⟨⟨nego, auth, some bs⟩, by simpa using hne, ⟨h.negoToken, h.authInfo, ?_⟩, ?_⟩
    · simpa using hbs
    · simp only [wire, optional]
      exact (((hdiff.append _).append _).append _).append _

/-! ## The round trip -/

/-- The memory of a receiver with given bytes behind the buffer. -/
def heaped (heap : List UInt8) : Junk where
  length := 0
  integer_length := 0
  version := 0
  heap := heap

theorem memory_of_le (junk : Junk) (h : bytes.length ≤ 2048) :
    memory junk bytes = bytes ++ (replicate (2048 - bytes.length) 0 ++ junk.heap) := by
  unfold memory
  rw [take_of_length_le h]

theorem memory_of_ge {junk : Junk} (h : 2048 ≤ bytes.length) :
    memory junk bytes = bytes.take 2048 ++ junk.heap := by
  unfold memory
  rw [Nat.sub_eq_zero_of_le h, replicate_zero, nil_append]

theorem memory_completed (bytes : Bytes) :
    ∃ junk rest, memory junk bytes = bytes ++ 0 :: rest := by
  refine ⟨heaped (bytes.drop 2048 ++ [0]), ?_⟩
  by_cases h : bytes.length < 2048
  · obtain ⟨n, hn⟩ := Nat.exists_eq_add_of_lt h
    refine ⟨replicate n 0 ++ (bytes.drop 2048 ++ [0]), ?_⟩
    rw [memory_of_le _ (Nat.le_of_lt h), show 2048 - bytes.length = n + 1 by omega, replicate_succ]
    rfl
  · refine ⟨[], ?_⟩
    rw [memory_of_ge (by omega)]
    show bytes.take 2048 ++ (bytes.drop 2048 ++ [0]) = _
    rw [← append_assoc, take_append_drop]

theorem keeps_lengths_of_recovered (h : total m < 2048)
    (hrec : ∀ junk, credssp_recv junk true true (credssp_send m) = some m) : KeepsLengths m := by
  obtain ⟨junk, rest, hmem⟩ := memory_completed (credssp_send m)
  rw [credssp_send.spec] at hmem
  have hread := credssp_recv.spec (outer_small h) (short_kept (short_of_total h))
    (fun _ => ⟨rest, rfl⟩) hmem
  rw [← credssp_send.spec, hrec junk, Option.some.injEq] at hread
  exact (kept_eq_iff m).mp hread.symm

theorem fits_of_recovered (h : total m < 2048) (hkeeps : KeepsLengths m)
    (hrec : ∀ junk, credssp_recv junk true true (credssp_send m) = some m) : Fits m := by
  have hsend : credssp_send m = wire (outer m) m := by
    rw [credssp_send.spec, (kept_eq_iff m).mpr hkeeps]
  have hlength := length_wire hkeeps
  -- another message with the same bytes in the buffer
  have hother : ∀ m', m' ≠ m → Short m' → 2048 ≤ (credssp_send m).length →
      (credssp_send m).take 2048 = (wire (outer m) m').take 2048 → False := by
    intro m' hne hshort hlong htake
    have hmem : memory (heaped ((wire (outer m) m').drop 2048 ++ [0])) (credssp_send m) =
        wire (outer m) m' ++ [0] := by
      rw [memory_of_ge hlong, htake]
      show _ ++ (_ ++ [0]) = _
      rw [← append_assoc, take_append_drop]
    have hread := credssp_recv.spec (outer_small h) hshort (fun _ => ⟨[], rfl⟩) hmem
    rw [hrec, Option.some.injEq] at hread
    exact hne hread.symm
  rw [hsend] at hother
  by_contra hfits
  unfold Fits at hfits
  by_cases hlong : 2048 < m.ts_request_length
  · obtain ⟨m', hne, hshort, hdiff⟩ := differs_wire (outer m) (short_of_total h) (by omega)
    exact hother m' hne hshort (by omega) (hdiff.take (by omega))
  · have hpub : m.pubKeyAuth = none := by
      by_contra hpub
      exact hfits (.inr ⟨by omega, hpub⟩)
    have hshort := short_of_total h
    apply hother { m with pubKeyAuth := some [] }
    · intro heq
      rw [← heq] at hpub
      cases hpub
    · exact ⟨hshort.negoToken, hshort.authInfo, by simp⟩
    · omega
    · have hwire : wire (outer m) { m with pubKeyAuth := some [] } =
          wire (outer m) m ++ fieldBytes 3 (outer m).pub [] := by
        simp [wire, hpub, optional]
      rw [hwire, take_append_of_le_length (by omega)]

theorem recovered_of_fits (h : total m < 2048) (hkeeps : KeepsLengths m) (hfits : Fits m)
    (junk : Junk) :
    credssp_recv junk true true (credssp_send m) = some m := by
  have hlength := length_wire hkeeps
  rw [credssp_send.spec, (kept_eq_iff m).mpr hkeeps]
  rcases hfits with hlt | ⟨heq, hpub⟩
  · obtain ⟨n, hn⟩ := Nat.exists_eq_add_of_lt hlt
    have hmem := memory_of_le junk (show (wire (outer m) m).length ≤ 2048 by omega)
    refine credssp_recv.spec (outer_small h) (short_of_total h) (fun _ => ?_) hmem
    rw [show 2048 - (wire (outer m) m).length = n + 1 by omega, replicate_succ]
    exact ⟨_, rfl⟩
  · have hmem := memory_of_le junk (show (wire (outer m) m).length ≤ 2048 by omega)
    exact credssp_recv.spec (outer_small h) (short_of_total h) (absurd · hpub) hmem

theorem recovered_iff (h : total m < 2048) :
    (∀ junk, credssp_recv junk true true (credssp_send m) = some m) ↔ KeepsLengths m ∧ Fits m := by
  constructor
  · intro hrec
    have hkeeps := keeps_lengths_of_recovered h hrec
    exact ⟨hkeeps, fits_of_recovered h hkeeps hrec⟩
  · rintro ⟨hkeeps, hfits⟩
    exact recovered_of_fits h hkeeps hfits

end neutrinordp.credssp
