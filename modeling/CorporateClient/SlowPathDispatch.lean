-- The laws of the slow path. Every share PDU of a packet is handled once and in order,
-- unless a data PDU stands where the reader of an update stops: `update_recv` handles that
-- PDU too, and the loop then goes on behind the update.
import CorporateClient.PacketWire
import CorporateClient.SessionKeys
import CorporateClient.SlowPath

namespace neutrinordp.slowpath

open List bytes stream security packet update

/-! ## Share PDUs as bytes -/

def pduType (p : List UInt8) : Nat := ofLe16 (p.getD 2 0) (p.getD 3 0) &&& 0x0F

def pduSource (p : List UInt8) : Nat :=
  if p.length > 4 then ofLe16 (p.getD 4 0) (p.getD 5 0) else 0

/-- A PDU of 4 bytes has no source. -/
def headerLength (p : List UInt8) : Nat := if p.length > 4 then 6 else 4

def dataType (p : List UInt8) : UInt8 := p.getD 14 0

def compressedType (p : List UInt8) : UInt8 := p.getD 15 0

def IsData (p : List UInt8) : Prop := pduType p = PDU_TYPE_DATA

instance (p : List UInt8) : Decidable (IsData p) := inferInstanceAs (Decidable (_ = _))

def IsUpdate (p : List UInt8) : Prop := IsData p ∧ dataType p = DATA_PDU_TYPE_UPDATE

instance (p : List UInt8) : Decidable (IsUpdate p) := inferInstanceAs (Decidable (_ ∧ _))

/-- A share PDU whose length field is its size. A data PDU has both headers and is not
compressed. -/
structure SharePdu (p : List UInt8) : Prop where
  size : ofLe16 (p.getD 0 0) (p.getD 1 0) = p.length
  header : p.length = 4 ∨ 6 ≤ p.length
  data : IsData p → 18 ≤ p.length ∧ compressedType p &&& PACKET_COMPRESSED = 0

/-- The handler of a PDU. -/
def handlerOf (p : List UInt8) : Handler :=
  if IsData p then .data (dataType p)
  else if pduType p = PDU_TYPE_DEACTIVATE_ALL then .deactivate_all
  else if pduType p = PDU_TYPE_SERVER_REDIRECTION then .redirection
  else .incorrect (pduType p)

/-- The handler of a PDU that starts at `offset` is entered behind the headers. -/
def eventOf (offset : Nat) (p : List UInt8) : Event :=
  { handler := handlerOf p, pos := offset + if IsData p then 18 else headerLength p }

/-- The handlers of all PDUs, once each and in order. The lengths give the offsets. -/
def events : Nat → List (List UInt8) → List Event
  | _, [] => []
  | offset, p :: ps => eventOf offset p :: events (offset + p.length) ps

@[simp] theorem length_events (offset : Nat) (pdus : List Bytes) :
    (events offset pdus).length = pdus.length := by
  induction pdus generalizing offset with
  | nil => rfl
  | cons p ps ih => simp [events, ih]

theorem SharePdu.headerLength_le {p : Bytes} (h : SharePdu p) : headerLength p ≤ p.length := by
  unfold headerLength
  rcases h.header with h4 | h6
  · simp [h4]
  · split <;> omega

theorem SharePdu.headerLength_data {p : Bytes} (h : SharePdu p) (hd : IsData p) :
    headerLength p = 6 := by
  have hlen := (h.data hd).1
  unfold headerLength
  rw [if_pos (by omega)]

/-! ## The headers, read -/

theorem rdp_read_share_control_header.spec {s : STREAM} {p rest : Bytes} (hp : SharePdu p)
    (hs : Rest s (p ++ rest)) :
    rdp_read_share_control_header s =
      ((p.length, some (pduType p, pduSource p)), stream_seek s (headerLength p)) := by
  have hle := hp.headerLength_le
  have hfour : 4 ≤ headerLength p := by
    unfold headerLength
    split <;> omega
  have hlength : ofLe16 (byte_at s s.pos) (byte_at s (s.pos + 1)) = p.length := by
    rw [← hp.size, ← hs.byte_at (i := 0) (by omega), ← hs.byte_at (i := 1) (by omega)]
    rfl
  have htype : ofLe16 (byte_at s (s.pos + 2)) (byte_at s (s.pos + 2 + 1)) &&& 0x0F = pduType p := by
    rw [pduType, ← hs.byte_at (i := 2) (by omega), ← hs.byte_at (i := 3) (by omega)]
  have hleft := hs.get_left
  simp only [stream_get_left, length_append] at hleft
  have hroom : ¬ (p.length : Int) - 2 > stream_get_left (stream_seek s 2) := by
    simp only [stream_get_left, stream_seek_size, stream_seek_pos]
    omega
  simp only [rdp_read_share_control_header, stream_read_uint16, hlength, hroom, if_false,
    stream_seek_pos, byte_at_seek, htype]
  by_cases hlong : p.length > 4
  · have hheader : headerLength p = 6 := if_pos hlong
    have hsource : ofLe16 (byte_at s (s.pos + 2 + 2)) (byte_at s (s.pos + 2 + 2 + 1)) =
        pduSource p := by
      rw [pduSource, if_pos hlong, ← hs.byte_at (i := 4) (by omega),
        ← hs.byte_at (i := 5) (by omega)]
    rw [if_pos hlong, hsource, hheader]
    rfl
  · rw [if_neg hlong, pduSource, headerLength, if_neg hlong, if_neg hlong]
    rfl

theorem rdp_read_share_data_header.spec {s : STREAM} {p rest : Bytes} (hp : SharePdu p)
    (hd : IsData p) (hs : Rest s (p ++ rest)) : ∃ header,
      rdp_read_share_data_header (stream_seek s 6) = some (header, stream_seek s 18) ∧
      header.type = dataType p ∧ header.compressed_type = compressedType p := by
  have hlen := (hp.data hd).1
  have hleft := hs.get_left
  simp only [stream_get_left, length_append] at hleft
  have hroom : ¬ stream_get_left (stream_seek s 6) < 12 := by
    simp only [stream_get_left, stream_seek_size, stream_seek_pos]
    omega
  have htype : byte_at s (s.pos + 14) = dataType p := hs.byte_at (by omega)
  have hcomp : byte_at s (s.pos + 15) = compressedType p := hs.byte_at (by omega)
  simp only [rdp_read_share_data_header, hroom, if_false, stream_read_uint32, stream_read_uint16,
    stream_read_uint8, stream_seek_pos, byte_at_seek, Nat.add_assoc, Nat.reduceAdd, htype, hcomp]
  exact ⟨_, rfl, rfl, rfl⟩

theorem recv_data_pdu.spec {κ : Type} (h : Handlers κ)
    (recv : Client κ → STREAM → Option (Client κ)) (c : Client κ) {s : STREAM}
    {p rest : Bytes} (hp : SharePdu p) (hd : IsData p) (hs : Rest s (p ++ rest)) :
    recv_data_pdu h recv c (stream_seek s 6) =
      enter_data h recv (dataType p) c (stream_seek s 18) := by
  obtain ⟨header, hread, htype, hcomp⟩ := rdp_read_share_data_header.spec hp hd hs
  rw [recv_data_pdu, hread]
  dsimp only
  rw [htype, hcomp, if_neg (not_not_intro (hp.data hd).2)]

section

variable {κ : Type} (h : Handlers κ)

/-! ## The log grows -/

@[simp] theorem with_context_log (c : Client κ) (context : κ) :
    (c.with_context context).log = c.log := rfl

@[simp] theorem recv_data_type_log (type : UInt8) (c : Client κ) (s : STREAM) :
    (recv_data_type h type c s).log = c.log := by
  unfold recv_data_type
  simp [apply_ite Client.log, Client.run, rdp_recv_set_error_info_data_pdu]

variable {recv : Client κ → STREAM → Option (Bool × Client κ)} {c c' : Client κ} {s : STREAM}
  {ok : Bool} {p rest q : Bytes} {ps : List Bytes}

theorem enter_data_log {recv : Client κ → STREAM → Option (Client κ)}
    (hrecv : ∀ c s c', recv c s = some c' → c.log.length ≤ c'.log.length) {type : UInt8}
    (hc : enter_data h recv type c s = some (ok, c')) : c.log.length + 1 ≤ c'.log.length := by
  unfold enter_data Client.enter at hc
  split at hc
  · obtain ⟨c1, hc1, heq⟩ := Option.map_eq_some_iff.mp hc
    have hgrow := hrecv _ _ _ hc1
    cases heq
    simpa using hgrow
  · cases hc
    simp

/-- The bytes are the data header of a compressed PDU that cannot be decompressed. -/
def Refused (context : κ) (s : STREAM) : Prop :=
  ∃ header s', rdp_read_share_data_header s = some (header, s') ∧
    header.compressed_type &&& PACKET_COMPRESSED ≠ 0 ∧
    (h.decompress_rdp s' ((header.compressed_len : Int) - 18) header.compressed_type
      context).1 = none

theorem recv_data_pdu_refused (recv : Client κ → STREAM → Option (Client κ))
    (href : Refused h c.update.context s) :
    ∃ c', recv_data_pdu h recv c s = some (false, c') ∧ c'.log = c.log := by
  obtain ⟨header, s', hread, hcomp, hfails⟩ := href
  unfold recv_data_pdu
  rw [hread]
  dsimp only
  rw [if_pos hcomp]
  generalize h.decompress_rdp _ _ _ _ = result at hfails
  obtain ⟨stream, context⟩ := result
  obtain rfl : stream = none := hfails
  exact ⟨_, rfl, rfl⟩

theorem recv_data_pdu_enters {recv : Client κ → STREAM → Option (Client κ)}
    (hrecv : ∀ c s c', recv c s = some c' → c.log.length ≤ c'.log.length)
    (hother : ¬ Refused h c.update.context s) (hc : recv_data_pdu h recv c s = some (ok, c')) :
    c.log.length + 1 ≤ c'.log.length := by
  unfold recv_data_pdu at hc
  split at hc
  · cases hc
  · rename_i header s' hread
    split at hc
    · rename_i hcomp
      split at hc
      · rename_i hfails
        exact absurd ⟨header, s', hread, hcomp, congrArg Prod.fst hfails⟩ hother
      · have hgrow := enter_data_log h hrecv hc
        exact hgrow
    · exact enter_data_log h hrecv hc

theorem recv_data_pdu_log {recv : Client κ → STREAM → Option (Client κ)}
    (hrecv : ∀ c s c', recv c s = some c' → c.log.length ≤ c'.log.length)
    (hc : recv_data_pdu h recv c s = some (ok, c')) :
    c.log.length ≤ c'.log.length := by
  by_cases href : Refused h c.update.context s
  · obtain ⟨c1, hc1, hlog⟩ := recv_data_pdu_refused h recv href
    rw [hc1] at hc
    cases hc
    exact Nat.le_of_eq (congrArg length hlog.symm)
  · exact Nat.le_of_succ_le (recv_data_pdu_enters h hrecv href hc)

theorem update_recv_log
    (hrecv : ∀ c s ok c', recv c s = some (ok, c') → c.log.length ≤ c'.log.length)
    (hc : update_recv h recv c s = some c') :
    c.log.length ≤ c'.log.length := by
  obtain ⟨⟨c1, s1⟩, halone, hbehind⟩ := Option.bind_eq_some_iff.mp hc
  obtain ⟨⟨u, s2⟩, -, heq⟩ := Option.map_eq_some_iff.mp halone
  cases heq
  simp only [update_behind] at hbehind
  split at hbehind
  · split at hbehind
    · cases hbehind
    · split at hbehind
      · cases hbehind
        exact Nat.le_refl _
      · obtain ⟨⟨ok, c2⟩, hc2, heq⟩ := Option.map_eq_some_iff.mp hbehind
        cases heq
        have hgrow := hrecv _ _ _ _ hc2
        exact hgrow
  · cases hbehind
    exact Nat.le_refl _

variable (fuel : Nat)

theorem rdp_recv_data_pdu_log (c : Client κ) (s : STREAM) (ok : Bool)
    (c' : Client κ) (hc : rdp_recv_data_pdu h fuel c s = some (ok, c')) :
    c.log.length ≤ c'.log.length := by
  induction fuel generalizing c s ok c' with
  | zero => cases hc
  | succ fuel ih =>
    refine recv_data_pdu_log h ?_ hc
    intro c1 s1 c2 hc2
    exact update_recv_log h ih hc2

/-! ## One PDU -/

/-- A turn of the loop: the switch over the type, behind the share control header. -/
def dispatch (recv : Client κ → STREAM → Option (Bool × Client κ)) (c : Client κ) (s : STREAM)
    (p : List UInt8) : Option (Bool × Client κ) :=
  recv_share_pdu h recv (pduType p) { c with pdu_source := pduSource p }
    (stream_seek s (headerLength p))

theorem dispatch_data (c : Client κ) (s : STREAM) (hp : SharePdu p) (hd : IsData p) :
    dispatch h recv c s p = recv { c with pdu_source := pduSource p } (stream_seek s 6) := by
  unfold IsData at hd
  unfold dispatch recv_share_pdu
  rw [if_pos hd, hp.headerLength_data hd]

theorem dispatch_other_log (c : Client κ) (s : STREAM) (hd : ¬ IsData p) :
    ∃ c', dispatch h recv c s p = some (true, c') ∧ c'.log = c.log ++ [eventOf s.pos p] := by
  unfold IsData at hd
  simp only [dispatch, recv_share_pdu, eventOf, handlerOf, IsData, hd, if_false]
  split_ifs
  · exact ⟨_, rfl, rfl⟩
  · exact ⟨_, rfl, rfl⟩
  · exact ⟨_, rfl, rfl⟩

theorem dispatch_grows (hp : SharePdu p) (hs : Rest s (p ++ rest))
    (hc : dispatch h (rdp_recv_data_pdu h fuel) c s p = some (ok, c')) :
    c.log.length + 1 ≤ c'.log.length := by
  by_cases hd : IsData p
  · rw [dispatch_data h c s hp hd] at hc
    cases fuel with
    | zero => cases hc
    | succ fuel =>
      rw [rdp_recv_data_pdu, recv_data_pdu.spec h _ _ hp hd hs] at hc
      have hgrow := enter_data_log h
        (fun _ _ _ hc2 => update_recv_log h (rdp_recv_data_pdu_log h fuel) hc2) hc
      exact hgrow
  · obtain ⟨c1, hc1, hlog⟩ := dispatch_other_log h c s hd
    rw [hc1] at hc
    cases hc
    simp [hlog]

/-! ## What stands behind an update -/

/-- What stands at the position enters no handler: 12 bytes or less, a PDU that is no data PDU, or
one that is refused. -/
def Silent (context : κ) (s : STREAM) : Prop :=
  stream_get_left s ≤ RDP_SHARE_DATA_HEADER_LENGTH ∨
    ∃ header, (rdp_read_share_control_header s).1.2 = some header ∧
      (header.1 = PDU_TYPE_DATA → Refused h context (rdp_read_share_control_header s).2)

theorem update_behind_silent (hs : Silent h c.update.context s) :
    ∃ c', update_behind (rdp_recv_data_pdu h (fuel + 1)) c s = some c' ∧ c'.log = c.log := by
  unfold update_behind
  by_cases hleft : stream_get_left s > RDP_SHARE_DATA_HEADER_LENGTH
  · obtain hshort | ⟨⟨pduType, source⟩, hread, hdata⟩ := hs
    · exact absurd hleft (Int.not_lt.mpr hshort)
    rw [if_pos hleft]
    rcases hheader : rdp_read_share_control_header s with ⟨⟨length, header⟩, s'⟩
    rw [hheader] at hread hdata
    obtain rfl : header = some (pduType, source) := hread
    dsimp only
    by_cases htype : pduType ≠ PDU_TYPE_DATA
    · rw [if_pos htype]
      exact ⟨c, rfl, rfl⟩
    · rw [if_neg htype]
      obtain ⟨c', hc', hlog⟩ := recv_data_pdu_refused h (update_recv h (rdp_recv_data_pdu h fuel))
        (hdata (not_not.mp htype))
      exact ⟨c', by rw [rdp_recv_data_pdu, hc']; rfl, hlog⟩
  · rw [if_neg hleft]
    exact ⟨c, rfl, rfl⟩

theorem update_behind_enters (hs : ¬ Silent h c.update.context s)
    (hc : update_behind (rdp_recv_data_pdu h fuel) c s = some c') :
    c.log.length + 1 ≤ c'.log.length := by
  unfold update_behind at hc
  split at hc
  · rcases hheader : rdp_read_share_control_header s with ⟨⟨length, _ | header⟩, s'⟩
    · rw [hheader] at hc
      cases hc
    · rw [hheader] at hc
      dsimp only at hc
      split at hc
      · rename_i htype
        exact absurd (.inr ⟨header, by rw [hheader], fun h => absurd h htype⟩) hs
      · obtain ⟨⟨ok, c1⟩, hc1, rfl⟩ := Option.map_eq_some_iff.mp hc
        cases fuel with
        | zero => cases hc1
        | succ fuel =>
          refine recv_data_pdu_enters h (fun _ _ _ => update_recv_log h
            (rdp_recv_data_pdu_log h fuel)) (fun href => hs (.inr ⟨header, ?_, fun _ => ?_⟩)) hc1
          · rw [hheader]
          · rw [hheader]
            exact href
  · rename_i hleft
    exact absurd (.inl (Int.not_lt.mp hleft)) hs

/-- An update of a PDU is read, and what stands where its reader stops enters no handler. -/
def Quiet (c : Client κ) (s : STREAM) (p : List UInt8) : Prop :=
  IsUpdate p → ∃ update s', update_body h.toUpdateCallbacks c.update (stream_seek s 18) =
    some (update, s') ∧ Silent h update.context s'

theorem dispatch_quiet (hp : SharePdu p) (hs : Rest s (p ++ rest)) (hquiet : Quiet h c s p) :
    ∃ c', dispatch h (rdp_recv_data_pdu h (fuel + 2)) c s p = some (true, c') ∧
      c'.log = c.log ++ [eventOf s.pos p] := by
  by_cases hd : IsData p
  · have hevent : eventOf s.pos p = { handler := .data (dataType p), pos := s.pos + 18 } := by
      unfold eventOf handlerOf
      rw [if_pos hd, if_pos hd]
    rw [dispatch_data h c s hp hd, rdp_recv_data_pdu, recv_data_pdu.spec h _ _ hp hd hs, hevent]
    unfold enter_data
    by_cases hup : dataType p = DATA_PDU_TYPE_UPDATE
    · obtain ⟨update, s', hupdate, hsilent⟩ := hquiet ⟨hd, hup⟩
      obtain ⟨c', hc', hlog⟩ := update_behind_silent h fuel (c := { (({ c with
        pdu_source := pduSource p } : Client κ).enter (.data (dataType p)) (stream_seek s 18)) with
        update }) hsilent
      refine ⟨c', ?_, hlog⟩
      rw [if_pos hup, update_recv, update_alone, Client.enter, hupdate, Option.map_some,
        Option.bind_some]
      exact congrArg (Option.map (true, ·)) hc'
    · rw [if_neg hup]
      refine ⟨_, rfl, ?_⟩
      rw [recv_data_type_log]
      rfl
  · exact dispatch_other_log h c s hd

theorem dispatch_disturbed (hp : SharePdu p) (hs : Rest s (p ++ rest))
    (hloud : ¬ Quiet h c s p)
    (hc : dispatch h (rdp_recv_data_pdu h fuel) c s p = some (ok, c')) :
    c.log.length + 2 ≤ c'.log.length := by
  obtain ⟨⟨hd, hup⟩, hloud⟩ := Classical.not_imp.mp hloud
  rw [dispatch_data h c s hp hd] at hc
  cases fuel with
  | zero => cases hc
  | succ fuel =>
    rw [rdp_recv_data_pdu, recv_data_pdu.spec h _ _ hp hd hs, enter_data, if_pos hup] at hc
    obtain ⟨c1, hc1, heq⟩ := Option.map_eq_some_iff.mp hc
    cases heq
    obtain ⟨⟨c2, s'⟩, halone, hbehind⟩ := Option.bind_eq_some_iff.mp hc1
    obtain ⟨⟨update, s''⟩, hupdate, heq⟩ := Option.map_eq_some_iff.mp halone
    cases heq
    have hgrow :=
      update_behind_enters h fuel (fun hsilent => hloud ⟨_, _, hupdate, hsilent⟩) hbehind
    simp only [Client.enter, length_append, length_cons, length_nil] at hgrow
    omega

/-- The pair that goes wrong: an update with a data PDU right behind it. -/
def Clash (p q : List UInt8) : Prop := IsUpdate p ∧ IsData q

instance (p q : List UInt8) : Decidable (Clash p q) := inferInstanceAs (Decidable (_ ∧ _))

theorem quiet_iff_no_clash {update : rdpUpdate κ} (hs : Rest s (p ++ ps.flatten))
    (hps : ∀ q ∈ ps, SharePdu q) (hup : IsUpdate p)
    (hfills : update_body h.toUpdateCallbacks c.update (stream_seek s 18) =
      some (update, stream_seek s p.length)) :
    Quiet h c s p ↔ ∀ q ∈ ps.head?, ¬ Clash p q := by
  have hquiet : Quiet h c s p ↔ Silent h update.context (stream_seek s p.length) := by
    refine ⟨fun hquiet => ?_, fun hsilent _ => ⟨_, _, hfills, hsilent⟩⟩
    obtain ⟨update', s', hupdate, hsilent⟩ := hquiet hup
    cases hfills.symm.trans hupdate
    exact hsilent
  have hrest : Rest (stream_seek s p.length) ps.flatten := hs.seek rfl
  rw [hquiet]
  cases ps with
  | nil =>
    refine ⟨fun _ q hq => absurd hq (by simp), fun _ => .inl ?_⟩
    rw [hrest.get_left]
    decide
  | cons q qs =>
    have hq := hps q mem_cons_self
    have hheader := rdp_read_share_control_header.spec hq hrest
    rw [Silent, hheader]
    constructor
    · rintro hsilent r hr ⟨-, hd⟩
      obtain rfl : q = r := Option.some.inj hr
      obtain hshort | ⟨header, hread, href⟩ := hsilent
      · have hlen := (hq.data hd).1
        rw [hrest.get_left, flatten_cons, length_append, RDP_SHARE_DATA_HEADER_LENGTH] at hshort
        omega
      · obtain ⟨header', s', hdata, hcomp, -⟩ := href (Option.some.inj hread ▸ hd)
        obtain ⟨header, hread, -, hplain⟩ := rdp_read_share_data_header.spec hq hd hrest
        rw [hq.headerLength_data hd] at hdata
        cases hread.symm.trans hdata
        exact hcomp (hplain ▸ (hq.data hd).2)
    · intro hclash
      exact .inr ⟨_, rfl, fun hd => absurd ⟨hup, hd⟩ (hclash q rfl)⟩

/-! ## All PDUs of a packet -/

/-- What the loop over the PDUs works on. -/
structure LoopState (κ : Type) where
  held : Option (Nat × Nat)
  client : Client κ
  stream : STREAM

/-- A turn of `share_pdu_loop`, with any handler of the data PDUs. It ends the loop or leads to
the next turn. -/
def share_pdu_turn (recv : Client κ → STREAM → Option (Bool × Client κ)) (st : LoopState κ) :
    Option (Bool × Client κ) ⊕ LoopState κ :=
  if stream_get_left st.stream > 3 then
    let ((pduLength, header), s) := rdp_read_share_control_header st.stream
    match header.or st.held with
    | none => .inl none
    | some (pduType, pduSource) =>
      match recv_share_pdu h recv pduType { st.client with pdu_source := pduSource } s with
      | none => .inl none
      | some (false, c) => .inl (some (false, c))
      | some (true, c) =>
        .inr ⟨some (pduType, pduSource), c, stream_set_pos s (st.stream.pos + pduLength)⟩
  else .inl (some (true, st.client))

theorem share_pdu_loop_succ (st : LoopState κ) :
    share_pdu_loop h (fuel + 1) st.held st.client st.stream =
      match share_pdu_turn h (rdp_recv_data_pdu h fuel) st with
      | .inl result => result
      | .inr st => share_pdu_loop h fuel st.held st.client st.stream := by
  rw [share_pdu_loop, share_pdu_turn]
  split
  · rcases rdp_read_share_control_header st.stream with ⟨⟨pduLength, header⟩, s⟩
    dsimp only
    cases header.or st.held with
    | none => rfl
    | some held =>
      dsimp only
      rcases recv_share_pdu h (rdp_recv_data_pdu h fuel) held.1
        { st.client with pdu_source := held.2 } s with _ | ⟨_ | _, c⟩ <;> rfl
  · rfl

theorem share_pdu_loop.step (held : Option (Nat × Nat)) (c : Client κ)
    (hs : Rest s (p ++ rest)) (hp : SharePdu p) :
    share_pdu_loop h (fuel + 1) held c s =
      match dispatch h (rdp_recv_data_pdu h fuel) c s p with
      | none => none
      | some (false, c) => some (false, c)
      | some (true, c) =>
        share_pdu_loop h fuel (some (pduType p, pduSource p)) c (stream_seek s p.length) := by
  have hleft : stream_get_left s > 3 := by
    have hheader := hp.header
    rw [hs.get_left, length_append]
    omega
  have hturn : share_pdu_turn h (rdp_recv_data_pdu h fuel) ⟨held, c, s⟩ =
      match dispatch h (rdp_recv_data_pdu h fuel) c s p with
      | none => .inl none
      | some (false, c) => .inl (some (false, c))
      | some (true, c) => .inr ⟨some (pduType p, pduSource p), c, stream_seek s p.length⟩ := by
    rw [share_pdu_turn, if_pos hleft, rdp_read_share_control_header.spec hp hs]
    rfl
  rw [show share_pdu_loop h (fuel + 1) held c s = _ from share_pdu_loop_succ h fuel ⟨held, c, s⟩,
    hturn]
  rcases dispatch h (rdp_recv_data_pdu h fuel) c s p with _ | ⟨_ | _, c'⟩ <;> rfl

theorem share_pdu_loop_grows (held : Option (Nat × Nat)) (hs : Rest s ps.flatten)
    (hpdus : ∀ p ∈ ps, SharePdu p) (hc : share_pdu_loop h fuel held c s = some (true, c')) :
    c.log.length + ps.length ≤ c'.log.length := by
  induction ps generalizing fuel held c s with
  | nil =>
    cases fuel with
    | zero => cases hc
    | succ fuel =>
      rw [share_pdu_loop, if_neg (by rw [hs.get_left]; simp)] at hc
      cases hc
      exact Nat.le_refl _
  | cons p ps ih =>
    cases fuel with
    | zero => cases hc
    | succ fuel =>
      have hp := hpdus p mem_cons_self
      rw [share_pdu_loop.step h fuel held c hs hp] at hc
      split at hc
      · cases hc
      · cases hc
      · rename_i c1 hdispatch
        have hfirst := dispatch_grows h fuel hp hs hdispatch
        have hrest := ih fuel _ (hs.seek rfl) (forall_mem_cons.mp hpdus).2 hc
        rw [length_cons]
        omega

/-- Every PDU is quiet when the loop gets to it. -/
def Undisturbed : Nat → Client κ → STREAM → List (List UInt8) → Prop
  | fuel + 1, c, s, p :: ps => Quiet h c s p ∧
      ∀ c', dispatch h (rdp_recv_data_pdu h fuel) c s p = some (true, c') →
        Undisturbed fuel c' (stream_seek s p.length) ps
  | _, _, _, _ => True

/-- Every PDU was handled once and in order. -/
def HandledOnce (fuel : Nat) (held : Option (Nat × Nat)) (c : Client κ) (s : STREAM)
    (pdus : List (List UInt8)) : Prop :=
  ∃ c', share_pdu_loop h fuel held c s = some (true, c') ∧ c'.log = c.log ++ events s.pos pdus

theorem handledOnce_nil (held : Option (Nat × Nat)) (c : Client κ)
    (hs : Rest s []) : HandledOnce h (fuel + 1) held c s [] := by
  refine ⟨c, ?_, by simp [events]⟩
  rw [share_pdu_loop, if_neg (by rw [hs.get_left]; simp)]

theorem not_handledOnce_of_disturbed (held : Option (Nat × Nat)) (c : Client κ)
    (hs : Rest s (p :: ps).flatten) (hpdus : ∀ r ∈ p :: ps, SharePdu r)
    (hloud : ¬ Quiet h c s p) : ¬ HandledOnce h (fuel + 1) held c s (p :: ps) := by
  rintro ⟨c', hc, hlog⟩
  obtain ⟨hp, hps⟩ := forall_mem_cons.mp hpdus
  rw [share_pdu_loop.step h fuel held c hs hp] at hc
  split at hc
  · cases hc
  · cases hc
  · rename_i c1 hdispatch
    have hfirst := dispatch_disturbed h fuel hp hs hloud hdispatch
    have hrest := share_pdu_loop_grows h fuel _ (hs.seek rfl) hps hc
    have hlength := congrArg length hlog
    simp only [length_append, length_events, length_cons] at hlength
    omega

theorem handledOnce_iff (held : Option (Nat × Nat)) (hs : Rest s ps.flatten)
    (hpdus : ∀ p ∈ ps, SharePdu p) (hfuel : ps.flatten.length < fuel) :
    HandledOnce h fuel held c s ps ↔ Undisturbed h fuel c s ps := by
  induction ps generalizing fuel held c s with
  | nil =>
    cases fuel with
    | zero => cases hfuel
    | succ fuel => exact ⟨fun _ => trivial, fun _ => handledOnce_nil h fuel held c hs⟩
  | cons p ps ih =>
    obtain ⟨hp, hps⟩ := forall_mem_cons.mp hpdus
    have hheader := hp.header
    rw [flatten_cons, length_append] at hfuel
    obtain ⟨fuel, rfl⟩ : ∃ n, fuel = n + 3 := ⟨fuel - 3, by omega⟩
    by_cases hquiet : Quiet h c s p
    · obtain ⟨c1, hc1, hlog⟩ := dispatch_quiet h fuel hp hs hquiet
      have hstep : HandledOnce h (fuel + 3) held c s (p :: ps) ↔ HandledOnce h (fuel + 2)
          (some (pduType p, pduSource p)) c1 (stream_seek s p.length) ps := by
        unfold HandledOnce
        rw [share_pdu_loop.step h (fuel + 2) held c hs hp, hc1]
        simp [events, hlog]
      rw [hstep, ih (fuel + 2) _ (hs.seek rfl) hps (by omega)]
      refine ⟨fun hrest => ⟨hquiet, fun c' hc' => ?_⟩, fun hall => hall.2 c1 hc1⟩
      cases hc1.symm.trans hc'
      exact hrest
    · exact ⟨fun hc => absurd hc (not_handledOnce_of_disturbed h _ held c hs hpdus hquiet),
        fun hall => absurd hall.1 hquiet⟩

/-! ## Whole packets -/

variable {C : Crypto}

theorem open_plain_packet (rdp : rdpRdp C) (hrdp : rdp.disconnect = false) {mode : Bool}
    {user_id channel_id : Nat} {body : Bytes}
    (hs : Rest s (packetHeader mode user_id (15 + body.length) channel_id ++ body))
    (hlen : 15 + body.length ≤ 32767) (hch : channel_id < 65536) :
    open_tpkt_pdu false rdp s = some (.opened channel_id (stream_seek s 15) rdp) ∧
      Rest (stream_seek s 15) body := by
  have hread := rdp_read_header_packet rdp hs.pos hs.size hs.left rfl hlen hch
  refine ⟨?_, hs.seek (length_packetHeader _ _ _ _)⟩
  simp [open_tpkt_pdu, hread, hrdp]

/-- For every packet on the global channel that holds well-formed PDUs: each of them is
handled exactly once and in order, at the offset that the lengths before it give,
exactly when no handler is entered for what stands where the reader of an update stops. -/
theorem pdus_are_handled_once_iff_undisturbed (fuel : Nat) (encryption : Bool)
    (rdp rdp' : rdpRdp C) (c : Client κ) (s s' : STREAM) (pdus : List (List UInt8))
    (hopen : open_tpkt_pdu encryption rdp s = some (.opened MCS_GLOBAL_CHANNEL_ID s' rdp'))
    (hs : Rest s' pdus.flatten) (hpdus : ∀ p ∈ pdus, SharePdu p)
    (hfuel : pdus.flatten.length < fuel) :
    (∃ c', rdp_recv_tpkt_pdu h fuel encryption rdp c s = some (true, rdp', c') ∧
      c'.log = c.log ++ events s'.pos pdus) ↔ Undisturbed h fuel c s' pdus := by
  rw [← handledOnce_iff h fuel none hs hpdus hfuel]
  simp only [rdp_recv_tpkt_pdu, hopen, ne_eq, not_true, if_false, Option.map_eq_some_iff,
    HandledOnce]
  constructor
  · rintro ⟨c', ⟨⟨ok, c₁⟩, hloop, heq⟩, hlog⟩
    cases heq
    exact ⟨c₁, hloop, hlog⟩
  · rintro ⟨c', hloop, hlog⟩
    exact ⟨c', ⟨(true, c'), hloop, rfl⟩, hlog⟩

end

/-! ## Two packets -/

/-- Handlers that do nothing. -/
def idleHandlers : Handlers Unit where
  BeginPaint := id
  EndPaint := id
  Synchronize := id
  BitmapUpdate := fun _ => id
  Palette := fun _ => id
  PlaySound := fun _ => id
  PointerPosition := fun _ => id
  PointerSystem := fun _ => id
  PointerColor := fun _ => id
  PointerNew := fun _ => id
  PointerCached := fun _ => id
  update_recv_order := fun context s => some (context, s)
  rdp_recv_server_control_pdu := fun _ => id
  rdp_recv_synchronize_pdu := fun _ => id
  rdp_recv_save_session_info := fun _ => id
  rdp_recv_font_map_pdu := fun _ => id
  rdp_recv_enhanced_security_redirection_packet := fun _ => id
  freerdp_channel_process := fun _ _ => id
  decompress_rdp := fun _ _ _ context => (none, context)

def idleClient : Client Unit where
  update :=
    { context := (), bitmap_update := default, palette_update := default, play_sound := default,
      pointer := default }
  state := .ACTIVE
  share_id := 0
  pdu_source := 0
  errorInfo := 0
  log := []

/-- A Synchronize Update. -/
def updatePdu : List UInt8 :=
  [22, 0, 0x17, 0, 0xEA, 3, 1, 0, 0, 0, 0, 1, 4, 0, 0x02, 0, 0, 0, 3, 0, 0, 0]

/-- A data PDU with an error code. -/
def errorPdu : List UInt8 :=
  [22, 0, 0x17, 0, 0xEA, 3, 1, 0, 0, 0, 0, 1, 4, 0, 0x2F, 0, 0, 0, 5, 0, 0, 0]

/-- The short PDU that ends a session. -/
def deactivatePdu : List UInt8 := [4, 0, 0x16, 0]

/-- A packet from the server on the global channel. -/
def packetOf (pdus : List (List UInt8)) : STREAM :=
  stream_of (packetHeader true 1002 (15 + pdus.flatten.length) MCS_GLOBAL_CHANNEL_ID ++
    pdus.flatten)

theorem sharePdu_updatePdu : SharePdu updatePdu := ⟨by decide, by decide, fun _ => by decide⟩

theorem sharePdu_errorPdu : SharePdu errorPdu := ⟨by decide, by decide, fun _ => by decide⟩

theorem sharePdu_deactivatePdu : SharePdu deactivatePdu :=
  ⟨by decide, by decide, fun hd => absurd hd (by decide)⟩

/-- A connection without encryption. -/
def plainRdp : rdpRdp sampleCrypto := rdp_new false 0 () ()

theorem undisturbed_sample : Undisturbed idleHandlers 49 idleClient
    (stream_seek (packetOf [errorPdu, updatePdu, deactivatePdu]) 15)
    [errorPdu, updatePdu, deactivatePdu] := by
  have hs : Rest (stream_seek (stream_seek (packetOf [errorPdu, updatePdu, deactivatePdu]) 15)
      errorPdu.length) (updatePdu ++ [deactivatePdu].flatten) :=
    ((rest_stream_of _).seek (length_packetHeader _ _ _ _)).seek rfl
  refine ⟨fun hu => absurd hu (by decide), fun c hc => ?_⟩
  cases hc
  refine ⟨(quiet_iff_no_clash _ hs ?_ (by decide) rfl).mpr (by decide), fun c hc => ?_⟩
  · simp [sharePdu_deactivatePdu]
  cases hc
  exact ⟨fun hu => absurd hu (by decide), fun _ _ => trivial⟩

theorem three_pdus_are_handled_once :
    ∃ c', rdp_recv_tpkt_pdu idleHandlers 49 false plainRdp idleClient
        (packetOf [errorPdu, updatePdu, deactivatePdu]) = some (true, plainRdp, c') ∧
      c'.log = [⟨.data 0x2F, 33⟩, ⟨.data 0x02, 55⟩, ⟨.deactivate_all, 63⟩] := by
  have hpacket : Rest (packetOf [errorPdu, updatePdu, deactivatePdu]) _ := rest_stream_of _
  obtain ⟨hopen, hs⟩ := open_plain_packet plainRdp rfl hpacket (by decide) (by decide)
  have hpdus : ∀ p ∈ [errorPdu, updatePdu, deactivatePdu], SharePdu p := by
    simp [sharePdu_errorPdu, sharePdu_updatePdu, sharePdu_deactivatePdu]
  exact (pdus_are_handled_once_iff_undisturbed idleHandlers 49 false plainRdp plainRdp idleClient
    (packetOf [errorPdu, updatePdu, deactivatePdu])
    (stream_seek (packetOf [errorPdu, updatePdu, deactivatePdu]) 15)
    [errorPdu, updatePdu, deactivatePdu] hopen hs hpdus (by decide)).mpr undisturbed_sample

/-- A Synchronize Update with the bytes of a data PDU behind it in the same PDU. -/
def longUpdatePdu : List UInt8 :=
  [44, 0, 0x17, 0, 0xEA, 3, 1, 0, 0, 0, 0, 1, 26, 0, 0x02, 0, 0, 0, 3, 0, 0, 0] ++ errorPdu

/-- The handlers that are entered for the PDUs of a packet. -/
def entered (pdus : List (List UInt8)) : Option (List Event) :=
  (rdp_recv_tpkt_pdu idleHandlers 45 false plainRdp idleClient (packetOf pdus)).map (·.2.2.log)

/-- The error PDU behind an update is handled twice, and the bytes at the end of a long update are
handled although they are no PDU. -/
theorem data_behind_update_is_handled_too :
    (SharePdu updatePdu ∧ SharePdu errorPdu ∧ SharePdu longUpdatePdu) ∧
    entered [updatePdu, errorPdu] ≠ some (events 15 [updatePdu, errorPdu]) ∧
    entered [updatePdu, errorPdu] =
      some [⟨.data 0x02, 33⟩, ⟨.data 0x2F, 55⟩, ⟨.data 0x2F, 55⟩] ∧
    entered [longUpdatePdu] ≠ some (events 15 [longUpdatePdu]) ∧
    entered [longUpdatePdu] = some [⟨.data 0x02, 33⟩, ⟨.data 0x2F, 55⟩] :=
  ⟨⟨sharePdu_updatePdu, sharePdu_errorPdu, by decide, by decide, fun _ => by decide⟩,
    by decide, by decide, by decide, by decide⟩

/-! ## The loop goes forward -/

section

variable {κ : Type}

/-- The length of the PDU at the position of the stream. -/
def wireLength (s : STREAM) : Nat := (stream_read_uint16 s).1

theorem rdp_read_share_control_header_moves (s : STREAM) : ∃ header n,
    rdp_read_share_control_header s = ((wireLength s, header), stream_seek s n) := by
  unfold rdp_read_share_control_header
  simp only [stream_read_uint16]
  split
  · exact ⟨_, 2, rfl⟩
  · split
    · exact ⟨_, 6, rfl⟩
    · exact ⟨_, 4, rfl⟩

variable {h : Handlers κ} {recv : Client κ → STREAM → Option (Bool × Client κ)}
  {st st' : LoopState κ}

theorem share_pdu_turn_pos (hturn : share_pdu_turn h recv st = .inr st') :
    3 < stream_get_left st.stream ∧ st'.stream = stream_set_pos st.stream
      (st.stream.pos + wireLength st.stream) := by
  obtain ⟨header, n, hheader⟩ := rdp_read_share_control_header_moves st.stream
  unfold share_pdu_turn at hturn
  split at hturn
  · rename_i hleft
    refine ⟨hleft, ?_⟩
    rw [hheader] at hturn
    dsimp only at hturn
    split at hturn
    · cases hturn
    · split at hturn
      · cases hturn
      · cases hturn
      · cases hturn
        rfl
  · cases hturn

/-- The turns of the loop all go forward exactly if no PDU of length zero is met. Then there are no
more turns than bytes. -/
theorem share_pdus_go_forward_iff (h : Handlers κ) (run : Nat → LoopState κ) (n : Nat)
    (hrun : ∀ i < n, ∃ recv, share_pdu_turn h recv (run i) = .inr (run (i + 1))) :
    ((∀ i < n, (run i).stream.pos < (run (i + 1)).stream.pos) ↔
      ∀ i < n, wireLength (run i).stream ≠ 0) ∧
    ((∀ i < n, wireLength (run i).stream ≠ 0) → n ≤ (stream_get_left (run 0).stream).toNat) := by
  have hturn : ∀ i < n, 3 < stream_get_left (run i).stream ∧ (run (i + 1)).stream =
      stream_set_pos (run i).stream ((run i).stream.pos + wireLength (run i).stream) := by
    intro i hi
    obtain ⟨recv, hturn⟩ := hrun i hi
    exact share_pdu_turn_pos hturn
  have hiff : ∀ i < n, (run i).stream.pos < (run (i + 1)).stream.pos ↔
      wireLength (run i).stream ≠ 0 := by
    intro i hi
    rw [(hturn i hi).2, stream_set_pos_pos]
    omega
  refine ⟨forall₂_congr hiff, fun hlengths => ?_⟩
  have hfar : ∀ i ≤ n, (run i).stream.size = (run 0).stream.size ∧
      (run 0).stream.pos + i ≤ (run i).stream.pos := by
    intro i hi
    induction i with
    | zero => exact ⟨rfl, Nat.le_refl _⟩
    | succ i ih =>
      obtain ⟨hsize, hpos⟩ := ih (by omega)
      have hmore := (hiff i hi).mpr (hlengths i hi)
      refine ⟨?_, by omega⟩
      rw [(hturn i hi).2, stream_set_pos_size, hsize]
  cases n with
  | zero => exact Nat.zero_le _
  | succ n =>
    obtain ⟨hsize, hpos⟩ := hfar n (by omega)
    have hleft := (hturn n (by omega)).1
    unfold stream_get_left at hleft ⊢
    omega

end

/-- The state before a packet with the given PDUs. -/
def loopStart (bytes : List UInt8) : LoopState Unit := ⟨none, idleClient, stream_of bytes⟩

/-- The PDU at the end of a session is one turn. -/
theorem deactivate_goes_forward : ∃ st,
    share_pdu_turn idleHandlers (fun _ _ => none) (loopStart deactivatePdu) = .inr st ∧
      (loopStart deactivatePdu).stream.pos < st.stream.pos := by
  refine ⟨_, rfl, ?_⟩
  refine (share_pdus_go_forward_iff idleHandlers (fun i => Nat.casesOn i (loopStart deactivatePdu)
    fun _ => _) 1 ?_).1.mpr ?_ 0 Nat.one_pos
  · intro i hi
    obtain rfl : i = 0 := Nat.lt_one_iff.mp hi
    exact ⟨fun _ _ => none, rfl⟩
  · intro i hi
    obtain rfl : i = 0 := Nat.lt_one_iff.mp hi
    decide

/-- A PDU of length zero is taken again. -/
theorem empty_pdu_is_taken_again :
    ∃ st, share_pdu_turn idleHandlers (fun _ _ => none) (loopStart [0, 0, 0, 0]) = .inr st ∧
      st.stream.pos = (loopStart [0, 0, 0, 0]).stream.pos :=
  ⟨_, rfl, rfl⟩

end neutrinordp.slowpath
