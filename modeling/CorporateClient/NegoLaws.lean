-- What a negotiation can end with. The requests are stated byte by byte, and the answer of
-- the server by what it says. One attempt is a turn, and the law of a negotiation follows
-- from the law of a turn.
import CorporateClient.Nego

namespace neutrinordp.nego

open List bytes stream headers transport

/-! ## The request -/

/-- The routing token, or the cookie. -/
def cookieBytes (nego : rdpNego) : List UInt8 :=
  match nego.routing_token, nego.cookie with
  | some routing_token, _ => routing_token
  | none, some cookie => cookieText ++ cookie ++ [0x0D, 0x0A]
  | none, none => []

/-- The negotiation data. RDP security has none. -/
def negData (requested_protocols : Nat) : List UInt8 :=
  if requested_protocols > PROTOCOL_RDP then
    [TYPE_RDP_NEG_REQ, 0] ++ le16 8 ++ le32 requested_protocols
  else []

/-- The headers of a request of `length` bytes. -/
def requestHeader (length : Nat) : List UInt8 :=
  [3, 0] ++ be16 length ++ [UInt8.ofNat (length - 5), X224_TPDU_CONNECTION_REQUEST, 0, 0, 0, 0, 0]

/-- A request for the protocols. -/
def requestBytes (nego : rdpNego) (requested_protocols : Nat) : List UInt8 :=
  let body := cookieBytes nego ++ negData requested_protocols
  requestHeader (TPDU_CONNECTION_REQUEST_LENGTH + body.length) ++ body

theorem write_cookie.spec (nego : rdpNego) (s : STREAM) (length : Nat)
    (h : s.pos ≤ s.data.length) :
    write_cookie nego s length =
      (stream_write s (cookieBytes nego), length + (cookieBytes nego).length) := by
  unfold write_cookie cookieBytes
  rcases nego.routing_token with _ | routing_token
  · rcases nego.cookie with _ | cookie
    · simp [stream_write]
    · simp only [stream_write_uint8]
      rw [stream_write_write _ _ _ h, stream_write_write _ _ _ h, stream_write_write _ _ _ h]
      simp [cookieText]
  · rfl

theorem write_neg_data.spec (nego : rdpNego) (s : STREAM) (length : Nat)
    (h : s.pos ≤ s.data.length) :
    write_neg_data nego s length = (stream_write s (negData nego.requested_protocols),
      length + (negData nego.requested_protocols).length) := by
  unfold write_neg_data negData
  by_cases hp : nego.requested_protocols > PROTOCOL_RDP
  · simp only [if_pos hp, stream_write_uint8, stream_write_uint16, stream_write_uint32]
    rw [stream_write_write _ _ _ h, stream_write_write _ _ _ h, stream_write_write _ _ _ h]
    simp
  · simp [if_neg hp, stream_write]

theorem write_headers.spec (s : STREAM) (length : Nat) :
    tpdu_write_connection_request (tpkt_write_header (stream_set_pos s 0) length) (length - 5) =
      stream_write (stream_set_pos s 0) (requestHeader length) := by
  have h : (stream_set_pos s 0).pos ≤ (stream_set_pos s 0).data.length := Nat.zero_le _
  unfold tpdu_write_connection_request tpdu_write_header tpkt_write_header requestHeader
  rw [if_neg (by decide)]
  simp only [stream_write_uint8, stream_write_uint16, stream_write_uint16_be]
  rw [stream_write_write _ _ _ h, stream_write_write _ _ _ h, stream_write_write _ _ _ h,
    stream_write_write _ _ _ h, stream_write_write _ _ _ h, stream_write_write _ _ _ h,
    stream_write_write _ _ _ h]
  rfl

theorem nego_send_negotiation_request.spec (a : Attempt) (nego : rdpNego) :
    nego_send_negotiation_request a nego = (a.writes, { nego with
      sent := nego.sent ++ [requestBytes nego nego.requested_protocols] }) := by
  have hroom : TPDU_CONNECTION_REQUEST_LENGTH ≤ (stream_new BUFFER_SIZE).data.length := by
    unfold stream_new
    rw [length_replicate]
    decide
  have hpos : (stream_new BUFFER_SIZE).pos = 0 := rfl
  unfold nego_send_negotiation_request
  generalize stream_new BUFFER_SIZE = s at hroom hpos
  have hseek : (stream_seek s TPDU_CONNECTION_REQUEST_LENGTH).pos ≤
      (stream_seek s TPDU_CONNECTION_REQUEST_LENGTH).data.length := by
    rw [stream_seek_pos, stream_seek_data, hpos, Nat.zero_add]
    exact hroom
  have hwrite (bs : Bytes) :
      (stream_write (stream_seek s TPDU_CONNECTION_REQUEST_LENGTH) bs).pos ≤
        (stream_write (stream_seek s TPDU_CONNECTION_REQUEST_LENGTH) bs).data.length := by
    rw [stream_write_length _ _ hseek, stream_write_pos]
    exact Nat.le_max_right _ _
  have hbytes (body : Bytes) (n : Nat) :
      (stream_write (stream_set_pos (stream_write (stream_seek s TPDU_CONNECTION_REQUEST_LENGTH)
        body) 0) (requestHeader n)).data.take
          (stream_write (stream_seek s TPDU_CONNECTION_REQUEST_LENGTH) body).pos =
        requestHeader n ++ body := by
    rw [stream_write_pos, stream_seek_pos, hpos, Nat.zero_add]
    show (patch (patch s.data (s.pos + _) body) 0 _).take _ = _
    rw [hpos, Nat.zero_add]
    exact take_patch_front s.data (requestHeader n) body hroom
  simp [write_cookie.spec _ _ _ hseek, write_neg_data.spec _ _ _ (hwrite _),
    stream_write_write _ _ _ hseek, stream_get_pos, stream_get_length, hpos, write_headers.spec,
      stream_set_pos_pos, hbytes, requestBytes, Nat.add_assoc]

/-! ## The answer -/

inductive Answer
  | invalid
  | silent
  | response (flags selected_protocol : Nat)
  | failure
  | unknown
deriving Repr, DecidableEq

/-- What the bytes of an answer say. Without a connection confirm, or with a short one,
there is no negotiation data. -/
def answerOf (bytes : List UInt8) : Answer :=
  let b := fun i => bytes.getD i 0
  if b 0 ≠ 3 ∨ ofBe16 (b 2) (b 3) = 0 then .invalid
  else if b 5 ≠ X224_TPDU_CONNECTION_CONFIRM ∨ b 4 ≤ 6 then .silent
  else if b 11 = TYPE_RDP_NEG_RSP then
    .response (b 12).toNat (ofLe32 (b 15) (b 16) (b 17) (b 18))
  else if b 11 = TYPE_RDP_NEG_FAILURE then .failure
  else .unknown

section

variable {bytes : Bytes}

theorem confirm_eq (h : bytes.getD 5 0 = X224_TPDU_CONNECTION_CONFIRM) :
    tpdu_read_connection_confirm (stream_seek (stream_of bytes) 4) =
      (bytes.getD 4 0, stream_seek (stream_of bytes) 11) := by
  have hdata : ¬ bytes.getD 5 0 = X224_TPDU_DATA := by
    rw [h]
    decide
  show (if bytes.getD 5 0 ≠ X224_TPDU_CONNECTION_CONFIRM then 0 else bytes.getD 4 0,
    stream_seek _ (if bytes.getD 5 0 = X224_TPDU_DATA then 1 else 5)) = _
  rw [if_neg (not_not.mpr h), if_neg hdata]
  rfl

theorem no_confirm_eq (h : ¬ bytes.getD 5 0 = X224_TPDU_CONNECTION_CONFIRM) :
    ∃ s, tpdu_read_connection_confirm (stream_seek (stream_of bytes) 4) = (0, s) :=
  ⟨_, Prod.ext (if_pos h) rfl⟩

end

theorem nego_recv.spec (nego : rdpNego) (bytes : Bytes) :
    nego_recv nego (stream_of bytes) =
      match answerOf bytes with
      | .invalid => (false, nego)
      | .silent => (true, { nego with state := .FINAL })
      | .response flags selected_protocol =>
        (true, { nego with flags, selected_protocol, state := .FINAL })
      | .failure => (true, { nego with state := .FAIL })
      | .unknown => (true, nego) := by
  unfold nego_recv answerOf tpkt_read_header
  by_cases h3 : bytes.getD 0 0 = 3
  · have hpeek : stream_peek_uint8 (stream_of bytes) = 3 := h3
    have htpkt : stream_read_uint16_be (stream_seek (stream_of bytes) 2) =
        (ofBe16 (bytes.getD 2 0) (bytes.getD 3 0), stream_seek (stream_of bytes) 4) := rfl
    simp only [hpeek, if_true, h3, ne_eq, not_true_eq_false, false_or, htpkt]
    by_cases hlength : ofBe16 (bytes.getD 2 0) (bytes.getD 3 0) = 0
    · simp only [if_pos hlength]
    · simp only [if_neg hlength]
      by_cases hcode : bytes.getD 5 0 = X224_TPDU_CONNECTION_CONFIRM
      · rw [confirm_eq hcode]
        by_cases hli : bytes.getD 4 0 > 6
        · simp only [if_pos hli, hcode, not_true_eq_false, false_or, UInt8.not_le.mpr hli, if_false,
            show stream_read_uint8 (stream_seek (stream_of bytes) 11) =
              (bytes.getD 11 0, stream_seek (stream_of bytes) 12) from rfl]
          by_cases hrsp : bytes.getD 11 0 = TYPE_RDP_NEG_RSP
          · simp only [if_pos hrsp]
            rfl
          · by_cases hfailure : bytes.getD 11 0 = TYPE_RDP_NEG_FAILURE
            · simp only [if_neg hrsp, if_pos hfailure]
              rfl
            · simp only [if_neg hrsp, if_neg hfailure]
        · simp only [if_neg hli, if_pos (Or.inr (UInt8.not_lt.mp hli))]
      · obtain ⟨s, hs⟩ := no_confirm_eq hcode
        simp only [hs, hcode, not_false_eq_true, true_or, if_true]
        rfl
  · have hpeek : stream_peek_uint8 (stream_of bytes) ≠ 3 := h3
    simp only [if_neg hpeek, ne_eq, h3, not_false_eq_true, true_or, if_true]

/-- The protocol that an answer settles. An answer without negotiation data settles the
protocol that is held. -/
def Answer.selects (held : Nat) : Answer → Option Nat
  | .silent => some held
  | .response _ selected_protocol => some selected_protocol
  | _ => none

/-- The answer ends the negotiation. -/
def Answer.decides : Answer → Bool
  | .silent | .response _ _ => true
  | _ => false

/-- The answer of an attempt. A closed connection is like an invalid answer. -/
def Attempt.reply (a : Attempt) : Answer :=
  match a.answer with
  | none => .invalid
  | some bytes => answerOf bytes

/-! ## One turn -/

def NEGO_STATE.request : NEGO_STATE → Option Nat
  | .NLA => some (PROTOCOL_NLA ||| PROTOCOL_TLS)
  | .TLS => some PROTOCOL_TLS
  | .RDP => some PROTOCOL_RDP
  | _ => none

/-- The state after an answer that settles nothing. -/
def rdpNego.fallback (nego : rdpNego) : NEGO_STATE → NEGO_STATE
  | .NLA =>
    if nego.enabled PROTOCOL_TLS then .TLS
    else if nego.enabled PROTOCOL_RDP then .RDP
    else .FAIL
  | .TLS => if nego.enabled PROTOCOL_RDP then .RDP else .FAIL
  | state => state

/-- The request is out, on a connection that is there. -/
def asking (nego : rdpNego) (requested_protocols : Nat) : rdpNego :=
  { nego with
    requested_protocols
    tcp_connected := true
    sent := nego.sent ++ [requestBytes nego requested_protocols] }

/-- The request gets out. -/
def Reaches (a : Attempt) (nego : rdpNego) : Prop :=
  ¬ (nego.tcp_connected = false ∧ a.connects = false) ∧ a.writes = true

theorem nego_attempt.spec (protocols : Nat) (retreat : rdpNego → rdpNego) (a : Attempt)
    (nego : rdpNego) (hstate : nego.state ≠ .FINAL) :
    (nego_attempt protocols retreat a nego).state = .FAIL ∧ ¬ Reaches a nego ∨
      Reaches a nego ∧ nego_attempt protocols retreat a nego =
        match a.reply with
        | .invalid => { asking nego protocols with state := .FAIL }
        | .silent => { asking nego protocols with state := .FINAL }
        | .response flags selected_protocol =>
          { asking nego protocols with flags, selected_protocol, state := .FINAL }
        | .failure => retreat { asking nego protocols with state := .FAIL }
        | .unknown => retreat (asking nego protocols) := by
  by_cases hconnect : nego.tcp_connected = false ∧ a.connects = false
  · refine .inl ⟨?_, fun h => h.1 hconnect⟩
    unfold nego_attempt nego_tcp_connect
    simp [hconnect.1, hconnect.2]
  · have hasked : (nego_tcp_connect a { nego with requested_protocols := protocols }) =
        (true, { nego with requested_protocols := protocols, tcp_connected := true }) := by
      unfold nego_tcp_connect
      rcases hc : nego.tcp_connected with _ | _
      · have ha : a.connects = true := by simpa [hc] using hconnect
        simp [ha]
      · simp
    by_cases hwrites : a.writes = false
    · refine .inl ⟨?_, fun h => Bool.false_ne_true (hwrites.symm.trans h.2)⟩
      unfold nego_attempt
      simp only [hasked, nego_send_negotiation_request.spec, hwrites, if_true]
      rfl
    · refine .inr ⟨⟨hconnect, Bool.eq_true_of_not_eq_false hwrites⟩, ?_⟩
      unfold nego_attempt nego_recv_response Attempt.reply
      simp only [hasked, nego_send_negotiation_request.spec, hwrites]
      rcases a.answer with _ | bytes
      · rfl
      · simp only [nego_recv.spec]
        rcases answerOf bytes with _ | _ | ⟨flags, selected_protocol⟩ | _ | _
        · rfl
        · rfl
        · rfl
        · rfl
        · simp only [if_pos hstate]
          rfl

/-- What was asked for, and what a turn does not change. -/
structure Asked (nego next : rdpNego) (requested_protocols : Nat) : Prop where
  requested : next.requested_protocols = requested_protocols
  enabled : next.enabled_protocols = nego.enabled_protocols
  token : next.routing_token = nego.routing_token
  cookie : next.cookie = nego.cookie
  sent : next.sent = nego.sent ++ [requestBytes nego requested_protocols]

/-- The ways a turn can go. -/
inductive Turn (a : Attempt) (requested_protocols : Nat) (nego next : rdpNego) : Prop
  | failed (hstate : next.state = .FAIL)
  | ended (hasked : Asked nego next requested_protocols) (hstate : next.state = .FINAL)
      (hselects : a.reply.selects nego.selected_protocol = some next.selected_protocol)
  | retreated (hasked : Asked nego next requested_protocols)
      (hstate : next.state = nego.fallback nego.state) (hreply : a.reply.decides = false)
      (hheld : next.selected_protocol = nego.selected_protocol)

variable {protocols : Nat} {nego next final : rdpNego} {state : NEGO_STATE}
    {attempts : List Attempt}

theorem turn_of_attempt {retreat : rdpNego → rdpNego} (a : Attempt) (hstate : nego.state ≠ .FINAL)
    (hretreat : ∀ next, Asked nego next protocols →
      next.selected_protocol = nego.selected_protocol →
      next.state = nego.state ∨ next.state = .FAIL → (retreat next).state = .FAIL ∨
        Asked nego (retreat next) protocols ∧
        (retreat next).state = nego.fallback nego.state ∧
        (retreat next).selected_protocol = nego.selected_protocol) :
    Turn a protocols nego (nego_attempt protocols retreat a nego) := by
  rcases nego_attempt.spec protocols retreat a nego hstate with ⟨hfail, -⟩ | ⟨-, heq⟩
  · exact .failed hfail
  · rw [heq]
    rcases hreply : a.reply with _ | _ | ⟨flags, selected_protocol⟩ | _ | _
    · exact .failed rfl
    · exact .ended ⟨rfl, rfl, rfl, rfl, rfl⟩ rfl (by rw [hreply]; rfl)
    · exact .ended ⟨rfl, rfl, rfl, rfl, rfl⟩ rfl (by rw [hreply]; rfl)
    · rcases hretreat { asking nego protocols with state := .FAIL }
        ⟨rfl, rfl, rfl, rfl, rfl⟩ rfl (Or.inr rfl) with hfail | ⟨hasked, hnext, hheld⟩
      · exact .failed hfail
      · exact .retreated hasked hnext (by rw [hreply]; rfl) hheld
    · rcases hretreat (asking nego protocols)
        ⟨rfl, rfl, rfl, rfl, rfl⟩ rfl (Or.inl rfl) with hfail | ⟨hasked, hnext, hheld⟩
      · exact .failed hfail
      · exact .retreated hasked hnext (by rw [hreply]; rfl) hheld

theorem enabled_congr (h : next.enabled_protocols = nego.enabled_protocols) (protocol : Nat) :
    next.enabled protocol = nego.enabled protocol := by
  unfold rdpNego.enabled
  rw [h]

theorem nego_send.spec (a : Attempt) (nego : rdpNego)
    (h : nego.state.request = some protocols) :
    Turn a protocols nego (nego_send a nego) := by
  unfold nego_send
  cases hstate : nego.state with
  | NLA | TLS =>
    rw [hstate] at h
    obtain rfl := Option.some.inj h
    apply turn_of_attempt a (by simp [hstate])
    intro next hasked hheld _
    right
    have hsame : ∀ protocol, (nego_tcp_disconnect next).enabled protocol = nego.enabled protocol :=
      enabled_congr hasked.enabled
    obtain ⟨hrequested, henabled, htoken, hcookie, hsent⟩ := hasked
    simp only [hsame, hstate, rdpNego.fallback]
    split_ifs <;> exact ⟨⟨hrequested, henabled, htoken, hcookie, hsent⟩, rfl, hheld⟩
  | RDP =>
    rw [hstate] at h
    obtain rfl := Option.some.inj h
    apply turn_of_attempt a (by simp [hstate])
    intro next hasked hheld hnext
    rcases hnext with hsame | hfail
    · right
      rw [hstate] at hsame ⊢
      exact ⟨hasked, hsame, hheld⟩
    · left
      exact hfail
  | INITIAL | FAIL | FINAL => simp [hstate, NEGO_STATE.request] at h

/-! ## A whole negotiation -/

/-- The requests that a negotiation can still make from a state on, in their order. -/
def rdpNego.offersFrom (nego : rdpNego) : NEGO_STATE → List Nat
  | .NLA =>
    (PROTOCOL_NLA ||| PROTOCOL_TLS) ::
      ((if nego.enabled PROTOCOL_TLS then [PROTOCOL_TLS] else []) ++
        if nego.enabled PROTOCOL_RDP then [PROTOCOL_RDP] else [])
  | .TLS => PROTOCOL_TLS :: if nego.enabled PROTOCOL_RDP then [PROTOCOL_RDP] else []
  | .RDP => [PROTOCOL_RDP]
  | _ => []

/-- The requests of a negotiation, in their order. -/
def rdpNego.offers (nego : rdpNego) : List Nat := nego.offersFrom (first_state nego)

/-- The request of a turn. The request for RDP security is made again and again. -/
def offerAt (offers : List Nat) (turn : Nat) : Nat := offers.getD turn PROTOCOL_RDP

theorem offersFrom_request (nego : rdpNego) (h : state.request = some protocols) :
    offerAt (nego.offersFrom state) 0 = protocols := by
  cases state with
  | NLA | TLS | RDP => exact Option.some.inj h
  | INITIAL | FAIL | FINAL => cases h

theorem offersFrom_fallback (nego : rdpNego) (h : state.request = some protocols) (turn : Nat) :
    offerAt (nego.offersFrom state) (turn + 1) =
      offerAt (nego.offersFrom (nego.fallback state)) turn := by
  cases state with
  | NLA =>
    unfold rdpNego.offersFrom rdpNego.fallback offerAt
    by_cases htls : nego.enabled PROTOCOL_TLS
    · simp [htls]
    · by_cases hrdp : nego.enabled PROTOCOL_RDP
      · simp [htls, hrdp]
      · simp [htls, hrdp]
  | TLS =>
    unfold rdpNego.offersFrom rdpNego.fallback offerAt
    by_cases hrdp : nego.enabled PROTOCOL_RDP
    · simp [hrdp]
    · simp [hrdp]
  | RDP =>
    rcases turn with _ | turn
    · rfl
    · rfl
  | INITIAL | FAIL | FINAL => cases h

/-- The attempt has an answer that ends the negotiation. -/
def Attempt.decides (a : Attempt) : Bool := a.reply.decides

theorem decides_of_selects {reply : Answer} {held v : Nat} (h : reply.selects held = some v) :
    reply.decides = true := by
  rcases reply with _ | _ | ⟨_, _⟩ | _ | _
  · cases h
  · rfl
  · rfl
  · cases h
  · cases h

/-- What a negotiation that succeeds ends with. -/
structure Settled (attempts : List Attempt) (nego final : rdpNego) (offers : List Nat) : Prop where
  decided : ∃ a, attempts.find? Attempt.decides = some a ∧
    a.reply.selects nego.selected_protocol = some final.selected_protocol
  requested : final.requested_protocols = offerAt offers (attempts.findIdx Attempt.decides)
  sent : final.sent.getLast? = some (requestBytes nego final.requested_protocols)

theorem requestBytes_congr (htoken : next.routing_token = nego.routing_token)
    (hcookie : next.cookie = nego.cookie) (protocols : Nat) :
    requestBytes next protocols = requestBytes nego protocols := by
  unfold requestBytes cookieBytes
  rw [htoken, hcookie]

theorem offersFrom_congr (h : next.enabled_protocols = nego.enabled_protocols)
    (state : NEGO_STATE) :
    next.offersFrom state = nego.offersFrom state := by
  unfold rdpNego.offersFrom
  rw [enabled_congr h, enabled_congr h]

theorem request_of_fallback (nego : rdpNego) (h : state.request = some protocols)
    (hfail : nego.fallback state ≠ .FAIL) :
    ∃ next, (nego.fallback state).request = some next := by
  cases state with
  | NLA =>
    by_cases htls : nego.enabled PROTOCOL_TLS
    · simp [rdpNego.fallback, htls, NEGO_STATE.request]
    · by_cases hrdp : nego.enabled PROTOCOL_RDP
      · simp [rdpNego.fallback, htls, hrdp, NEGO_STATE.request]
      · simp [rdpNego.fallback, htls, hrdp] at hfail
  | TLS =>
    by_cases hrdp : nego.enabled PROTOCOL_RDP
    · simp [rdpNego.fallback, hrdp, NEGO_STATE.request]
    · simp [rdpNego.fallback, hrdp] at hfail
  | RDP => exact ⟨_, rfl⟩
  | INITIAL | FAIL | FINAL => cases h

theorem nego_connect_loop.spec (h : nego_connect_loop attempts nego = some (true, final))
    (hstate : nego.state.request = some protocols) :
    Settled attempts nego final (nego.offersFrom nego.state) := by
  induction attempts generalizing nego protocols with
  | nil => cases h
  | cons a attempts ih =>
    unfold nego_connect_loop at h
    have hturn := nego_send.spec a nego hstate
    generalize nego_send a nego = next at h hturn
    cases hturn with
    | failed hfail =>
      simp only [if_pos hfail] at h
      cases h
    | ended hasked hfinal hselects =>
      simp only [hfinal, reduceCtorEq, if_false, ne_eq, not_true_eq_false] at h
      cases h
      have hdecides : a.decides = true := decides_of_selects hselects
      refine ⟨⟨a, find?_cons_of_pos hdecides, hselects⟩, ?_, ?_⟩
      · rw [hasked.requested, findIdx_cons, hdecides, ← offersFrom_request nego hstate]
        rfl
      · rw [hasked.sent, hasked.requested, List.getLast?_concat]
    | retreated hasked hnext hreply hheld =>
      by_cases hfail : next.state = .FAIL
      · simp only [if_pos hfail] at h
        cases h
      · obtain ⟨p, hp⟩ := request_of_fallback nego hstate (hnext ▸ hfail)
        rw [← hnext] at hp
        have hopen : next.state ≠ .FINAL := by
          intro hfinal
          rw [hfinal] at hp
          cases hp
        simp only [if_neg hfail, if_pos hopen] at h
        obtain ⟨⟨b, hfind, hselects⟩, hrequested, hsent⟩ := ih h hp
        have hdecides : ¬ a.decides = true := by
          unfold Attempt.decides
          rw [hreply]
          exact Bool.false_ne_true
        refine ⟨⟨b, ?_, ?_⟩, ?_, ?_⟩
        · rw [find?_cons_of_neg hdecides, hfind]
        · rw [← hheld, hselects]
        · rw [hrequested, hnext, offersFrom_congr hasked.enabled, findIdx_cons,
            Bool.eq_false_iff.mpr hdecides, cond_false, offersFrom_fallback nego hstate]
        · rw [hsent, requestBytes_congr hasked.token hasked.cookie]

/-- The protocol is among the ones of a request. A request without negotiation data asks
for RDP security only, and RDP security is not among the others. -/
def Offered (requested_protocols protocol : Nat) : Prop :=
  if requested_protocols = PROTOCOL_RDP then protocol = PROTOCOL_RDP
  else protocol ≠ PROTOCOL_RDP ∧ protocol &&& requested_protocols = protocol

instance (requested_protocols protocol : Nat) :
    Decidable (Offered requested_protocols protocol) := by
  unfold Offered
  infer_instance

/-- The protocol that was settled is enabled, and the last request offers it. -/
structure NoDowngrade (nego final : rdpNego) : Prop where
  enabled : nego.enabled final.selected_protocol = true
  request : final.sent.getLast? = some (requestBytes nego final.requested_protocols)
  offered : Offered final.requested_protocols final.selected_protocol
  settings : final.settings.selected_protocol = final.selected_protocol

/-- The first answer that ends the negotiation names a protocol that is enabled and is
among the ones of the request that it answers. If it names none, the protocol that is held
already is such a protocol. -/
def Agreed (nego : rdpNego) (attempts : List Attempt) : Prop :=
  ∀ a protocol, attempts.find? Attempt.decides = some a →
    a.reply.selects nego.selected_protocol = some protocol →
    nego.enabled protocol = true ∧
      Offered (offerAt nego.offers (attempts.findIdx Attempt.decides)) protocol

theorem update_settings_selected (nego : rdpNego) :
    (update_settings nego).selected_protocol = nego.selected_protocol := by
  unfold update_settings
  split
  · rfl
  · rfl

theorem first_state_request (nego : rdpNego)
    (h : nego_connect_loop attempts { nego with state := first_state nego } = some (true, final)) :
    ∃ protocols, (first_state nego).request = some protocols := by
  by_cases hnla : nego.enabled PROTOCOL_NLA
  · simp [first_state, hnla, NEGO_STATE.request]
  · by_cases htls : nego.enabled PROTOCOL_TLS
    · simp [first_state, hnla, htls, NEGO_STATE.request]
    · by_cases hrdp : nego.enabled PROTOCOL_RDP
      · simp [first_state, hnla, htls, hrdp, NEGO_STATE.request]
      · have hfail : first_state nego = .FAIL := by simp [first_state, hnla, htls, hrdp]
        rcases attempts with _ | ⟨a, attempts⟩
        · cases h
        · simp [nego_connect_loop, nego_send, hfail] at h

theorem nego_connect.spec (h : nego_connect attempts (nego_init nego) = some (true, final)) :
    Settled attempts nego final nego.offers ∧
      final.settings.selected_protocol = final.selected_protocol := by
  obtain ⟨⟨connected, last⟩, hloop, heq⟩ := Option.map_eq_some_iff.mp h
  obtain ⟨rfl, hfinal⟩ := Prod.mk.inj heq
  obtain ⟨protocols, hrequest⟩ := first_state_request (nego_init nego) hloop
  obtain ⟨hdecided, hrequested, hsent⟩ := nego_connect_loop.spec hloop hrequest
  subst hfinal
  exact ⟨⟨hdecided, hrequested, hsent⟩, update_settings_selected last⟩

/-- For all enabled protocols and all answers: a negotiation that succeeds ends with a
protocol that is enabled and that the last request offers, exactly if the deciding answer
names such a protocol. The code itself does not check it. -/
theorem no_downgrade_iff_agreed (attempts : List Attempt) (nego final : rdpNego)
    (h : nego_connect attempts (nego_init nego) = some (true, final)) :
    NoDowngrade nego final ↔ Agreed nego attempts := by
  obtain ⟨⟨⟨a, hfind, hselects⟩, hrequested, hsent⟩, hsettings⟩ := nego_connect.spec h
  constructor
  · intro hsafe b protocol hfind' hselects'
    obtain rfl := Option.some.inj (hfind.symm.trans hfind')
    obtain rfl := Option.some.inj (hselects.symm.trans hselects')
    rw [← hrequested]
    exact ⟨hsafe.enabled, hsafe.offered⟩
  · intro hagreed
    obtain ⟨henabled, hoffered⟩ := hagreed a _ hfind hselects
    rw [← hrequested] at hoffered
    exact ⟨henabled, hsent, hoffered, hsettings⟩

/-- A client that allows only NLA. -/
def nlaOnly : rdpNego := nego_enable_nla (nego_new default) true

/-- A server that answers without negotiation data. -/
def silentServer : List Attempt :=
  [{ connects := true, writes := true,
     answer := some [0x03, 0x00, 0x00, 0x0B, 0x06, 0xD0, 0x00, 0x00, 0x00, 0x00, 0x00] }]

/-- A server that selects NLA. -/
def nlaServer : List Attempt :=
  [{ connects := true, writes := true,
     answer := some [0x03, 0x00, 0x00, 0x13, 0x0E, 0xD0, 0x00, 0x00, 0x00, 0x00, 0x00,
       0x02, 0x00, 0x08, 0x00, 0x02, 0x00, 0x00, 0x00] }]

theorem no_downgrade_iff_agreed_sample :
    ∃ final, nego_connect nlaServer (nego_init nlaOnly) = some (true, final) ∧
      (NoDowngrade nlaOnly final ↔ Agreed nlaOnly nlaServer) :=
  ⟨_, rfl, no_downgrade_iff_agreed nlaServer nlaOnly _ rfl⟩

theorem no_downgrade_iff_agreed_counterexample :
    ∃ final, nego_connect silentServer (nego_init nlaOnly) = some (true, final) ∧
      final.selected_protocol = PROTOCOL_RDP ∧
      final.requested_protocols = PROTOCOL_NLA ||| PROTOCOL_TLS ∧
      nlaOnly.enabled PROTOCOL_RDP = false ∧ ¬ NoDowngrade nlaOnly final := by
  refine ⟨_, rfl, rfl, rfl, by decide, ?_⟩
  intro hsafe
  exact absurd hsafe.enabled (by decide)

/-! ## The end of a negotiation -/

/-- How many kinds of attempts can still come. There is an attempt when it is not zero. -/
def NEGO_STATE.rank : NEGO_STATE → Nat
  | .NLA => 3
  | .TLS => 2
  | .RDP => 1
  | _ => 0

def NEGO_STATE.protocol : NEGO_STATE → Nat
  | .NLA => PROTOCOL_NLA
  | .TLS => PROTOCOL_TLS
  | _ => PROTOCOL_RDP

/-- The negotiation before each turn of the loop, over an endless sequence of answers. -/
def before (answers : Nat → Attempt) (nego : rdpNego) : Nat → rdpNego
  | 0 => if nego.state = .INITIAL then { nego with state := first_state nego } else nego
  | n + 1 => nego_send (answers n) (before answers nego n)

/-- The loop ends. On the way there is at most one attempt for each protocol, in the order of the
protocols, and only for those that are enabled. -/
structure EndsInOrder (answers : Nat → Attempt) (nego : rdpNego) : Prop where
  returns : ∃ n, (nego_connect ((range n).map answers) nego).isSome
  ordered : ∀ i j, i < j → 0 < (before answers nego j).state.rank →
    (before answers nego j).state.rank < (before answers nego i).state.rank
  enabled : ∀ n, 0 < (before answers nego n).state.rank →
    nego.enabled (before answers nego n).state.protocol

/-- RDP security is asked for, and the answer has negotiation data of a type that is not known. -/
def Repeats (a : Attempt) (nego : rdpNego) : Prop :=
  nego.state = .RDP ∧ Reaches a nego ∧ a.reply = .unknown

theorem nego_send_rdp (h : nego.state = .RDP) (a : Attempt) :
    Repeats a nego ∧ (nego_send a nego).state = .RDP ∨ ¬ Repeats a nego ∧
      ((nego_send a nego).state = .FAIL ∨ (nego_send a nego).state = .FINAL) := by
  unfold nego_send
  rw [h]
  dsimp only [nego_attempt_rdp]
  rcases nego_attempt.spec PROTOCOL_RDP id a nego (by simp [h]) with ⟨hfail, hout⟩ | ⟨hout, heq⟩
  · exact .inr ⟨fun hrepeats => hout hrepeats.2.1, .inl hfail⟩
  · rw [heq]
    by_cases hreply : a.reply = .unknown
    · rw [hreply]
      exact .inl ⟨⟨h, hout, hreply⟩, h⟩
    · refine .inr ⟨fun hrepeats => hreply hrepeats.2.2, ?_⟩
      rcases hanswer : a.reply with _ | _ | ⟨_, _⟩ | _ | _
      · exact .inl rfl
      · exact .inr rfl
      · exact .inr rfl
      · exact .inl rfl
      · exact absurd hanswer hreply

theorem fallback_descends (nego : rdpNego) (state) (h : state = .NLA ∨ state = .TLS) :
    nego.fallback state = .FAIL ∨ 0 < (nego.fallback state).rank ∧
      (nego.fallback state).rank < state.rank ∧ nego.enabled (nego.fallback state).protocol := by
  rcases h with rfl | rfl
  · dsimp only [rdpNego.fallback]
    split_ifs with htls hrdp
    · exact .inr ⟨by decide, by decide, htls⟩
    · exact .inr ⟨by decide, by decide, hrdp⟩
    · exact .inl rfl
  · dsimp only [rdpNego.fallback]
    split_ifs with hrdp
    · exact .inr ⟨by decide, by decide, hrdp⟩
    · exact .inl rfl

theorem rank_of_end (h : nego.state = .FAIL ∨ nego.state = .FINAL) : ¬ 0 < nego.state.rank := by
  rcases h with h | h <;> simp [h, NEGO_STATE.rank]

/-- The negotiation is over, or it is at an enabled protocol. -/
def Underway (base nego : rdpNego) : Prop :=
  (nego.state = .FAIL ∨ nego.state = .FINAL) ∨ 0 < nego.state.rank ∧
    nego.enabled_protocols = base.enabled_protocols ∧ base.enabled nego.state.protocol = true

/-- A turn ends the negotiation, or it goes on to a protocol behind the one it asked for. -/
def Descends (base nego next : rdpNego) : Prop :=
  Underway base next ∧ (0 < next.state.rank → next.state.rank < nego.state.rank)

theorem nego_send_descends {base : rdpNego} {a : Attempt} (hway : Underway base nego)
    (h : ¬ Repeats a nego) : Descends base nego (nego_send a nego) := by
  have hover : (nego_send a nego).state = .FAIL ∨ (nego_send a nego).state = .FINAL →
      Descends base nego (nego_send a nego) :=
    fun hend => ⟨.inl hend, fun hrank => absurd hrank (rank_of_end hend)⟩
  rcases hway with (hfail | hfinal) | ⟨hrank, henabled, -⟩
  · exact hover (.inl (by simp [nego_send, hfail]))
  · exact hover (.inr (by simp [nego_send, hfinal]))
  · cases hstate : nego.state with
    | NLA | TLS =>
      rcases nego_send.spec a nego (by rw [hstate]; rfl) with
        hfail | ⟨_, hfinal, _⟩ | ⟨hasked, hnext⟩
      · exact hover (.inl hfail)
      · exact hover (.inr hfinal)
      · rcases fallback_descends nego nego.state (by simp [hstate]) with
          hfail | ⟨hpos, hless, hprotocol⟩
        · exact hover (.inl (hnext.trans hfail))
        · rw [← hnext] at hpos hless hprotocol
          rw [enabled_congr henabled] at hprotocol
          exact ⟨.inr ⟨hpos, hasked.enabled.trans henabled, hprotocol⟩, fun _ => hless⟩
    | RDP =>
      rcases nego_send_rdp hstate a with ⟨hrepeats, -⟩ | ⟨-, hend⟩
      · exact absurd hrepeats h
      · exact hover hend
    | INITIAL | FAIL | FINAL =>
      rw [hstate] at hrank
      cases hrank

theorem loop_returns {answers : Nat → Attempt} {base : rdpNego}
    (hdown : ∀ n, Descends base (before answers nego n) (before answers nego (n + 1)))
    (turns m : Nat) (h : (before answers nego m).state.rank < turns) :
    (nego_connect_loop ((range turns).map fun i => answers (m + i))
      (before answers nego m)).isSome := by
  induction turns generalizing m with
  | zero => cases h
  | succ turns ih =>
    rw [range_succ_eq_map, map_cons, map_map, nego_connect_loop]
    show (if (before answers nego (m + 1)).state = .FAIL then _ else
      if (before answers nego (m + 1)).state ≠ .FINAL then _ else _ : Option _).isSome
    obtain ⟨(hfail | hfinal) | ⟨hrank, -⟩, hless⟩ := hdown m
    · rw [if_pos hfail]
      rfl
    · rw [if_neg (by simp [hfinal]), if_neg (by simp [hfinal])]
      rfl
    · have hrest := ih (m + 1) (by have := hless hrank; omega)
      rw [if_neg (fun h => by rw [h] at hrank; cases hrank),
        if_pos (fun h => by rw [h] at hrank; cases hrank)]
      simp only [Nat.add_right_comm m 1] at hrest
      exact hrest

/-- A negotiation ends in order unless RDP security is asked for, and answered with negotiation data
of a type that is not known: then it is asked for again. -/
theorem negotiation_ends_iff (answers : Nat → Attempt) (nego : rdpNego) :
    EndsInOrder answers (nego_init nego) ↔
      ∀ n, ¬ Repeats (answers n) (before answers (nego_init nego) n) := by
  constructor
  · intro hends n hrepeats
    rcases nego_send_rdp hrepeats.1 (answers n) with ⟨-, hagain⟩ | ⟨hnot, -⟩
    · have hless := hends.ordered n (n + 1) (Nat.lt_succ_self n) (by rw [before, hagain]; decide)
      rw [before, hagain, hrepeats.1] at hless
      exact absurd hless (Nat.lt_irrefl _)
    · exact hnot hrepeats
  · intro hgood
    have hway : ∀ n, Underway (nego_init nego) (before answers (nego_init nego) n) := by
      intro n
      induction n with
      | zero =>
        unfold Underway before
        rw [if_pos (show (nego_init nego).state = .INITIAL from rfl)]
        unfold first_state
        split_ifs with hnla htls hrdp
        · exact .inr ⟨Nat.succ_pos 2, rfl, hnla⟩
        · exact .inr ⟨Nat.succ_pos 1, rfl, htls⟩
        · exact .inr ⟨Nat.one_pos, rfl, hrdp⟩
        · exact .inl (.inl rfl)
      | succ n ih => exact (nego_send_descends ih (hgood n)).1
    have hdown := fun n => nego_send_descends (hway n) (hgood n)
    refine ⟨⟨4, ?_⟩, fun i j hij hrank => ?_, fun n hrank => ?_⟩
    · unfold nego_connect
      rw [Option.isSome_map]
      have hfirst : (before answers (nego_init nego) 0).state.rank < 4 := by
        cases (before answers (nego_init nego) 0).state <;> decide
      have hloop := loop_returns hdown 4 0 hfirst
      simp only [Nat.zero_add] at hloop
      exact hloop
    · induction j with
      | zero => cases hij
      | succ j ih =>
        have hless := (hdown j).2 hrank
        rcases Nat.lt_succ_iff_lt_or_eq.mp hij with hlt | rfl
        · exact hless.trans (ih hlt (by omega))
        · exact hless
    · rcases hway n with hend | ⟨-, -, hprotocol⟩
      · exact absurd hrank (rank_of_end hend)
      · exact hprotocol

/-- A server whose negotiation data has a type that is not known. -/
def unknownServer (_ : Nat) : Attempt where
  connects := true
  writes := true
  answer := some [0x03, 0x00, 0x00, 0x13, 0x0E, 0xD0, 0x00, 0x00, 0x00, 0x00, 0x00, 0x09]

/-- A client that allows only RDP security asks for it twice. -/
theorem rdp_is_asked_for_again :
    ¬ EndsInOrder unknownServer (nego_init (nego_enable_rdp (nego_new default) true)) := by
  intro hends
  exact absurd (hends.ordered 0 1 (by decide) (by decide +kernel)) (by decide +kernel)

end neutrinordp.nego
