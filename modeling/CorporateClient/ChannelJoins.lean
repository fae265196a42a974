-- The channels that a client joins. It asks for its user channel, for the global channel and
-- for each static channel, one after the other, and waits for the confirm each time.
import CorporateClient.Connection
import CorporateClient.SlowPathDispatch

namespace neutrinordp.connection

open List bytes stream security packet slowpath

section

variable {C : Crypto} {κ : Type} (env : Environment C κ) (fuel : Nat)

/-- The channel that a packet confirms, or `none` when it is no Channel Join Confirm PDU. -/
def confirmed (packet : Turn × STREAM) : Option Nat := (mcs_recv_channel_join_confirm packet.2).1

/-- The packets while the channels are joined. The connection ends with the first packet
that is refused, and the phase ends with another state. -/
def join_phase : Connection C κ → List (Turn × STREAM) → Connection C κ
  | c, [] => c
  | c, (turn, s) :: packets =>
    if c.client.state = .MCS_CHANNEL_JOIN then
      match rdp_recv_callback env fuel turn c s with
      | some (true, c) => join_phase c packets
      | some (false, c) => c
      | none => c
    else c

/-! ## One confirm -/

/-- The channels of a connection, in the order in which they are joined. -/
def joinOrder (c : Connection C κ) : List Nat :=
  c.rdp.user_id :: MCS_GLOBAL_CHANNEL_ID :: c.channels.map (·.channel_id)

/-- The client waits for the confirm of a channel, and there are the others behind it. -/
inductive Awaiting (c : Connection C κ) : Nat → List Nat → Prop
  | user (hmcs : c.mcs = ⟨false, false⟩) (hnone : ∀ ch ∈ c.channels, ch.joined = false) :
      Awaiting c c.rdp.user_id (MCS_GLOBAL_CHANNEL_ID :: c.channels.map (·.channel_id))
  | global (hmcs : c.mcs = ⟨true, false⟩) (hnone : ∀ ch ∈ c.channels, ch.joined = false) :
      Awaiting c MCS_GLOBAL_CHANNEL_ID (c.channels.map (·.channel_id))
  | static (hmcs : c.mcs = ⟨true, true⟩) (before : List rdpChannel) (ch : rdpChannel)
      (behind : List rdpChannel) (hchannels : c.channels = before ++ ch :: behind)
      (hbefore : ∀ ch ∈ before, ch.joined = true)
      (hnone : ∀ x ∈ ch :: behind, x.joined = false) :
      Awaiting c ch.channel_id (behind.map (·.channel_id))

theorem join_first.spec {before behind : List rdpChannel} {ch : rdpChannel} (channel_id : Nat)
    (hbefore : ∀ ch ∈ before, ch.joined = true) (hch : ch.joined = false) :
    join_first channel_id (before ++ ch :: behind) =
      if ch.channel_id ≠ channel_id then none
      else some (before.length, before ++ { ch with joined := true } :: behind) := by
  induction before with
  | nil =>
    simp [join_first, hch]
  | cons first before ih =>
    have hfirst := hbefore first mem_cons_self
    have ih := ih (forall_mem_cons.mp hbefore).2
    simp only [cons_append, join_first, hfirst, if_true, ih]
    split <;> rfl

theorem all_channels_joined.spec (turn : Turn) (n : Nat) (c : Connection C κ) :
    ∃ ok c', all_channels_joined env turn n c = (ok, c') ∧ c'.sent = c.sent ∧
      c'.client.state = (if ok then .LICENSE else c.client.state) ∧
      ((∀ i, turn.writes i = true) → ok = true) := by
  have hkeys : ∃ ok c', rdp_client_establish_keys turn (turn.writes n) c = (ok, c') ∧
      c'.sent = c.sent ∧ c'.client = c.client ∧ ((∀ i, turn.writes i = true) → ok = true) := by
    unfold rdp_client_establish_keys
    split
    · exact ⟨true, c, rfl, rfl, rfl, fun _ => rfl⟩
    · split
      · rename_i hfailed
        refine ⟨false, c, rfl, rfl, rfl, fun hwrites => ?_⟩
        rw [hwrites n] at hfailed
        cases hfailed
      · exact ⟨true, _, rfl, rfl, rfl, fun _ => rfl⟩
  obtain ⟨ok, c', hrun, hsent, hclient, hok⟩ := hkeys
  unfold all_channels_joined
  rw [hrun]
  cases ok with
  | false => exact ⟨false, c', rfl, hsent, by rw [hclient]; rfl, fun hwrites => hok hwrites⟩
  | true =>
    cases hwrite : turn.writes (n + 1) with
    | false =>
      refine ⟨false, _, rfl, hsent, by rw [← hclient]; rfl, fun hwrites => ?_⟩
      rw [hwrites] at hwrite
      cases hwrite
    | true => exact ⟨true, _, rfl, hsent, rfl, fun _ => rfl⟩

variable {c c' : Connection C κ} {cur : Nat} {rest : List Nat} {turn : Turn} {s : STREAM}
    {packets : List (Turn × STREAM)}

theorem confirm_refused (h : Awaiting c cur rest) (hs : confirmed (turn, s) ≠ some cur) :
    rdp_client_connect_mcs_channel_join_confirm env turn c s = (false, c) := by
  unfold confirmed at hs
  unfold rdp_client_connect_mcs_channel_join_confirm
  cases hread : (mcs_recv_channel_join_confirm s).1 with
  | none => rfl
  | some channel_id =>
    rw [hread, ne_eq, Option.some.injEq] at hs
    cases h with
    | user hmcs hnone => simp [hmcs, hs]
    | global hmcs hnone =>
      simp [hmcs, hs]
    | static hmcs before ch behind hchannels hbefore hnone =>
      have hch := hnone ch mem_cons_self
      have hloop := @join_first.spec before behind ch channel_id hbefore hch
      rw [if_pos (Ne.symm hs), ← hchannels] at hloop
      simp [hmcs, join_static_channel, hloop]

theorem confirm_next {next : Nat} (h : Awaiting c cur (next :: rest))
    (hs : confirmed (turn, s) = some cur) :
    ∃ c', rdp_client_connect_mcs_channel_join_confirm env turn c s = (turn.writes 0, c') ∧
      c'.client.state = c.client.state ∧ c'.rdp.user_id = c.rdp.user_id ∧
      if turn.writes 0 then
        Awaiting c' next rest ∧ c'.sent = c.sent ++ [channel_join_request c.rdp.user_id next]
      else c'.sent = c.sent := by
  unfold confirmed at hs
  unfold rdp_client_connect_mcs_channel_join_confirm
  rw [hs]
  generalize hrest : next :: rest = others at h
  cases h with
  | user hmcs hnone =>
    cases hrest
    simp only [hmcs, if_true, ne_eq, not_true_eq_false, if_false, mcs_send_channel_join_request]
    cases turn.writes 0 with
    | false => exact ⟨_, rfl, rfl, rfl, rfl⟩
    | true => exact ⟨_, rfl, rfl, rfl, .global rfl hnone, rfl⟩
  | global hmcs hnone =>
    cases hchannels : c.channels with
    | nil =>
      rw [hchannels] at hrest
      cases hrest
    | cons first behind =>
      rw [hchannels] at hrest hnone
      cases hrest
      simp only [hmcs, Bool.true_eq_false, if_false, if_true, ne_eq, not_true_eq_false,
        mcs_send_channel_join_request]
      cases turn.writes 0 with
      | false => exact ⟨_, rfl, rfl, rfl, rfl⟩
      | true => exact ⟨_, rfl, rfl, rfl, .static rfl [] first behind rfl nofun hnone, rfl⟩
  | static hmcs before ch behind hchannels hbefore hnone =>
    cases behind with
    | nil => cases hrest
    | cons ch' behind =>
      cases hrest
      have hch := hnone ch mem_cons_self
      have hloop := @join_first.spec before (ch' :: behind) ch ch.channel_id hbefore hch
      have hnext : (before ++ { ch with joined := true } :: ch' :: behind)[before.length + 1]? =
          some ch' := by
        rw [List.getElem?_append_right (Nat.le_add_right _ 1), Nat.add_sub_cancel_left]
        rfl
      rw [if_neg (not_not.mpr rfl), ← hchannels] at hloop
      simp only [hmcs, Bool.true_eq_false, if_false, join_static_channel, hloop, hnext,
        mcs_send_channel_join_request]
      cases turn.writes 0 with
      | false => exact ⟨_, rfl, rfl, rfl, rfl⟩
      | true =>
        refine ⟨_, rfl, rfl, rfl, ?_, rfl⟩
        refine .static rfl (before ++ [{ ch with joined := true }]) ch' behind ?_ ?_ ?_
        · exact (append_assoc before [_] _).symm
        · intro x hx
          rcases mem_append.mp hx with hx | hx
          · exact hbefore x hx
          · rw [mem_singleton.mp hx]
        · exact (forall_mem_cons.mp hnone).2

theorem confirm_last (h : Awaiting c cur []) (hs : confirmed (turn, s) = some cur) :
    ∃ ok c', rdp_client_connect_mcs_channel_join_confirm env turn c s = (ok, c') ∧
      c'.sent = c.sent ∧ c'.client.state = (if ok then .LICENSE else c.client.state) ∧
      ((∀ i, turn.writes i = true) → ok = true) := by
  unfold confirmed at hs
  unfold rdp_client_connect_mcs_channel_join_confirm
  rw [hs]
  generalize hrest : [] = others at h
  cases h with
  | user hmcs hnone => cases hrest
  | global hmcs hnone =>
    cases hchannels : c.channels with
    | nil =>
      simp only [hmcs, Bool.true_eq_false, if_false, if_true, ne_eq, not_true_eq_false]
      exact all_channels_joined.spec env turn 0 _
    | cons first behind =>
      rw [hchannels] at hrest
      cases hrest
  | static hmcs before ch behind hchannels hbefore hnone =>
    cases behind with
    | cons ch' behind => cases hrest
    | nil =>
      have hch := hnone ch mem_cons_self
      have hloop := @join_first.spec before [] ch ch.channel_id hbefore hch
      have hnext : (before ++ [{ ch with joined := true }])[before.length + 1]? = none := by
        rw [List.getElem?_eq_none_iff, length_append]
        rfl
      rw [if_neg (not_not.mpr rfl), ← hchannels] at hloop
      simp only [hmcs, Bool.true_eq_false, if_false, join_static_channel, hloop, hnext]
      exact all_channels_joined.spec env turn 0 _

/-! ## All confirms -/

/-- How far the client gets: the channels that were confirmed, in order, and the ones that
were asked for. -/
structure Progress (c c' : Connection C κ) (cur : Nat) (rest : List Nat)
    (packets : List (Turn × STREAM)) (done asked : List Nat) : Prop where
  done_in_order : done <+: cur :: rest
  done_by_packets : (packets.take done.length).map confirmed = done.map some
  asked_in_order : asked <+: rest
  asked_after_done : asked.length ≤ done.length
  sent : c'.sent = c.sent ++ asked.map (channel_join_request c.rdp.user_id)
  state : c'.client.state = .MCS_CHANNEL_JOIN ∨
    (c'.client.state = .LICENSE ∧ done = cur :: rest ∧ asked = rest)

theorem Progress.stay {done : List Nat} (hdone : done <+: cur :: rest)
    (hpackets : (packets.take done.length).map confirmed = done.map some) (hsent : c'.sent = c.sent)
    (hstate : c'.client.state = .MCS_CHANNEL_JOIN) :
    Progress c c' cur rest packets done [] :=
  ⟨hdone, hpackets, nil_prefix, Nat.zero_le _, by simpa using hsent, .inl hstate⟩

theorem Progress.next {c1 : Connection C κ} {next : Nat} {packet : Turn × STREAM}
    {done asked : List Nat} (hpacket : confirmed packet = some cur)
    (huser : c1.rdp.user_id = c.rdp.user_id)
    (hsent : c1.sent = c.sent ++ [channel_join_request c.rdp.user_id next])
    (h : Progress c1 c' next rest packets done asked) :
    Progress c c' cur (next :: rest) (packet :: packets) (cur :: done) (next :: asked) := by
  refine ⟨?_, ?_, ?_, ?_, ?_, ?_⟩
  · exact cons_prefix_cons.mpr ⟨rfl, h.done_in_order⟩
  · simp [hpacket, h.done_by_packets]
  · exact cons_prefix_cons.mpr ⟨rfl, h.asked_in_order⟩
  · exact Nat.succ_le_succ h.asked_after_done
  · rw [h.sent, hsent, huser, append_assoc]
    rfl
  · rcases h.state with hjoin | ⟨hlicense, rfl, rfl⟩
    · exact .inl hjoin
    · exact .inr ⟨hlicense, rfl, rfl⟩

theorem join_phase_of_ne (h : c.client.state ≠ .MCS_CHANNEL_JOIN) (packets : List (Turn × STREAM)) :
    join_phase env fuel c packets = c := by
  cases packets with
  | nil => rfl
  | cons packet packets => exact if_neg h

theorem join_phase_cons (h : c.client.state = .MCS_CHANNEL_JOIN) (turn : Turn) (s : STREAM)
    (packets : List (Turn × STREAM)) :
    join_phase env fuel c ((turn, s) :: packets) =
      match rdp_client_connect_mcs_channel_join_confirm env turn c s with
      | (true, c) => join_phase env fuel c packets
      | (false, c) => c := by
  rw [join_phase, if_pos h]
  unfold rdp_recv_callback
  simp only [h]
  rcases rdp_client_connect_mcs_channel_join_confirm env turn c s with ⟨ok, c'⟩
  cases ok <;> rfl

theorem join_phase.spec (h : Awaiting c cur rest) (hstate : c.client.state = .MCS_CHANNEL_JOIN)
    (packets : List (Turn × STREAM)) :
    ∃ done asked, Progress c (join_phase env fuel c packets) cur rest packets done asked := by
  induction packets generalizing c cur rest with
  | nil => exact ⟨[], [], .stay nil_prefix rfl rfl hstate⟩
  | cons packet packets ih =>
    obtain ⟨turn, s⟩ := packet
    rw [join_phase_cons env fuel hstate]
    by_cases hs : confirmed (turn, s) = some cur
    · have hone : (((turn, s) :: packets).take [cur].length).map confirmed = [cur].map some := by
        rw [length_singleton, take_succ_cons, map_cons, hs]
        rfl
      cases rest with
      | nil =>
        obtain ⟨ok, c', hrun, hsent, hstate', -⟩ := confirm_last env h hs
        rw [hrun]
        refine ⟨[cur], [], ?_⟩
        cases ok with
        | false => exact .stay (prefix_refl _) hone hsent (hstate'.trans hstate)
        | true =>
          have hlicense : c'.client.state = .LICENSE := hstate'
          dsimp only
          rw [join_phase_of_ne env fuel (by rw [hlicense]; nofun)]
          exact ⟨prefix_refl _, hone, nil_prefix, Nat.zero_le _, by simpa using hsent,
            .inr ⟨hlicense, rfl, rfl⟩⟩
      | cons next rest =>
        obtain ⟨c', hrun, hstate', huser, hsent⟩ := confirm_next env h hs
        rw [hrun]
        cases hwrite : turn.writes 0 with
        | false =>
          rw [hwrite] at hsent
          exact ⟨[cur], [], .stay (cons_prefix_cons.mpr ⟨rfl, nil_prefix⟩) hone hsent
            (hstate'.trans hstate)⟩
        | true =>
          rw [hwrite, if_pos rfl] at hsent
          obtain ⟨done, asked, hprogress⟩ := ih hsent.1 (hstate'.trans hstate)
          exact ⟨cur :: done, next :: asked, hprogress.next hs huser hsent.2⟩
    · rw [confirm_refused env h hs]
      exact ⟨[], [], .stay nil_prefix rfl rfl hstate⟩

theorem join_phase_completes (h : Awaiting c cur rest) (hstate : c.client.state = .MCS_CHANNEL_JOIN)
    (packets : List (Turn × STREAM)) (hwrites : ∀ p ∈ packets, ∀ i, p.1.writes i = true)
    (hall : (packets.take (rest.length + 1)).map confirmed = (cur :: rest).map some) :
    (join_phase env fuel c packets).client.state = .LICENSE := by
  induction packets generalizing c cur rest with
  | nil => cases hall
  | cons packet packets ih =>
    obtain ⟨turn, s⟩ := packet
    rw [take_succ_cons, map_cons, map_cons, List.cons.injEq] at hall
    obtain ⟨hs, hall⟩ := hall
    have hwrite := hwrites (turn, s) mem_cons_self
    rw [join_phase_cons env fuel hstate]
    cases rest with
    | nil =>
      obtain ⟨ok, c', hrun, -, hstate', hok⟩ := confirm_last env h hs
      rw [hok hwrite] at hrun hstate'
      have hlicense : c'.client.state = .LICENSE := hstate'
      rw [hrun]
      dsimp only
      rw [join_phase_of_ne env fuel (by rw [hlicense]; nofun), hlicense]
    | cons next rest =>
      obtain ⟨c', hrun, hstate', -, hsent⟩ := confirm_next env h hs
      rw [hwrite 0] at hrun hsent
      rw [hrun]
      exact ih hsent.1 (hstate'.trans hstate) (forall_mem_cons.mp hwrites).2
        hall

/-! ## The order of the joins -/

/-- Nothing is joined yet. -/
structure NothingJoined (c : Connection C κ) : Prop where
  mcs : c.mcs = ⟨false, false⟩
  channels : ∀ ch ∈ c.channels, ch.joined = false

theorem awaiting_of_attached (hstate : c.client.state = .MCS_ATTACH_USER) (hnone : NothingJoined c)
    (hrun : rdp_recv_callback env fuel turn c s = some (true, c')) :
    Awaiting c' c'.rdp.user_id (MCS_GLOBAL_CHANNEL_ID :: c'.channels.map (·.channel_id)) ∧
      c'.client.state = .MCS_CHANNEL_JOIN ∧
      c'.sent = c.sent ++ [channel_join_request c'.rdp.user_id c'.rdp.user_id] := by
  unfold rdp_recv_callback at hrun
  simp only [hstate, rdp_client_connect_mcs_attach_user_confirm, Option.some.injEq] at hrun
  cases hread : (mcs_recv_attach_user_confirm s).1 with
  | none =>
    rw [hread] at hrun
    cases hrun
  | some user_id =>
    rw [hread] at hrun
    cases hwrite : turn.writes 0 with
    | false =>
      rw [hwrite] at hrun
      cases hrun
    | true =>
      rw [hwrite] at hrun
      cases hrun
      exact ⟨.user hnone.mcs hnone.channels, rfl, rfl⟩

theorem all_joined_before_license
    (h : Awaiting c c.rdp.user_id (MCS_GLOBAL_CHANNEL_ID :: c.channels.map (·.channel_id)))
    (hstate : c.client.state = .MCS_CHANNEL_JOIN)
    (hfirst : c.sent = [channel_join_request c.rdp.user_id c.rdp.user_id])
    (hlicense : (join_phase env fuel c packets).client.state = .LICENSE) :
    (join_phase env fuel c packets).sent =
        (joinOrder c).map (channel_join_request c.rdp.user_id) ∧
      (packets.take (joinOrder c).length).map confirmed = (joinOrder c).map some := by
  obtain ⟨done, asked, hprogress⟩ := join_phase.spec env fuel h hstate packets
  rcases hprogress.state with hstay | ⟨-, hdone, hasked⟩
  · rw [hlicense] at hstay
    cases hstay
  · have hpackets := hprogress.done_by_packets
    rw [hdone] at hpackets
    refine ⟨?_, hpackets⟩
    rw [hprogress.sent, hfirst, hasked]
    rfl

/-- For all channels and all packets of the server: the client asks for the channels in
order, each one once and after the confirm of the one before. If the writes succeed, it goes
on to the licence exactly when all of them were confirmed in order, and has asked for all then. -/
theorem channels_are_joined_once_in_order {turn : Turn} {s : STREAM} {c₀ c : Connection C κ}
    (hstate : c₀.client.state = .MCS_ATTACH_USER) (hnone : NothingJoined c₀)
    (hsent : c₀.sent = []) (hattached : rdp_recv_callback env fuel turn c₀ s = some (true, c))
    (packets : List (Turn × STREAM)) :
    (∃ asked confirms, (join_phase env fuel c packets).sent =
        ((joinOrder c).take asked).map (channel_join_request c.rdp.user_id) ∧
      asked ≤ confirms + 1 ∧
      (packets.take confirms).map confirmed = ((joinOrder c).take confirms).map some) ∧
    ((∀ p ∈ packets, ∀ i, p.1.writes i = true) →
      ((join_phase env fuel c packets).client.state = .LICENSE ↔
        (packets.take (joinOrder c).length).map confirmed = (joinOrder c).map some) ∧
      ((join_phase env fuel c packets).client.state = .LICENSE →
        (join_phase env fuel c packets).sent =
          (joinOrder c).map (channel_join_request c.rdp.user_id))) := by
  obtain ⟨hawaiting, hjoin, hfirst⟩ := awaiting_of_attached env fuel hstate hnone hattached
  rw [hsent, nil_append] at hfirst
  obtain ⟨done, asked, h⟩ := join_phase.spec env fuel hawaiting hjoin packets
  have hsent' := h.sent
  rw [hfirst] at hsent'
  constructor
  · refine ⟨asked.length + 1, done.length, ?_, Nat.succ_le_succ h.asked_after_done, ?_⟩
    · rw [hsent', joinOrder, take_succ_cons, ← prefix_iff_eq_take.mp h.asked_in_order]
      rfl
    · rw [h.done_by_packets, joinOrder, ← prefix_iff_eq_take.mp h.done_in_order]
  · intro hwrites
    refine ⟨⟨fun hlicense => ?_, ?_⟩, fun hlicense => ?_⟩
    · exact (all_joined_before_license env fuel hawaiting hjoin hfirst hlicense).2
    · exact join_phase_completes env fuel hawaiting hjoin packets hwrites
    · exact (all_joined_before_license env fuel hawaiting hjoin hfirst hlicense).1

end

/-! ## A connection with two channels -/

/-- Code around the connection that does nothing. -/
def idleEnvironment : Environment sampleCrypto Unit where
  toUpdateCallbacks := idleHandlers.toUpdateCallbacks
  rdp_recv_save_session_info _ := id
  rdp_recv_enhanced_security_redirection_packet _ := id
  freerdp_channel_process _ _ := id
  decompress_rdp _ _ _ user := (none, user)
  rdp_recv_fastpath_pdu _ rdp user := some (true, rdp, user)
  mcs_recv_connect_response _ user := (some ⟨[1004, 1005], true, 0, []⟩, user)
  license_recv _ rdp user := (.completed, rdp, user)
  rdp_read_capability_sets _ _ user := (true, user)
  rdp_write_info_packet s _ := stream_write s [0, 0, 0, 0]
  confirm_active rdp user := (rdp, user)

/-- All writes succeed. -/
def easyTurn : Turn := ⟨fun _ => true, replicate 32 0, 0⟩

def idleConnection (state : ConnectionState) (user_id : Nat) (channels : List rdpChannel)
    (sent : List (List UInt8)) : Connection sampleCrypto Unit where
  rdp := { plainRdp with user_id }
  client := { idleClient with update := { idleClient.update with context := ⟨0, [], ()⟩ }, state }
  mcs := ⟨false, false⟩
  channels := channels
  encryption := false
  secure_checksum := false
  server_random := []
  sent := sent

def attachConfirmPdu : STREAM := stream_of [3, 0, 0, 11, 2, 0xF0, 0x80, 0x2E, 0, 0, 1]

/-- A Channel Join Confirm PDU. -/
def joinConfirmPdu (channel_id : Nat) : STREAM :=
  stream_of ([3, 0, 0, 15, 2, 0xF0, 0x80, 0x3E, 0, 0, 1, 0, 0] ++ be16 channel_id)

theorem idle_attached : rdp_recv_callback idleEnvironment 9 easyTurn
    (idleConnection .MCS_ATTACH_USER 0 [⟨1004, false⟩, ⟨1005, false⟩] []) attachConfirmPdu =
    some (true, idleConnection .MCS_CHANNEL_JOIN 1002 [⟨1004, false⟩, ⟨1005, false⟩]
      [channel_join_request 1002 1002]) := by
  have hread : (mcs_recv_attach_user_confirm attachConfirmPdu).1 = some 1002 := by
    decide +kernel
  show some (rdp_client_connect_mcs_attach_user_confirm easyTurn _ attachConfirmPdu) = _
  unfold rdp_client_connect_mcs_attach_user_confirm
  rw [hread]
  rfl

theorem channels_are_joined_once_in_order_sample :
    (join_phase idleEnvironment 9
      (idleConnection .MCS_CHANNEL_JOIN 1002 [⟨1004, false⟩, ⟨1005, false⟩]
        [channel_join_request 1002 1002])
      ([1002, 1003, 1004, 1005].map fun id => (easyTurn, joinConfirmPdu id))).client.state =
        .LICENSE := by
  have h := channels_are_joined_once_in_order idleEnvironment 9 rfl ⟨rfl, by decide⟩ rfl
    idle_attached
    ([1002, 1003, 1004, 1005].map fun id => (easyTurn, joinConfirmPdu id))
  apply (h.2 ?_).1.mpr
  · decide +kernel
  · intro p hp i
    obtain ⟨id, -, rfl⟩ := mem_map.mp hp
    rfl

end neutrinordp.connection
