-- A redirection (connection.c): the server sends the client to another server, and the client
-- connects there. Some parts of the connection are made anew and others are kept. The joined
-- channels and the use counts of the keys are kept.
import CorporateClient.ChannelJoins
import CorporateClient.Lib.Codec
import CorporateClient.Lockstep

namespace neutrinordp.connection

open List bytes stream headers security packet

section

variable {C : Crypto} {κ : Type}

/-- What happens with the new server before the first packet: if the negotiation and the
transport come up, if standard RDP security was selected, and if the first message is
written. -/
structure Target where
  connected : Bool
  rdp_security : Bool
  written : Bool

/-- `rdp_client_connect` up to its loop over the packets. `sent` starts anew. -/
def rdp_client_connect (target : Target) (c : Connection C κ) : Bool × Connection C κ :=
  let c := { c with encryption := c.encryption || (target.connected && target.rdp_security) }
  if target.connected = false then (false, c)
  else
    let c := (c.with_session { c.session with finalize_sc_pdus := 0 }).with_state .NEGO
    (target.written, { c with sent := [] })

/-- MCS, the negotiation, the licence and the transport are new. `follow` stands for the
settings that the redirection changes: the target, the user and the password. -/
def rdp_client_redirect (follow : κ → κ) (target : Target) (c : Connection C κ) :
    Bool × Connection C κ :=
  let c := { c with mcs := ⟨false, false⟩, rdp := { c.rdp with user_id := 0 } }
  rdp_client_connect target (c.with_user (follow c.session.user))

/-! ## The use counts -/

theorem security_establish_keys_counts (client_random server_random : Bytes)
    (rdp : rdpRdp C) :
    (security_establish_keys client_random server_random rdp).encrypt.use_count =
        rdp.encrypt.use_count ∧
      (security_establish_keys client_random server_random rdp).decrypt.use_count =
        rdp.decrypt.use_count := by
  unfold security_establish_keys
  split
  · exact ⟨rfl, rfl⟩
  · exact ⟨rfl, rfl⟩

theorem establish_ciphers_counts (secure_checksum : Bool) (rdp : rdpRdp C) :
    (establish_ciphers secure_checksum rdp).encrypt.use_count = rdp.encrypt.use_count ∧
      (establish_ciphers secure_checksum rdp).decrypt.use_count = rdp.decrypt.use_count := by
  unfold establish_ciphers
  dsimp only
  split
  · exact ⟨rfl, rfl⟩
  · exact ⟨rfl, rfl⟩

theorem establish_keys_counts (turn : Turn) (written : Bool) (c : Connection C κ) :
    (rdp_client_establish_keys turn written c).2.rdp.encrypt.use_count =
        c.rdp.encrypt.use_count ∧
      (rdp_client_establish_keys turn written c).2.rdp.decrypt.use_count =
        c.rdp.decrypt.use_count := by
  unfold rdp_client_establish_keys
  split
  · exact ⟨rfl, rfl⟩
  · split
    · exact ⟨rfl, rfl⟩
    · dsimp only
      obtain ⟨hencrypt, hdecrypt⟩ :=
        security_establish_keys_counts turn.client_random c.server_random c.rdp
      rw [← hencrypt, ← hdecrypt]
      exact establish_ciphers_counts _ _

def crypt_all (C : Crypto) (key_len : Nat) (d : Direction) (packets : List (List UInt8)) :
    Direction :=
  packets.foldl (fun d data => (d.crypt C key_len data).2) d

theorem crypt_use_count (C : Crypto) (key_len : Nat) (d : Direction) (data : Bytes) :
    (d.crypt C key_len data).2.use_count = countAfterUpdate d.use_count + 1 := by
  unfold Direction.crypt Direction.refresh countAfterUpdate
  split <;> rfl

theorem key_update_iff (C : Crypto) (key_len : Nat) (d : Direction) (packets : List Bytes) :
    (crypt_all C key_len d packets).use_count ≥ 4096 ↔ AtKeyUpdate d.use_count packets.length := by
  induction packets generalizing d with
  | nil => exact (atKeyUpdate_zero _).symm
  | cons data packets ih =>
    rw [length_cons, atKeyUpdate_succ, ← crypt_use_count]
    exact ih _

variable (env : Environment C κ) (fuel : Nat)

/-- The connections while the channels are joined. -/
inductive Joining (c₀ : Connection C κ) : Connection C κ → Prop
  | start : Joining c₀ c₀
  | packet {turn : Turn} {s : STREAM} {c c' : Connection C κ} : Joining c₀ c →
      rdp_recv_callback env fuel turn c s = some (true, c') →
      c'.client.state = .MCS_CHANNEL_JOIN → Joining c₀ c'

variable {c c' : Connection C κ} {turn : Turn} {s : STREAM}

theorem all_channels_joined_leaves {n : Nat} (h : all_channels_joined env turn n c = (true, c')) :
    c'.client.state ≠ .MCS_CHANNEL_JOIN := by
  obtain ⟨ok, c1, hrun, -, hstate, -⟩ := all_channels_joined.spec env turn n c
  rw [hrun] at h
  cases h
  rw [hstate]
  nofun

theorem send_join_request_rdp {written : Bool} {id : Nat} {ok : Bool}
    (h : mcs_send_channel_join_request written c id = (ok, c')) : c'.rdp = c.rdp := by
  unfold mcs_send_channel_join_request at h
  split at h
  · cases h
    rfl
  · cases h
    rfl

theorem confirm_keeps_rdp
    (h : rdp_client_connect_mcs_channel_join_confirm env turn c s = (true, c'))
    (hstate : c'.client.state = .MCS_CHANNEL_JOIN) : c'.rdp = c.rdp := by
  unfold rdp_client_connect_mcs_channel_join_confirm at h
  split at h
  · cases h
  · split at h
    · split at h
      · cases h
      · dsimp only at h
        split at h
        · cases h
        · rename_i c1 hsend
          split at h
          · exact absurd hstate (all_channels_joined_leaves env h)
          · cases h
            have hrdp := send_join_request_rdp hsend
            exact hrdp
    · split at h
      · split at h
        · cases h
        · dsimp only at h
          split at h
          · have hrdp := send_join_request_rdp h
            exact hrdp
          · exact absurd hstate (all_channels_joined_leaves env h)
      · unfold join_static_channel at h
        split at h
        · cases h
        · dsimp only at h
          split at h
          · have hrdp := send_join_request_rdp h
            exact hrdp
          · exact absurd hstate (all_channels_joined_leaves env h)

theorem Joining.rdp {c0 : Connection C κ} (hstart : c0.client.state = .MCS_CHANNEL_JOIN)
    (h : Joining env fuel c0 c) :
    c.client.state = .MCS_CHANNEL_JOIN ∧ c.rdp = c0.rdp := by
  induction h with
  | start => exact ⟨hstart, rfl⟩
  | packet _ hrun hstate ih =>
    unfold rdp_recv_callback at hrun
    rw [ih.1] at hrun
    exact ⟨hstate, (confirm_keeps_rdp env (Option.some.inj hrun) hstate).trans ih.2⟩

/-! ## Channels that are joined already -/

/-- A confirm of the server, when all writes succeed. -/
def confirmPacket (channel_id : Nat) : Turn × STREAM := (easyTurn, joinConfirmPdu channel_id)

theorem confirmed_confirmPacket {channel_id : Nat} (h : channel_id < 65536) :
    (mcs_recv_channel_join_confirm (joinConfirmPdu channel_id)).1 = some channel_id := by
  have hread : ∀ a b : UInt8, (mcs_recv_channel_join_confirm
      (stream_of [3, 0, 0, 15, 2, 0xF0, 0x80, 0x3E, 0, 0, 1, 0, 0, a, b])).1 =
        some (ofBe16 a b) := fun _ _ => by
    with_unfolding_all rfl
  have hid := hread (UInt8.ofNat (channel_id >>> 8)) (UInt8.ofNat channel_id)
  rw [ofBe16_be16, Nat.mod_eq_of_lt h] at hid
  exact hid

theorem join_first_all {channels : List rdpChannel} (channel_id : Nat)
    (h : ∀ ch ∈ channels, ch.joined = true) :
    join_first channel_id channels = some (channels.length, channels) := by
  induction channels with
  | nil => rfl
  | cons ch channels ih =>
    have hch := h ch mem_cons_self
    have ih := ih (forall_mem_cons.mp h).2
    simp [join_first, hch, ih]

theorem split_at_first (channels : List rdpChannel) :
    (∀ ch ∈ channels, ch.joined = true) ∨
      ∃ before ch behind, channels = before ++ ch :: behind ∧ ch.joined = false ∧
        ∀ x ∈ before, x.joined = true := by
  induction channels with
  | nil => exact .inl nofun
  | cons ch channels ih =>
    cases hch : ch.joined with
    | false => exact .inr ⟨[], ch, channels, rfl, hch, nofun⟩
    | true =>
      rcases ih with hall | ⟨before, ch', behind, rfl, hch', hbefore⟩
      · refine .inl fun x hx => ?_
        rcases mem_cons.mp hx with rfl | hx
        · exact hch
        · exact hall x hx
      · refine .inr ⟨ch :: before, ch', behind, rfl, hch', fun x hx => ?_⟩
        rcases mem_cons.mp hx with rfl | hx
        · exact hch
        · exact hbefore x hx

/-- How many channels are not joined. -/
def unjoined (channels : List rdpChannel) : Nat := channels.countP (!·.joined)

theorem join_phase_static (hstate : c.client.state = .MCS_CHANNEL_JOIN)
    (hmcs : c.mcs = ⟨true, true⟩) {channel_id : Nat} (hid : channel_id < 65536)
    (packets : List (Turn × STREAM)) :
    join_phase env fuel c (confirmPacket channel_id :: packets) =
      match join_static_channel env easyTurn c channel_id with
      | (true, c) => join_phase env fuel c packets
      | (false, c) => c := by
  rw [confirmPacket, join_phase_cons env fuel hstate]
  unfold rdp_client_connect_mcs_channel_join_confirm
  rw [confirmed_confirmPacket hid]
  dsimp only
  rw [hmcs]
  rfl

theorem all_channels_joined_license (n : Nat) (c : Connection C κ)
    (packets : List (Turn × STREAM)) :
    (match all_channels_joined env easyTurn n c with
      | (true, c) => join_phase env fuel c packets
      | (false, c) => c).client.state = .LICENSE := by
  obtain ⟨ok, c', hrun, -, hstate, hok⟩ := all_channels_joined.spec env easyTurn n c
  rw [hok fun _ => rfl] at hrun hstate
  rw [hrun]
  have hlicense : c'.client.state = .LICENSE := hstate
  dsimp only
  rw [join_phase_of_ne env fuel (by rw [hlicense]; nofun), hlicense]

theorem exists_short_phase {any : Nat} (hany : any < 65536)
    (hstate : c.client.state = .MCS_CHANNEL_JOIN) (hmcs : c.mcs = ⟨true, true⟩)
    (hids : ∀ ch ∈ c.channels, ch.channel_id < 65536) :
    ∃ ids : List Nat, (∀ id ∈ ids, id < 65536) ∧
      (join_phase env fuel c (ids.map confirmPacket)).client.state = .LICENSE ∧
      (ids.length ≤ unjoined c.channels ∨
        (ids.length = unjoined c.channels + 1 ∧ ids.getLast? = some any)) := by
  generalize hn : unjoined c.channels = n
  induction n generalizing c with
  | zero =>
    have hall : ∀ ch ∈ c.channels, ch.joined = true := by
      simpa [unjoined, countP_eq_zero] using hn
    refine ⟨[any], by simpa using hany, ?_, .inr ⟨rfl, rfl⟩⟩
    rw [map_cons, join_phase_static env fuel hstate hmcs hany]
    unfold join_static_channel
    rw [join_first_all any hall]
    dsimp only
    rw [List.getElem?_eq_none (Nat.le_succ _)]
    exact all_channels_joined_license env fuel 0 _ _
  | succ n ih =>
    rcases split_at_first c.channels with hall | ⟨before, ch, behind, hchannels, hch, hbefore⟩
    · have hzero : unjoined c.channels = 0 := by
        simpa [unjoined, countP_eq_zero] using hall
      rw [hn] at hzero
      cases hzero
    · have hid : ch.channel_id < 65536 := hids ch (by rw [hchannels]; simp)
      have hloop := @join_first.spec before behind ch ch.channel_id hbefore hch
      rw [if_neg (not_not.mpr rfl), ← hchannels] at hloop
      cases behind with
      | nil =>
        refine ⟨[ch.channel_id], by simpa using hid, ?_, .inl (Nat.succ_le_succ n.zero_le)⟩
        have hnext : (before ++ [{ ch with joined := true }])[before.length + 1]? = none := by
          rw [List.getElem?_eq_none_iff, length_append]
          rfl
        rw [map_cons, join_phase_static env fuel hstate hmcs hid]
        unfold join_static_channel
        simp only [hloop, hnext]
        exact all_channels_joined_license env fuel 0 _ _
      | cons next behind =>
        have hnext : (before ++ { ch with joined := true } :: next :: behind)[before.length + 1]? =
            some next := by
          rw [List.getElem?_append_right (Nat.le_add_right _ 1), Nat.add_sub_cancel_left]
          rfl
        have hrun : ∃ c', join_static_channel env easyTurn c ch.channel_id = (true, c') ∧
            c'.client.state = .MCS_CHANNEL_JOIN ∧ c'.mcs = ⟨true, true⟩ ∧
            c'.channels = before ++ { ch with joined := true } :: next :: behind := by
          unfold join_static_channel
          simp only [hloop, hnext]
          exact ⟨_, rfl, hstate, hmcs, rfl⟩
        obtain ⟨c', hrun, hstate', hmcs', hchannels'⟩ := hrun
        have hids' : ∀ x ∈ c'.channels, x.channel_id < 65536 := by
          rw [hchannels, forall_mem_append, forall_mem_cons] at hids
          rw [hchannels', forall_mem_append, forall_mem_cons]
          exact hids
        have hless : unjoined c'.channels = n := by
          rw [hchannels] at hn
          rw [hchannels']
          simp only [unjoined, countP_append, countP_cons, hch] at hn ⊢
          simp at hn ⊢
          omega
        obtain ⟨ids, hall, hlicense, hlength⟩ := ih hstate' hmcs' hids' hless
        refine ⟨ch.channel_id :: ids, ?_, ?_, ?_⟩
        · exact forall_mem_cons.mpr ⟨hid, hall⟩
        · rw [map_cons, join_phase_static env fuel hstate hmcs hid, hrun]
          exact hlicense
        · rcases hlength with hle | ⟨hlength, hlast⟩
          · exact .inl (Nat.succ_le_succ hle)
          · refine .inr ⟨by rw [length_cons, hlength], ?_⟩
            rw [List.getLast?_cons, hlast]
            rfl

theorem join_phase_to_static (hstate : c.client.state = .MCS_CHANNEL_JOIN)
    (hmcs : c.mcs = ⟨false, false⟩) (huser : c.rdp.user_id < 65536) (hne : c.channels ≠ []) :
    ∃ c', c'.client.state = .MCS_CHANNEL_JOIN ∧ c'.mcs = ⟨true, true⟩ ∧
      c'.channels = c.channels ∧ ∀ packets, join_phase env fuel c
        (confirmPacket c.rdp.user_id :: confirmPacket MCS_GLOBAL_CHANNEL_ID :: packets) =
          join_phase env fuel c' packets := by
  have hglobal := @confirmed_confirmPacket MCS_GLOBAL_CHANNEL_ID (by decide)
  obtain ⟨first, behind, hchannels⟩ := exists_cons_of_ne_nil hne
  have hone : ∃ c1, rdp_client_connect_mcs_channel_join_confirm env easyTurn c
      (joinConfirmPdu c.rdp.user_id) = (true, c1) ∧ c1.client.state = .MCS_CHANNEL_JOIN ∧
      c1.mcs = ⟨true, false⟩ ∧ c1.channels = first :: behind := by
    unfold rdp_client_connect_mcs_channel_join_confirm
    simp only [confirmed_confirmPacket huser, hmcs, if_true, ne_eq, not_true_eq_false, if_false]
    exact ⟨_, rfl, hstate, rfl, hchannels⟩
  obtain ⟨c1, hrun1, hstate1, hmcs1, hchannels1⟩ := hone
  have htwo : ∃ c2, rdp_client_connect_mcs_channel_join_confirm env easyTurn c1
      (joinConfirmPdu MCS_GLOBAL_CHANNEL_ID) = (true, c2) ∧
      c2.client.state = .MCS_CHANNEL_JOIN ∧ c2.mcs = ⟨true, true⟩ ∧
      c2.channels = first :: behind := by
    unfold rdp_client_connect_mcs_channel_join_confirm
    simp only [hglobal, hmcs1, Bool.true_eq_false, if_true, ne_eq, not_true_eq_false, if_false,
      hchannels1]
    exact ⟨_, rfl, hstate1, rfl, rfl⟩
  obtain ⟨c2, hrun2, hstate2, hmcs2, hchannels2⟩ := htwo
  refine ⟨c2, hstate2, hmcs2, hchannels2.trans hchannels.symm, fun packets => ?_⟩
  rw [confirmPacket, confirmPacket, join_phase_cons env fuel hstate, hrun1]
  dsimp only
  rw [join_phase_cons env fuel hstate1, hrun2]

/-- Every channel is asked for and confirmed before the licence. -/
def JoinsAll (c : Connection C κ) : Prop :=
  ∀ packets, (∀ p ∈ packets, ∀ i, p.1.writes i = true) →
    (join_phase env fuel c packets).client.state = .LICENSE →
    (join_phase env fuel c packets).sent =
        (joinOrder c).map (channel_join_request c.rdp.user_id) ∧
      (packets.take (joinOrder c).length).map confirmed = (joinOrder c).map some

theorem map_confirmed {ids : List Nat} (h : ∀ id ∈ ids, id < 65536) :
    (ids.map confirmPacket).map confirmed = ids.map some := by
  rw [map_map]
  exact map_congr_left fun id hid => confirmed_confirmPacket (h id hid)

theorem nothing_joined_of_joinsAll (hstate : c.client.state = .MCS_CHANNEL_JOIN)
    (hmcs : c.mcs = ⟨false, false⟩) (huser : c.rdp.user_id < 65536)
    (hids : ∀ ch ∈ c.channels, ch.channel_id < 65536) (h : JoinsAll env fuel c) :
    ∀ ch ∈ c.channels, ch.joined = false := by
  intro ch hch
  by_contra hjoined
  have hne : c.channels ≠ [] := ne_nil_of_mem hch
  have hfewer : unjoined c.channels < c.channels.length := by
    refine lt_of_le_of_ne countP_le_length fun hall => hjoined ?_
    simpa using countP_eq_length.mp hall ch hch
  -- The last id is not the one of the last channel.
  obtain ⟨any, hany, hlast⟩ : ∃ any, any < 65536 ∧
      (c.channels.map (·.channel_id)).getLast? ≠ some any := by
    by_cases hzero : (c.channels.map (·.channel_id)).getLast? = some 0
    · exact ⟨1, by decide, by rw [hzero]; decide⟩
    · exact ⟨0, by decide, hzero⟩
  obtain ⟨c', hstate', hmcs', hchannels', hphase⟩ :=
    join_phase_to_static env fuel hstate hmcs huser hne
  rw [← hchannels'] at hids hfewer
  obtain ⟨ids, hsmall, hlicense, hlength⟩ := exists_short_phase env fuel hany hstate' hmcs' hids
  have hconfirms : ∀ id ∈ c.rdp.user_id :: MCS_GLOBAL_CHANNEL_ID :: ids, id < 65536 := by
    intro id hid
    rcases mem_cons.mp hid with rfl | hid
    · exact huser
    · rcases mem_cons.mp hid with rfl | hid
      · decide
      · exact hsmall id hid
  have hall := (h ((c.rdp.user_id :: MCS_GLOBAL_CHANNEL_ID :: ids).map confirmPacket) ?_ ?_).2
  · rw [map_take, map_confirmed hconfirms, ← map_take,
      map_inj_right fun _ _ => Option.some.inj] at hall
    simp only [joinOrder, length_cons, length_map, take_succ_cons,
      List.cons.injEq, true_and] at hall
    have htake := congrArg length hall
    rw [length_take, length_map, ← hchannels'] at htake
    rcases hlength with hle | ⟨hlength, hend⟩
    · omega
    · rw [take_of_length_le (by rw [← hchannels']; omega)] at hall
      rw [hall] at hend
      exact hlast hend
  · intro p hp i
    obtain ⟨id, -, rfl⟩ := mem_map.mp hp
    rfl
  · rw [map_cons, map_cons, hphase]
    exact hlicense

/-! ## The new connection -/

theorem joined_set_channel_ids (ids : List Nat) (channels : List rdpChannel) :
    (∀ ch ∈ set_channel_ids ids channels, ch.joined = false) ↔
      ∀ ch ∈ channels, ch.joined = false := by
  constructor
  · intro h ch hch
    obtain ⟨i, hi, rfl⟩ := getElem_of_mem hch
    have hmapped := h _ (mem_mapIdx.mpr ⟨i, hi, rfl⟩)
    exact hmapped
  · intro h ch hch
    obtain ⟨i, hi, rfl⟩ := mem_mapIdx.mp hch
    have hkept := h _ (getElem_mem hi)
    exact hkept

/-- What the two first answers of the server leave of a connection. -/
structure Carried (c c' : Connection C κ) : Prop where
  mcs : c'.mcs = c.mcs
  joined : (∀ ch ∈ c'.channels, ch.joined = false) ↔ ∀ ch ∈ c.channels, ch.joined = false
  encrypt_use_count : c'.rdp.encrypt.use_count = c.rdp.encrypt.use_count
  decrypt_use_count : c'.rdp.decrypt.use_count = c.rdp.decrypt.use_count

theorem carried_response (hstate : c.client.state = .NEGO)
    (h : rdp_recv_callback env fuel turn c s = some (true, c')) :
    Carried c c' ∧ c'.client.state = .MCS_ATTACH_USER ∧ c'.sent = c.sent := by
  unfold rdp_recv_callback at h
  rw [hstate] at h
  replace h := Option.some.inj h
  unfold rdp_client_connect_mcs_connect_response at h
  split at h
  · cases h
  · dsimp only at h
    split at h
    · cases h
    · split at h
      · cases h
      · cases h
        exact ⟨⟨rfl, joined_set_channel_ids _ _, rfl, rfl⟩, rfl, rfl⟩

theorem attach_user_id_lt {user_id : Nat} (h : (mcs_recv_attach_user_confirm s).1 = some user_id) :
    user_id < 65536 := by
  unfold mcs_recv_attach_user_confirm at h
  rcases hcheck : mcs_read_domain_mcspdu_header_check DomainMCSPDU_AttachUserConfirm s
    with ⟨ok, s1⟩
  rw [codec.run_bind hcheck] at h
  cases ok with
  | false => cases h
  | true =>
    rcases henum : per_read_enumerated s1 with ⟨result, s2⟩
    rw [if_neg Bool.true_eq_false.mp, codec.run_bind henum] at h
    have hlt := ofBe16_lt (byte_at s2 s2.pos) (byte_at s2 (s2.pos + 1))
    have heq : (if ofBe16 (byte_at s2 s2.pos) (byte_at s2 (s2.pos + 1)) + MCS_BASE_CHANNEL_ID >
        0xFFFF then _ else _) = user_id := Option.some.inj h
    split at heq
    · omega
    · omega

theorem carried_attached (hstate : c.client.state = .MCS_ATTACH_USER)
    (h : rdp_recv_callback env fuel turn c s = some (true, c')) :
    Carried c c' ∧ c'.client.state = .MCS_CHANNEL_JOIN ∧ c'.rdp.user_id < 65536 := by
  unfold rdp_recv_callback at h
  rw [hstate] at h
  replace h := Option.some.inj h
  unfold rdp_client_connect_mcs_attach_user_confirm at h
  split at h
  · cases h
  · rename_i user_id hread
    cases hwrite : turn.writes 0 with
    | false =>
      rw [hwrite] at h
      cases h
    | true =>
      rw [hwrite] at h
      cases h
      exact ⟨⟨rfl, Iff.rfl, rfl, rfl⟩, rfl, attach_user_id_lt hread⟩

/-- The new connection `c'` of a redirection, which is at `c` when the client has its user
id, is like a first one: all channels are joined, the set of finalization PDUs is empty, and
the new keys are used from the count 0 on, so they are updated after each 4096 packets. -/
structure Afresh (c' c : Connection C κ) : Prop where
  joins : JoinsAll env fuel c
  finalization : c'.session.finalize_sc_pdus = 0
  counts : ∀ c₁, Joining env fuel c c₁ → ∀ turn c₂,
    rdp_client_establish_keys turn true c₁ = (true, c₂) →
    c₂.rdp.encrypt.use_count = 0 ∧ c₂.rdp.decrypt.use_count = 0
  key_updates : ∀ c₁, Joining env fuel c c₁ → ∀ turn c₂,
    rdp_client_establish_keys turn true c₁ = (true, c₂) → ∀ packets,
    ((crypt_all C c₂.rdp.rc4_key_len c₂.rdp.encrypt packets).use_count ≥ 4096 ↔
      AtKeyUpdate 0 packets.length) ∧
    ((crypt_all C c₂.rdp.rc4_key_len c₂.rdp.decrypt packets).use_count ≥ 4096 ↔
      AtKeyUpdate 0 packets.length)

/-- The first session has joined no channel and has encrypted nothing. -/
structure NothingLeft (c : Connection C κ) : Prop where
  channels : ∀ ch ∈ c.channels, ch.joined = false
  encrypt_use_count : c.rdp.encrypt.use_count = 0
  decrypt_use_count : c.rdp.decrypt.use_count = 0

theorem establish_keys_true (turn : Turn) (c : Connection C κ) :
    ∃ c', rdp_client_establish_keys turn true c = (true, c') := by
  unfold rdp_client_establish_keys
  split
  · exact ⟨_, rfl⟩
  · exact ⟨_, rfl⟩

/-- For every first session: after the redirection all is as in a first connection exactly
when the first session has left nothing. -/
theorem redirected_connection_is_afresh_iff {follow : κ → κ} {target : Target}
    {turn₁ turn₂ : Turn} {s₁ s₂ : STREAM} {c c' c₁ c₂ : Connection C κ}
    (hredirect : rdp_client_redirect follow target c = (true, c'))
    (hresponse : rdp_recv_callback env fuel turn₁ c' s₁ = some (true, c₁))
    (hattached : rdp_recv_callback env fuel turn₂ c₁ s₂ = some (true, c₂))
    (hids : ∀ ch ∈ c₂.channels, ch.channel_id < 65536) :
    Afresh env fuel c' c₂ ↔ NothingLeft c := by
  have hnew : c'.client.state = .NEGO ∧ c'.session.finalize_sc_pdus = 0 ∧ c'.sent = [] ∧
      c'.mcs = ⟨false, false⟩ ∧ c'.channels = c.channels ∧
      c'.rdp.encrypt = c.rdp.encrypt ∧ c'.rdp.decrypt = c.rdp.decrypt := by
    unfold rdp_client_redirect rdp_client_connect at hredirect
    split at hredirect
    · cases hredirect
    · obtain ⟨-, rfl⟩ := Prod.mk.inj hredirect
      exact ⟨rfl, rfl, rfl, rfl, rfl, rfl, rfl⟩
  obtain ⟨hstate', hfinal, hsent', hmcs', hchannels', hencrypt', hdecrypt'⟩ := hnew
  obtain ⟨hcarried₁, hstate₁, hsent₁⟩ := carried_response env fuel hstate' hresponse
  obtain ⟨hcarried₂, hstate₂, huser⟩ := carried_attached env fuel hstate₁ hattached
  have hmcs₁ : c₁.mcs = ⟨false, false⟩ := hcarried₁.mcs.trans hmcs'
  have hjoined : (∀ ch ∈ c₂.channels, ch.joined = false) ↔
      ∀ ch ∈ c.channels, ch.joined = false := by
    rw [hcarried₂.joined, hcarried₁.joined, hchannels']
  have hencrypt : c₂.rdp.encrypt.use_count = c.rdp.encrypt.use_count := by
    rw [hcarried₂.encrypt_use_count, hcarried₁.encrypt_use_count, hencrypt']
  have hdecrypt : c₂.rdp.decrypt.use_count = c.rdp.decrypt.use_count := by
    rw [hcarried₂.decrypt_use_count, hcarried₁.decrypt_use_count, hdecrypt']
  have hkeys : ∀ c₃, Joining env fuel c₂ c₃ → ∀ turn c₄,
      rdp_client_establish_keys turn true c₃ = (true, c₄) →
      c₄.rdp.encrypt.use_count = c.rdp.encrypt.use_count ∧
        c₄.rdp.decrypt.use_count = c.rdp.decrypt.use_count := by
    intro c₃ hjoining turn c₄ hrun
    have hcounts := establish_keys_counts turn true c₃
    rw [hrun, (hjoining.rdp env fuel hstate₂).2, hencrypt, hdecrypt] at hcounts
    exact hcounts
  constructor
  · intro h
    obtain ⟨c₃, hrun⟩ := establish_keys_true easyTurn c₂
    obtain ⟨hzero, hzero'⟩ := h.counts c₂ .start easyTurn c₃ hrun
    obtain ⟨hkept, hkept'⟩ := hkeys c₂ .start easyTurn c₃ hrun
    refine ⟨hjoined.mp ?_, hkept.symm.trans hzero, hkept'.symm.trans hzero'⟩
    exact nothing_joined_of_joinsAll env fuel hstate₂ (hcarried₂.mcs.trans hmcs₁) huser hids
      h.joins
  · intro h
    have hnone : NothingJoined c₁ := ⟨hmcs₁, hcarried₂.joined.mp (hjoined.mpr h.channels)⟩
    obtain ⟨hawaiting, hjoin, hfirst⟩ := awaiting_of_attached env fuel hstate₁ hnone hattached
    rw [hsent₁, hsent', nil_append] at hfirst
    refine ⟨?_, hfinal, ?_, ?_⟩
    · intro packets _ hlicense
      exact all_joined_before_license env fuel hawaiting hjoin hfirst hlicense
    · intro c₃ hjoining turn c₄ hrun
      obtain ⟨hkept, hkept'⟩ := hkeys c₃ hjoining turn c₄ hrun
      exact ⟨hkept.trans h.encrypt_use_count, hkept'.trans h.decrypt_use_count⟩
    · intro c₃ hjoining turn c₄ hrun packets
      obtain ⟨hkept, hkept'⟩ := hkeys c₃ hjoining turn c₄ hrun
      rw [h.encrypt_use_count] at hkept
      rw [h.decrypt_use_count] at hkept'
      rw [key_update_iff, key_update_iff, hkept, hkept']
      exact ⟨Iff.rfl, Iff.rfl⟩

end

/-! ## A session with two channels -/

/-- The new server. -/
def newTarget : Target := ⟨true, false, true⟩

/-- A first session. -/
def firstSession (joined : Bool) (use_count : Nat) : Connection sampleCrypto Unit :=
  let c := idleConnection .ACTIVE 1002 [⟨1004, joined⟩, ⟨1005, joined⟩] []
  { c with rdp := { c.rdp with encrypt := { c.rdp.encrypt with use_count } } }

def redirected (c : Connection sampleCrypto Unit) : Connection sampleCrypto Unit :=
  (rdp_client_redirect id newTarget c).2

theorem redirected_connection_is_afresh_sample :
    Afresh idleEnvironment 9 (redirected (firstSession false 0))
      (idleConnection .MCS_CHANNEL_JOIN 1002 [⟨1004, false⟩, ⟨1005, false⟩]
        [channel_join_request 1002 1002]) := by
  have hredirect : rdp_client_redirect id newTarget (firstSession false 0) =
      (true, redirected (firstSession false 0)) := rfl
  have hresponse : rdp_recv_callback idleEnvironment 9 easyTurn
      (redirected (firstSession false 0)) attachConfirmPdu =
        some (true, idleConnection .MCS_ATTACH_USER 0 [⟨1004, false⟩, ⟨1005, false⟩] []) := rfl
  apply (redirected_connection_is_afresh_iff idleEnvironment 9 hredirect hresponse
    idle_attached (by decide)).mpr
  exact ⟨by decide, rfl, rfl⟩

/-- The channels of the first session are taken for joined: the first confirm of a static
channel, which is for another one here, ends the phase. -/
theorem redirected_connection_is_afresh_counterexample :
    ∃ c₁ c₂, rdp_recv_callback idleEnvironment 9 easyTurn (redirected (firstSession true 17))
        attachConfirmPdu = some (true, c₁) ∧
      rdp_recv_callback idleEnvironment 9 easyTurn c₁ attachConfirmPdu = some (true, c₂) ∧
      ¬ Afresh idleEnvironment 9 (redirected (firstSession true 17)) c₂ := by
  have hrun : ((rdp_recv_callback idleEnvironment 9 easyTurn (redirected (firstSession true 17))
      attachConfirmPdu).bind fun r₁ =>
        (rdp_recv_callback idleEnvironment 9 easyTurn r₁.2 attachConfirmPdu).map fun r₂ =>
          (r₁.1, r₂.1, (joinOrder r₂.2).length,
            (join_phase idleEnvironment 9 r₂.2 ([1002, 1003, 1005].map confirmPacket)).client.state,
            (join_phase idleEnvironment 9 r₂.2
              ([1002, 1003, 1005].map confirmPacket)).sent.length)) =
      some (true, true, 4, .LICENSE, 3) := by
    decide +kernel
  obtain ⟨⟨ok₁, c₁⟩, hc₁, hrun⟩ := Option.bind_eq_some_iff.mp hrun
  obtain ⟨⟨ok₂, c₂⟩, hc₂, hphase⟩ := Option.map_eq_some_iff.mp hrun
  simp only [Prod.mk.injEq] at hphase
  obtain ⟨rfl, rfl, horder, hlicense, hsent⟩ := hphase
  refine ⟨c₁, c₂, hc₁, hc₂, fun hafresh => ?_⟩
  obtain ⟨hall, -⟩ := hafresh.joins _ (by simp [confirmPacket, easyTurn]) hlicense
  rw [hall, length_map, horder] at hsent
  exact absurd hsent (by decide)

end neutrinordp.connection
