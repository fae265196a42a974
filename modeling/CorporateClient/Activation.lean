-- The start of a session after a Demand Active PDU. The client waits for four finalization
-- PDUs and is active then. The bits of the PDUs that came are never cleared, so a session that
-- starts again does not wait for them any more.
import CorporateClient.ChannelJoins

namespace neutrinordp.connection

open List bytes stream headers security packet update slowpath

/-! ## The set of finalization PDUs -/

def FinalizationPdu.bit : FinalizationPdu → UInt32
  | .synchronize => FINALIZE_SC_SYNCHRONIZE_PDU
  | .control_cooperate => FINALIZE_SC_CONTROL_COOPERATE_PDU
  | .control_granted => FINALIZE_SC_CONTROL_GRANTED_PDU
  | .font_map => FINALIZE_SC_FONT_MAP_PDU

/-- The bits of some PDUs. -/
def bitsOf : List FinalizationPdu → UInt32
  | [] => 0
  | pdu :: pdus => pdu.bit ||| bitsOf pdus

theorem bitsOf_append (a b : List FinalizationPdu) : bitsOf (a ++ b) = bitsOf a ||| bitsOf b := by
  induction a with
  | nil => exact UInt32.zero_or.symm
  | cons pdu a ih => rw [cons_append, bitsOf, ih, bitsOf, UInt32.or_assoc]

/-- The bits by what is in the set. -/
def bitsIf (synchronize cooperate granted font_map : Bool) : UInt32 :=
  (if synchronize then FINALIZE_SC_SYNCHRONIZE_PDU else 0) |||
  (if cooperate then FINALIZE_SC_CONTROL_COOPERATE_PDU else 0) |||
  (if granted then FINALIZE_SC_CONTROL_GRANTED_PDU else 0) |||
  (if font_map then FINALIZE_SC_FONT_MAP_PDU else 0)

theorem bitsOf_eq (pdus : List FinalizationPdu) :
    bitsOf pdus = bitsIf (pdus.contains .synchronize) (pdus.contains .control_cooperate)
      (pdus.contains .control_granted) (pdus.contains .font_map) := by
  induction pdus with
  | nil => rfl
  | cons pdu pdus ih =>
    rw [bitsOf, ih]
    simp only [contains_cons]
    generalize pdus.contains .synchronize = a
    generalize pdus.contains .control_cooperate = b
    generalize pdus.contains .control_granted = c
    generalize pdus.contains .font_map = d
    revert a b c d
    cases pdu <;> decide

theorem bitsIf_complete : ∀ a b c d, bitsIf a b c d = FINALIZE_SC_COMPLETE → a ∧ b ∧ c ∧ d := by
  decide

theorem mem_of_complete {pdus : List FinalizationPdu} (h : bitsOf pdus = FINALIZE_SC_COMPLETE)
    (pdu : FinalizationPdu) : pdu ∈ pdus := by
  rw [bitsOf_eq] at h
  obtain ⟨hs, hc, hg, hf⟩ := bitsIf_complete _ _ _ _ h
  rw [← contains_iff_mem]
  cases pdu
  · exact hs
  · exact hc
  · exact hg
  · exact hf

/-! ## What the share PDUs of a packet do -/

section

variable {C : Crypto} {κ : Type}

/-- A Deactivate All PDU is among the handlers that were entered. -/
def deactivates (events : List Event) : Bool := events.any (·.handler == .deactivate_all)

/-- The client after the handlers `events`, with the finalization PDUs that they took. -/
structure Moves (c c' : Client (Session κ)) (pdus : List FinalizationPdu) (events : List Event) :
    Prop where
  log : c'.log = c.log ++ events
  received : c'.update.context.received = c.update.context.received ++ pdus
  finalize : c'.update.context.finalize_sc_pdus = c.update.context.finalize_sc_pdus ||| bitsOf pdus
  state : c'.state = if deactivates events then .CAPABILITY else c.state

/-- The client after share PDUs of some types. -/
def Moved (types : List Nat) (c c' : Client (Session κ)) : Prop :=
  ∃ pdus events, Moves c c' pdus events ∧ (pdus ≠ [] → PDU_TYPE_DATA ∈ types) ∧
    (deactivates events → PDU_TYPE_DEACTIVATE_ALL ∈ types)

/-- The part of the session that only the finalization PDUs change. -/
def Session.core (session : Session κ) : UInt32 × List FinalizationPdu :=
  (session.finalize_sc_pdus, session.received)

variable {types : List Nat}

variable {c c' : Client (Session κ)}

theorem Moved.of_core (hlog : c'.log = c.log)
    (hcore : c'.update.context.core = c.update.context.core) (hstate : c'.state = c.state) :
    Moved types c c' := by
  refine ⟨[], [], ⟨?_, ?_, ?_, hstate⟩, absurd rfl, nofun⟩
  · rw [hlog, append_nil]
  · rw [append_nil]
    exact congrArg Prod.snd hcore
  · rw [bitsOf, UInt32.or_zero]
    exact congrArg Prod.fst hcore

theorem Moved.refl (c : Client (Session κ)) : Moved types c c := .of_core rfl rfl rfl

theorem Moved.mono {types' : List Nat} (h : Moved types c c')
    (hsub : types ⊆ types') : Moved types' c c' := by
  obtain ⟨pdus, events, hmoves, hdata, hdeactivate⟩ := h
  exact ⟨pdus, events, hmoves, fun hp => hsub (hdata hp), fun he => hsub (hdeactivate he)⟩

theorem deactivates_append (a b : List Event) :
    deactivates (a ++ b) = (deactivates a || deactivates b) := any_append

theorem Moves.trans {c c1 c2 : Client (Session κ)} {pdus1 pdus2 : List FinalizationPdu}
    {events1 events2 : List Event} (h1 : Moves c c1 pdus1 events1)
    (h2 : Moves c1 c2 pdus2 events2) : Moves c c2 (pdus1 ++ pdus2) (events1 ++ events2) := by
  refine ⟨?_, ?_, ?_, ?_⟩
  · rw [h2.log, h1.log, append_assoc]
  · rw [h2.received, h1.received, append_assoc]
  · rw [h2.finalize, h1.finalize, bitsOf_append, UInt32.or_assoc]
  · rw [h2.state, h1.state, deactivates_append]
    cases deactivates events1 <;> cases deactivates events2 <;> rfl

theorem Moved.trans {c c1 c2 : Client (Session κ)} (h1 : Moved types c c1)
    (h2 : Moved types c1 c2) : Moved types c c2 := by
  obtain ⟨pdus1, events1, h1, hdata1, hdeactivate1⟩ := h1
  obtain ⟨pdus2, events2, h2, hdata2, hdeactivate2⟩ := h2
  refine ⟨pdus1 ++ pdus2, events1 ++ events2, h1.trans h2, ?_, ?_⟩
  · intro hp
    by_cases hp1 : pdus1 = []
    · exact hdata2 fun hp2 => hp (by rw [hp1, hp2, append_nil])
    · exact hdata1 hp1
  · intro he
    rw [deactivates_append] at he
    rcases Bool.or_eq_true_iff.mp he with he | he
    · exact hdeactivate1 he
    · exact hdeactivate2 he

theorem Moved.enter (c : Client (Session κ)) (handler : Handler) (s : STREAM)
    (h : handler ≠ .deactivate_all) : Moved types c (c.enter handler s) := by
  have hevent : deactivates [⟨handler, s.pos⟩] = false := by
    simpa [deactivates] using h
  refine ⟨[], [⟨handler, s.pos⟩], ⟨rfl, (append_nil _).symm, UInt32.or_zero.symm, ?_⟩,
    absurd rfl, ?_⟩
  · rw [hevent]
    rfl
  · rw [hevent]
    exact nofun

theorem Moved.deactivate_all (c : Client (Session κ)) (s : STREAM)
    (h : PDU_TYPE_DEACTIVATE_ALL ∈ types) :
    Moved types c (rdp_recv_deactivate_all (c.enter .deactivate_all s) s) :=
  ⟨[], [⟨.deactivate_all, s.pos⟩],
    ⟨rfl, (append_nil _).symm, UInt32.or_zero.symm, rfl⟩, absurd rfl, fun _ => h⟩

theorem Moved.run_over (c : Client (Session κ)) (f : STREAM → κ → κ) (s : STREAM) :
    Moved types c (c.run (fun s => Session.over (f s)) s) := .of_core rfl rfl rfl

theorem Moved.finalize (c : Client (Session κ)) (pdu : FinalizationPdu)
    (h : PDU_TYPE_DATA ∈ types) :
    Moved types c (c.with_context (c.update.context.finalize pdu.bit [pdu])) := by
  refine ⟨[pdu], [], ⟨(append_nil _).symm, rfl, ?_, rfl⟩, fun _ => h, nofun⟩
  show _ ||| pdu.bit = _ ||| (pdu.bit ||| 0)
  rw [UInt32.or_zero]

variable (env : Environment C κ) (turn : Turn)

/-! ## Updates -/

variable {s s' : STREAM} {update update' : rdpUpdate (Session κ)}

theorem recv_orders_core (n : Nat) {session session' : Session κ}
    (h : recv_orders (updateCallbacks env) n session s = some (session', s')) :
    session'.core = session.core := by
  induction n generalizing session s with
  | zero =>
    cases h
    rfl
  | succ n ih =>
    obtain ⟨⟨session1, s1⟩, horder, h⟩ := Option.bind_eq_some_iff.mp h
    obtain ⟨⟨user, s2⟩, -, heq⟩ := Option.map_eq_some_iff.mp horder
    rw [ih h]
    exact (congrArg (fun r => r.1.core) heq).symm

theorem update_recv_bitmap_core
    (h : update_recv_bitmap (updateCallbacks env) update s = some (update', s')) :
    update'.context.core = update.context.core := by
  obtain ⟨⟨bitmap_update, s1⟩, -, heq⟩ := Option.map_eq_some_iff.mp h
  exact (congrArg (fun r => r.1.context.core) heq).symm

theorem update_recv_palette_core (update : rdpUpdate (Session κ)) (s : STREAM) :
    (update_recv_palette (updateCallbacks env) update s).1.context.core = update.context.core := by
  unfold update_recv_palette
  rcases update_read_palette update.palette_update s with ⟨palette_update, s'⟩
  rfl

theorem update_by_type_core {updateType : Nat}
    (h : update_by_type (updateCallbacks env) updateType update s = some (update', s')) :
    update'.context.core = update.context.core := by
  unfold update_by_type at h
  split at h
  · obtain ⟨⟨session, s1⟩, horders, heq⟩ := Option.map_eq_some_iff.mp h
    rw [← recv_orders_core env _ horders]
    exact (congrArg (fun r => r.1.context.core) heq).symm
  · split at h
    · exact update_recv_bitmap_core env h
    · split at h
      · rw [← update_recv_palette_core env update s, Option.some.inj h]
      · split at h
        · exact (congrArg (fun r => r.1.context.core) (Option.some.inj h)).symm
        · exact (congrArg (fun r => r.1.context.core) (Option.some.inj h)).symm

theorem update_body_core (h : update_body (updateCallbacks env) update s = some (update', s')) :
    update'.context.core = update.context.core := by
  rcases stream_read_uint16 s with ⟨updateType, s0⟩
  obtain ⟨⟨update1, s1⟩, htype, heq⟩ := Option.map_eq_some_iff.mp h
  have hcore := update_by_type_core env htype
  exact (congrArg (fun r => r.1.context.core) heq).symm.trans hcore

theorem update_recv_pointer_core (update : rdpUpdate (Session κ)) (s : STREAM) :
    (update_recv_pointer (updateCallbacks env) update s).1.context.core = update.context.core := by
  unfold update_recv_pointer
  rcases stream_read_uint16 s with ⟨messageType, s'⟩
  dsimp only
  -- every pointer update sets the pointer and calls the user, no more
  split_ifs <;> rfl

/-! ## Share PDUs -/

/-- The variable that a Control PDU without an action leaves as it is. -/
def NoAction (turn : Turn) : Prop :=
  turn.action ≠ CTRLACTION_COOPERATE ∧ turn.action ≠ CTRLACTION_GRANTED_CONTROL

instance (turn : Turn) : Decidable (NoAction turn) := inferInstanceAs (Decidable (_ ∧ _))

variable {turn} (haction : NoAction turn)

include haction in
theorem moved_control (c : Client (Session κ)) (s : STREAM) :
    Moved [PDU_TYPE_DATA] c
      (c.with_context (rdp_recv_server_control_pdu turn.action s c.update.context)) := by
  unfold rdp_recv_server_control_pdu rdp_recv_control_pdu
  dsimp only
  by_cases hleft : stream_get_left s < 8
  · rw [if_pos hleft, if_neg haction.1, if_neg haction.2]
    exact .of_core rfl rfl rfl
  · rw [if_neg hleft, if_neg hleft, if_neg hleft]
    split
    · exact .finalize c .control_cooperate mem_cons_self
    · split
      · exact .finalize c .control_granted mem_cons_self
      · exact .of_core rfl rfl rfl

theorem moved_synchronize (c : Client (Session κ)) (s : STREAM) :
    Moved [PDU_TYPE_DATA] c
      (c.with_context (rdp_recv_client_synchronize_pdu s c.update.context).2) := by
  have hsync : (rdp_recv_client_synchronize_pdu s c.update.context).2 =
      c.update.context.finalize FINALIZE_SC_SYNCHRONIZE_PDU [.synchronize] := by
    unfold rdp_recv_client_synchronize_pdu
    split <;> rfl
  rw [hsync]
  exact .finalize c .synchronize mem_cons_self

theorem moved_set_error_info (c : Client (Session κ)) (s : STREAM) :
    Moved types c (rdp_recv_set_error_info_data_pdu c s) := by
  unfold rdp_recv_set_error_info_data_pdu
  exact .of_core rfl rfl rfl

include haction

theorem moved_recv_data_type (type : UInt8) (c : Client (Session κ)) (s : STREAM) :
    Moved [PDU_TYPE_DATA] c (recv_data_type (handlers env turn) type c s) := by
  unfold recv_data_type
  split
  · exact moved_control haction c s
  · split
    · exact .of_core rfl (update_recv_pointer_core env c.update s) rfl
    · split
      · exact moved_synchronize c s
      · split
        · exact .of_core rfl rfl rfl
        · split
          · exact .run_over c env.rdp_recv_save_session_info s
          · split
            · exact .finalize c .font_map mem_cons_self
            · split
              · exact moved_set_error_info c s
              · exact .refl c

theorem moved_recv_data_pdu {recv : Client (Session κ) → STREAM → Option (Client (Session κ))}
    (hrecv : ∀ c s c', recv c s = some c' → Moved [PDU_TYPE_DATA] c c')
    {s : STREAM} {ok : Bool}
    (h : recv_data_pdu (handlers env turn) recv c s = some (ok, c')) :
    Moved [PDU_TYPE_DATA] c c' := by
  have henter : ∀ type c s, enter_data (handlers env turn) recv type c s = some (ok, c') →
      Moved [PDU_TYPE_DATA] c c' := by
    intro type c s h
    have hdata : Moved [PDU_TYPE_DATA] c (c.enter (.data type) s) := .enter c _ s nofun
    unfold enter_data at h
    split at h
    · obtain ⟨c1, hrun, heq⟩ := Option.map_eq_some_iff.mp h
      cases heq
      exact hdata.trans (hrecv _ _ _ hrun)
    · cases h
      exact hdata.trans (moved_recv_data_type env haction type _ s)
  unfold recv_data_pdu at h
  split at h
  · cases h
  · rename_i header s1 _
    split at h
    · have hcontext : ∀ length type, Moved [PDU_TYPE_DATA] c
          (c.with_context ((handlers env turn).decompress_rdp s1 length type
            c.update.context).2) := fun _ _ => .of_core rfl rfl rfl
      replace hcontext := hcontext ((header.compressed_len : Int) - 18) header.compressed_type
      split at h
      · rename_i context hdecompress
        rw [hdecompress] at hcontext
        cases h
        exact hcontext
      · rename_i comp_stream context hdecompress
        rw [hdecompress] at hcontext
        exact hcontext.trans (henter _ _ _ h)
    · exact henter _ _ _ h

omit haction in
theorem moved_update_recv
    {recv : Client (Session κ) → STREAM → Option (Bool × Client (Session κ))}
    (hrecv : ∀ c s ok c', recv c s = some (ok, c') → Moved types c c')
    (c : Client (Session κ)) (s : STREAM) (c' : Client (Session κ))
    (h : update_recv (handlers env turn) recv c s = some c') : Moved types c c' := by
  obtain ⟨⟨c1, s1⟩, hbody, hbehind⟩ := Option.bind_eq_some_iff.mp h
  obtain ⟨⟨update, s2⟩, hupdate, heq⟩ := Option.map_eq_some_iff.mp hbody
  cases heq
  have hfirst : Moved types c { c with update } := .of_core rfl (update_body_core env hupdate) rfl
  unfold update_behind at hbehind
  dsimp only at hbehind
  split at hbehind
  · split at hbehind
    · cases hbehind
    · split at hbehind
      · cases hbehind
        exact hfirst
      · obtain ⟨⟨ok, c2⟩, hrun, rfl⟩ := Option.map_eq_some_iff.mp hbehind
        exact hfirst.trans (hrecv _ _ _ _ hrun)
  · cases hbehind
    exact hfirst

theorem moved_rdp_recv_data_pdu (fuel : Nat) (c : Client (Session κ)) (s : STREAM) (ok : Bool)
    (c' : Client (Session κ)) (h : rdp_recv_data_pdu (handlers env turn) fuel c s = some (ok, c')) :
    Moved [PDU_TYPE_DATA] c c' := by
  induction fuel generalizing c s ok c' with
  | zero => cases h
  | succ fuel ih => exact moved_recv_data_pdu env haction (moved_update_recv env ih) h

variable {s : STREAM} {ok : Bool} {fuel : Nat}

theorem moved_recv_share_pdu {pduType : Nat}
    (h : recv_share_pdu (handlers env turn) (rdp_recv_data_pdu (handlers env turn) fuel) pduType c s
      = some (ok, c')) :
    Moved [pduType] c c' := by
  unfold recv_share_pdu at h
  split at h
  · rename_i htype
    rw [htype]
    exact moved_rdp_recv_data_pdu env haction fuel c s ok c' h
  · split at h
    · rename_i htype
      cases h
      exact .deactivate_all c s (mem_singleton.mpr htype.symm)
    · split at h
      · cases h
        exact (Moved.enter c .redirection s nofun).trans (.run_over _ _ s)
      · cases h
        exact .enter c _ s nofun

/-! ## Packets -/

/-- The types of the PDUs that stand in a packet, as their headers tell them. A header that
cannot be read leaves the type of the one before. -/
def pduTypes : Nat → Option Nat → STREAM → List Nat
  | 0, _, _ => []
  | fuel + 1, held, s =>
    if stream_get_left s > 3 then
      let ((pduLength, header), s') := rdp_read_share_control_header s
      match (header.map Prod.fst).or held with
      | none => []
      | some pduType =>
        pduType :: pduTypes fuel (some pduType) (stream_set_pos s' (stream_get_pos s + pduLength))
    else []

/-- The types of the share PDUs of a packet. -/
def packetTypes (fuel : Nat) (encryption : Bool) (rdp : rdpRdp C) (s : STREAM) : List Nat :=
  if tpkt_verify_header s then
    match open_tpkt_pdu encryption rdp s with
    | some (.opened channelId s _) =>
      if channelId ≠ MCS_GLOBAL_CHANNEL_ID then [] else pduTypes fuel none s
    | _ => []
  else []

theorem moved_share_pdu_loop (fuel : Nat) {held : Option (Nat × Nat)}
    (h : share_pdu_loop (handlers env turn) fuel held c s = some (ok, c')) :
    Moved (pduTypes fuel (held.map Prod.fst) s) c c' := by
  induction fuel generalizing held c s with
  | zero => cases h
  | succ fuel ih =>
    unfold share_pdu_loop at h
    unfold pduTypes
    split at h
    · rename_i hleft
      rw [if_pos hleft]
      generalize rdp_read_share_control_header s = read at h ⊢
      rcases read with ⟨⟨pduLength, header⟩, s1⟩
      dsimp only at h ⊢
      rw [← Option.map_or]
      split at h
      · cases h
      · rename_i pduType pduSource hheld
        rw [hheld]
        have hsource : Moved [pduType] c { c with pdu_source := pduSource } := .of_core rfl rfl rfl
        have hfirst : ∀ rest, [pduType] ⊆ pduType :: rest := fun rest => by simp
        split at h
        · cases h
        · rename_i c1 hrun
          cases h
          exact (hsource.trans (moved_recv_share_pdu env haction hrun)).mono (hfirst _)
        · rename_i c1 hrun
          exact ((hsource.trans (moved_recv_share_pdu env haction hrun)).mono (hfirst _)).trans
            ((ih h).mono (subset_cons_self _ _))
    · cases h
      exact .refl _

variable {c c' : Connection C κ}

theorem moved_rdp_recv_pdu (h : rdp_recv_pdu env fuel turn c s = some (ok, c')) :
    Moved (packetTypes fuel c.encryption c.rdp s) c.client c'.client := by
  unfold rdp_recv_pdu at h
  unfold packetTypes
  split at h
  · rename_i hverify
    rw [if_pos hverify]
    obtain ⟨⟨ok1, rdp, client⟩, hpdu, heq⟩ := Option.map_eq_some_iff.mp h
    cases heq
    unfold rdp_recv_tpkt_pdu at hpdu
    split at hpdu
    · cases hpdu
    · cases hpdu
      exact .refl _
    · cases hpdu
      exact .run_over _ _ _
    · rename_i channelId s1 rdp1 hopen
      rw [hopen]
      dsimp only
      split at hpdu
      · cases hpdu
        exact .run_over _ (fun s => env.freerdp_channel_process s channelId) _
      · rename_i hglobal
        rw [if_neg hglobal]
        obtain ⟨⟨ok2, client2⟩, hloop, heq⟩ := Option.map_eq_some_iff.mp hpdu
        cases heq
        exact moved_share_pdu_loop env haction fuel hloop
  · rename_i hverify
    obtain ⟨⟨ok1, rdp, user⟩, -, heq⟩ := Option.map_eq_some_iff.mp h
    cases heq
    exact .of_core rfl rfl rfl

theorem moved_rdp_recv_out_of_sequence_pdu
    (h : rdp_recv_out_of_sequence_pdu env fuel turn c s = some (ok, c')) :
    Moved [PDU_TYPE_DATA] c.client c'.client := by
  unfold rdp_recv_out_of_sequence_pdu at h
  split at h
  · cases h
  · split at h
    · obtain ⟨⟨ok1, client⟩, hdata, heq⟩ := Option.map_eq_some_iff.mp h
      cases heq
      exact moved_rdp_recv_data_pdu env haction fuel _ _ _ _ hdata
    · split at h
      · cases h
        exact .of_core rfl rfl rfl
      · cases h
        exact .refl _

omit haction in
theorem moved_read_demand_active (c : Connection C κ) (s : STREAM) :
    Moved types c.client (read_demand_active env c s).2.2.client := by
  unfold read_demand_active
  split
  · exact .refl _
  · dsimp only
    split
    · exact .of_core rfl rfl rfl
    · exact .of_core rfl rfl rfl

omit haction in
theorem moved_rdp_recv_demand_active {s s' : STREAM} {ok : Bool}
    (h : rdp_recv_demand_active env c s = some (ok, s', c')) :
    Moved types c.client c'.client := by
  obtain ⟨⟨ok1, s1, rdp⟩, -, heq⟩ := Option.map_eq_some_iff.mp h
  dsimp only at heq
  split at heq
  · cases heq
    exact .refl _
  · split at heq
    · cases heq
      exact .refl _
    · have hread : Moved types c.client (read_demand_active env { c with rdp } s1).2.2.client :=
        moved_read_demand_active env { c with rdp } s1
      rw [heq] at hread
      exact hread

end

/-! ## Runs -/

section

variable {C : Crypto} {κ : Type}

/-- What a packet may do: the client becomes active only with all four finalization PDUs
since the last Demand Active PDU, and a Deactivate All PDU leaves it without a session. -/
structure SoundStep (c c' : Connection C κ) : Prop where
  entered : c.client.state ≠ .ACTIVE → c'.client.state = .ACTIVE → ∀ pdu, pdu ∈ c'.session.received
  deactivated : ∀ events, c'.client.log = c.client.log ++ events → deactivates events →
    c'.client.state = .CAPABILITY

/-- The state and the packet for which the code is right. The set of finalization PDUs is
empty while the client waits for a Demand Active PDU, a packet does not bring a Deactivate
All PDU together with data PDUs while the client waits for the finalization PDUs, and the
variable that a short Control PDU leaves unset does not hold an action by chance. -/
structure InOrder (fuel : Nat) (turn : Turn) (c : Connection C κ) (s : STREAM) : Prop where
  afresh : c.client.state = .CAPABILITY → c.session.finalize_sc_pdus = 0
  apart : c.client.state = .FINALIZATION →
    PDU_TYPE_DEACTIVATE_ALL ∈ packetTypes fuel c.encryption c.rdp s →
    PDU_TYPE_DATA ∉ packetTypes fuel c.encryption c.rdp s
  no_action : NoAction turn

/-- The connections that are reached by packets in order. -/
inductive Reached (env : Environment C κ) (c₀ : Connection C κ) : Connection C κ → Prop
  | start : Reached env c₀ c₀
  | packet {fuel : Nat} {turn : Turn} {c c' : Connection C κ} {s : STREAM} :
    Reached env c₀ c → InOrder fuel turn c s →
      rdp_recv_callback env fuel turn c s = some (true, c') → Reached env c₀ c'

/-- The invariant: while the client waits for finalization PDUs, the set holds what has come,
and something is missing. -/
structure Waiting (c : Connection C κ) : Prop where
  state : c.client.state = .CAPABILITY ∨ c.client.state = .FINALIZATION ∨ c.client.state = .ACTIVE
  bits : c.client.state = .FINALIZATION → c.session.finalize_sc_pdus = bitsOf c.session.received
  missing : c.client.state = .FINALIZATION → c.session.finalize_sc_pdus ≠ FINALIZE_SC_COMPLETE

theorem SoundStep.of_moved {types : List Nat} {c c' : Connection C κ}
    (h : Moved types c.client c'.client) : SoundStep c c' := by
  obtain ⟨pdus, events, hmoves, -, -⟩ := h
  constructor
  · intro hnot hactive
    rw [hmoves.state] at hactive
    split at hactive
    · cases hactive
    · exact absurd hactive hnot
  · intro events' hlog hdeactivate
    rw [hmoves.log] at hlog
    rw [hmoves.state, append_cancel_left hlog, if_pos hdeactivate]

theorem Waiting.of_moved {types : List Nat} {c c' : Connection C κ}
    (hc : c.client.state = .CAPABILITY ∨ c.client.state = .ACTIVE)
    (h : Moved types c.client c'.client) : Waiting c' := by
  obtain ⟨pdus, events, hmoves, -, -⟩ := h
  have hstate : c'.client.state = .CAPABILITY ∨ c'.client.state = .ACTIVE := by
    rw [hmoves.state]
    split
    · exact .inl rfl
    · exact hc
  refine ⟨by tauto, ?_, ?_⟩
  · intro hfinal
    simp [hfinal] at hstate
  · intro hfinal
    simp [hfinal] at hstate

variable (env : Environment C κ) {fuel : Nat} {turn : Turn} {c c' : Connection C κ} {s : STREAM}
  {ok : Bool}

theorem activate_step {c1 : Connection C κ} (hstate : c.client.state = .CAPABILITY)
    (hzero : c.session.finalize_sc_pdus = 0) (hmoved : Moved [] c.client c1.client)
    (h : activate env turn c1 = (ok, c')) : SoundStep c c' ∧ Waiting c' := by
  unfold activate at h
  split at h
  · cases h
    exact ⟨.of_moved hmoved, .of_moved (.inl hstate) hmoved⟩
  · split at h
    · cases h
      exact ⟨.of_moved hmoved, .of_moved (.inl hstate) hmoved⟩
    · obtain ⟨pdus, events, hmoves, hdata, hdeactivate⟩ := hmoved
      obtain rfl : pdus = [] := by
        by_contra hpdus
        exact absurd (hdata hpdus) not_mem_nil
      have hbits : c1.session.finalize_sc_pdus = 0 := by
        rw [Connection.session, hmoves.finalize, bitsOf, UInt32.or_zero]
        exact hzero
      cases h
      refine ⟨⟨nofun, ?_⟩, .inr (.inl rfl), fun _ => hbits, fun _ hbad => ?_⟩
      · intro events' hlog hevents
        rw [← append_cancel_left (hmoves.log.symm.trans hlog)] at hevents
        exact absurd (hdeactivate hevents) not_mem_nil
      · exact absurd (hbits.symm.trans hbad) (by decide)

theorem capability_step (hstate : c.client.state = .CAPABILITY) (horder : InOrder fuel turn c s)
    (h : rdp_client_connect_demand_active env fuel turn c s = some (ok, c')) :
    SoundStep c c' ∧ Waiting c' := by
  unfold rdp_client_connect_demand_active at h
  dsimp only at h
  split at h
  · cases h
  · rename_i c1 hdemand
    exact activate_step env hstate (horder.afresh hstate)
      (moved_rdp_recv_demand_active env hdemand) (Option.some.inj h)
  · rename_i c1 hdemand
    split at h
    · cases h
    · have hout := moved_rdp_recv_out_of_sequence_pdu env horder.no_action h
      have hmoved : Moved [PDU_TYPE_DATA] c.client c'.client :=
        (moved_rdp_recv_demand_active env hdemand).trans hout
      exact ⟨.of_moved hmoved, .of_moved (.inl hstate) hmoved⟩

theorem finalization_step (hwait : Waiting c) (hstate : c.client.state = .FINALIZATION)
    (horder : InOrder fuel turn c s) (h : recv_finalization env fuel turn c s = some (ok, c')) :
    SoundStep c c' ∧ (ok = true → Waiting c') := by
  unfold recv_finalization at h
  split at h
  · cases h
  · rename_i c1 hrun
    cases h
    exact ⟨.of_moved (moved_rdp_recv_pdu env horder.no_action hrun), nofun⟩
  · rename_i c1 hrun
    have hmoved := moved_rdp_recv_pdu env horder.no_action hrun
    obtain ⟨pdus, events, hmoves, hdata, hdeactivate⟩ := id hmoved
    have hbits : c1.session.finalize_sc_pdus = bitsOf c1.session.received := by
      rw [Connection.session, hmoves.finalize, hmoves.received, bitsOf_append]
      exact congrArg (· ||| bitsOf pdus) (hwait.bits hstate)
    split at h
    · rename_i hcomplete
      cases h
      refine ⟨⟨fun _ _ => mem_of_complete (hbits.symm.trans hcomplete), ?_⟩,
        fun _ => ⟨.inr (.inr rfl), nofun, nofun⟩⟩
      intro events' hlog hevents
      rw [← append_cancel_left (hmoves.log.symm.trans hlog)] at hevents
      -- With a Deactivate All PDU the packet has no data PDU, so the set is what it was.
      have hpdus : pdus = [] := by
        by_contra hpdus
        exact horder.apart hstate (hdeactivate hevents) (hdata hpdus)
      rw [Connection.session, hmoves.finalize, hpdus, bitsOf, UInt32.or_zero] at hcomplete
      exact absurd hcomplete (hwait.missing hstate)
    · rename_i hmissing
      cases h
      refine ⟨.of_moved hmoved, fun _ => ⟨?_, fun _ => hbits, fun _ => hmissing⟩⟩
      rw [hmoves.state, hstate]
      split
      · exact .inl rfl
      · exact .inr (.inl rfl)

theorem callback_step (hwait : Waiting c) (horder : InOrder fuel turn c s)
    (h : rdp_recv_callback env fuel turn c s = some (ok, c')) :
    SoundStep c c' ∧ (ok = true → Waiting c') := by
  unfold rdp_recv_callback at h
  rcases hwait.state with hstate | hstate | hstate
  · rw [hstate] at h
    have hstep := capability_step env hstate horder h
    exact ⟨hstep.1, fun _ => hstep.2⟩
  · rw [hstate] at h
    exact finalization_step env hwait hstate horder h
  · rw [hstate] at h
    have hmoved := moved_rdp_recv_pdu env horder.no_action h
    exact ⟨.of_moved hmoved, fun _ => .of_moved (.inr hstate) hmoved⟩

theorem Reached.waiting {c0 : Connection C κ} (hstart : c0.client.state = .CAPABILITY)
    (h : Reached env c0 c) : Waiting c := by
  induction h with
  | start => exact ⟨.inl hstart, by simp [hstart], by simp [hstart]⟩
  | packet _ horder hstep ih => exact (callback_step env ih horder hstep).2 rfl

theorem recv_packets_cons {packets : List (Turn × STREAM)} :
    recv_packets env fuel c ((turn, s) :: packets) = some c' ↔
      ∃ c1, rdp_recv_callback env fuel turn c s = some (true, c1) ∧
        recv_packets env fuel c1 packets = some c' := by
  rw [recv_packets]
  rcases rdp_recv_callback env fuel turn c s with _ | ⟨_ | _, c1⟩
  · simp
  · simp
  · simp

/-- From the first Demand Active PDU on, and for any packets: as long as they come in order,
the client is active only after the whole handshake, and a Deactivate All PDU always ends the
session. -/
theorem handshake_is_complete_before_active {c₀ : Connection C κ}
    (hstart : c₀.client.state = .CAPABILITY) (hreach : Reached env c₀ c)
    (horder : InOrder fuel turn c s)
    (hstep : rdp_recv_callback env fuel turn c s = some (ok, c')) : SoundStep c c' :=
  (callback_step env (hreach.waiting env hstart) horder hstep).1

end

/-! ## A session that starts again -/

/-- A data PDU from the server: its type, and what stands behind the header. -/
def dataPdu (type : UInt8) (body : List UInt8) : List UInt8 :=
  le16 (18 + body.length) ++ [0x17, 0, 0, 0] ++
    [1, 0, 0, 0, 0, 1] ++ le16 (18 + body.length) ++ [type, 0, 0, 0] ++ body

/-- A Demand Active PDU without capability sets. -/
def demandActivePdu : List UInt8 :=
  [22, 0, 0x11, 0, 0, 0] ++ [1, 0, 0, 0] ++ [0, 0, 4, 0] ++ [0, 0, 0, 0] ++ [0, 0, 0, 0]

def finalizationPdus : List (List UInt8) :=
  [dataPdu DATA_PDU_TYPE_SYNCHRONIZE [1, 0, 0, 0],
    dataPdu DATA_PDU_TYPE_CONTROL [4, 0, 0, 0, 0, 0, 0, 0],
    dataPdu DATA_PDU_TYPE_CONTROL [2, 0, 0, 0, 0, 0, 0, 0],
    dataPdu DATA_PDU_TYPE_FONT_MAP [0, 0, 0, 0, 3, 0, 4, 0]]

/-- A client that waits for its first Demand Active PDU, after some packets. -/
def afterPackets (packets : List (List (List UInt8))) : Option (Connection sampleCrypto Unit) :=
  recv_packets idleEnvironment 9 (idleConnection .CAPABILITY 1002 [] [])
    (packets.map fun pdus => (easyTurn, packetOf pdus))

theorem handshake_is_complete_before_active_sample :
    ∃ c c', afterPackets [[demandActivePdu]] = some c ∧
      rdp_recv_callback idleEnvironment 9 easyTurn c (packetOf finalizationPdus) =
        some (true, c') ∧ c'.client.state = .ACTIVE ∧ SoundStep c c' := by
  have hactive : (afterPackets [[demandActivePdu], finalizationPdus]).map (·.client.state) =
      some .ACTIVE := by decide +kernel
  have hwait : (afterPackets [[demandActivePdu]]).map (fun c => (c.client.state,
      packetTypes 9 c.encryption c.rdp (packetOf finalizationPdus))) =
      some (.FINALIZATION, [7, 7, 7, 7]) := by
    decide +kernel
  obtain ⟨c', hrun, hstate⟩ := Option.map_eq_some_iff.mp hactive
  obtain ⟨c, hc, hrest⟩ := (recv_packets_cons _).mp hrun
  obtain ⟨c₁, hc₁, hend⟩ := (recv_packets_cons _).mp hrest
  cases hend
  have hfirst : afterPackets [[demandActivePdu]] = some c := (recv_packets_cons _).mpr ⟨c, hc, rfl⟩
  rw [hfirst] at hwait
  obtain ⟨hstate₁, htypes⟩ := Prod.mk.inj (Option.some.inj hwait)
  have hreach : Reached idleEnvironment (idleConnection .CAPABILITY 1002 [] []) c :=
    .packet .start ⟨fun _ => rfl, nofun, by decide⟩ hc
  refine ⟨c, c', hfirst, hc₁, hstate, ?_⟩
  refine handshake_is_complete_before_active idleEnvironment rfl hreach ?_ hc₁
  refine ⟨?_, ?_, by decide⟩
  · rw [hstate₁]
    exact nofun
  · rw [htypes]
    intro _ hdeactivate
    exact absurd hdeactivate (by decide)

/-- After a session that has ended, the next one is active with any packet, and the client
has had none of the finalization PDUs. It is active even with a Deactivate All PDU. -/
theorem handshake_is_complete_before_active_counterexample :
    let ended := [[demandActivePdu], finalizationPdus, [deactivatePdu], [demandActivePdu]]
    ∃ c c₁ c₂, afterPackets ended = some c ∧
      rdp_recv_callback idleEnvironment 9 easyTurn c (packetOf [errorPdu]) = some (true, c₁) ∧
      ¬ SoundStep c c₁ ∧
      rdp_recv_callback idleEnvironment 9 easyTurn c (packetOf [deactivatePdu]) = some (true, c₂) ∧
      ¬ SoundStep c c₂ := by
  intro ended
  have hstep : ∀ pdu ∈ [errorPdu, deactivatePdu], ∃ c c', afterPackets ended = some c ∧
      rdp_recv_callback idleEnvironment 9 easyTurn c (packetOf [pdu]) = some (true, c') ∧
      ¬ SoundStep c c' := by
    intro pdu hpdu
    have hrun : ((afterPackets ended).bind fun c =>
        (rdp_recv_callback idleEnvironment 9 easyTurn c (packetOf [pdu])).map fun r =>
          (c.client.state, r.1, r.2.client.state, r.2.session.received)) =
        some (.FINALIZATION, true, .ACTIVE, []) := by
      rcases mem_pair.mp hpdu with rfl | rfl
      · decide +kernel
      · decide +kernel
    obtain ⟨c, hc, hrun⟩ := Option.bind_eq_some_iff.mp hrun
    obtain ⟨⟨ok, c'⟩, hc', hstates⟩ := Option.map_eq_some_iff.mp hrun
    simp only [Prod.mk.injEq] at hstates
    obtain ⟨hwaits, rfl, hactive, hnone⟩ := hstates
    refine ⟨c, c', hc, hc', fun hsound => ?_⟩
    have hall := hsound.entered (by rw [hwaits]; decide) hactive
    rw [hnone] at hall
    exact not_mem_nil (hall .synchronize)
  obtain ⟨c, c₁, hc, hone⟩ := hstep errorPdu mem_cons_self
  obtain ⟨c', c₂, hc', htwo⟩ := hstep deactivatePdu (mem_cons_of_mem _ mem_cons_self)
  cases hc.symm.trans hc'
  exact ⟨c, c₁, c₂, hc, hone.1, hone.2, htwo.1, htwo.2⟩

end neutrinordp.connection
