-- To whom the credentials are given (credssp.c). They are sent after the server has sent back
-- the public key with its first byte plus one. The code compares only as many bytes as it
-- received and does not look at the signature, so this is not enough to know the server.
import CorporateClient.Credssp

namespace neutrinordp.credssp

open List bytes

def increment_first : List UInt8 → List UInt8
  | [] => []
  | b :: bs => (b + 1) :: bs

theorem decrement_first_eq_iff (p key : Bytes) :
    decrement_first p = key ↔ p = increment_first key := by
  cases p with
  | nil => cases key <;> simp [decrement_first, increment_first]
  | cons b bs =>
    cases key with
    | nil => simp [decrement_first, increment_first]
    | cons k ks =>
      have hbyte : b - 1 = k ↔ b = k + 1 := by
        constructor
        · rintro rfl
          rw [UInt8.sub_add_cancel]
        · rintro rfl
          rw [UInt8.add_sub_cancel]
      simp [decrement_first, increment_first, hbyte]

theorem length_decrement_first (p : Bytes) : (decrement_first p).length = p.length := by
  cases p <;> rfl

theorem length_increment_first (key : Bytes) : (increment_first key).length = key.length := by
  cases key <;> rfl

section

variable {ρ : Type} (cr : Crypto ρ)

/-- The message inside a sealed message. -/
def unsealed (ntlmssp : NTLMSSP ρ) (d : List UInt8) : List UInt8 :=
  (ntlmssp_decrypt_message cr ntlmssp (d.drop 16) (d.take 16)).2.1

/-- `ntlmssp_decrypt_message` accepts the signature of a sealed message. -/
def SignatureAccepted (ntlmssp : NTLMSSP ρ) (d : List UInt8) : Prop :=
  (ntlmssp_decrypt_message cr ntlmssp (d.drop 16) (d.take 16)).1 = true

/-- The bytes that were received agree with the key of the client, as far as they go. -/
def AgreesAsFar (world : World) (credssp : rdpCredssp ρ) (d : List UInt8) : Prop :=
  ∀ i < (unsealed cr credssp.ntlmssp d).length,
    memory_at credssp.public_key world.behind_key i =
      (decrement_first (unsealed cr credssp.ntlmssp d)).getD i 0

theorem unsealed_eq (ntlmssp : NTLMSSP ρ) (d : Bytes) :
    unsealed cr ntlmssp d = (cr.crypto_rc4 ntlmssp.recv_rc4_seal (d.drop 16)).1 := by
  unfold unsealed ntlmssp_decrypt_message
  dsimp only
  split <;> rfl

theorem length_unsealed (ntlmssp : NTLMSSP ρ) (d : Bytes) :
    (unsealed cr ntlmssp d).length = d.length - 16 := by
  rw [unsealed_eq, cr.length_rc4, length_drop]

variable {credssp : rdpCredssp ρ} {world : World} {d : Bytes}

theorem agreesAsFar_iff_of_length (h : d.length = 16 + credssp.public_key.length) :
    AgreesAsFar cr world credssp d ↔
      unsealed cr credssp.ntlmssp d = increment_first credssp.public_key := by
  have hlength : (unsealed cr credssp.ntlmssp d).length = credssp.public_key.length := by
    rw [length_unsealed]
    omega
  rw [← decrement_first_eq_iff]
  unfold AgreesAsFar memory_at
  constructor
  · intro hagree
    apply ext_getElem
    · rw [length_decrement_first, hlength]
    · intro i hi hkey
      have hbyte := hagree i (by omega)
      rw [if_pos hkey, getD_eq_getElem _ _ hkey, getD_eq_getElem _ _ hi] at hbyte
      exact hbyte.symm
  · intro heq i hi
    rw [heq, if_pos (by omega)]

/-! ## The end of the exchange -/

theorem credssp_verify_public_key.spec (world : World) (credssp : rdpCredssp ρ)
    (h : 16 ≤ d.length) :
    ∃ equal ntlmssp, credssp_verify_public_key cr world credssp d =
        some (equal, { credssp with ntlmssp }) ∧
      (equal = true ↔ AgreesAsFar cr world credssp d) := by
  unfold credssp_verify_public_key
  rw [if_neg (by omega)]
  refine ⟨_, _, rfl, ?_⟩
  simp only [all_eq_true, mem_range, decide_eq_true_eq]
  rfl

/-- The credentials were sent. -/
def Released (credssp : rdpCredssp ρ) : Prop := ∃ m ∈ credssp.sent, m.authInfo ≠ none

theorem not_released_of_short (world : World) (h : credssp.pubKeyAuth.length < 16) :
    credssp_finish cr world credssp = none := by
  have hverify : credssp_verify_public_key cr world credssp credssp.pubKeyAuth = none := if_pos h
  unfold credssp_finish
  rw [hverify]
  rfl

theorem credssp_finish.spec (world : World) (credssp : rdpCredssp ρ)
    (h : 16 ≤ credssp.pubKeyAuth.length) (hbefore : ¬ Released credssp) :
    ∃ status credssp', credssp_finish cr world credssp = some (status, credssp') ∧
      (Released credssp' ↔ AgreesAsFar cr world credssp credssp.pubKeyAuth) := by
  obtain ⟨equal, ntlmssp, hverify, hequal⟩ := credssp_verify_public_key.spec cr world credssp h
  unfold credssp_finish
  rw [hverify, ← hequal]
  cases equal with
  | false => exact ⟨0, _, rfl, fun hreleased => absurd hreleased hbefore, nofun⟩
  | true =>
    refine ⟨1, _, rfl, fun _ => rfl, fun _ => ?_⟩
    exact ⟨_, mem_append_right _ mem_cons_self, nofun⟩

/-! ## The exchange up to the last answer -/

theorem not_released_send (h : ¬ Released credssp) {m : TSRequest} (hm : m.authInfo = none) :
    ¬ Released (credssp.send m) := by
  rintro ⟨x, hx, hauth⟩
  rcases mem_append.mp hx with hold | hnew
  · exact h ⟨x, hold, hauth⟩
  · rw [mem_singleton.mp hnew] at hauth
    exact hauth hm

theorem credssp_exchange.spec {hs : Handshake ρ} {c : rdpCredssp ρ} {result : Except Int TSRequest}
    (h : ¬ Released credssp) (hrun : credssp_exchange cr hs world credssp = some (c, result)) :
    ¬ Released c ∧ ∀ last, result = .ok last → c.pubKeyAuth = last.pubKeyAuth.getD [] := by
  unfold credssp_exchange at hrun
  split at hrun
  · cases hrun
    exact ⟨h, nofun⟩
  · cases hrun
    exact ⟨h, nofun⟩
  · have hfirst : ∀ negoToken, ¬ Released (credssp.send ⟨some negoToken, none, none⟩) :=
      fun _ => not_released_send h rfl
    split at hrun
    · cases hrun
      exact ⟨hfirst _, nofun⟩
    · obtain ⟨m, -, hrun⟩ := Option.bind_eq_some_iff.mp hrun
      split at hrun
      · cases hrun
        exact ⟨not_released_send (hfirst _) rfl, nofun⟩
      · obtain ⟨last, -, hrun⟩ := Option.bind_eq_some_iff.mp hrun
        cases hrun
        refine ⟨not_released_send (hfirst _) rfl, ?_⟩
        rintro _ ⟨⟩
        rfl

/-! ## Who gets the credentials -/

/-- The last answer proves that the server has the key. -/
structure Genuine (credssp : rdpCredssp ρ) (last : TSRequest) : Prop where
  present : last.pubKeyAuth ≠ none
  signed : SignatureAccepted cr credssp.ntlmssp (last.pubKeyAuth.getD [])
  key : unsealed cr credssp.ntlmssp (last.pubKeyAuth.getD []) = increment_first credssp.public_key

/-- The credentials are only sent after an answer that proves it. -/
def ReleasedToServer (hs : Handshake ρ) (world : World) (credssp : rdpCredssp ρ) : Prop :=
  ∀ status credssp', credssp_authenticate cr hs world credssp = some (status, credssp') →
    Released credssp' →
    ∃ c last, credssp_exchange cr hs world credssp = some (c, .ok last) ∧ Genuine cr c last

/-- What the code does not check: an answer that agrees with the key as far as it goes has
the full length and the right signature. -/
def FullAndSigned (world : World) (credssp : rdpCredssp ρ) (last : TSRequest) : Prop :=
  ∀ d, last.pubKeyAuth = some d → 16 ≤ d.length → AgreesAsFar cr world credssp d →
    d.length = 16 + credssp.public_key.length ∧ SignatureAccepted cr credssp.ntlmssp d

theorem genuine_iff {last : TSRequest} (hlast : last.pubKeyAuth = some d) (hd : 16 ≤ d.length)
    (hagree : AgreesAsFar cr world credssp d) :
    Genuine cr credssp last ↔
      d.length = 16 + credssp.public_key.length ∧ SignatureAccepted cr credssp.ntlmssp d := by
  constructor
  · rintro ⟨-, hsigned, hkey⟩
    rw [hlast, Option.getD_some] at hsigned hkey
    have hlength := congrArg length hkey
    rw [length_unsealed, length_increment_first] at hlength
    exact ⟨by omega, hsigned⟩
  · rintro ⟨hlength, hsigned⟩
    have hkey := (agreesAsFar_iff_of_length cr hlength).mp hagree
    refine ⟨?_, ?_, ?_⟩
    · rw [hlast]
      nofun
    · rw [hlast]
      exact hsigned
    · rw [hlast]
      exact hkey

/-- For all answers of the server, and for any RC4 and HMAC-MD5: the credentials are only
given to a server that has the key exactly when the last answer has the full length and the
right signature, or does not agree with the key at all. -/
theorem released_to_server_iff_full_and_signed (hs : Handshake ρ) (world : World)
    (credssp : rdpCredssp ρ) (hnew : credssp.sent = []) :
    ReleasedToServer cr hs world credssp ↔
      ∀ c last, credssp_exchange cr hs world credssp = some (c, .ok last) →
        FullAndSigned cr world c last := by
  have hbefore : ¬ Released credssp := by
    rintro ⟨m, hm, -⟩
    rw [hnew] at hm
    cases hm
  constructor
  · intro hreleased c last hrun d hlast hd hagree
    obtain ⟨hnot, hfield⟩ := credssp_exchange.spec cr hbefore hrun
    have hfield := hfield last rfl
    rw [hlast, Option.getD_some] at hfield
    subst hfield
    obtain ⟨status, credssp', hfinish, hsent⟩ := credssp_finish.spec cr world c hd hnot
    have hauth : credssp_authenticate cr hs world credssp = some (status, credssp') := by
      unfold credssp_authenticate
      rw [hrun]
      exact hfinish
    obtain ⟨c', last', hrun', hgenuine⟩ := hreleased _ _ hauth (hsent.mpr hagree)
    rw [hrun] at hrun'
    cases hrun'
    exact (genuine_iff cr hlast hd hagree).mp hgenuine
  · intro hchecked status credssp' hauth hreleased
    obtain ⟨⟨c, result⟩, hrun, hauth⟩ := Option.bind_eq_some_iff.mp hauth
    obtain ⟨hnot, hfield⟩ := credssp_exchange.spec cr hbefore hrun
    cases result with
    | error status =>
      cases hauth
      exact absurd hreleased hnot
    | ok last =>
      refine ⟨c, last, hrun, ?_⟩
      have hfield := hfield last rfl
      have hd : 16 ≤ c.pubKeyAuth.length := by
        by_contra hshort
        have hnone := not_released_of_short cr world (Nat.lt_of_not_le hshort)
        rw [show credssp_finish cr world c = some (status, credssp') from hauth] at hnone
        cases hnone
      obtain ⟨status', credssp'', hfinish, hsent⟩ := credssp_finish.spec cr world c hd hnot
      rw [show credssp_finish cr world c = some (status, credssp') from hauth] at hfinish
      cases hfinish
      have hagree := hsent.mp hreleased
      cases hlast : last.pubKeyAuth with
      | none =>
        rw [hfield, hlast] at hd
        cases hd
      | some d =>
        rw [hlast, Option.getD_some] at hfield
        rw [hfield] at hd hagree
        exact (genuine_iff cr hlast hd hagree).mpr (hchecked c last hrun d hlast hd hagree)

end

/-! ## A server with the key, and one without it -/

/-- RC4 that leaves all bytes alone, and a constant HMAC-MD5. -/
def plainCrypto : Crypto Unit where
  crypto_rc4 r m := (m, r)
  hmac_md5 _ _ := replicate 16 7
  length_rc4 _ _ := rfl

def plainHandshake : Handshake Unit where
  negotiate ntlmssp := ([1], ntlmssp)
  challenge ntlmssp _ := ntlmssp
  authenticate ntlmssp := ([3], ntlmssp)

def freshCredssp : rdpCredssp Unit where
  ntlmssp := ⟨(), (), [], [], 0, 0, [], [0x75], [0x70]⟩
  public_key := []
  negoToken := []
  pubKeyAuth := []
  sent := []

/-- A server with the key `[8, 9]` that answers with this field in the end. -/
def answering (pubKeyAuth : List UInt8) : World where
  init := true
  public_key := some [8, 9]
  first := some (credssp_send ⟨some [2], none, none⟩)
  second := some (credssp_send ⟨none, none, some pubKeyAuth⟩)
  first_junk := ⟨0, 0, 0, []⟩
  second_junk := ⟨0, 0, 0, []⟩
  behind_key _ := 0

theorem released_to_server_sample :
    ReleasedToServer plainCrypto plainHandshake
      (answering (le32 1 ++ replicate 8 7 ++ le32 0 ++ [9, 9])) freshCredssp := by
  apply (released_to_server_iff_full_and_signed plainCrypto plainHandshake _ _ rfl).mpr
  intro c last hrun d hlast _ _
  cases hrun
  cases hlast
  exact ⟨rfl, rfl⟩

/-- A field of 16 zeros is enough to get the credentials. -/
theorem released_to_server_counterexample :
    ¬ ReleasedToServer plainCrypto plainHandshake (answering (replicate 16 0))
      freshCredssp := by
  intro h
  have hreleased : (credssp_authenticate plainCrypto plainHandshake
      (answering (replicate 16 0)) freshCredssp).any
        (fun r => r.2.sent.any fun m => m.authInfo.isSome) = true := by
    decide +kernel
  obtain ⟨⟨status, c⟩, hauth, hsent⟩ := Option.any_eq_true _ _ |>.mp hreleased
  obtain ⟨m, hm, hsome⟩ := any_eq_true.mp hsent
  obtain ⟨c', last, hrun, hgenuine⟩ := h status c hauth
    ⟨m, hm, Option.isSome_iff_ne_none.mp hsome⟩
  cases hrun
  exact absurd hgenuine.key (by decide)

end neutrinordp.credssp
