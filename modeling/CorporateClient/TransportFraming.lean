-- The laws of the receiving transport. However the layer cuts the bytes of the
-- server into pieces, each PDU reaches the callback once, whole and in order.
import CorporateClient.Transport

namespace neutrinordp.transport

open List bytes stream headers

/-! ## The PDUs -/

/-- A TPKT PDU: version 3, and its size in the length field. -/
def IsTpkt (p : List UInt8) : Prop :=
  p.getD 0 0 = 3 ∧ ofBe16 (p.getD 2 0) (p.getD 3 0) = p.length

/-- The length field of a fast-path PDU has one or two bytes. -/
def fastPathLength (p : List UInt8) : Nat :=
  if 128 ≤ (p.getD 1 0).toNat then (p.getD 1 0).toNat % 128 * 256 + (p.getD 2 0).toNat
  else (p.getD 1 0).toNat

/-- A fast-path PDU: action 0, not a TSRequest, and its size in the length field. -/
def IsFastPath (p : List UInt8) : Prop :=
  (p.getD 0 0).toNat % 4 = 0 ∧ p.getD 0 0 ≠ 0x30 ∧ fastPathLength p = p.length

/-- The PDUs that a server sends after the connection sequence. -/
structure IsPdu (p : List UInt8) : Prop where
  header : IsTpkt p ∨ IsFastPath p
  five_le : 5 ≤ p.length
  le_32767 : p.length ≤ 32767

instance (p : List UInt8) : Decidable (IsTpkt p) := by unfold IsTpkt; infer_instance

instance (p : List UInt8) : Decidable (IsFastPath p) := by unfold IsFastPath; infer_instance

instance (p : List UInt8) : Decidable (IsPdu p) :=
  decidable_of_iff ((IsTpkt p ∨ IsFastPath p) ∧ 5 ≤ p.length ∧ p.length ≤ 32767)
    ⟨fun h => ⟨h.1, h.2.1, h.2.2⟩, fun h => ⟨h.header, h.five_le, h.le_32767⟩⟩

/-! ## The length of a PDU

Two routines parse it: `transport_read` to know how much to read, and
`transport_check_fds` to know if all of it is there. -/

theorem transport_pdu_bytes_congr {layer : TransportLayer} {s s' : STREAM}
    (hlayer : layer ≠ .TSG) (h : s.data.take 4 = s'.data.take 4) :
    transport_pdu_bytes layer s = transport_pdu_bytes layer s' := by
  have hbyte : ∀ i, i < 4 → byte_at s i = byte_at s' i := fun i hi => getD_of_take_eq h hi 0
  simp [transport_pdu_bytes, hlayer, hbyte 0 (by omega), hbyte 1 (by omega), hbyte 2 (by omega),
    hbyte 3 (by omega)]

theorem transport_pdu_bytes_eq {layer : TransportLayer} {s : STREAM} {p : Bytes}
    (hlayer : layer ≠ .TSG) (hp : IsPdu p) (h : s.data.take 4 = p.take 4) :
    transport_pdu_bytes layer s = p.length := by
  have hbyte : ∀ i, i < 4 → byte_at s i = p.getD i 0 := fun i hi => getD_of_take_eq h hi 0
  simp only [transport_pdu_bytes, hlayer, if_false, hbyte 0 (by omega), hbyte 1 (by omega),
    hbyte 2 (by omega), hbyte 3 (by omega), shiftLeft_or_byte]
  rcases hp.header with ⟨hversion, hlength⟩ | ⟨haction, hnla, hlength⟩
  · rw [if_pos hversion, ← hlength, ofBe16, Nat.shiftLeft_eq]
  · have hversion : p.getD 0 0 ≠ 3 := by
      intro h3
      rw [h3] at haction
      simp at haction
    rw [if_neg hversion, if_neg hnla, ← hlength]
    simp only [and_0x80, and_0x7F, fastPathLength]

theorem read_pdu_length.spec {s : STREAM} {p : Bytes} (hp : IsPdu p) (hpos : s.pos = 0)
    (hsize : 3 ≤ s.size) (h : s.data.take 4 = p.take 4) :
    ∃ k, read_pdu_length s = (some p.length, stream_set_pos s k) := by
  have hbyte : ∀ i, i < 4 → byte_at s i = p.getD i 0 := fun i hi => getD_of_take_eq h hi 0
  unfold read_pdu_length tpkt_verify_header stream_peek_uint8
  rw [hpos, hbyte 0 (by omega)]
  rcases hp.header with ⟨hversion, hlength⟩ | ⟨haction, hnla, hlength⟩
  · have h3 : byte_at s s.pos = 3 := by rw [hpos, hbyte 0 (by omega), hversion]
    refine ⟨4, ?_⟩
    rw [if_pos (by rw [hversion]; rfl), tpkt_read_header.spec s h3, hpos, hbyte _ (by omega),
      hbyte _ (by omega), hlength]
    simp [stream_seek, stream_set_pos, hpos]
  · have hversion : p.getD 0 0 ≠ 3 := by
      intro h3
      rw [h3] at haction
      simp at haction
    have hfits : (stream_seek s 1).pos + 2 ≤ (stream_seek s 1).size := by
      simp only [stream_seek_pos, stream_seek_size]; omega
    have hlen := per_read_length.spec _ hfits
    simp only [stream_seek_pos, hpos, byte_at_seek, Nat.zero_add, hbyte 1 (by omega),
      hbyte 2 (by omega)] at hlen
    rw [if_neg (by simpa using hversion), fastpath_read_header, hlen, ← hlength, fastPathLength]
    split
    · exact ⟨3, by simp [stream_seek, stream_set_pos, hpos]⟩
    · exact ⟨2, by simp [stream_seek, stream_set_pos, hpos]⟩

/-! ## One read

A read moves a piece of the wire to the end of the bytes that are there. -/

section

variable {κ : Type}

/-- The layer is up, does not block, and no read of it fails. -/
structure Steady (t : rdpTransport κ) : Prop where
  layer : t.layer = .TCP ∨ t.layer = .TLS
  blocking : t.blocking = false
  reads : none ∉ t.reads

/-- The transport after the layer handed out bytes: `wire` and `reads` are left. -/
def handedOut (t : rdpTransport κ) (reads : List (Option Nat)) (wire : List UInt8) :
    rdpTransport κ := { t with reads, wire }

/-- The reads that give at least one byte when there is one. -/
def filledReads (reads : List (Option Nat)) : Nat := reads.countP (· ≠ some 0)

/-- The layer gives bytes often enough for all that is on the wire. -/
def Enough (t : rdpTransport κ) : Prop := t.wire.length ≤ filledReads t.reads

variable {t : rdpTransport κ} {p : Bytes} {todo : List Bytes} {s : STREAM}

theorem Steady.not_closed (h : Steady t) : t.layer ≠ .CLOSED := by
  rcases h.layer with h | h <;> rw [h] <;> decide

theorem Steady.not_tsg (h : Steady t) : t.layer ≠ .TSG := by
  rcases h.layer with h | h <;> rw [h] <;> decide

theorem Steady.handedOut (h : Steady t) (k : Nat) (wire : Bytes) :
    Steady (handedOut t (t.reads.drop k) wire) :=
  ⟨h.layer, h.blocking, fun hmem => h.reads (mem_of_mem_drop hmem)⟩

/-- Four bytes of a PDU are enough for its length. -/
theorem Steady.pdu_bytes (h : Steady t) (hp : IsPdu p) {n : Nat} {wire rest : Bytes}
    (hbytes : s.data.take n ++ wire = p ++ rest) (hfour : 4 ≤ n) (hn : n ≤ s.data.length) :
    transport_pdu_bytes t.layer s = p.length := by
  have hfirst := take_of_append_eq (n := 4) hbytes (by rw [length_take]; omega)
    (Nat.le_of_succ_le hp.five_le)
  rw [take_take, Nat.min_eq_left hfour] at hfirst
  exact transport_pdu_bytes_eq h.not_tsg hp hfirst

/-- `k` reads take the bytes `got` off the wire. A read that may take a byte takes one if there
is one, so enough reads are still enough. -/
structure Takes (t : rdpTransport κ) (k : Nat) (got wire : Bytes) : Prop where
  bytes : t.wire = got ++ wire
  enough : Enough t → Enough (handedOut t (t.reads.drop k) wire)

theorem Takes.nothing (t : rdpTransport κ) : Takes t 0 [] t.wire := ⟨rfl, id⟩

theorem Takes.trans {k l : Nat} {a b wire wire' : Bytes} (h : Takes t k a wire)
    (h' : Takes (transport.handedOut t (t.reads.drop k) wire) l b wire') :
    Takes t (k + l) (a ++ b) wire' := by
  refine ⟨by rw [h.bytes, append_assoc, ← h'.bytes]; rfl, fun he => ?_⟩
  rw [← drop_drop]
  exact h'.enough (h.enough he)

theorem layer_read.spec (ht : Steady t) {n : Nat} (hn : 0 < n) :
    ∃ got wire, layer_read t n = (some got, handedOut t (t.reads.drop 1) wire) ∧
      Takes t 1 got wire ∧ got.length ≤ n := by
  have hreads := ht.reads
  unfold layer_read
  rw [if_neg ht.not_closed]
  cases hr : t.reads with
  | nil =>
    have hsame : transport.handedOut t [] t.wire = t := by rw [transport.handedOut, ← hr]
    refine ⟨[], t.wire, congrArg (Prod.mk (some [])) hsame.symm, ⟨rfl, ?_⟩, by simp⟩
    rw [hr, drop_nil, hsame]
    exact id
  | cons r reads =>
    rw [hr] at hreads
    cases r with
    | none => simp at hreads
    | some k =>
      refine ⟨_, _, rfl, ⟨(take_append_drop (min k n) t.wire).symm, fun he => ?_⟩, ?_⟩
      · simp only [Enough, filledReads, hr, countP_cons, transport.handedOut, drop_succ_cons,
          drop_zero, length_drop] at he ⊢
        rcases k with _ | k <;> simp at he ⊢ <;> omega
      · simp only [length_take]; omega

theorem transport_read_layer.spec (ht : Steady t) (s : STREAM) (i : Nat) (bytes : Int) :
    ∃ got k wire,
      transport_read_layer t s i bytes =
        some ((got.length : Int), stream_poke s i got, handedOut t (t.reads.drop k) wire) ∧
      Takes t k got wire ∧ got.length ≤ bytes.toNat ∧ (0 < bytes → 1 ≤ k) := by
  unfold transport_read_layer
  rw [transport_read_layer_loop]
  split
  · rename_i hsome
    obtain ⟨got, wire, hread, htakes, hlen⟩ := layer_read.spec ht (n := bytes.toNat - 0) hsome
    refine ⟨got, 1, wire, ?_, htakes, hlen, fun _ => Nat.le_refl 1⟩
    rw [hread]
    simp [transport.handedOut, ht.blocking]
  · refine ⟨[], 0, t.wire, ?_, .nothing t, by simp, by omega⟩
    simp [stream_poke, transport.handedOut]

theorem transport_read_header.spec (ht : Steady t) (s : STREAM) :
    ∃ got k wire,
      transport_read_header t s 4 =
        some ((got.length : Int), stream_poke s s.pos got, handedOut t (t.reads.drop k) wire) ∧
      Takes t k got wire ∧ got.length ≤ 4 - s.pos ∧ (s.pos < 4 → 1 ≤ k) := by
  unfold transport_read_header
  by_cases hheader : s.pos < 4
  · simp only [stream_get_length, hheader, if_true]
    obtain ⟨got, k, wire, hread, htakes, hlen, hone⟩ :=
      transport_read_layer.spec ht s s.pos ((4 : Nat) - s.pos)
    exact ⟨got, k, wire, hread, htakes, by omega, fun _ => hone (by omega)⟩
  · refine ⟨[], 0, t.wire, ?_, .nothing t, by simp, fun h => absurd h hheader⟩
    simp [stream_get_length, hheader, stream_poke, transport.handedOut]

variable (cb : Callbacks κ)

theorem transport_read.spec (fuel : Nat) (ht : Steady t) (hs : s.pos ≤ s.data.length) :
    ∃ got k wire,
      transport_read cb (fuel + 1) t s =
        some ((got.length : Int), stream_poke s s.pos got, handedOut t (t.reads.drop k) wire) ∧
      Takes t k got wire ∧ (s.pos < 4 ∨ s.pos < transport_pdu_bytes t.layer s → 1 ≤ k) ∧
      (got = [] ∨ s.pos + got.length ≤ 4 ∨
        4 ≤ s.pos + got.length ∧
        s.pos + got.length ≤ transport_pdu_bytes t.layer (stream_poke s s.pos got)) := by
  obtain ⟨a, k1, wire1, hfirst, htakes1, hlen1, hone1⟩ := transport_read_header.spec ht s
  have ht1 := ht.handedOut k1 wire1
  have hnonneg : ¬ (a.length : Int) < 0 := by omega
  rw [transport_read.eq_def]
  simp only [ht.not_tsg, if_false, stream_get_length, hfirst, Option.bind_eq_bind,
    Option.bind_some, hnonneg]
  by_cases hheader : s.pos + a.length < 4
  · refine ⟨a, k1, wire1, ?_, htakes1, fun _ => hone1 (by omega), Or.inr (Or.inl (by omega))⟩
    rw [if_pos (by omega)]
    rfl
  · -- The header is complete, so the second read runs.
    rw [if_neg (by omega)]
    obtain ⟨b, k2, wire2, hsecond, htakes2, hlen2, hone2⟩ :=
      transport_read_layer.spec ht1 (stream_poke s s.pos a) (s.pos + a.length)
        (transport_pdu_bytes t.layer (stream_poke s s.pos a) - (s.pos + a.length : Nat))
    have hpoke : stream_poke (stream_poke s s.pos a) (s.pos + a.length) b =
        stream_poke s s.pos (a ++ b) := by
      simp only [stream_poke, patch_patch s.data a b s.pos hs]
    rw [hpoke] at hsecond
    refine ⟨a ++ b, k1 + k2, wire2, ?_, htakes1.trans htakes2, ?_, ?_⟩
    · have hlayer : (handedOut t (t.reads.drop k1) wire1).layer = t.layer := rfl
      have hblock : ∀ reads wire, (handedOut (handedOut t (t.reads.drop k1) wire1) reads
          wire).blocking = false := fun _ _ => ht.blocking
      have hnonneg2 : ¬ (b.length : Int) < 0 := by omega
      simp only [hlayer, Int.toNat_natCast, hsecond, Option.bind_some, hnonneg2, if_false, hblock,
        Bool.false_eq_true, false_and]
      rw [length_append, Nat.cast_add, ← drop_drop]
      rfl
    · intro hsome
      by_cases hpos : s.pos < 4
      · have hk1 := hone1 hpos
        omega
      · have hnil : a = [] := eq_nil_of_length_eq_zero (by omega)
        have hk2 := hone2 (by
          rw [hnil, show stream_poke s s.pos [] = s by simp [stream_poke]]
          simp only [length_nil]
          omega)
        omega
    · rcases b with _ | ⟨x, b⟩
      · rw [append_nil]
        rcases a with _ | ⟨y, a⟩
        · exact Or.inl rfl
        · exact Or.inr (Or.inl (by simp only [length_cons] at *; omega))
      · have hprefix : (stream_poke s s.pos a).data.take 4 =
            (stream_poke s s.pos (a ++ x :: b)).data.take 4 :=
          (take_patch_append s.data a (x :: b) s.pos 4 hs (by omega)).symm
        rw [transport_pdu_bytes_congr ht.not_tsg hprefix] at hlen2
        simp only [length_append, length_cons] at *
        exact Or.inr (Or.inr (by omega))

/-! ## One call -/

/-- The transport between two calls. The PDUs of `todo` are still to be delivered.
The buffer has the first bytes of the first of them, and the wire has the rest. -/
structure Between (todo : List (List UInt8)) (t : rdpTransport κ) : Prop where
  steady : Steady t
  level : t.level = 0
  pos_le_size : t.recv_buffer.pos ≤ t.recv_buffer.size
  pos_le_memory : t.recv_buffer.pos ≤ t.recv_buffer.data.length
  pdus : ∀ p ∈ todo, IsPdu p
  bytes : t.recv_buffer.data.take t.recv_buffer.pos ++ t.wire = todo.flatten
  cut : ∀ p ∈ todo.head?, t.recv_buffer.pos < p.length

/-- The buffer has `pos` bytes of the PDU `p`, and maybe all of them. -/
structure Holds (p : List UInt8) (s : STREAM) : Prop where
  pdu : IsPdu p
  pos_le_size : s.pos ≤ s.size
  pos_le_memory : s.pos ≤ s.data.length
  pos_le_pdu : s.pos ≤ p.length
  bytes : s.data.take s.pos = p.take s.pos

theorem Holds.first_four (h : Holds p s) (hpos : 4 ≤ s.pos) : s.data.take 4 = p.take 4 := by
  have htake := congrArg (List.take 4) h.bytes
  rwa [take_take, take_take, Nat.min_eq_left hpos] at htake

theorem Holds.read_pdu_length (h : Holds p s) (hpos : 4 < s.pos) :
    ∃ k, read_pdu_length (stream_set_pos s 0) = (some p.length, stream_set_pos s k) := by
  have hsize := h.pos_le_size
  obtain ⟨k, hk⟩ := transport.read_pdu_length.spec (s := stream_set_pos s 0) h.pdu rfl
    (by simp only [stream_set_pos_size]; omega) (h.first_four (by omega))
  exact ⟨k, hk⟩

theorem check_rdp_pdu_waits (h : Holds p t.recv_buffer) (hpart : t.recv_buffer.pos < p.length) :
    check_rdp_pdu cb t = some (0, t) := by
  by_cases hheader : t.recv_buffer.pos ≤ 4
  · simp [check_rdp_pdu, stream_get_pos, hheader]
  · obtain ⟨k, hk⟩ := h.read_pdu_length (by omega)
    have hlen : p.length ≠ 0 := by omega
    simp only [check_rdp_pdu, stream_get_pos, hheader, hk, hlen, hpart, if_false, if_true]
    rfl

theorem check_rdp_pdu_delivers (h : Holds p t.recv_buffer) (hwhole : t.recv_buffer.pos = p.length) :
    ∃ s, IsWhole s p ∧
      check_rdp_pdu cb t =
        if (cb.recv_callback t.extra s).1 then
          some (0, { t with
            extra := (cb.recv_callback t.extra s).2.1, calls := t.calls ++ [s],
            recv_buffer := stream_set_pos (cb.recv_callback t.extra s).2.2 0 })
        else
          some (-1, { t with
            extra := (cb.recv_callback t.extra s).2.1, calls := t.calls ++ [s],
            recv_buffer := (cb.recv_callback t.extra s).2.2 }) := by
  have hlen := h.pdu.five_le
  obtain ⟨k, hk⟩ := h.read_pdu_length (by omega)
  refine ⟨{ t.recv_buffer with size := p.length, pos := 0 }, ⟨?_, rfl, rfl⟩, ?_⟩
  · simp only [STREAM.bytes]
    rw [← hwhole, h.bytes, hwhole, take_length]
  · have hheader : ¬ p.length ≤ 4 := by omega
    have hne : p.length ≠ 0 := by omega
    have hnlt : ¬ p.length < p.length := by omega
    have hsealed : stream_set_pos (stream_seal (stream_set_pos (stream_set_pos t.recv_buffer k)
        p.length)) 0 = { t.recv_buffer with size := p.length, pos := 0 } := rfl
    simp only [check_rdp_pdu, stream_get_pos, hwhole, hheader, hk, hne, hnlt, if_false,
      do_callback, hsealed]
    split <;> rfl

/-- The transport right after a read: the buffer has more of the first PDU, and
nothing of the second one. -/
structure Filled (todo : List (List UInt8)) (t t' : rdpTransport κ) : Prop where
  steady : Steady t'
  level : t'.level = 0
  extra : t'.extra = t.extra
  calls : t'.calls = t.calls
  enough : Enough t → Enough t'
  reads : todo ≠ [] → t'.reads.length ≤ t.reads.length - 1
  pdus : ∀ p ∈ todo, IsPdu p
  bytes : t'.recv_buffer.data.take t'.recv_buffer.pos ++ t'.wire = todo.flatten
  holds : ∀ p ∈ todo.head?, Holds p t'.recv_buffer
  idle : todo = [] → t'.recv_buffer.pos = 0

theorem transport_read_nonblocking.spec (fuel : Nat) (h : Between todo t) :
    ∃ (n : Nat) (t' : rdpTransport κ),
      transport_read_nonblocking cb (fuel + 1) t = some ((n : Int), t') ∧ Filled todo t t' := by
  have hroom := stream_check_size_room t.recv_buffer (32 * 1024) (by omega) h.pos_le_size
  have hpos := stream_check_size_pos t.recv_buffer (32 * 1024) (by omega) h.pos_le_size
  have htake := stream_check_size_take t.recv_buffer (32 * 1024) (by omega) h.pos_le_size
    h.pos_le_memory
  have hmem := stream_check_size_length t.recv_buffer (32 * 1024) (by omega) h.pos_le_size
    h.pos_le_memory
  generalize hs : stream_check_size t.recv_buffer (32 * 1024) = s at hroom hpos htake hmem
  rw [← hpos] at htake hmem hroom
  obtain ⟨got, k, wire, hread, htakes, hone, hbound⟩ :=
    transport_read.spec cb fuel h.steady hmem
  have hbytes := h.bytes
  rw [← hpos, ← htake] at hbytes
  have hreads : todo ≠ [] → (t.reads.drop k).length ≤ t.reads.length - 1 := by
    intro hne
    obtain ⟨p, ps, rfl⟩ := exists_cons_of_ne_nil hne
    have hcut := h.cut p (by simp)
    have hk := hone (by
      by_cases hfour : s.pos < 4
      · exact Or.inl hfour
      · rw [h.steady.pdu_bytes (h.pdus p (by simp)) hbytes (by omega) hmem]
        omega)
    rw [length_drop]
    omega
  rw [htakes.bytes, ← append_assoc, ← take_patch s.data got s.pos hmem] at hbytes
  have hlen : ((patch s.data s.pos got).take (s.pos + got.length)).length = s.pos + got.length := by
    rw [length_take, length_patch _ _ _ hmem]
    omega
  refine ⟨got.length, { handedOut t (t.reads.drop k) wire with
      recv_buffer := stream_seek (stream_poke s s.pos got) got.length }, ?_,
    ⟨h.steady.layer, h.steady.blocking, (h.steady.handedOut k wire).reads⟩, h.level, rfl, rfl,
    htakes.enough, hreads, h.pdus, hbytes, ?_, ?_⟩
  · simp only [transport_read_nonblocking, hs, hread, Option.bind_eq_bind, Option.bind_some,
      Int.toNat_natCast]
    split
    · have hnil : got = [] := eq_nil_of_length_eq_zero (by omega)
      subst hnil
      rfl
    · rfl
  · intro p hp
    obtain ⟨ps, rfl⟩ : ∃ ps, todo = p :: ps := by
      cases todo with
      | nil => simp at hp
      | cons q ps => simp at hp; exact ⟨ps, by rw [hp]⟩
    have hpdu := h.pdus p (by simp)
    have hfive := hpdu.five_le
    have hle : s.pos + got.length ≤ p.length := by
      rcases hbound with hnone | hpart | ⟨hfour, hall⟩
      · have hcut := h.cut p (by simp)
        simp only [hnone, length_nil]
        omega
      · omega
      · rwa [h.steady.pdu_bytes (s := stream_poke s s.pos got) hpdu hbytes hfour
          (by rw [stream_poke, length_patch _ _ _ hmem]; omega)] at hall
    have hbig := hpdu.le_32767
    refine ⟨hpdu, ?_, ?_, hle, ?_⟩
    · simp only [stream_seek_pos, stream_seek_size, stream_poke]
      omega
    · simp only [stream_seek_pos, stream_seek_data, stream_poke, length_patch _ _ _ hmem]
      omega
    · have hfirst := take_of_append_eq (n := s.pos + got.length) hbytes (by omega) hle
      rwa [take_take, Nat.min_self] at hfirst
  · intro hnil
    subst hnil
    have hempty := congrArg length (append_eq_nil_iff.mp hbytes).1
    rwa [hlen] at hempty

theorem transport_check_fds.spec (fuel : Nat) (h : Between todo t) :
    ∃ (status : Int) (t' : rdpTransport κ),
      transport_check_fds cb (fuel + 1) t = some (status, t') ∧ (Enough t → Enough t') ∧
      (todo ≠ [] → t'.reads.length ≤ t.reads.length - 1) ∧
      ((status = 0 ∧ Between todo t' ∧ t'.calls = t.calls ∧ t'.extra = t.extra) ∨
        ∃ p ps s, todo = p :: ps ∧ t'.calls = t.calls ++ [s] ∧ IsWhole s p ∧
          t'.extra = (cb.recv_callback t.extra s).2.1 ∧
          (status = 0 ∧ Between ps t' ∨ status ≠ 0 ∧ (cb.recv_callback t.extra s).1 = false)) := by
  obtain ⟨n, t1, hread, hfill⟩ := transport_read_nonblocking.spec cb fuel h
  have hnonneg : ¬ (n : Int) < 0 := by omega
  have hlevel : ¬ t.level ≠ 0 := by simp [h.level]
  simp only [transport_check_fds, hlevel, if_false, hread, Option.bind_some, hnonneg,
    hfill.steady.not_tsg]
  cases todo with
  | nil =>
    have hpos := hfill.idle rfl
    refine ⟨0, t1, if_pos hpos, hfill.enough, hfill.reads,
      Or.inl ⟨rfl, ?_, hfill.calls, hfill.extra⟩⟩
    exact ⟨hfill.steady, hfill.level, by omega, by omega, h.pdus, hfill.bytes, by simp⟩
  | cons p ps =>
    have hp := hfill.holds p (by simp)
    by_cases hpart : t1.recv_buffer.pos < p.length
    · refine ⟨0, t1, ?_, hfill.enough, hfill.reads, Or.inl ⟨rfl, ?_, hfill.calls, hfill.extra⟩⟩
      · rw [check_rdp_pdu_waits cb hp hpart]
        split <;> rfl
      · exact ⟨hfill.steady, hfill.level, hp.pos_le_size, hp.pos_le_memory, h.pdus, hfill.bytes,
          by simpa using hpart⟩
    · have hwhole : t1.recv_buffer.pos = p.length := by
        have hle := hp.pos_le_pdu
        omega
      have hfive := hp.pdu.five_le
      obtain ⟨s, hs, hcheck⟩ := check_rdp_pdu_delivers cb hp hwhole
      rw [if_neg (by omega), hcheck, hfill.extra, hfill.calls]
      cases hok : (cb.recv_callback t.extra s).1 with
      | false =>
        exact ⟨-1, _, rfl, hfill.enough, hfill.reads,
          Or.inr ⟨p, ps, s, rfl, rfl, hs, rfl, Or.inr ⟨by omega, hok⟩⟩⟩
      | true =>
        refine ⟨0, _, rfl, hfill.enough, hfill.reads,
          Or.inr ⟨p, ps, s, rfl, rfl, hs, rfl, Or.inl ⟨rfl, ?_⟩⟩⟩
        have hrest : t1.wire = ps.flatten := by
          have hbytes := hfill.bytes
          rw [hp.bytes, hwhole, take_length, flatten_cons] at hbytes
          exact append_cancel_left hbytes
        have hpdus : ∀ q ∈ ps, IsPdu q := (forall_mem_cons.mp h.pdus).2
        refine ⟨⟨hfill.steady.layer, hfill.steady.blocking, hfill.steady.reads⟩, hfill.level,
          by simp, by simp, hpdus, by simpa using hrest, ?_⟩
        intro q hq
        have hfive := (hpdus q (mem_of_mem_head? hq)).five_le
        simp only [stream_set_pos_pos]
        omega

/-! ## Whole runs -/

/-- What the callback has made of its data when it got the streams one after the other. -/
def handled (cb : Callbacks κ) (extra : κ) (calls : List STREAM) : κ :=
  calls.foldl (fun extra s => (cb.recv_callback extra s).2.1) extra

/-- The callback refuses the last stream. -/
def RefusesLast (cb : Callbacks κ) (extra : κ) (calls : List STREAM) : Prop :=
  ∃ earlier s, calls = earlier ++ [s] ∧ (cb.recv_callback (handled cb extra earlier) s).1 = false

theorem Between.all_delivered (h : Between todo t) (hwire : t.wire = []) : todo = [] := by
  cases todo with
  | nil => rfl
  | cons p ps =>
    have hcut := h.cut p (by simp)
    have hlen := congrArg length h.bytes
    simp only [hwire, append_nil, length_take, flatten_cons, length_append] at hlen
    omega

theorem check_fds_run.spec (fuel n : Nat) (h : Between todo t) :
    ∃ (status : Int) (t' : rdpTransport κ) (done rest : List Bytes) (calls : List STREAM),
      check_fds_run cb (fuel + 1) n t = some (status, t') ∧ todo = done ++ rest ∧
      t'.calls = t.calls ++ calls ∧ t'.extra = handled cb t.extra calls ∧
      Forall₂ IsWhole calls done ∧
      (status = 0 ∧ Between rest t' ∧ (Enough t → t.reads.length ≤ n → rest = []) ∨
        status ≠ 0 ∧ RefusesLast cb t.extra calls) := by
  induction n generalizing t todo with
  | zero =>
    refine ⟨0, t, [], todo, [], rfl, rfl, by simp, rfl, .nil, Or.inl ⟨rfl, h, ?_⟩⟩
    intro henough hnone
    rw [Enough, eq_nil_of_length_eq_zero (Nat.le_zero.mp hnone)] at henough
    exact h.all_delivered (eq_nil_of_length_eq_zero (Nat.le_zero.mp henough))
  | succ n ih =>
    obtain ⟨status, t1, hcall, henough, hreads, hnext⟩ := transport_check_fds.spec cb fuel h
    simp only [check_fds_run, hcall, Option.bind_some]
    rcases hnext with ⟨hstatus, hsame, hcalls, hextra⟩ |
      ⟨p, ps, s, rfl, hcalls, hs, hextra, ⟨hstatus, hless⟩ | ⟨hstatus, hrefused⟩⟩
    · obtain ⟨status', t', done, rest, calls, hrun, hsplit, hcalls', hextra', hwhole, hend⟩ :=
        ih hsame
      rw [if_neg (by simp [hstatus]), hrun]
      rw [hextra] at hextra' hend
      refine ⟨status', t', done, rest, calls, rfl, hsplit, by rw [hcalls', hcalls], hextra',
        hwhole, hend.imp_left fun ⟨hgood, hrest, hall⟩ => ⟨hgood, hrest, fun he hn => ?_⟩⟩
      by_cases hnil : todo = []
      · exact (append_eq_nil_iff.mp (hsplit.symm.trans hnil)).2
      · have hfewer := hreads hnil
        exact hall (henough he) (by omega)
    · obtain ⟨status', t', done, rest, calls, hrun, hsplit, hcalls', hextra', hwhole, hend⟩ :=
        ih hless
      rw [if_neg (by simp [hstatus]), hrun]
      rw [hextra] at hextra' hend
      refine ⟨status', t', p :: done, rest, s :: calls, rfl, by rw [hsplit]; rfl,
        by rw [hcalls', hcalls]; simp, hextra', .cons hs hwhole, ?_⟩
      rcases hend with ⟨hgood, hrest, hall⟩ | ⟨hbad, earlier, s', hlast, hrefused⟩
      · refine Or.inl ⟨hgood, hrest, fun he hn => hall (henough he) ?_⟩
        have hfewer := hreads (cons_ne_nil p ps)
        omega
      · exact Or.inr ⟨hbad, s :: earlier, s', by rw [hlast]; rfl, hrefused⟩
    · rw [if_pos hstatus]
      exact ⟨status, t1, [p], ps, [s], rfl, rfl, hcalls, hextra, .cons hs .nil,
        Or.inr ⟨hstatus, [], s, rfl, hrefused⟩⟩

/-- What `n` calls make of the PDUs on the wire, however the layer cuts their bytes into pieces:
the callback got the first PDUs of the list, each one once, whole and in order. The buffer and
the wire have exactly the bytes of the other PDUs, and the buffer has less than one of them. When
the layer gives bytes often enough and every read is asked for, all PDUs were delivered. The
calls stop only when the callback refuses a PDU. -/
def Delivers (cb : Callbacks κ) (fuel n : Nat) (pdus : List (List UInt8)) (t : rdpTransport κ) :
    Prop :=
  ∃ (status : Int) (t' : rdpTransport κ) (done todo : List (List UInt8)),
    check_fds_run cb fuel n t = some (status, t') ∧ pdus = done ++ todo ∧
    Forall₂ IsWhole t'.calls done ∧ t'.extra = handled cb t.extra t'.calls ∧
    (status = 0 →
      t'.recv_buffer.data.take t'.recv_buffer.pos ++ t'.wire = todo.flatten ∧
      (∀ p ∈ todo.head?, t'.recv_buffer.pos < p.length) ∧ (t'.wire = [] → done = pdus) ∧
      (Enough t → t.reads.length ≤ n → t'.wire = [] ∧ done = pdus)) ∧
    (status ≠ 0 → RefusesLast cb t.extra t'.calls)

theorem every_pdu_is_delivered_once (cb : Callbacks κ) (fuel n : Nat)
    (pdus : List (List UInt8)) (hpdus : ∀ p ∈ pdus, IsPdu p) (t : rdpTransport κ)
    (hsteady : Steady t) (hlevel : t.level = 0) (hstart : t.recv_buffer.pos = 0)
    (hwire : t.wire = pdus.flatten) (hcalls : t.calls = []) :
    Delivers cb (fuel + 1) n pdus t := by
  have hbetween : Between pdus t := by
    refine ⟨hsteady, hlevel, by omega, by omega, hpdus, by simp [hstart, hwire], ?_⟩
    intro p hp
    have hfive := (hpdus p (mem_of_mem_head? hp)).five_le
    omega
  obtain ⟨status, t', done, todo, calls, hrun, hsplit, hcalls', hextra, hwhole, hend⟩ :=
    check_fds_run.spec cb fuel n hbetween
  rw [hcalls, nil_append] at hcalls'
  subst hcalls'
  refine ⟨status, t', done, todo, hrun, hsplit, hwhole, hextra, ?_, ?_⟩
  · intro hstatus
    rcases hend with ⟨-, hgood, hall⟩ | ⟨hbad, -⟩
    · have hdone : todo = [] → done = pdus := fun hnil => by rw [hsplit, hnil, append_nil]
      refine ⟨hgood.bytes, hgood.cut, fun hempty => hdone (hgood.all_delivered hempty), ?_⟩
      intro henough hn
      have hnil := hall henough hn
      have hbytes := hgood.bytes
      rw [hnil] at hbytes
      exact ⟨(append_eq_nil_iff.mp hbytes).2, hdone hnil⟩
    · exact absurd hstatus hbad
  · intro hstatus
    rcases hend with ⟨hgood, -⟩ | ⟨-, hrefused⟩
    · exact absurd hgood hstatus
    · exact hrefused

end

/-- A callback that takes every PDU. -/
def takesAll : Callbacks Unit where
  recv_callback := fun k s => (true, k, s)
  tsg_skip_pdu := fun k s => (false, k, s)

/-- A TPKT PDU and a fast-path PDU, and as many reads as bytes. The first read ends inside the
first header, and the second gives nothing. -/
def twoPdus : rdpTransport Unit :=
  { transport_new () (some 2 :: some 0 :: replicate 10 (some 3))
      [3, 0, 0, 6, 7, 8, 4, 5, 1, 2, 3] with blocking := false }

theorem every_pdu_is_delivered_once_two_pdus :
    Delivers takesAll 1 12 [[3, 0, 0, 6, 7, 8], [4, 5, 1, 2, 3]] twoPdus ∧ Enough twoPdus :=
  ⟨every_pdu_is_delivered_once takesAll 0 12 [[3, 0, 0, 6, 7, 8], [4, 5, 1, 2, 3]] (by decide)
    twoPdus ⟨Or.inl rfl, rfl, by decide⟩ rfl rfl rfl rfl, by unfold Enough; decide⟩

end neutrinordp.transport
