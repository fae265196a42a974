-- Where the reads of the transport go. The header of a PDU says how long the PDU is, and the rest
-- is read behind the header, into a buffer that was made long enough before the header was known.
-- So a PDU can be longer than the buffer. The routines that take the length from the header agree,
-- unless the header starts with 0x30: `transport_read` takes this byte for a message of NLA.
import CorporateClient.Gateway

namespace neutrinordp.transport

open List bytes stream headers

/-! ## The routines that parse a length -/

theorem get_rdp_pdu_length_eq (s : STREAM) :
    get_rdp_pdu_length s =
      if byte_at s 0 = 3 then (byte_at s 2).toNat * 256 + (byte_at s 3).toNat
      else if 128 ≤ (byte_at s 1).toNat then
        (byte_at s 1).toNat % 128 * 256 + (byte_at s 2).toNat
      else (byte_at s 1).toNat := by
  simp only [get_rdp_pdu_length, shiftLeft_or_byte, and_0x80, and_0x7F]

theorem read_pdu_length_eq {s : STREAM} (hpos : s.pos = 0) (hsize : 4 ≤ s.size) :
    (read_pdu_length s).1 = some (get_rdp_pdu_length s) := by
  rw [get_rdp_pdu_length_eq]
  unfold read_pdu_length tpkt_verify_header stream_peek_uint8
  by_cases hversion : byte_at s 0 = 3
  · have h3 : byte_at s s.pos = 3 := by rw [hpos, hversion]
    rw [if_pos (by rw [h3]; rfl), tpkt_read_header.spec s h3, hpos, if_pos hversion]
    simp [ofBe16, Nat.shiftLeft_eq]
  · have hfits : (stream_seek s 1).pos + 2 ≤ (stream_seek s 1).size := by
      simp only [stream_seek_pos, stream_seek_size]; omega
    have hlength := per_read_length.spec _ hfits
    simp only [stream_seek_pos, hpos, byte_at_seek, Nat.zero_add] at hlength
    rw [hpos, if_neg (by simpa using hversion), fastpath_read_header, hlength, if_neg hversion]
    split <;> rfl

/-- The headers that start with 0x30 and have the same length for all routines. -/
def SameLengthAnyway (s : STREAM) : Prop :=
  byte_at s 1 = 0x80 ∧ byte_at s 2 = 0 ∨ byte_at s 1 = 0x82 ∧ byte_at s 2 = 1 ∧ byte_at s 3 = 0xFD

instance (s : STREAM) : Decidable (SameLengthAnyway s) := by
  unfold SameLengthAnyway
  infer_instance

theorem nla_length_iff (b1 b2 b3 : UInt8) :
    (if 128 ≤ b1.toNat then b1.toNat % 128 * 256 + b2.toNat else b1.toNat) =
      (if 128 ≤ b1.toNat then
        if b1.toNat % 128 = 1 then b2.toNat + 3
        else if b1.toNat % 128 = 2 then b2.toNat * 256 + b3.toNat + 4 else 0
      else b1.toNat + 2) ↔
    (b1 = 0x80 ∧ b2 = 0 ∨ b1 = 0x82 ∧ b2 = 1 ∧ b3 = 0xFD) := by
  have h1 := b1.toNat_lt
  have h3 := b3.toNat_lt
  simp only [← UInt8.toNat_inj, UInt8.reduceToNat]
  split_ifs <;> omega

/-- What `transport_read` reads is what the other routines expect, exactly when the first byte is
not the one of a message of NLA, or the length comes out the same all the same. -/
theorem length_routines_agree_unless_nla {layer : TransportLayer} (hlayer : layer ≠ .TSG)
    {s : STREAM} (hpos : s.pos = 0) (hsize : 4 ≤ s.size) :
    ((read_pdu_length s).1 = some (transport_pdu_bytes layer s) ∧
      get_rdp_pdu_length s = transport_pdu_bytes layer s) ↔
    (byte_at s 0 ≠ 0x30 ∨ SameLengthAnyway s) := by
  rw [read_pdu_length_eq hpos hsize, Option.some.injEq, and_self, get_rdp_pdu_length_eq]
  simp only [transport_pdu_bytes, hlayer, if_false, shiftLeft_or_byte, and_0x80, and_0x7F]
  by_cases hversion : byte_at s 0 = 3
  · have hne : byte_at s 0 ≠ 0x30 := by rw [hversion]; decide
    rw [if_pos hversion, if_pos hversion]
    exact ⟨fun _ => .inl hne, fun _ => rfl⟩
  · rw [if_neg hversion, if_neg hversion]
    by_cases hnla : byte_at s 0 = 0x30
    · rw [if_pos hnla]
      have hone : byte_at s 1 &&& 0x7F = 1 ↔ (byte_at s 1).toNat % 128 = 1 := by
        rw [← UInt8.toNat_inj, and_0x7F]
        rfl
      have htwo : byte_at s 1 &&& 0x7F = 2 ↔ (byte_at s 1).toNat % 128 = 2 := by
        rw [← UInt8.toNat_inj, and_0x7F]
        rfl
      simp only [hone, htwo]
      rw [nla_length_iff]
      exact ⟨.inr, fun h => h.resolve_left (fun hne => hne hnla)⟩
    · rw [if_neg hnla]
      exact ⟨fun _ => .inl hnla, fun _ => rfl⟩

/-- A TPKT header and a fast-path header with 12 events and two bytes of length. -/
theorem length_routines_agree_on_two_headers :
    ((read_pdu_length (stream_of [3, 0, 1, 2])).1 =
        some (transport_pdu_bytes .TLS (stream_of [3, 0, 1, 2])) ∧
      get_rdp_pdu_length (stream_of [3, 0, 1, 2]) =
        transport_pdu_bytes .TLS (stream_of [3, 0, 1, 2])) ∧
    ((read_pdu_length (stream_of [0x30, 0x82, 1, 0xFD])).1 =
        some (transport_pdu_bytes .TCP (stream_of [0x30, 0x82, 1, 0xFD])) ∧
      get_rdp_pdu_length (stream_of [0x30, 0x82, 1, 0xFD]) =
        transport_pdu_bytes .TCP (stream_of [0x30, 0x82, 1, 0xFD])) :=
  ⟨(length_routines_agree_unless_nla (by decide) rfl (by decide)).mpr (by decide),
    (length_routines_agree_unless_nla (by decide) rfl (by decide)).mpr (by decide)⟩

/-- Twelve input events in 28 bytes: `transport_read` waits for 30. -/
theorem twelve_events_have_two_lengths :
    (read_pdu_length (stream_of [0x30, 28, 0, 0])).1 = some 28 ∧
      get_rdp_pdu_length (stream_of [0x30, 28, 0, 0]) = 28 ∧
      transport_pdu_bytes .TLS (stream_of [0x30, 28, 0, 0]) = 30 := by
  decide

/-! ## The reads and the buffer -/

/-- A read of the layer: the index in the buffer, the bytes that are asked for, and the size of the
buffer at this time. -/
structure Request where
  index : Nat
  bytes : Nat
  size : Nat
deriving Repr, DecidableEq

def Request.Inside (r : Request) : Prop := r.index + r.bytes ≤ r.size

def header_bytes (layer : TransportLayer) : Nat := if layer = .TSG then 10 else 4

section

variable {κ : Type}

/-- The reads of the loop of `transport_read_layer`. An unknown layer reads nothing. -/
def layer_requests (data bytes : Nat) : Nat → rdpTransport κ → STREAM → Nat → List Request
  | 0, _, _, _ => []
  | fuel + 1, t, s, read =>
    if read < bytes ∧ t.layer ≠ .CLOSED then
      ⟨data + read, bytes - read, s.size⟩ ::
        match layer_read t (bytes - read) with
        | (none, _) => []
        | (some got, t) =>
          if t.blocking = false then []
          else
            layer_requests data bytes fuel t (stream_poke s (data + read) got) (read + got.length)
    else []

/-- The reads of one turn of `transport_read`: for the header, and for the rest of the PDU when the
header is there. -/
def read_requests (t : rdpTransport κ) (s : STREAM) : List Request :=
  let header := header_bytes t.layer
  (if s.pos < header then
    layer_requests s.pos (header - s.pos) (t.reads.length + 1) t s 0
  else []) ++
  match transport_read_header t s header with
  | none => []
  | some (status, s', t') =>
    if status < 0 ∨ s.pos + status < header then []
    else
      let stream_bytes := s.pos + status.toNat
      layer_requests stream_bytes (transport_pdu_bytes t'.layer s' - stream_bytes : Int).toNat
        (t'.reads.length + 1) t' s' 0

/-- A blocking read of a gateway PDU that the upper layers do not need starts over. These are the
transport and the stream it starts over with. -/
def transport_read_again (cb : Callbacks κ) (t : rdpTransport κ) (s : STREAM) :
    Option (rdpTransport κ × STREAM) := do
  let header := header_bytes t.layer
  let (status, s', t) ← transport_read_header t s header
  if status < 0 ∨ s.pos + status < header then none
  else
    let stream_bytes := s.pos + status.toNat
    let pdu_bytes := transport_pdu_bytes t.layer s'
    let (status, s', t) ← transport_read_layer t s' stream_bytes (pdu_bytes - stream_bytes)
    if status < 0 then none
    else if t.blocking ∧ t.layer = .TSG ∧ stream_bytes + status ≥ pdu_bytes then
      let (skip, extra, s') := cb.tsg_skip_pdu t.extra (stream_set_pos s' 0)
      if skip then some ({ t with extra }, stream_set_pos s' 0) else none
    else none

/-- The layer answers one request after the other, until a read fails. -/
def serve : List Request → rdpTransport κ → STREAM → STREAM × rdpTransport κ
  | [], t, s => (s, t)
  | r :: requests, t, s =>
    match layer_read t r.bytes with
    | (none, t) => (s, t)
    | (some got, t) => serve requests t (stream_poke s r.index got)

/-! ## When the header arrives -/

/-- Do the next reads of the layer give `need` bytes? A blocking read goes on until it has them. -/
def arrives (blocking : Bool) (need available : Nat) : List (Option Nat) → Bool
  | [] => need == 0
  | none :: _ => need == 0
  | some k :: reads =>
    let got := min (min k need) available
    need == 0 || got == need || (blocking && arrives blocking (need - got) (available - got) reads)

theorem layer_read.inv (t : rdpTransport κ) (n : Nat) (h : t.layer ≠ .CLOSED) :
    (t.reads = [] ∧ layer_read t n = (some [], t)) ∨
    (∃ reads, t.reads = none :: reads ∧ layer_read t n = (none, { t with reads })) ∨
    (∃ k reads, t.reads = some k :: reads ∧
      layer_read t n =
        (some (t.wire.take (min k n)), handedOut t reads (t.wire.drop (min k n)))) := by
  unfold layer_read
  rw [if_neg h]
  rcases hreads : t.reads with _ | ⟨_ | k, reads⟩
  · exact .inl ⟨rfl, rfl⟩
  · exact .inr (.inl ⟨reads, rfl, rfl⟩)
  · exact .inr (.inr ⟨k, reads, rfl, rfl⟩)

theorem stream_poke_poke (s : STREAM) (i : Nat) (a b : Bytes) :
    stream_poke (stream_poke s i a) (i + a.length) b = stream_poke s i (a ++ b) := by
  by_cases hi : i ≤ s.data.length
  · simp only [stream_poke, patch_patch s.data a b i hi]
  · have hpast : ∀ (l seg : Bytes) (j : Nat), l.length ≤ j → patch l j seg = l ++ seg := by
      intro l seg j hj
      unfold patch
      rw [take_of_length_le hj, drop_eq_nil_of_le (by omega), append_nil]
    simp only [stream_poke, hpast s.data a i (by omega), hpast s.data (a ++ b) i (by omega)]
    rw [hpast _ b _ (by rw [length_append]; omega), append_assoc]

theorem arrives_zero (blocking : Bool) (available : Nat) (reads : List (Option Nat)) :
    arrives blocking 0 available reads = true := by
  rcases reads with _ | ⟨_ | k, reads⟩ <;> simp [arrives]

theorem take_append_take_drop (l : Bytes) {m n : Nat} (h : m ≤ n) :
    l.take m ++ (l.drop m).take (n - (l.take m).length) = l.take n := by
  by_cases hm : m ≤ l.length
  · rw [length_take, Nat.min_eq_left hm, ← take_add]
    congr 1
    omega
  · rw [take_of_length_le (by omega), drop_eq_nil_of_le (by omega), take_nil,
      append_nil, take_of_length_le (by omega)]

variable {t t' : rdpTransport κ} {s s' : STREAM} {data bytes read : Nat}

/-- A read gives all of its bytes if they arrive, and less if they do not. -/
abbrev Gives (run : Option (Int × STREAM × rdpTransport κ)) (all : Bool) (bytes : Nat)
    (s' : STREAM) (t : rdpTransport κ) : Prop :=
  (all = true → ∃ t', run = some ((bytes : Int), s', t') ∧ t'.layer = t.layer) ∧
  (all = false → ∀ status s' t', run = some (status, s', t') → status < bytes)

theorem blocking_loop_waits (fuel : Nat) (s : STREAM) (hblocking : t.blocking = true)
    (hopen : t.layer ≠ .CLOSED) (hread : read < bytes) (hreads : t.reads = []) :
    transport_read_layer_loop data bytes fuel t s read = none := by
  induction fuel generalizing s with
  | zero => rfl
  | succ fuel ih =>
    have hlayer : layer_read t (bytes - read) = (some [], t) := by
      unfold layer_read
      rw [if_neg hopen, hreads]
    unfold transport_read_layer_loop
    rw [if_pos hread, hlayer]
    dsimp only
    rw [hblocking, if_neg (by simp)]
    exact ih _

theorem blocking_loop (data bytes fuel : Nat) (t : rdpTransport κ) (s : STREAM) (read : Nat)
    (hblocking : t.blocking = true) (hopen : t.layer ≠ .CLOSED) (hread : read ≤ bytes)
    (hfuel : t.reads.length < fuel) :
    Gives (transport_read_layer_loop data bytes fuel t s read)
      (arrives true (bytes - read) t.wire.length t.reads) bytes
      (stream_poke s (data + read) (t.wire.take (bytes - read))) t := by
  induction fuel generalizing t s read with
  | zero => omega
  | succ fuel ih =>
    by_cases hdone : read < bytes
    · have hneed : (bytes - read == 0) = false := by simp; omega
      rcases layer_read.inv t (bytes - read) hopen with ⟨hreads, hlayer⟩ | ⟨reads, hreads, hlayer⟩ |
        ⟨k, reads, hreads, hlayer⟩
      · rw [blocking_loop_waits (fuel + 1) s hblocking hopen hdone hreads, hreads]
        simp [Gives, arrives, hneed]
      · unfold transport_read_layer_loop
        rw [if_pos hdone, hreads, hlayer]
        simp only [arrives, hneed]
        refine ⟨fun h => absurd h (by simp), ?_⟩
        intro _ status s' t' h
        cases h
        omega
      · unfold transport_read_layer_loop
        rw [if_pos hdone, hlayer]
        rw [hreads, length_cons] at hfuel
        generalize hm : min k (bytes - read) = m
        have hle : m ≤ bytes - read := by omega
        have hgot : (t.wire.take m).length = min m t.wire.length := length_take
        have hrest : (t.wire.drop m).length = t.wire.length - min m t.wire.length := by
          rw [length_drop]
          omega
        -- The bytes so far are enough, or the rest has to arrive.
        have harrives : arrives true (bytes - read) t.wire.length t.reads =
            arrives true (bytes - (read + (t.wire.take m).length))
              (t.wire.drop m).length reads := by
          rw [hreads, hgot, hrest, ← Nat.sub_sub]
          simp only [arrives, hneed, Bool.false_or, Bool.true_and, hm]
          by_cases hall : min m t.wire.length = bytes - read
          · rw [hall, Nat.sub_self, arrives_zero, Bool.or_true]
          · rw [beq_eq_false_iff_ne.mpr hall, Bool.false_or]
        obtain ⟨hyes, hno⟩ := ih (handedOut t reads (t.wire.drop m))
          (stream_poke s (data + read) (t.wire.take m)) (read + (t.wire.take m).length) hblocking
          hopen (by omega) (by exact Nat.lt_of_succ_lt_succ hfuel)
        have hturn : (handedOut t reads (t.wire.drop m)).blocking = true := hblocking
        rw [harrives]
        dsimp only
        rw [hturn, if_neg (by simp)]
        refine ⟨fun h => ?_, fun h => hno h⟩
        obtain ⟨t', hrun, hlayer'⟩ := hyes h
        refine ⟨t', ?_, hlayer'⟩
        rw [hrun, ← Nat.add_assoc, stream_poke_poke, ← Nat.sub_sub]
        have hwire : (handedOut t reads (t.wire.drop m)).wire = t.wire.drop m := rfl
        rw [hwire, take_append_take_drop t.wire hle]
    · have hall : bytes - read = 0 := by omega
      obtain rfl : read = bytes := by omega
      unfold transport_read_layer_loop
      refine ⟨fun _ => ⟨t, by simp [stream_poke], rfl⟩, ?_⟩
      intro hnot
      cases hreads : t.reads with
      | nil => simp [hreads, arrives] at hnot
      | cons r reads => cases r <;> simp [hreads, arrives] at hnot

theorem transport_read_layer_arrives (t : rdpTransport κ) (s : STREAM) (data bytes : Nat)
    (hopen : t.layer ≠ .CLOSED) :
    Gives (transport_read_layer t s data bytes)
      (arrives t.blocking bytes t.wire.length t.reads) bytes
      (stream_poke s data (t.wire.take bytes)) t := by
  unfold transport_read_layer
  rw [Int.toNat_natCast]
  cases hblocking : t.blocking with
  | true =>
    exact blocking_loop data bytes _ t s 0 hblocking hopen (Nat.zero_le _) (Nat.lt_succ_self _)
  | false =>
    unfold transport_read_layer_loop
    by_cases hbytes : 0 < bytes
    · have hneed : (bytes == 0) = false := by simp; omega
      rw [if_pos hbytes, Nat.sub_zero]
      rcases layer_read.inv t bytes hopen with ⟨hreads, hlayer⟩ | ⟨reads, hreads, hlayer⟩ |
        ⟨k, reads, hreads, hlayer⟩
      · rw [hlayer, hreads]
        simp only [arrives, hneed, hblocking]
        refine ⟨fun h => absurd h (by simp), ?_⟩
        intro _ status s' t' h
        cases h
        simpa using hbytes
      · rw [hlayer, hreads]
        simp only [arrives, hneed]
        refine ⟨fun h => absurd h (by simp), ?_⟩
        intro _ status s' t' h
        cases h
        omega
      · have hturn : (handedOut t reads (t.wire.drop (min k bytes))).blocking = false := hblocking
        rw [hlayer, hreads]
        simp only [arrives, hneed, Bool.false_or, Bool.false_and, Bool.or_false, hturn, if_true]
        have hgot : (t.wire.take (min k bytes)).length = min (min k bytes) t.wire.length :=
          length_take
        refine ⟨fun h => ?_, fun h status s' t' hrun => ?_⟩
        · have hall : min (min k bytes) t.wire.length = bytes := by simpa using h
          have hk : min k bytes = bytes := by omega
          refine ⟨handedOut t reads (t.wire.drop bytes), ?_, rfl⟩
          rw [hgot, hall, hk]
          rfl
        · have hpart : min (min k bytes) t.wire.length ≠ bytes := by simpa using h
          cases hrun
          omega
    · obtain rfl : bytes = 0 := by omega
      rw [if_neg hbytes, arrives_zero]
      exact ⟨fun _ => ⟨t, by simp [stream_poke], rfl⟩, fun h => absurd h (by simp)⟩

theorem transport_read_header_arrives (t : rdpTransport κ) (s : STREAM) (header : Nat)
    (hopen : t.layer ≠ .CLOSED) :
    Gives (transport_read_header t s header)
      (arrives t.blocking (header - s.pos) t.wire.length t.reads) (header - s.pos)
      (stream_poke s s.pos (t.wire.take (header - s.pos))) t := by
  unfold transport_read_header stream_get_length
  by_cases hpos : s.pos < header
  · have hneed : (header : Int) - s.pos = (header - s.pos : Nat) := by omega
    simp only [hpos, if_true, hneed]
    exact transport_read_layer_arrives t s s.pos (header - s.pos) hopen
  · have hneed : header - s.pos = 0 := by omega
    simp only [hpos, if_false, hneed, arrives_zero]
    exact ⟨fun _ => ⟨t, by simp [stream_poke], rfl⟩, fun h => absurd h (by simp)⟩

/-! ## The requests -/

theorem layer_requests_mem {fuel : Nat} {r : Request}
    (h : r ∈ layer_requests data bytes fuel t s read) :
    r.index + r.bytes = data + bytes ∧ r.size = s.size := by
  induction fuel generalizing t s read with
  | zero => exact absurd h not_mem_nil
  | succ fuel ih =>
    unfold layer_requests at h
    by_cases hread : read < bytes ∧ t.layer ≠ .CLOSED
    · rw [if_pos hread] at h
      rcases mem_cons.mp h with rfl | hlater
      · refine ⟨?_, rfl⟩
        dsimp only
        omega
      · rcases hlayer : layer_read t (bytes - read) with ⟨_ | got, t'⟩
        · rw [hlayer] at hlater
          exact absurd hlater not_mem_nil
        · rw [hlayer] at hlater
          dsimp only at hlater
          split at hlater
          · exact absurd hlater not_mem_nil
          · have hnext := ih hlater
            exact hnext
    · rw [if_neg hread] at h
      exact absurd h not_mem_nil

theorem layer_requests_inside (fuel : Nat) (s : STREAM) (hopen : t.layer ≠ .CLOSED) :
    (∀ r ∈ layer_requests data bytes (fuel + 1) t s 0, r.Inside) ↔
      bytes = 0 ∨ data + bytes ≤ s.size := by
  by_cases hbytes : bytes = 0
  · subst hbytes
    simp [layer_requests]
  · constructor
    · intro h
      right
      have hfirst := h ⟨data + 0, bytes - 0, s.size⟩ (by
        unfold layer_requests
        rw [if_pos ⟨by omega, hopen⟩]
        exact mem_cons_self)
      exact hfirst
    · rintro (hzero | hfits) r hr
      · exact absurd hzero hbytes
      · obtain ⟨hend, hsize⟩ := layer_requests_mem hr
        unfold Request.Inside
        omega

theorem layer_requests_closed (data bytes fuel read : Nat) (s : STREAM) (h : t.layer = .CLOSED) :
    layer_requests data bytes fuel t s read = [] := by
  cases fuel with
  | zero => rfl
  | succ fuel =>
    unfold layer_requests
    rw [if_neg (fun hread => hread.2 h)]

/-- If the header arrives, the PDU that it announces is not longer than the buffer. The header are
the bytes in the buffer and the next ones of the wire. -/
def Fits (t : rdpTransport κ) (s : STREAM) : Prop :=
  t.layer ≠ .CLOSED →
    arrives t.blocking (header_bytes t.layer - s.pos) t.wire.length t.reads = true →
    transport_pdu_bytes t.layer
      (stream_poke s s.pos (t.wire.take (header_bytes t.layer - s.pos))) ≤ s.size

theorem layer_read_layer (t : rdpTransport κ) (n : Nat) : (layer_read t n).2.layer = t.layer := by
  unfold layer_read
  split
  · rfl
  · split <;> rfl

theorem read_layer_loop_keeps {fuel : Nat} {status : Int}
    (h : transport_read_layer_loop data bytes fuel t s read = some (status, s', t')) :
    s'.size = s.size ∧ t'.layer = t.layer := by
  induction fuel generalizing t s read with
  | zero => exact absurd h (by simp [transport_read_layer_loop])
  | succ fuel ih =>
    unfold transport_read_layer_loop at h
    by_cases hread : read < bytes
    · rw [if_pos hread] at h
      have hlayer := layer_read_layer t (bytes - read)
      rcases hresult : layer_read t (bytes - read) with ⟨_ | got, t1⟩
      · rw [hresult] at h hlayer
        cases h
        exact ⟨rfl, hlayer⟩
      · rw [hresult] at h hlayer
        dsimp only at h hlayer
        split at h
        · cases h
          exact ⟨rfl, hlayer⟩
        · obtain ⟨hsize, hnext⟩ := ih h
          exact ⟨hsize, hnext.trans hlayer⟩
    · rw [if_neg hread] at h
      cases h
      exact ⟨rfl, rfl⟩

theorem read_header_keeps {header : Nat} {status : Int}
    (h : transport_read_header t s header = some (status, s', t')) :
    s'.size = s.size ∧ t'.layer = t.layer := by
  unfold transport_read_header at h
  dsimp only at h
  split at h
  · exact read_layer_loop_keeps h
  · cases h
    exact ⟨rfl, rfl⟩

theorem layer_requests_served {fuel : Nat} {status : Int} (rest : List Request)
    (h : transport_read_layer_loop data bytes fuel t s read = some (status, s', t'))
    (hrest : status < 0 → rest = []) :
    serve (layer_requests data bytes fuel t s read ++ rest) t s = serve rest t' s' := by
  induction fuel generalizing t s read with
  | zero => exact absurd h.symm (Option.some_ne_none _)
  | succ fuel ih =>
    unfold transport_read_layer_loop at h
    unfold layer_requests
    by_cases hread : read < bytes
    · rw [if_pos hread] at h
      by_cases hclosed : t.layer = .CLOSED
      · rw [layer_read, if_pos hclosed] at h
        cases h
        rw [if_neg (fun hboth => hboth.2 hclosed), nil_append, hrest (by decide)]
      · rw [if_pos ⟨hread, hclosed⟩, cons_append, serve]
        rcases hgot : layer_read t (bytes - read) with ⟨_ | got, t1⟩
        · rw [hgot] at h
          cases h
          rw [hrest (by decide)]
          rfl
        · rw [hgot] at h
          dsimp only at h ⊢
          by_cases hblocking : t1.blocking = false
          · rw [if_pos hblocking] at h ⊢
            cases h
            rfl
          · rw [if_neg hblocking] at h ⊢
            exact ih h
    · rw [if_neg hread] at h
      cases h
      rw [if_neg (fun hboth => hread hboth.1), nil_append]

theorem header_requests_served {header : Nat} {status : Int} (rest : List Request)
    (h : transport_read_header t s header = some (status, s', t'))
    (hrest : status < 0 → rest = []) :
    serve ((if s.pos < header then
      layer_requests s.pos (header - s.pos) (t.reads.length + 1) t s 0 else []) ++ rest) t s =
        serve rest t' s' := by
  unfold transport_read_header at h
  dsimp only [stream_get_length] at h
  split at h
  · rename_i hpos
    unfold transport_read_layer at h
    rw [Int.toNat_sub] at h
    rw [if_pos hpos]
    exact layer_requests_served rest h hrest
  · rename_i hpos
    cases h
    rw [if_neg hpos, nil_append]

/-- What `transport_read` leaves in the stream and in the transport is what the layer leaves that
answers the requests. A PDU of a gateway also goes to `tsg_skip_pdu`. -/
theorem read_requests_served (cb : Callbacks κ) (fuel : Nat) {status : Int}
    (hlayer : t.layer ≠ .TSG) (h : transport_read cb (fuel + 1) t s = some (status, s', t')) :
    serve (read_requests t s) t s = (s', t') := by
  have hheader_bytes : header_bytes t.layer = 4 := if_neg hlayer
  unfold transport_read at h
  simp only [stream_get_length, if_neg hlayer] at h
  unfold read_requests
  simp only [hheader_bytes]
  obtain ⟨⟨status1, s1, t1⟩, hheader, h⟩ := Option.bind_eq_some_iff.mp h
  have hkeeps : t1.layer = t.layer := (read_header_keeps hheader).2
  dsimp only at h
  rw [hheader]
  refine (header_requests_served _ hheader fun hneg => if_pos (.inl hneg)).trans ?_
  by_cases hmore : status1 < 0 ∨ s.pos + status1 < (4 : Nat)
  · rw [if_pos hmore]
    by_cases hneg : status1 < 0
    · rw [if_pos hneg] at h
      cases h
      rfl
    · rw [if_neg hneg, if_pos (hmore.resolve_left hneg)] at h
      cases h
      rfl
  · rw [if_neg hmore]
    obtain ⟨hneg, hshort⟩ := not_or.mp hmore
    rw [if_neg hneg, if_neg hshort] at h
    obtain ⟨⟨status2, s2, t2⟩, hbody, h⟩ := Option.bind_eq_some_iff.mp h
    have hplain : t2.layer ≠ .TSG := fun hgateway =>
      hlayer (hkeeps.symm.trans ((read_layer_loop_keeps hbody).2.symm.trans hgateway))
    simp only [hplain, false_and, and_false, if_false] at h
    have hserved := layer_requests_served [] hbody fun _ => rfl
    rw [append_nil] at hserved
    refine hserved.trans ?_
    split at h <;> cases h <;> rfl

theorem transport_read_starts_over (cb : Callbacks κ) (fuel : Nat)
    (h : transport_read_again cb t s = some (t', s')) :
    transport_read cb (fuel + 1) t s = transport_read cb fuel t' s' := by
  have hheader_bytes : (if t.layer = .TSG then 10 else 4) = header_bytes t.layer := rfl
  unfold transport_read_again at h
  obtain ⟨⟨status1, s1, t1⟩, hheader, h⟩ := Option.bind_eq_some_iff.mp h
  dsimp only at h
  split at h
  · cases h
  · rename_i hmore
    obtain ⟨hneg, hshort⟩ := not_or.mp hmore
    obtain ⟨⟨status2, s2, t2⟩, hbody, h⟩ := Option.bind_eq_some_iff.mp h
    dsimp only at h
    split at h
    · cases h
    · rename_i hneg2
      split at h
      · rename_i hgateway
        split at h
        · rename_i hskip
          cases h
          conv_lhs => unfold transport_read
          simp only [stream_get_length, hheader_bytes, hheader, Option.bind_eq_bind,
            Option.bind_some, if_neg hneg, if_neg hshort, hbody, if_neg hneg2, if_pos hskip]
          exact if_pos ⟨hgateway.1, hgateway.2.1, decide_eq_true hgateway.2.2⟩
        · cases h
      · cases h

theorem read_requests_inside (hpos : s.pos ≤ s.size) (hheader : header_bytes t.layer ≤ s.size) :
    (∀ r ∈ read_requests t s, r.Inside) ↔ Fits t s := by
  unfold read_requests Fits
  rw [forall_mem_append]
  by_cases hopen : t.layer = .CLOSED
  · refine ⟨fun _ hnot => absurd hopen hnot, fun _ => ⟨?_, ?_⟩⟩
    · rw [layer_requests_closed _ _ _ _ _ hopen, ite_self]
      exact forall_mem_nil _
    · rcases hrun : transport_read_header t s (header_bytes t.layer) with _ | ⟨status, s', t'⟩
      · exact forall_mem_nil _
      · dsimp only
        rw [layer_requests_closed _ _ _ _ _ ((read_header_keeps hrun).2.trans hopen), ite_self]
        exact forall_mem_nil _
  -- The reads for the header are always inside.
  have hfirst : ∀ r ∈ (if s.pos < header_bytes t.layer then
      layer_requests s.pos (header_bytes t.layer - s.pos) (t.reads.length + 1) t s 0 else []),
      r.Inside := by
    split
    · apply (layer_requests_inside _ s hopen).mpr
      right
      omega
    · exact forall_mem_nil _
  rw [and_iff_right hfirst]
  obtain ⟨hyes, hno⟩ := transport_read_header_arrives t s (header_bytes t.layer) hopen
  cases harrives : arrives t.blocking (header_bytes t.layer - s.pos) t.wire.length t.reads with
  | false =>
    refine ⟨fun _ _ h => absurd h (by simp), fun _ => ?_⟩
    rcases hrun : transport_read_header t s (header_bytes t.layer) with _ | ⟨status, s', t'⟩
    · exact forall_mem_nil _
    · dsimp only
      have := hno harrives status s' t' hrun
      rw [if_pos (by omega)]
      exact forall_mem_nil _
  | true =>
    obtain ⟨t', hrun, hlayer⟩ := hyes harrives
    rw [hrun]
    dsimp only
    rw [if_neg (by omega), hlayer, Int.toNat_natCast]
    generalize transport_pdu_bytes t.layer
      (stream_poke s s.pos (t.wire.take (header_bytes t.layer - s.pos))) = pdu_bytes
    rw [layer_requests_inside _ _ (by rw [hlayer]; exact hopen), stream_poke_size]
    constructor
    · intro hinside _ _
      omega
    · intro hfits
      have := hfits hopen rfl
      omega

/-! ## Every call -/

/-- The transports between the calls of a run. -/
inductive Reached (cb : Callbacks κ) (start : rdpTransport κ) : rdpTransport κ → Prop
  | start : Reached cb start start
  | call {t t' : rdpTransport κ} {fuel : Nat} {status : Int} (h : Reached cb start t)
    (hcall : transport_check_fds cb fuel t = some (status, t')) : Reached cb start t'

/-- What `transport_read` gets in the calls of a run. -/
inductive Entered (cb : Callbacks κ) (start : rdpTransport κ) : rdpTransport κ → STREAM → Prop
  | call {t : rdpTransport κ} (h : Reached cb start t) (hlevel : t.level = 0) :
    Entered cb start t (stream_check_size t.recv_buffer (32 * 1024))
  | again {t t' : rdpTransport κ} {s s' : STREAM} (h : Entered cb start t s)
    (hagain : transport_read_again cb t s = some (t', s')) : Entered cb start t' s'

theorem stream_check_size_loop_room {n : Nat} (hn : 0 < n) (fuel : Nat) (s : STREAM)
    (hfuel : s.pos + n ≤ fuel + s.size) :
    s.pos + n ≤ (stream_check_size_loop fuel s n).size ∧
      (stream_check_size_loop fuel s n).pos = s.pos := by
  induction fuel generalizing s with
  | zero =>
    unfold stream_check_size_loop
    omega
  | succ fuel ih =>
    unfold stream_check_size_loop
    split
    · apply ih (stream_extend s n)
      unfold stream_extend
      dsimp only
      split <;> omega
    · exact ⟨by omega, rfl⟩

theorem transport_read_again_size {recv_callback : κ → STREAM → Bool × κ × STREAM} {rpch : Rpch κ}
    (h : transport_read_again ⟨recv_callback, rpch_skip_pdu rpch⟩ t s = some (t', s')) :
    s'.size = s.size ∧ s'.pos = 0 := by
  unfold transport_read_again at h
  obtain ⟨⟨status, s1, t1⟩, hheader, h⟩ := Option.bind_eq_some_iff.mp h
  dsimp only at h
  split at h
  · exact absurd h (by simp)
  obtain ⟨⟨status2, s2, t2⟩, hbody, h⟩ := Option.bind_eq_some_iff.mp h
  split at h
  · exact absurd h (by simp)
  split at h
  · split at h
    · cases h
      refine ⟨?_, rfl⟩
      rw [stream_set_pos_size, (rpch_skip_pdu.spec rpch _ _).2.1, stream_set_pos_size,
        (read_layer_loop_keeps hbody).1, (read_header_keeps hheader).1]
    · exact absurd h (by simp)
  · exact absurd h (by simp)

theorem Entered.room {recv_callback : κ → STREAM → Bool × κ × STREAM} {rpch : Rpch κ}
    {start : rdpTransport κ} (h : Entered ⟨recv_callback, rpch_skip_pdu rpch⟩ start t s) :
    s.pos ≤ s.size ∧ 32768 ≤ s.size := by
  induction h with
  | @call t h hlevel =>
    obtain ⟨hroom, hpos⟩ := stream_check_size_loop_room (n := 32 * 1024) (by decide)
      (t.recv_buffer.pos + 32 * 1024) t.recv_buffer (by omega)
    unfold stream_check_size
    omega
  | again h hagain ih =>
    obtain ⟨hsize, hpos⟩ := transport_read_again_size hagain
    omega

/-- In every run, the reads for a PDU are inside of the buffer exactly when the PDU is not longer
than the buffer was made before its header was known. -/
theorem reads_inside_exactly_when_the_pdu_fits
    (recv_callback : κ → STREAM → Bool × κ × STREAM) (rpch : Rpch κ) (start : rdpTransport κ)
    {t : rdpTransport κ} {s : STREAM}
    (h : Entered ⟨recv_callback, rpch_skip_pdu rpch⟩ start t s) :
    (∀ r ∈ read_requests t s, r.Inside) ↔ Fits t s := by
  obtain ⟨hpos, hsize⟩ := h.room
  apply read_requests_inside hpos
  unfold header_bytes
  split <;> omega

end

/-- A TLS connection after the connection sequence, with a server that sends `wire`. -/
def connected (wire : List UInt8) : rdpTransport Unit :=
  { transport_new () [some 4, some 65535] wire with layer := .TLS, blocking := false }

theorem connected_room (wire : Bytes) :
    stream_check_size (connected wire).recv_buffer (32 * 1024) = stream_new BUFFER_SIZE := by
  have hbuffer : (connected wire).recv_buffer = stream_new BUFFER_SIZE := rfl
  rw [hbuffer, stream_check_size.spec _ _ (by decide) (Nat.zero_le _), if_neg]
  exact Nat.lt_irrefl _

/-- A PDU of 5 bytes. -/
theorem reads_inside_for_a_short_pdu :
    (∀ r ∈ read_requests (connected [3, 0, 0, 5, 1])
        (stream_check_size (connected [3, 0, 0, 5, 1]).recv_buffer (32 * 1024)), r.Inside) ↔
      Fits (connected [3, 0, 0, 5, 1])
        (stream_check_size (connected [3, 0, 0, 5, 1]).recv_buffer (32 * 1024)) :=
  reads_inside_exactly_when_the_pdu_fits (fun extra s => (true, extra, s))
    ⟨fun _ _ _ => (), fun _ _ => (), fun _ => 0, fun _ => ()⟩ (connected [3, 0, 0, 5, 1])
    (.call .start rfl)

/-- A PDU that says that it has 40000 bytes, at the start of a connection. -/
theorem long_pdu_is_read_past_the_buffer :
    ∃ r ∈ read_requests (connected [3, 0, 0x9C, 0x40])
        (stream_check_size (connected [3, 0, 0x9C, 0x40]).recv_buffer (32 * 1024)),
      r.size < r.index + r.bytes := by
  by_contra hnone
  push Not at hnone
  rw [connected_room] at hnone
  have hfits := (read_requests_inside (t := connected [3, 0, 0x9C, 0x40])
    (s := stream_new BUFFER_SIZE) (Nat.zero_le _) (by decide)).mp hnone
  have hlong := hfits (by decide) (by decide)
  have hbytes : transport_pdu_bytes .TLS (stream_poke (stream_new BUFFER_SIZE) 0
      [3, 0, 0x9C, 0x40]) = 40000 := by
    simp [transport_pdu_bytes, stream_poke, patch, byte_at]
  have hsize : (stream_new BUFFER_SIZE).size = 32768 := rfl
  have hstream : (connected [3, 0, 0x9C, 0x40]).wire.take
      (header_bytes (connected [3, 0, 0x9C, 0x40]).layer - (stream_new BUFFER_SIZE).pos) =
      [3, 0, 0x9C, 0x40] := rfl
  rw [hstream, hsize] at hlong
  have hread : transport_pdu_bytes (connected [3, 0, 0x9C, 0x40]).layer
      (stream_poke (stream_new BUFFER_SIZE) (stream_new BUFFER_SIZE).pos [3, 0, 0x9C, 0x40]) =
      40000 := hbytes
  omega

end neutrinordp.transport
