-- What the decompressors tell their callers about a packet: where its plaintext is in the
-- history, and how long it is. The laws hold for every stream of bytes, not only for the
-- ones that an encoder makes.
import CorporateClient.MppcDecode

open List bytes bits

namespace neutrinordp.mppc

/-! ## Every store goes behind the last one -/

/-- All that the packet has written is in the window, from `p` on. -/
def Written (window : List UInt8) (p : Nat) (w : Writer) : Prop := WritesAt window p w.written w

section

variable {window : Bytes} {p : Nat} {w w' : Writer} (hp : p ≤ window.length)

include hp

theorem Written.store {bs : Bytes} (h : w.store bs = some w') (hw : Written window p w) :
    Written window p w' := by
  have hfits : w.history_ptr + bs.length ≤ RDP6_HISTORY_BUF_SIZE := by
    by_contra hcon
    rw [Writer.store, dif_neg hcon] at h
    cases h
  rw [hw.ptr] at hfits
  obtain ⟨w1, hstore, hw1⟩ := Writer.store.spec hw hp bs hfits
  rw [hstore] at h
  cases h
  have hlog := hw1.log
  unfold Written
  rw [hlog]
  exact hw1

theorem Written.copy_bytes {lom src : Nat} (h : copy_bytes lom src w = some w')
    (hw : Written window p w) : Written window p w' := by
  induction lom generalizing src w with
  | zero =>
    cases h
    exact hw
  | succ lom ih =>
    obtain ⟨w1, hstore, hrest⟩ := Option.bind_eq_some_iff.mp h
    exact ih hrest (hw.store hp hstore)

theorem Written.copy_to_end {lom src more : Nat} (h : copy_to_end lom src w = some (more, w'))
    (hw : Written window p w) : Written window p w' := by
  induction lom generalizing src w with
  | zero =>
    cases h
    exact hw
  | succ lom ih =>
    rw [mppc.copy_to_end] at h
    split at h
    · obtain ⟨w1, hstore, hrest⟩ := Option.bind_eq_some_iff.mp h
      exact ih hrest (hw.store hp hstore)
    · cases h
      exact hw

theorem Written.copy_match {copy_offset lom : Nat} (h : copy_match w copy_offset lom = some w')
    (hw : Written window p w) : Written window p w' := by
  unfold mppc.copy_match at h
  split at h
  · exact hw.copy_bytes hp h
  · obtain ⟨⟨more, w1⟩, hend, hrest⟩ := Option.bind_eq_some_iff.mp h
    exact (hw.copy_to_end hp hend).copy_bytes hp hrest

theorem Written.decode_turn {codes : Codes} {b b' : Bits}
    (h : decode_turn codes b w = some (b', w')) (hw : Written window p w) :
    Written window p w' := by
  unfold mppc.decode_turn at h
  split at h
  · obtain ⟨w1, hstore, heq⟩ := Option.map_eq_some_iff.mp h
    cases heq
    exact hw.store hp hstore
  · split at h
    · obtain ⟨w1, hstore, heq⟩ := Option.map_eq_some_iff.mp h
      cases heq
      exact hw.store hp hstore
    · unfold decode_match at h
      dsimp only at h
      split at h
      · cases h
        exact hw
      · obtain ⟨w1, hcopy, heq⟩ := Option.map_eq_some_iff.mp h
        cases heq
        exact hw.copy_match hp hcopy

theorem Written.decode_loop {codes : Codes} {fuel : Nat} {b : Bits}
    (h : decode_loop codes fuel b w = some w') (hw : Written window p w) :
    Written window p w' := by
  induction fuel generalizing b w with
  | zero => cases h
  | succ fuel ih =>
    rw [mppc.decode_loop] at h
    split at h
    · obtain ⟨⟨b1, w1⟩, hturn, hrest⟩ := Option.bind_eq_some_iff.mp h
      exact ih hrest (hw.decode_turn hp hturn)
    · cases h
      exact hw

end

/-! ## The loop ends -/

/-- The bits of the packet that were not read yet. It is negative after a code that was
cut off. -/
def Bits.total (b : Bits) : Int := b.bits_left + b.cur_bits_left + 8 * b.cptr.length

/-- A register of 32 bits. -/
def Bits.Fits (b : Bits) : Prop := b.bits_left ≤ 32

theorem fetch_total (d32 : Nat) (bits_left : Int) (cur_byte : Nat) (cptr : Bytes) :
    (fetch d32 bits_left cur_byte cptr).total = bits_left + 8 * cptr.length := by
  cases cptr with
  | nil => simp [fetch, Bits.total]
  | cons byte cptr => simp only [fetch, Bits.total, length_cons]; omega

theorem fetch_bits_left (d32 : Nat) (bits_left : Int) (cur_byte : Nat) (cptr : Bytes) :
    (fetch d32 bits_left cur_byte cptr).bits_left = bits_left := by
  cases cptr <;> rfl

theorem refill_loop_total (cptr : Bytes) :
    ∀ (d32 : Nat) (bits_left : Int) (cur_byte cur_bits_left : Nat) (tmp : Int), 0 ≤ tmp →
      bits_left + tmp = 32 →
      (refill_loop d32 bits_left cur_byte cur_bits_left tmp cptr).total =
          bits_left + cur_bits_left + 8 * cptr.length ∧
        (refill_loop d32 bits_left cur_byte cur_bits_left tmp cptr).Fits := by
  induction cptr with
  | nil =>
    intro d32 bits_left cur_byte cur_bits_left tmp htmp hsum
    unfold refill_loop Bits.Fits
    split_ifs
    · exact ⟨rfl, show bits_left ≤ 32 by omega⟩
    · simp only [Bits.total, length_nil]
      omega
    · simp only [Bits.total, length_nil]
      omega
    · rw [fetch_total, fetch_bits_left]
      omega
  | cons byte cptr ih =>
    intro d32 bits_left cur_byte cur_bits_left tmp htmp hsum
    unfold refill_loop
    split_ifs
    · exact ⟨rfl, show bits_left ≤ 32 by omega⟩
    · obtain ⟨htotal, hfits⟩ := ih _ (bits_left + cur_bits_left) byte.toNat 8
        (tmp - cur_bits_left) (by omega) (by omega)
      refine ⟨htotal.trans ?_, hfits⟩
      rw [length_cons]
      omega
    · simp only [Bits.total, Bits.Fits]
      omega
    · simp only [Bits.Fits, fetch_total, fetch_bits_left]
      omega

theorem refill_total {b : Bits} (h : b.Fits) : (refill b).total = b.total ∧ (refill b).Fits :=
  refill_loop_total b.cptr b.d32 b.bits_left b.cur_byte b.cur_bits_left (32 - b.bits_left)
    (by unfold Bits.Fits at h; omega) (by omega)

theorem load_total (cptr : Bytes) :
    ∀ (d32 : Nat) (bits_left : Int) (tmp : Nat), bits_left + tmp ≤ 24 →
      (load d32 bits_left tmp cptr).total = bits_left + 8 * cptr.length ∧
        (load d32 bits_left tmp cptr).Fits := by
  induction cptr with
  | nil =>
    intro d32 bits_left tmp htmp
    refine ⟨fetch_total _ _ _ _, ?_⟩
    show bits_left ≤ 32
    omega
  | cons byte cptr ih =>
    intro d32 bits_left tmp htmp
    unfold load
    split_ifs
    · simp only [Bits.Fits, fetch_total, fetch_bits_left, length_cons]
      omega
    · obtain ⟨htotal, hfits⟩ := ih _ (bits_left + 8)
        (tmp - 8) (by omega)
      refine ⟨htotal.trans ?_, hfits⟩
      rw [length_cons]
      omega

theorem Bits.skip_total (b : Bits) (n : Nat) : (b.skip n).total = b.total - n := by
  simp only [Bits.skip, Bits.total]
  omega

theorem Bits.Fits.skip {b : Bits} (h : b.Fits) (n : Nat) : (b.skip n).Fits := by
  simp only [Bits.Fits, Bits.skip] at h ⊢
  omega

/-- Every pattern that is not a literal starts an offset, and takes at least eight bits. -/
structure Codes.Complete (codes : Codes) : Prop where
  covers : ∀ d, d &&& 0x80000000 ≠ 0 → d &&& 0xc0000000 ≠ 0x80000000 →
    ∃ row ∈ codes.offsets, d &&& row.mask = row.pattern
  wide : ∀ row ∈ codes.offsets, 8 ≤ row.header + row.width

theorem high_masks (d : Nat) :
    d &&& 0x80000000 = d % 2 ^ 32 / 2 ^ 31 * 2 ^ 31 ∧
    d &&& 0xc0000000 = d % 2 ^ 32 / 2 ^ 30 * 2 ^ 30 ∧
    d &&& 0xe0000000 = d % 2 ^ 32 / 2 ^ 29 * 2 ^ 29 ∧
    d &&& 0xf0000000 = d % 2 ^ 32 / 2 ^ 28 * 2 ^ 28 ∧
    d &&& 0xf8000000 = d % 2 ^ 32 / 2 ^ 27 * 2 ^ 27 :=
  have h (k : Nat) (hk : k ≤ 32) := @and_high_mod d 32 k hk
  ⟨h 31 (by omega), h 30 (by omega), h 29 (by omega), h 28 (by omega), h 27 (by omega)⟩

theorem codes_4_complete : codes_4.Complete where
  covers := by
    intro d h31 h30
    obtain ⟨m31, m30, m29, m28, m27⟩ := high_masks d
    simp only [codes_4, mem_cons, not_mem_nil, or_false, exists_eq_or_imp, exists_eq_left]
    omega
  wide := by decide

theorem codes_5_complete : codes_5.Complete where
  covers := by
    intro d h31 h30
    obtain ⟨m31, m30, m29, m28, m27⟩ := high_masks d
    simp only [codes_5, mem_cons, not_mem_nil, or_false, exists_eq_or_imp, exists_eq_left]
    omega
  wide := by decide

theorem find_offset_total {b : Bits} (h : b.Fits) (rows : List OffsetRow)
    (hcovers : ∃ row ∈ rows, b.d32 &&& row.mask = row.pattern)
    (hwide : ∀ row ∈ rows, 8 ≤ row.header + row.width) :
    (find_offset rows b).2.total + 8 ≤ b.total ∧ (find_offset rows b).2.Fits := by
  induction rows with
  | nil => simp at hcovers
  | cons row rows ih =>
    unfold find_offset
    by_cases hrow : b.d32 &&& row.mask = row.pattern
    · have hbits := hwide row mem_cons_self
      rw [if_pos hrow]
      refine ⟨?_, (h.skip _).skip _⟩
      rw [Bits.skip_total, Bits.skip_total]
      omega
    · rw [if_neg hrow]
      apply ih
      · obtain ⟨row', hmem, hfit⟩ := hcovers
        rcases mem_cons.mp hmem with rfl | hmem
        · exact absurd hfit hrow
        · exact ⟨row', hmem, hfit⟩
      · intro row' hmem
        exact hwide row' (mem_cons_of_mem _ hmem)

theorem find_lom_total {b : Bits} (h : b.Fits) (rows : List LomRow) :
    (find_lom rows b).2.total ≤ b.total ∧ (find_lom rows b).2.Fits := by
  induction rows with
  | nil => exact ⟨Int.le_refl _, h⟩
  | cons row rows ih =>
    unfold find_lom
    split
    · refine ⟨?_, h.skip _⟩
      rw [Bits.skip_total]
      omega
    · exact ih

theorem decode_turn_total {codes : Codes} (hcodes : codes.Complete) {b b' : Bits} {w w' : Writer}
    (h : decode_turn codes b w = some (b', w')) (hb : b.Fits) :
    b'.total + 8 ≤ b.total ∧ b'.Fits := by
  unfold decode_turn at h
  split at h
  · obtain ⟨w1, -, heq⟩ := Option.map_eq_some_iff.mp h
    cases heq
    have hskip := hb.skip 8
    refine ⟨?_, (refill_total hskip).2⟩
    rw [(refill_total hskip).1, Bits.skip_total]
    omega
  · rename_i h31
    split at h
    · obtain ⟨w1, -, heq⟩ := Option.map_eq_some_iff.mp h
      cases heq
      have hskip := (hb.skip 2).skip 7
      refine ⟨?_, (refill_total hskip).2⟩
      rw [(refill_total hskip).1, Bits.skip_total, Bits.skip_total]
      omega
    · rename_i h30
      obtain ⟨hoffset, hfits⟩ :=
        find_offset_total hb codes.offsets (hcodes.covers b.d32 h31 h30) hcodes.wide
      have hrefill := refill_total hfits
      unfold decode_match at h
      dsimp only at h
      split at h
      · cases h
        exact ⟨by omega, hrefill.2⟩
      · obtain ⟨w1, -, heq⟩ := Option.map_eq_some_iff.mp h
        cases heq
        have hlom := find_lom_total hrefill.2 codes.lengths
        have hlast := refill_total hlom.2
        exact ⟨by omega, hlast.2⟩

/-- The bits and the writer after `n` turns of the loop. -/
def after_turns (codes : Codes) : Nat → Bits → Writer → Option (Bits × Writer)
  | 0, b, w => some (b, w)
  | n + 1, b, w =>
    if b.bits_left ≥ 8 then (decode_turn codes b w).bind fun (b, w) => after_turns codes n b w
    else none

theorem decode_loop_stops {codes : Codes} (hcodes : codes.Complete) (fuel : Nat) :
    ∀ (b : Bits) (w : Writer), b.Fits → b.total < 8 * (fuel + 1) →
      ∃ n ≤ fuel, ∃ b' w', after_turns codes n b w = some (b', w') ∧
        (b'.bits_left ≥ 8 → decode_turn codes b' w' = none) ∧
        decode_loop codes (fuel + 1) b w = if b'.bits_left ≥ 8 then none else some w' := by
  induction fuel with
  | zero =>
    intro b w _ htotal
    have hleft : ¬ b.bits_left ≥ 8 := by
      unfold Bits.total at htotal
      omega
    exact ⟨0, Nat.le_refl 0, b, w, rfl, fun h => absurd h hleft, by
      rw [decode_loop, if_neg hleft, if_neg hleft]⟩
  | succ fuel ih =>
    intro b w hb htotal
    by_cases hleft : b.bits_left ≥ 8
    · rw [decode_loop, if_pos hleft]
      cases hturn : decode_turn codes b w with
      | none => exact ⟨0, Nat.zero_le _, b, w, rfl, fun _ => hturn, by rw [if_pos hleft]; rfl⟩
      | some next =>
        obtain ⟨hless, hfits⟩ := decode_turn_total hcodes hturn hb
        obtain ⟨n, hn, b', w', hafter, hstop, hloop⟩ := ih next.1 next.2 hfits (by omega)
        refine ⟨n + 1, by omega, b', w', ?_, hstop, hloop⟩
        rw [after_turns, if_pos hleft, hturn]
        exact hafter
    · exact ⟨0, Nat.zero_le _, b, w, rfl, fun h => absurd h hleft, by
        rw [decode_loop, if_neg hleft, if_neg hleft]⟩

/-! ## Sessions -/

inductive Version
  | rdp_4
  | rdp_5
deriving Repr, DecidableEq

/-- A packet and its flags, for one of the two decompressors. -/
structure Packet where
  version : Version
  cbuf : List UInt8
  ctype : Nat
deriving Repr, DecidableEq

def Version.codes : Version → Codes
  | .rdp_4 => codes_4
  | .rdp_5 => codes_5

theorem Version.codes_complete (v : Version) : v.codes.Complete := by
  cases v with
  | rdp_4 => exact codes_4_complete
  | rdp_5 => exact codes_5_complete

/-- Decompression ends for all data, after at most one turn for each byte. The result is
that of the last turn, or the next turn has no room in the history. -/
theorem decompression_ends (v : Version) (cbuf : List UInt8) (w : Writer) :
    ∃ n ≤ cbuf.length, ∃ b w', after_turns v.codes n (load 0 0 24 cbuf) w = some (b, w') ∧
      (b.bits_left ≥ 8 → decode_turn v.codes b w' = none) ∧
      decode_loop v.codes (cbuf.length + 1) (load 0 0 24 cbuf) w =
        if b.bits_left ≥ 8 then none else some w' := by
  obtain ⟨htotal, hfits⟩ := load_total cbuf 0 0 24 (by omega)
  exact decode_loop_stops v.codes_complete cbuf.length _ w hfits (by omega)

def Packet.decompress (q : Packet) (mppc : rdp_mppc) : Option Decompressed :=
  match q.version with
  | .rdp_4 => decompress_rdp_4 mppc q.cbuf q.ctype
  | .rdp_5 => decompress_rdp_5 mppc q.cbuf q.ctype

theorem Packet.decompress_eq (q : Packet) (mppc : rdp_mppc) :
    q.decompress mppc = decompress_with q.version.codes mppc q.cbuf q.ctype := by
  unfold Packet.decompress
  cases q.version <;> rfl

/-- A packet with the state before it and with what the call has left. -/
structure Entry where
  packet : Packet
  before : rdp_mppc
  result : Decompressed

/-- The packets of a session, one after the other. `none`: a packet was stored past the
end of the history. -/
def session : rdp_mppc → List Packet → Option (List Entry)
  | _, [] => some []
  | mppc, q :: packets =>
    (q.decompress mppc).bind fun d =>
      (session d.session packets).map fun log => ⟨q, mppc, d⟩ :: log

theorem mem_session {packets : List Packet} {mppc : rdp_mppc} {log : List Entry}
    (h : session mppc packets = some log) :
    ∀ e ∈ log, e.packet.decompress e.before = some e.result := by
  induction packets generalizing mppc log with
  | nil =>
    cases h
    simp
  | cons q packets ih =>
    obtain ⟨d, hd, hrest⟩ := Option.bind_eq_some_iff.mp h
    obtain ⟨log', hlog', rfl⟩ := Option.map_eq_some_iff.mp hrest
    exact forall_mem_cons.mpr ⟨hd, ih hlog'⟩

/-! ## What the caller is told -/

/-- `roff` is where the packet was written, `rlen` is its length, the plaintext is there,
and the next packet goes behind it. -/
structure Accounted (d : Decompressed) : Prop where
  roff : d.roff = d.start
  rlen : d.rlen = d.written.length
  plaintext : (d.session.history_buf.drop d.roff).take d.rlen = d.written
  ptr : d.session.history_ptr = d.roff + d.rlen

/-- The packet flushes the history, which does not move the pointer of the session back
to the front. -/
def FlushedBehind (mppc : rdp_mppc) (ctype : Nat) : Prop :=
  ctype &&& PACKET_FLUSHED ≠ 0 ∧ ctype &&& PACKET_AT_FRONT = 0 ∧ mppc.history_ptr ≠ 0

instance (mppc : rdp_mppc) (ctype : Nat) : Decidable (FlushedBehind mppc ctype) := by
  unfold FlushedBehind
  infer_instance

theorem pointers_agree_iff (mppc : rdp_mppc) (ctype : Nat) :
    session_ptr mppc ctype = local_ptr mppc ctype ↔ ¬ FlushedBehind mppc ctype := by
  unfold session_ptr local_ptr FlushedBehind
  by_cases hfront : ctype &&& PACKET_AT_FRONT = 0
  · by_cases hflushed : ctype &&& PACKET_FLUSHED = 0
    · simp [hfront, hflushed]
    · simp [hfront, hflushed]
  · simp [hfront]

theorem written_start (mppc : rdp_mppc) (ctype : Nat) :
    Written (start_packet mppc ctype).history_buf (local_ptr mppc ctype)
      (start_packet mppc ctype) where
  buf := (patch_nil _ _).symm
  ptr := rfl
  log := rfl

theorem decompress_with.spec {codes : Codes} {mppc : rdp_mppc} {cbuf : Bytes} {ctype : Nat}
    {d : Decompressed} (h : decompress_with codes mppc cbuf ctype = some d) :
    d.roff = local_ptr mppc ctype ∧ d.start = local_ptr mppc ctype ∧
      d.rlen = (((d.session.history_ptr : Int) - session_ptr mppc ctype) % 4294967296).toNat ∧
      d.session.history_ptr = local_ptr mppc ctype + d.written.length ∧
      d.session.history_buf =
        patch (start_packet mppc ctype).history_buf (local_ptr mppc ctype) d.written := by
  obtain ⟨w, hbody, rfl⟩ := Option.map_eq_some_iff.mp h
  have hp : local_ptr mppc ctype ≤ (start_packet mppc ctype).history_buf.length := by
    rw [(start_packet mppc ctype).size]
    exact local_ptr_le mppc ctype
  have hw : Written (start_packet mppc ctype).history_buf (local_ptr mppc ctype) w := by
    have hstart := written_start mppc ctype
    split at hbody
    · exact hstart.store hp hbody
    · exact hstart.decode_loop hp hbody
  exact ⟨rfl, rfl, rfl, hw.ptr, hw.buf⟩

theorem decompress_with_accounts {codes : Codes} {mppc : rdp_mppc} {cbuf : Bytes}
    {ctype : Nat} {d : Decompressed} (h : decompress_with codes mppc cbuf ctype = some d) :
    Accounted d ↔ session_ptr mppc ctype = local_ptr mppc ctype := by
  obtain ⟨hroff, hstart, hrlen, hptr, hbuf⟩ := decompress_with.spec h
  have hle := d.session.ptr_le
  have hsession : session_ptr mppc ctype ≤ RDP6_HISTORY_BUF_SIZE := by
    unfold session_ptr
    split
    · exact Nat.zero_le _
    · exact mppc.ptr_le
  unfold RDP6_HISTORY_BUF_SIZE at hle hsession
  constructor
  · intro ha
    have hlen := ha.rlen
    omega
  · intro hagree
    have hlen : d.rlen = d.written.length := by omega
    refine ⟨hroff.trans hstart.symm, hlen, ?_, by rw [hptr, hroff, hlen]⟩
    have hwindow : local_ptr mppc ctype ≤ (start_packet mppc ctype).history_buf.length := by
      rw [(start_packet mppc ctype).size]
      exact local_ptr_le mppc ctype
    rw [hbuf, hroff, hlen]
    exact take_drop_patch _ _ _ hwindow

/-- In every session, the caller finds the plaintext of a packet unless the packet has
flushed a history that was not at its front. -/
theorem packets_are_accounted_unless_flushed (mppc : rdp_mppc) (packets : List Packet)
    (log : List Entry) (h : session mppc packets = some log) :
    ∀ e ∈ log, Accounted e.result ↔ ¬ FlushedBehind e.before e.packet.ctype := by
  intro e he
  have hcall := mem_session h e he
  rw [Packet.decompress_eq] at hcall
  exact (decompress_with_accounts hcall).trans (pointers_agree_iff e.before e.packet.ctype)

/-- Three bytes, and then one byte that flushes the history. None is compressed. -/
def samplePackets : List Packet := [⟨.rdp_5, [7, 8, 9], 0x01⟩, ⟨.rdp_5, [10], 0x81⟩]

theorem packets_are_accounted_unless_flushed_sample :
    ∃ log, session sampleSession samplePackets = some log ∧
      ∀ e ∈ log, Accounted e.result ↔ ¬ FlushedBehind e.before e.packet.ctype :=
  ⟨_, rfl, packets_are_accounted_unless_flushed sampleSession samplePackets _ rfl⟩

/-- The second packet has one byte. The caller is told that it has 4294967294. -/
theorem packets_are_accounted_unless_flushed_counterexample :
    ∃ log, session sampleSession samplePackets = some log ∧ ¬ ∀ e ∈ log, Accounted e.result := by
  refine ⟨_, rfl, ?_⟩
  intro hall
  have hlen := (hall _ (mem_cons_of_mem _ mem_cons_self)).rlen
  exact absurd hlen (by decide)

end neutrinordp.mppc
