-- The history of the decompressors is not checked. Where a packet writes and where its matches read
-- from is decided by the packet and the write pointer alone. A packet stays inside of the history
-- exactly when the bytes that it stands for fit behind the pointer.
import CorporateClient.MppcAccounting

open List bytes

namespace neutrinordp.mppc

/-! ## All kinds of packets -/

def PACKET_COMPR_TYPE_8K : Nat := 0x00
def PACKET_COMPR_TYPE_64K : Nat := 0x01
def PACKET_COMPR_TYPE_RDP6 : Nat := 0x02

/-- The local write pointer of `decompress_rdp_6`. -/
def local_ptr_6 (mppc : rdp_mppc) (ctype : Nat) : Nat :=
  if ctype &&& PACKET_FLUSHED ≠ 0 then 0
  else if ctype &&& PACKET_AT_FRONT ≠ 0 then 32768
  else mppc.history_ptr

theorem local_ptr_6_le (mppc : rdp_mppc) (ctype : Nat) :
    local_ptr_6 mppc ctype ≤ RDP6_HISTORY_BUF_SIZE := by
  unfold local_ptr_6
  split_ifs
  · exact Nat.zero_le _
  · decide
  · exact mppc.ptr_le

/-- `PACKET_AT_FRONT` moves the upper half to the front, and puts the packet behind it. `none` is an
access outside of the history. The first length is negative for a pointer in the lower half. -/
def slide (mppc : rdp_mppc) (cbuf : List UInt8) : Option rdp_mppc :=
  if h : 32768 ≤ mppc.history_ptr ∧
      mppc.history_ptr - 32768 + cbuf.length ≤ RDP6_HISTORY_BUF_SIZE then
    some
      { mppc with
        history_buf := patch (patch mppc.history_buf 0
          ((mppc.history_buf.drop 32768).take (mppc.history_ptr - 32768)))
          (mppc.history_ptr - 32768) cbuf
        size := by
          have hsize := mppc.size
          have hptr := mppc.ptr_le
          unfold RDP6_HISTORY_BUF_SIZE at hsize hptr h ⊢
          rw [length_patch, length_patch _ _ _ (Nat.zero_le _), length_take, length_drop]
          · omega
          · rw [length_patch _ _ _ (Nat.zero_le _)]
            omega }
  else none

/-- The decompressor of RDP 6 stores what is not compressed, and no more. -/
def decompress_rdp_6 (mppc : rdp_mppc) (cbuf : List UInt8) (ctype : Nat) : Option Decompressed :=
  let roff := local_ptr_6 mppc ctype
  (if ctype &&& PACKET_AT_FRONT ≠ 0 then slide mppc cbuf else some mppc).bind fun slid =>
    let w₀ := start_packet_6 slid ctype roff (local_ptr_6_le mppc ctype)
    if ctype &&& PACKET_COMPRESSED ≠ PACKET_COMPRESSED then
      (w₀.store cbuf).map fun w =>
        { roff
          rlen := (((w.history_ptr : Int) - mppc.history_ptr) % 4294967296).toNat
          session := w.tordp_mppc
          start := roff
          written := w.written }
    else
      some
        { roff
          rlen := 0
          session := { w₀.tordp_mppc with history_ptr := mppc.history_ptr, ptr_le := mppc.ptr_le }
          start := roff
          written := [] }

/-- The calls that copy the packet as it is with `memcpy`. -/
def copies (ctype : Nat) : Bool :=
  let type := ctype &&& 0x0f
  type ≤ PACKET_COMPR_TYPE_RDP6 ∧ ctype &&& PACKET_COMPRESSED ≠ PACKET_COMPRESSED ∨
    type = PACKET_COMPR_TYPE_RDP6 ∧ ctype &&& PACKET_AT_FRONT ≠ 0

/-- `none` is an access outside of the history, `some none` a call that returns false. `len` is an
`int`: `memcpy` takes a negative one for a huge one, and the loops find no bytes then. -/
def decompress_rdp (mppc : rdp_mppc) (cbuf : List UInt8) (len : Int) (ctype : Nat) :
    Option (Option Decompressed) :=
  let type := ctype &&& 0x0f
  let cbuf := cbuf.take len.toNat
  if len < 0 ∧ copies ctype then none
  else if type = PACKET_COMPR_TYPE_8K then (decompress_rdp_4 mppc cbuf ctype).map some
  else if type = PACKET_COMPR_TYPE_64K then (decompress_rdp_5 mppc cbuf ctype).map some
  else if type = PACKET_COMPR_TYPE_RDP6 then (decompress_rdp_6 mppc cbuf ctype).map some
  else some none

/-! ## Tokens -/

/-- What one turn of the main loop does. -/
inductive Turn
  | literal
  | nothing
  | copy (copy_offset lom : Nat)
deriving Repr, DecidableEq

def next_turn (codes : Codes) (b : Bits) : Turn × Bits :=
  if b.d32 &&& 0x80000000 = 0 then (.literal, refill (b.skip 8))
  else if b.d32 &&& 0xc0000000 = 0x80000000 then (.literal, refill ((b.skip 2).skip 7))
  else
    let found := find_offset codes.offsets b
    if found.1 = 0 then (.nothing, refill found.2)
    else
      let length := find_lom codes.lengths (refill found.2)
      (.copy found.1 length.1, refill length.2)

/-- The number of bytes that a turn stores. -/
def Turn.size : Turn → Nat
  | literal => 1
  | nothing => 0
  | copy _ lom => lom

/-- Where a turn reads from, with the write pointer at `ptr`. -/
def Turn.sources (ptr : Nat) : Turn → List Nat
  | literal => []
  | nothing => []
  | copy copy_offset lom =>
    if copy_offset ≤ ptr then range' (ptr - copy_offset) lom
    else
      let src := RDP6_HISTORY_BUF_SIZE - 1 - (copy_offset - ptr) + 1
      range' src (min lom (RDP6_HISTORY_BUF_SIZE - src)) ++
        range' 0 (lom - (RDP6_HISTORY_BUF_SIZE - src))

/-- The turns of a compressed packet. -/
def turns (codes : Codes) : Nat → Bits → List Turn
  | 0, _ => []
  | fuel + 1, b =>
    if b.bits_left ≥ 8 then (next_turn codes b).1 :: turns codes fuel (next_turn codes b).2 else []

/-- The sources of all matches of a packet. -/
def sources : Nat → List Turn → List Nat
  | _, [] => []
  | ptr, turn :: rest => turn.sources ptr ++ sources (ptr + turn.size) rest

/-- The turns that a packet stands for. What is not compressed has none. -/
def packet_turns (codes : Codes) (cbuf : List UInt8) (ctype : Nat) : List Turn :=
  if ctype &&& PACKET_COMPRESSED ≠ PACKET_COMPRESSED then []
  else turns codes (cbuf.length + 1) (load 0 0 24 cbuf)

def output_size (codes : Codes) (cbuf : List UInt8) (ctype : Nat) : Nat :=
  if ctype &&& PACKET_COMPRESSED ≠ PACKET_COMPRESSED then cbuf.length
  else ((packet_turns codes cbuf ctype).map Turn.size).sum

/-! ## One turn -/

/-- Some bytes are stored, or there is no room for them. -/
def Stores (w : Writer) (n : Nat) (result : Option Writer) : Prop :=
  (w.history_ptr + n ≤ RDP6_HISTORY_BUF_SIZE ∧
    ∃ w', result = some w' ∧ w'.history_ptr = w.history_ptr + n) ∨
  (RDP6_HISTORY_BUF_SIZE < w.history_ptr + n ∧ result = none)

theorem store_stores (w : Writer) (bs : Bytes) : Stores w bs.length (w.store bs) := by
  unfold Stores Writer.store
  by_cases h : w.history_ptr + bs.length ≤ RDP6_HISTORY_BUF_SIZE
  · left
    rw [dif_pos h]
    exact ⟨h, _, rfl, rfl⟩
  · right
    rw [dif_neg h]
    exact ⟨Nat.lt_of_not_le h, rfl⟩

theorem Stores.bind {γ : Type} {writer : γ → Writer} {w : Writer} {n k : Nat} {x : Option γ}
    {f : γ → Option Writer} (h : Stores w n (x.map writer))
    (hf : ∀ a, x = some a → Stores (writer a) k (f a)) : Stores w (n + k) (x.bind f) := by
  cases x with
  | none =>
    rcases h with ⟨-, w', hsome, -⟩ | ⟨hfull, -⟩
    · cases hsome
    · exact .inr ⟨by omega, rfl⟩
  | some a =>
    rcases h with ⟨-, w', hsome, hptr⟩ | ⟨-, hnone⟩
    · obtain rfl := Option.some.inj hsome
      rcases hf a rfl with ⟨hfits, w2, hrest, hend⟩ | ⟨hlong, hrest⟩
      · exact .inl ⟨by omega, w2, hrest, by omega⟩
      · exact .inr ⟨by omega, hrest⟩
    · cases hnone

theorem store_bind (w : Writer) (b : UInt8) {k : Nat} {f : Writer → Option Writer}
    (hf : ∀ w1, Stores w1 k (f w1)) : Stores w (1 + k) ((w.store [b]).bind f) := by
  have hstore := store_stores w [b]
  rw [← Option.map_id' (x := w.store [b])] at hstore
  exact hstore.bind fun w1 _ => hf w1

theorem copy_bytes_stores (lom src : Nat) (w : Writer) : Stores w lom (copy_bytes lom src w) := by
  induction lom generalizing src w with
  | zero => exact .inl ⟨w.ptr_le, w, rfl, rfl⟩
  | succ lom ih =>
    unfold copy_bytes
    rw [Nat.add_comm lom 1]
    exact store_bind w _ fun w1 => ih _ w1

theorem copy_to_end_stores (lom src : Nat) (w : Writer) :
    Stores w (min lom (RDP6_HISTORY_BUF_SIZE - src)) ((copy_to_end lom src w).map Prod.snd) ∧
      ∀ more w', copy_to_end lom src w = some (more, w') →
        more = lom - (RDP6_HISTORY_BUF_SIZE - src) := by
  induction lom generalizing src w with
  | zero =>
    refine ⟨.inl ⟨by simpa using w.ptr_le, w, rfl, by simp⟩, ?_⟩
    intro more w' h
    cases h
    omega
  | succ lom ih =>
    unfold copy_to_end
    by_cases hsrc : src < RDP6_HISTORY_BUF_SIZE
    · have hmin : min (lom + 1) (RDP6_HISTORY_BUF_SIZE - src) =
          1 + min lom (RDP6_HISTORY_BUF_SIZE - (src + 1)) := by omega
      rw [if_pos hsrc, hmin, Option.map_bind]
      refine ⟨store_bind w _ fun w1 => (ih _ w1).1, ?_⟩
      intro more w' h
      obtain ⟨w1, -, hrest⟩ := Option.bind_eq_some_iff.mp h
      have := (ih _ w1).2 more w' hrest
      omega
    · rw [if_neg hsrc]
      refine ⟨.inl ⟨?_, w, rfl, by omega⟩, ?_⟩
      · have := w.ptr_le
        omega
      · intro more w' h
        cases h
        omega

theorem copy_match_stores (w : Writer) (copy_offset lom : Nat) :
    Stores w lom (copy_match w copy_offset lom) := by
  unfold copy_match
  split
  · exact copy_bytes_stores _ _ w
  · dsimp only
    generalize RDP6_HISTORY_BUF_SIZE - 1 - (copy_offset - w.history_ptr) + 1 = src
    obtain ⟨hstores, hmore⟩ := copy_to_end_stores lom src w
    have hrest : ∀ p, copy_to_end lom src w = some p →
        Stores p.2 (lom - (RDP6_HISTORY_BUF_SIZE - src)) (copy_bytes p.1 0 p.2) := by
      rintro ⟨more, w1⟩ hend
      rw [← hmore more w1 hend]
      exact copy_bytes_stores more 0 w1
    have hboth := hstores.bind hrest
    rwa [show min lom (RDP6_HISTORY_BUF_SIZE - src) + (lom - (RDP6_HISTORY_BUF_SIZE - src)) = lom by
      omega] at hboth

theorem decode_turn_next (codes : Codes) (b : Bits) (w : Writer) :
    Stores w (next_turn codes b).1.size ((decode_turn codes b w).map Prod.snd) ∧
      ∀ b' w', decode_turn codes b w = some (b', w') → b' = (next_turn codes b).2 := by
  have hpair : ∀ (b1 : Bits) (n : Nat) (result : Option Writer), Stores w n result →
      Stores w n ((result.map fun w => (b1, w)).map Prod.snd) ∧
        ∀ b' w', (result.map fun w => (b1, w)) = some (b', w') → b' = b1 := by
    intro b1 n result hstores
    refine ⟨?_, ?_⟩
    · rw [Option.map_map]
      have hid : (Prod.snd ∘ fun w : Writer => (b1, w)) = id := rfl
      rwa [hid, Option.map_id, id]
    · intro b' w' h
      obtain ⟨w1, -, heq⟩ := Option.map_eq_some_iff.mp h
      exact (Prod.mk.inj heq).1.symm
  unfold decode_turn next_turn
  by_cases hliteral : b.d32 &&& 0x80000000 = 0
  · rw [if_pos hliteral, if_pos hliteral]
    exact hpair _ _ _ (store_stores w [UInt8.ofNat (b.d32 >>> 24)])
  · rw [if_neg hliteral, if_neg hliteral]
    by_cases hencoded : b.d32 &&& 0xc0000000 = 0x80000000
    · rw [if_pos hencoded, if_pos hencoded]
      exact hpair _ _ _ (store_stores w [UInt8.ofNat (((b.skip 2).d32 >>> 25) ||| 0x80)])
    · rw [if_neg hencoded, if_neg hencoded]
      unfold decode_match
      dsimp only
      by_cases hzero : (find_offset codes.offsets b).1 = 0
      · rw [if_pos hzero, if_pos hzero]
        refine ⟨.inl ⟨w.ptr_le, w, rfl, rfl⟩, ?_⟩
        intro b' w' h
        cases h
        rfl
      · rw [if_neg hzero, if_neg hzero]
        exact hpair _ _ _ (copy_match_stores w _ _)

/-! ## A packet -/

theorem decode_loop_stores {codes : Codes} (hcodes : codes.Complete) (n : Nat) (b : Bits)
    (w : Writer) (hb : b.Fits) (htotal : b.total < 8 * (n + 1)) :
    Stores w ((turns codes (n + 1) b).map Turn.size).sum (decode_loop codes (n + 1) b w) := by
  induction n generalizing b w with
  | zero =>
    have hleft : ¬ b.bits_left ≥ 8 := by
      unfold Bits.total at htotal
      omega
    rw [turns, if_neg hleft, decode_loop, if_neg hleft]
    exact .inl ⟨w.ptr_le, w, rfl, rfl⟩
  | succ n ih =>
    rw [turns, decode_loop]
    by_cases hleft : b.bits_left ≥ 8
    · rw [if_pos hleft, if_pos hleft, map_cons, sum_cons]
      obtain ⟨hstores, hnext⟩ := decode_turn_next codes b w
      refine hstores.bind ?_
      rintro ⟨b1, w1⟩ hturn
      obtain ⟨hless, hfits⟩ := decode_turn_total hcodes hturn hb
      obtain rfl := hnext b1 w1 hturn
      exact ih _ w1 hfits (by omega)
    · rw [if_neg hleft, if_neg hleft]
      exact .inl ⟨w.ptr_le, w, rfl, rfl⟩

theorem decompress_with_fits {codes : Codes} (hcodes : codes.Complete) (mppc : rdp_mppc)
    (cbuf : Bytes) (ctype : Nat) :
    (∃ d, decompress_with codes mppc cbuf ctype = some d) ↔
      local_ptr mppc ctype + output_size codes cbuf ctype ≤ RDP6_HISTORY_BUF_SIZE := by
  have hstores : Stores (start_packet mppc ctype) (output_size codes cbuf ctype)
      (if ctype &&& PACKET_COMPRESSED ≠ PACKET_COMPRESSED then
        (start_packet mppc ctype).store cbuf
      else decode_loop codes (cbuf.length + 1) (load 0 0 24 cbuf) (start_packet mppc ctype)) := by
    unfold output_size packet_turns
    by_cases hcompressed : ctype &&& PACKET_COMPRESSED ≠ PACKET_COMPRESSED
    · rw [if_pos hcompressed, if_pos hcompressed]
      exact store_stores _ _
    · rw [if_neg hcompressed, if_neg hcompressed, if_neg hcompressed]
      obtain ⟨htotal, hfits⟩ := load_total cbuf 0 0 24 (by omega)
      exact decode_loop_stores hcodes cbuf.length _ _ hfits (by omega)
  unfold decompress_with
  dsimp only
  unfold Stores at hstores
  rcases hstores with ⟨hroom, w, hbody, -⟩ | ⟨hlong, hbody⟩
  · rw [hbody]
    exact ⟨fun _ => hroom, fun _ => ⟨_, rfl⟩⟩
  · rw [hbody]
    exact ⟨fun ⟨d, hd⟩ => absurd hd (by simp), fun hroom => absurd hroom (Nat.not_le_of_lt hlong)⟩

theorem sources_inside (rest : List Turn) (ptr : Nat)
    (h : ptr + (rest.map Turn.size).sum ≤ RDP6_HISTORY_BUF_SIZE) :
    ∀ i ∈ sources ptr rest, i < RDP6_HISTORY_BUF_SIZE := by
  induction rest generalizing ptr with
  | nil => exact forall_mem_nil _
  | cons turn rest ih =>
    rw [map_cons, sum_cons] at h
    intro i hi
    rcases mem_append.mp hi with hturn | hrest
    · cases turn with
      | literal => exact absurd hturn not_mem_nil
      | nothing => exact absurd hturn not_mem_nil
      | copy copy_offset lom =>
        rw [Turn.size] at h
        rw [Turn.sources] at hturn
        split at hturn
        · rw [mem_range'_1] at hturn
          omega
        · dsimp only at hturn
          rw [mem_append, mem_range'_1, mem_range'_1] at hturn
          omega
    · exact ih _ (by omega) i hrest

/-! ## Sequences of packets -/

/-- Where a packet reads the history. -/
def packet_sources (mppc : rdp_mppc) (cbuf : List UInt8) (ctype : Nat) : List Nat :=
  let type := ctype &&& 0x0f
  if type = PACKET_COMPR_TYPE_8K then
    sources (local_ptr mppc ctype) (packet_turns codes_4 cbuf ctype)
  else if type = PACKET_COMPR_TYPE_64K then
    sources (local_ptr mppc ctype) (packet_turns codes_5 cbuf ctype)
  else if type = PACKET_COMPR_TYPE_RDP6 ∧ ctype &&& PACKET_AT_FRONT ≠ 0 then
    range' 32768 (mppc.history_ptr - 32768)
  else []

def history_after (mppc : rdp_mppc) : Option Decompressed → rdp_mppc
  | some d => d.session
  | none => mppc

/-- A call: the memory from `cbuf` on has the bytes of the packet at least. -/
structure Call where
  cbuf : List UInt8
  len : Int
  ctype : Nat
  readable : len ≤ cbuf.length

/-- The bytes of the packet. -/
def Call.packet (call : Call) : List UInt8 := call.cbuf.take call.len.toNat

/-- A sequence of packets that never leaves the history: all reads and all stores are inside. -/
def Inside : rdp_mppc → List Call → Prop
  | _, [] => True
  | mppc, call :: calls =>
    (∀ i ∈ packet_sources mppc call.packet call.ctype, i < RDP6_HISTORY_BUF_SIZE) ∧
    ∃ result, decompress_rdp mppc call.cbuf call.len call.ctype = some result ∧
      Inside (history_after mppc result) calls

/-- The bytes of a packet fit behind the write pointer. -/
def PacketFits (mppc : rdp_mppc) (cbuf : List UInt8) (ctype : Nat) : Prop :=
  let type := ctype &&& 0x0f
  if type = PACKET_COMPR_TYPE_8K then
    local_ptr mppc ctype + output_size codes_4 cbuf ctype ≤ RDP6_HISTORY_BUF_SIZE
  else if type = PACKET_COMPR_TYPE_64K then
    local_ptr mppc ctype + output_size codes_5 cbuf ctype ≤ RDP6_HISTORY_BUF_SIZE
  else if type = PACKET_COMPR_TYPE_RDP6 then
    (ctype &&& PACKET_AT_FRONT ≠ 0 → 32768 ≤ mppc.history_ptr ∧
      mppc.history_ptr - 32768 + cbuf.length ≤ RDP6_HISTORY_BUF_SIZE) ∧
    (ctype &&& PACKET_COMPRESSED ≠ PACKET_COMPRESSED →
      local_ptr_6 mppc ctype + cbuf.length ≤ RDP6_HISTORY_BUF_SIZE)
  else True

/-- The length of a copy is not negative, and the packet fits. -/
def Fits (mppc : rdp_mppc) (call : Call) : Prop :=
  ¬ (call.len < 0 ∧ copies call.ctype) ∧ PacketFits mppc call.packet call.ctype

/-- Each packet fits in the state before it. -/
def AllFit : rdp_mppc → List Call → Prop
  | _, [] => True
  | mppc, call :: calls =>
    Fits mppc call ∧
    ∀ result, decompress_rdp mppc call.cbuf call.len call.ctype = some result →
      AllFit (history_after mppc result) calls

theorem decompress_rdp_6_fits (mppc : rdp_mppc) (cbuf : Bytes) (ctype : Nat) :
    (∃ d, decompress_rdp_6 mppc cbuf ctype = some d) ↔
      (ctype &&& PACKET_AT_FRONT ≠ 0 → 32768 ≤ mppc.history_ptr ∧
        mppc.history_ptr - 32768 + cbuf.length ≤ RDP6_HISTORY_BUF_SIZE) ∧
      (ctype &&& PACKET_COMPRESSED ≠ PACKET_COMPRESSED →
        local_ptr_6 mppc ctype + cbuf.length ≤ RDP6_HISTORY_BUF_SIZE) := by
  have hslide : (∃ mppc',
      (if ctype &&& PACKET_AT_FRONT ≠ 0 then slide mppc cbuf else some mppc) = some mppc') ↔
      (ctype &&& PACKET_AT_FRONT ≠ 0 → 32768 ≤ mppc.history_ptr ∧
        mppc.history_ptr - 32768 + cbuf.length ≤ RDP6_HISTORY_BUF_SIZE) := by
    by_cases hfront : ctype &&& PACKET_AT_FRONT ≠ 0
    · rw [if_pos hfront]
      unfold slide
      by_cases hroom : 32768 ≤ mppc.history_ptr ∧
          mppc.history_ptr - 32768 + cbuf.length ≤ RDP6_HISTORY_BUF_SIZE
      · rw [dif_pos hroom]
        exact ⟨fun _ _ => hroom, fun _ => ⟨_, rfl⟩⟩
      · rw [dif_neg hroom]
        exact ⟨fun h => absurd h (by simp), fun h => absurd (h hfront) hroom⟩
    · rw [if_neg hfront]
      exact ⟨fun _ h => absurd h hfront, fun _ => ⟨mppc, rfl⟩⟩
  rw [← hslide]
  unfold decompress_rdp_6
  rcases (if ctype &&& PACKET_AT_FRONT ≠ 0 then slide mppc cbuf else some mppc) with _ | mppc'
  · exact ⟨fun h => absurd h (by simp), fun h => absurd h.1 (by simp)⟩
  · rw [Option.bind_some, and_iff_right ⟨mppc', rfl⟩]
    by_cases hcompressed : ctype &&& PACKET_COMPRESSED ≠ PACKET_COMPRESSED
    · rw [if_pos hcompressed, forall_prop_of_true hcompressed]
      rcases store_stores _ cbuf with ⟨hroom, w, hbody, -⟩ | ⟨hlong, hbody⟩
      · rw [hbody]
        exact ⟨fun _ => hroom, fun _ => ⟨_, rfl⟩⟩
      · rw [hbody]
        exact ⟨fun h => absurd h (by simp), fun h => absurd h (Nat.not_le_of_lt hlong)⟩
    · rw [if_neg hcompressed]
      exact ⟨fun _ h => absurd h hcompressed, fun _ => ⟨_, rfl⟩⟩

/-- The two decompressors with tables. -/
theorem decompress_with_inside {codes : Codes} (hcodes : codes.Complete) (mppc : rdp_mppc)
    (cbuf : Bytes) (ctype : Nat) :
    ((∀ i ∈ sources (local_ptr mppc ctype) (packet_turns codes cbuf ctype),
      i < RDP6_HISTORY_BUF_SIZE) ∧
      ∃ d, decompress_with codes mppc cbuf ctype = some d) ↔
    local_ptr mppc ctype + output_size codes cbuf ctype ≤ RDP6_HISTORY_BUF_SIZE := by
  rw [decompress_with_fits hcodes]
  refine and_iff_right_of_imp fun hfits => ?_
  unfold packet_turns
  by_cases hcompressed : ctype &&& PACKET_COMPRESSED ≠ PACKET_COMPRESSED
  · rw [if_pos hcompressed]
    exact forall_mem_nil _
  · rw [if_neg hcompressed]
    apply sources_inside
    rw [output_size, if_neg hcompressed, packet_turns, if_neg hcompressed] at hfits
    exact hfits

theorem packet_inside_iff (mppc : rdp_mppc) (call : Call) :
    ((∀ i ∈ packet_sources mppc call.packet call.ctype, i < RDP6_HISTORY_BUF_SIZE) ∧
      ∃ result, decompress_rdp mppc call.cbuf call.len call.ctype = some result) ↔
      Fits mppc call := by
  by_cases hlen : call.len < 0 ∧ copies call.ctype
  · rw [decompress_rdp, if_pos hlen, Fits]
    exact ⟨fun h => absurd h.2 (by simp), fun h => absurd hlen h.1⟩
  rw [decompress_rdp, if_neg hlen, Fits, and_iff_right hlen, ← Call.packet]
  generalize call.packet = cbuf
  generalize call.ctype = ctype
  have hmap : ∀ r : Option Decompressed,
      (∃ result, r.map some = some result) ↔ ∃ d, r = some d := by
    rintro (_ | d)
    · exact ⟨fun ⟨_, h⟩ => absurd h (by simp), fun ⟨_, h⟩ => absurd h (by simp)⟩
    · exact ⟨fun _ => ⟨d, rfl⟩, fun _ => ⟨some d, rfl⟩⟩
  unfold packet_sources PacketFits
  by_cases h8K : ctype &&& 0x0f = PACKET_COMPR_TYPE_8K
  · rw [if_pos h8K, if_pos h8K, if_pos h8K, hmap]
    exact decompress_with_inside codes_4_complete mppc cbuf ctype
  rw [if_neg h8K, if_neg h8K, if_neg h8K]
  by_cases h64K : ctype &&& 0x0f = PACKET_COMPR_TYPE_64K
  · rw [if_pos h64K, if_pos h64K, if_pos h64K, hmap]
    exact decompress_with_inside codes_5_complete mppc cbuf ctype
  rw [if_neg h64K, if_neg h64K, if_neg h64K]
  by_cases hRDP6 : ctype &&& 0x0f = PACKET_COMPR_TYPE_RDP6
  · rw [if_pos hRDP6, if_pos hRDP6, hmap, decompress_rdp_6_fits]
    refine and_iff_right_of_imp fun _ => ?_
    split
    · intro i hi
      rw [mem_range'_1] at hi
      have := mppc.ptr_le
      omega
    · exact forall_mem_nil _
  · rw [if_neg hRDP6, if_neg hRDP6, if_neg (fun h => hRDP6 h.1)]
    exact ⟨fun _ => trivial, fun _ => ⟨forall_mem_nil _, ⟨none, rfl⟩⟩⟩

/-- Any sequence of packets stays inside of the history exactly when each of them fits behind the
write pointer that it finds. -/
theorem packets_stay_inside_exactly_when_they_fit (mppc : rdp_mppc)
    (calls : List Call) : Inside mppc calls ↔ AllFit mppc calls := by
  induction calls generalizing mppc with
  | nil => exact Iff.rfl
  | cons call calls ih =>
    have hpacket := packet_inside_iff mppc call
    constructor
    · rintro ⟨hreads, result, hresult, hrest⟩
      refine ⟨hpacket.mp ⟨hreads, result, hresult⟩, ?_⟩
      intro result' hresult'
      obtain rfl : result = result' := Option.some.inj (hresult.symm.trans hresult')
      exact (ih _).mp hrest
    · rintro ⟨hfits, hrest⟩
      obtain ⟨hreads, result, hresult⟩ := hpacket.mpr hfits
      exact ⟨hreads, result, hresult, (ih _).mpr (hrest result hresult)⟩

/-- A literal, and two matches of 65535 bytes. -/
def longPacket : List UInt8 :=
  [0x41, 0xf8, 0x3f, 0xff, 0xbf, 0xff, 0xfc, 0x1f, 0xff, 0xdf, 0xff, 0xc0]

/-- Twelve bytes for a new history are enough to leave it, and a packet of the type RDP6 with
`compressed_len` 17, which `rdp_recv_data_pdu` takes for -1 bytes. -/
theorem long_packet_leaves_the_history :
    ¬ Inside sampleSession [⟨longPacket, 12, 0x21, by decide⟩] ∧
      ¬ Inside { sampleSession with history_ptr := 32768, ptr_le := by decide }
        [⟨[], -1, 0x62, by decide⟩] := by
  constructor
  · rintro ⟨hreads, result, hresult, -⟩
    have hsize : output_size codes_5 longPacket 0x21 = 131071 := by decide +kernel
    have hfits := (packet_inside_iff sampleSession ⟨longPacket, 12, 0x21, by decide⟩).mp
      ⟨hreads, result, hresult⟩
    have hroom : 0 + output_size codes_5 longPacket 0x21 ≤ 65536 := hfits.2
    omega
  · rintro ⟨-, result, hresult, -⟩
    rw [decompress_rdp, if_pos (by decide)] at hresult
    cases hresult

end neutrinordp.mppc
