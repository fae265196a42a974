-- The receiving transport behind a gateway (rpch.c and the gateway part of transport.c). The RDP
-- PDUs come inside of RPC responses, cut anywhere. The pieces are collected in `proc_buffer`, and
-- each PDU that is complete goes to the callback.
import CorporateClient.TransportFraming
import Mathlib.Data.List.Forall2

namespace neutrinordp.transport

open List bytes stream

/-! ## PDUs for the gateway itself -/

/-- What `rpch_skip_pdu` does to the state of the virtual connection: it takes part in its control
PDUs, counts the bytes, and opens the window again when it gets small. -/
structure Rpch (κ : Type) where
  rpch_proceed_RTS : κ → List UInt8 → Nat → κ
  count : κ → Nat → κ
  AwailableWindow : κ → Int
  rpch_in_send_flow_control : κ → κ

def PTYPE_RTS : UInt8 := 0x14

/-- Control PDUs and answers to other calls are not for the upper layers. -/
def rpch_skip_pdu {κ : Type} (rpch : Rpch κ) (extra : κ) (s : STREAM) : Bool × κ × STREAM :=
  let start := s
  let (ptype, s) := stream_read_uint8 (stream_seek s 2)
  let (_pfc_flags, s) := stream_read_uint8 s
  let (frag_length, s) := stream_read_uint16 (stream_seek s 4)
  let (_auth_length, s) := stream_read_uint16 s
  let (call_id, s) := stream_read_uint32 s
  let (_status, s) := stream_read_uint32 s
  if ptype = PTYPE_RTS then (true, rpch.rpch_proceed_RTS extra s.data frag_length, s)
  else
    let extra := rpch.count extra frag_length
    if call_id ≠ 5 then (true, extra, s)
    else
      let extra :=
        if rpch.AwailableWindow extra < 0x8FFF then rpch.rpch_in_send_flow_control extra else extra
      (false, extra, stream_seek start 24)

section

variable {κ : Type}

theorem rpch_skip_pdu.spec (rpch : Rpch κ) (extra : κ) (s : STREAM) :
    (rpch_skip_pdu rpch extra s).2.2.data = s.data ∧
      (rpch_skip_pdu rpch extra s).2.2.size = s.size ∧
      ((rpch_skip_pdu rpch extra s).1 = false ↔
        byte_at s (s.pos + 2) ≠ PTYPE_RTS ∧
          ofLe32 (byte_at s (s.pos + 12)) (byte_at s (s.pos + 13)) (byte_at s (s.pos + 14))
            (byte_at s (s.pos + 15)) = 5) := by
  unfold rpch_skip_pdu
  simp only [stream_read_uint8, stream_read_uint16, stream_read_uint32, stream_seek_pos,
    byte_at_seek, Nat.add_assoc, Nat.reduceAdd]
  split_ifs with htype hcall
  · exact ⟨rfl, rfl, by simp [htype]⟩
  · exact ⟨rfl, rfl, by simp [hcall]⟩
  · exact ⟨rfl, rfl, by simp [htype, Decidable.not_not.mp hcall]⟩
  · exact ⟨rfl, rfl, by simp [htype, Decidable.not_not.mp hcall]⟩

/-! ## The PDUs and the fragments -/

/-- The RDP PDUs behind a gateway. The byte 0x30 has no special meaning here. -/
structure IsRdpPdu (p : List UInt8) : Prop where
  header : IsTpkt p ∨ ((p.getD 0 0).toNat % 4 = 0 ∧ fastPathLength p = p.length)
  four_le : 4 ≤ p.length

instance (p : List UInt8) : Decidable (IsRdpPdu p) :=
  decidable_of_iff ((IsTpkt p ∨ ((p.getD 0 0).toNat % 4 = 0 ∧ fastPathLength p = p.length)) ∧
    4 ≤ p.length) ⟨fun h => ⟨h.1, h.2⟩, fun h => ⟨h.header, h.four_le⟩⟩

/-- An RPC response to call 5: a header of 24 bytes, the data in `stub`, the padding, a trailer of 8
bytes that has the length of the padding, and the authentication data. -/
structure RpcFragment where
  start : List UInt8
  allocation : List UInt8
  stub : List UInt8
  padding : List UInt8
  auth_type : UInt8
  auth_level : UInt8
  trailer : List UInt8
  auth : List UInt8
  start_length : start.length = 8
  not_rts : start.getD 2 0 ≠ PTYPE_RTS
  allocation_length : allocation.length = 8
  padding_length : padding.length < 256
  trailer_length : trailer.length = 5
  fits : 32 + stub.length + padding.length + auth.length < 65536

namespace RpcFragment

def frag_length (f : RpcFragment) : Nat :=
  32 + f.stub.length + f.padding.length + f.auth.length

def bytes (f : RpcFragment) : List UInt8 :=
  (f.start ++ le16 f.frag_length ++ le16 f.auth.length ++ le32 5 ++ f.allocation) ++ f.stub ++
    f.padding ++ [f.auth_type, f.auth_level, UInt8.ofNat f.padding.length] ++ f.trailer ++ f.auth

end RpcFragment

/-- How many of the first `n` bytes belong to a PDU that is not complete. -/
def leftover : List (List UInt8) → Nat → Nat
  | [], n => n
  | p :: ps, n => if p.length ≤ n then leftover ps (n - p.length) else n

/-- The number of data bytes in some fragments. -/
def received (fragments : List RpcFragment) : Nat :=
  ((fragments.map RpcFragment.stub).flatten).length

/-- The callback succeeds and touches no byte behind its PDU. -/
def KeepsRest (cb : Callbacks κ) : Prop :=
  ∀ extra s, (cb.recv_callback extra s).1 = true ∧
    (cb.recv_callback extra s).2.2.data.drop s.size = s.data.drop s.size ∧
    (cb.recv_callback extra s).2.2.data.length = s.data.length

/-- Fragments in a row. Each one is in `recv_buffer` when the gateway part of
`transport_check_fds` runs. -/
def check_fragments (cb : Callbacks κ) (fuel : Nat) :
    List STREAM → rdpTransport κ → Option (Int × rdpTransport κ)
  | [], t => some (0, t)
  | s :: streams, t =>
    (check_tsg_pdu cb fuel { t with recv_buffer := s }).bind fun (status, t) =>
      if status ≠ 0 then some (status, t) else check_fragments cb fuel streams t

/-- A receive buffer with a whole fragment in it. -/
def HasFragment (s : STREAM) (f : RpcFragment) : Prop :=
  s.pos = f.bytes.length ∧ s.data.take s.pos = f.bytes

/-! ## The loop over the PDUs -/

variable {s : STREAM} {p later : Bytes} {n : Nat} {ps rest : List Bytes}
    {cb : Callbacks κ}

theorem rdp_pdu_length_of_header (hp : IsRdpPdu p) (h : s.data.take 4 = p.take 4) :
    get_rdp_pdu_length s = p.length := by
  have hbyte : ∀ i, i < 4 → byte_at s i = p.getD i 0 := fun i hi => getD_of_take_eq h hi 0
  simp only [get_rdp_pdu_length, hbyte 0 (by omega), hbyte 1 (by omega), hbyte 2 (by omega),
    hbyte 3 (by omega), shiftLeft_or_byte]
  rcases hp.header with ⟨hversion, hlength⟩ | ⟨haction, hlength⟩
  · rw [if_pos hversion, ← hlength, ofBe16, Nat.shiftLeft_eq]
  · have hversion : p.getD 0 0 ≠ 3 := by
      intro h3
      rw [h3] at haction
      simp at haction
    rw [if_neg hversion, ← hlength]
    simp only [and_0x80, and_0x7F, fastPathLength]

/-- The transport between two fragments: `proc_buffer` has the first bytes of what is to do, and
`later` the others. -/
structure Pending (todo : List (List UInt8)) (later : List UInt8) (s : STREAM) : Prop where
  inside : s.pos ≤ s.data.length
  bytes : s.data.take s.pos ++ later = todo.flatten

theorem Pending.header (h : Pending (p :: ps) later s) (hp : IsRdpPdu p) (hpos : 3 < s.pos) :
    get_rdp_pdu_length s = p.length := by
  apply rdp_pdu_length_of_header hp
  have hbytes := h.bytes
  have hinside := h.inside
  have hfirst := take_of_append_eq (n := 4) hbytes (by rw [length_take]; omega) hp.four_le
  rwa [take_take, Nat.min_eq_left hpos] at hfirst

/-- What the loop leaves: the PDUs in `done` went to the callback, and the next one is not
complete. -/
structure Emptied (todo : List (List UInt8)) (later : List UInt8) (size : Nat)
    (t t' : rdpTransport κ) (done rest : List (List UInt8)) (streams : List STREAM) : Prop where
  split : todo = done ++ rest
  calls : t'.calls = t.calls ++ streams
  whole : Forall₂ IsWhole streams done
  pending : Pending rest later t'.proc_buffer
  cut : ∀ p ∈ rest.head?, t'.proc_buffer.pos < p.length
  memory : t'.proc_buffer.data.length = size

theorem Pending.moved {s' : STREAM} (h : Pending (p :: ps) later s) (hwhole : p.length ≤ s.pos)
    (hrest : s'.data.drop p.length = s.data.drop p.length)
    (hlength : s'.data.length = s.data.length) :
    Pending ps later (stream_seek (stream_poke (stream_set_pos s' 0) 0
      ((s'.data.drop p.length).take (s.pos - p.length))) (s.pos - p.length)) ∧
    (patch s'.data 0 ((s'.data.drop p.length).take (s.pos - p.length))).length = s.data.length := by
  have hinside := h.inside
  have hbytes := h.bytes
  have hmoved : ((s'.data.drop p.length).take (s.pos - p.length)).length = s.pos - p.length := by
    rw [length_take, length_drop]
    omega
  have htake := take_patch s'.data ((s'.data.drop p.length).take (s.pos - p.length)) 0
    (Nat.zero_le _)
  have hlong := length_patch s'.data ((s'.data.drop p.length).take (s.pos - p.length)) 0
    (Nat.zero_le _)
  rw [Nat.zero_add, hmoved, take_zero, nil_append] at htake
  refine ⟨⟨?_, ?_⟩, by omega⟩
  · simp only [stream_seek_pos, stream_seek_data, stream_poke, stream_set_pos]
    omega
  · simp only [stream_seek_pos, stream_seek_data, stream_poke, stream_set_pos, Nat.zero_add]
    have hdrop := congrArg (List.drop p.length) hbytes
    rw [flatten_cons, drop_left, drop_append_of_le_length, drop_take] at hdrop
    · rw [htake, hrest, hdrop]
    · rw [length_take]
      omega

theorem do_callback_ok {t : rdpTransport κ} (h : (cb.recv_callback t.extra s).1 = true) :
    do_callback cb t s = (0, (cb.recv_callback t.extra s).2.2,
      { t with extra := (cb.recv_callback t.extra s).2.1, calls := t.calls ++ [s] }) := by
  unfold do_callback
  rcases hresult : cb.recv_callback t.extra s with ⟨ok, extra, s'⟩
  rw [hresult] at h
  dsimp only at h ⊢
  rw [h]
  rfl

theorem Pending.first (h : Pending (p :: ps) later s) (hwhole : p.length ≤ s.pos) :
    s.data.take p.length = p := by
  have hinside := h.inside
  have hbytes := h.bytes
  have hfirst := take_of_append_eq (n := p.length) hbytes (by rw [length_take]; omega)
    (Nat.le_refl _)
  rwa [take_take, Nat.min_eq_left hwhole, take_length] at hfirst

theorem tsg_pdu_loop.spec (hcb : KeepsRest cb) {todo : List Bytes}
    (hpdus : ∀ p ∈ todo, IsRdpPdu p) (h : Pending todo later s) (t : rdpTransport κ) {fuel : Nat}
    (hfuel : s.pos < fuel) :
    ∃ t' done rest streams, tsg_pdu_loop cb fuel t s = some (0, t') ∧
      Emptied todo later s.data.length t t' done rest streams := by
  induction todo generalizing s t fuel with
  | nil =>
    have hnil := append_eq_nil_iff.mp h.bytes
    have hpos : s.pos = 0 := by
      have hlength := congrArg length hnil.1
      rw [length_take, length_nil] at hlength
      have := h.inside
      omega
    obtain ⟨fuel, rfl⟩ : ∃ k, fuel = k + 1 := ⟨fuel - 1, by omega⟩
    refine ⟨{ t with proc_buffer := s }, [], [], [], ?_, rfl, by simp, .nil, h, by simp, rfl⟩
    unfold tsg_pdu_loop
    rw [if_neg]
    rw [stream_get_pos, hpos]
    omega
  | cons p ps ih =>
    have hp := hpdus p mem_cons_self
    have hfour := hp.four_le
    obtain ⟨fuel, rfl⟩ : ∃ k, fuel = k + 1 := ⟨fuel - 1, by omega⟩
    unfold tsg_pdu_loop
    dsimp only
    by_cases hwhole : p.length ≤ s.pos
    · -- The first PDU is complete: it goes out, and the bytes behind it move to the front.
      rw [if_pos ⟨by rw [stream_get_pos]; omega, by
        rw [stream_get_pos, h.header hp (by omega)]; exact hwhole⟩, h.header hp (by omega)]
      have hstream : stream_set_pos (stream_seal (stream_set_pos s p.length)) 0 =
          { s with size := p.length, pos := 0 } := rfl
      obtain ⟨hok, hrest, hlength⟩ := hcb t.extra { s with size := p.length, pos := 0 }
      rw [hstream, do_callback_ok hok]
      obtain ⟨hmoved, hmemory⟩ := h.moved hwhole hrest hlength
      obtain ⟨t', done, rest, streams, hrun, hempty⟩ :=
        ih (forall_mem_cons.mp hpdus).2 hmoved
          { t with
            extra := (cb.recv_callback t.extra { s with size := p.length, pos := 0 }).2.1
            calls := t.calls ++ [{ s with size := p.length, pos := 0 }] }
          (show _ < fuel by simp only [stream_seek_pos, stream_poke, stream_set_pos]; omega)
      refine ⟨t', p :: done, rest, { s with size := p.length, pos := 0 } :: streams, hrun, ?_, ?_,
        ?_, hempty.pending, hempty.cut, ?_⟩
      · rw [hempty.split, cons_append]
      · rw [hempty.calls, append_assoc, singleton_append]
      · exact .cons ⟨h.first hwhole, rfl, rfl⟩ hempty.whole
      · rw [hempty.memory]
        exact hmemory
    · refine ⟨{ t with proc_buffer := s }, [], p :: ps, [], ?_, rfl, by simp, .nil, h, ?_, rfl⟩
      · rw [if_neg]
        rw [stream_get_pos]
        rintro ⟨hthree, hlong⟩
        rw [h.header hp hthree] at hlong
        omega
      · intro q hq
        obtain rfl : p = q := by simpa using hq
        exact Nat.lt_of_not_le hwhole

/-! ## One fragment -/

theorem byte_at_part {i : Nat} {a part rest : Bytes} (h : s.data.take n = a ++ (part ++ rest))
    (hi : i < part.length) :
    byte_at s (a.length + i) = part.getD i 0 := by
  have hlength := congrArg length h
  rw [length_take, length_append, length_append] at hlength
  have hget : (s.data.take n).getD (a.length + i) 0 = part.getD i 0 := by
    rw [h, getD_append_right _ _ _ _ (Nat.le_add_right _ _), Nat.add_sub_cancel_left,
      getD_append _ _ _ _ hi]
  rw [← hget, byte_at, getD_eq_getElem?_getD, getD_eq_getElem?_getD,
    List.getElem?_take_of_lt (by omega)]

theorem bytes_at_part {a part rest : Bytes} (h : s.data.take n = a ++ (part ++ rest)) :
    bytes_at s a.length part.length = part := by
  apply ext_getElem
  · rw [length_bytes_at]
  · intro i _ hi
    simp only [bytes_at, getElem_map, getElem_range]
    rw [byte_at_part h hi, getD_eq_getElem _ _ hi]

/-- The fields of a fragment where the code looks for them. -/
structure FragmentFields (s : STREAM) (f : RpcFragment) : Prop where
  ptype : byte_at s 2 ≠ PTYPE_RTS
  frag_length : ofLe16 (byte_at s 8) (byte_at s 9) = f.frag_length
  auth_length : ofLe16 (byte_at s 10) (byte_at s 11) = f.auth.length
  call_id : ofLe32 (byte_at s 12) (byte_at s 13) (byte_at s 14) (byte_at s 15) = 5
  auth_pad_length : (byte_at s (f.frag_length - f.auth.length - 6)).toNat = f.padding.length
  stub : bytes_at s 24 f.stub.length = f.stub
  length : s.pos = f.frag_length

theorem HasFragment.fields {f : RpcFragment} (h : HasFragment s f) : FragmentFields s f := by
  obtain ⟨hpos, hbytes⟩ := h
  have hstart := f.start_length
  have hallocation := f.allocation_length
  have htrailer := f.trailer_length
  have hpadding := f.padding_length
  have hfits := f.fits
  have hlength : f.bytes.length = f.frag_length := by
    simp only [RpcFragment.bytes, RpcFragment.frag_length, length_append, length_le16,
      length_le32, length_cons, length_nil, hstart, hallocation, htrailer]
    omega
  have hall := hbytes
  rw [RpcFragment.bytes] at hall
  simp only [append_assoc] at hall
  -- Each field, with what stands in front of it.
  obtain ⟨r1, h1⟩ : ∃ rest, s.data.take s.pos = [] ++ (f.start ++ rest) := ⟨_, hall⟩
  obtain ⟨r2, h2⟩ : ∃ rest, s.data.take s.pos = f.start ++ (le16 f.frag_length ++ rest) := ⟨_, hall⟩
  obtain ⟨r3, h3⟩ : ∃ rest, s.data.take s.pos =
      (f.start ++ le16 f.frag_length) ++ (le16 f.auth.length ++ rest) :=
    ⟨_, by rw [hall]; simp only [append_assoc]; rfl⟩
  obtain ⟨r4, h4⟩ : ∃ rest, s.data.take s.pos =
      (f.start ++ le16 f.frag_length ++ le16 f.auth.length) ++ (le32 5 ++ rest) :=
    ⟨_, by rw [hall]; simp only [append_assoc]; rfl⟩
  obtain ⟨r5, h5⟩ : ∃ rest, s.data.take s.pos =
      (f.start ++ le16 f.frag_length ++ le16 f.auth.length ++ le32 5 ++ f.allocation) ++
        (f.stub ++ rest) :=
    ⟨_, by rw [hall]; simp only [append_assoc]; rfl⟩
  obtain ⟨r6, h6⟩ : ∃ rest, s.data.take s.pos =
      ((f.start ++ le16 f.frag_length ++ le16 f.auth.length ++ le32 5 ++ f.allocation) ++
        f.stub ++ f.padding) ++
        ([f.auth_type, f.auth_level, UInt8.ofNat f.padding.length] ++ rest) :=
    ⟨_, by rw [hall]; simp only [append_assoc]; rfl⟩
  have hptype := byte_at_part (i := 2) h1 (by omega)
  have hfrag0 := byte_at_part (i := 0) h2 (by simp)
  have hfrag1 := byte_at_part (i := 1) h2 (by simp)
  have hauth0 := byte_at_part (i := 0) h3 (by simp)
  have hauth1 := byte_at_part (i := 1) h3 (by simp)
  have hcall0 := byte_at_part (i := 0) h4 (by simp)
  have hcall1 := byte_at_part (i := 1) h4 (by simp)
  have hcall2 := byte_at_part (i := 2) h4 (by simp)
  have hcall3 := byte_at_part (i := 3) h4 (by simp)
  have hstub := bytes_at_part h5
  have hpad := byte_at_part (i := 2) h6 (by simp)
  simp only [length_append, length_le16, length_le32, hstart, hallocation, length_nil,
    Nat.reduceAdd] at hptype hfrag0 hfrag1 hauth0 hauth1 hcall0 hcall1 hcall2 hcall3 hstub hpad
  refine ⟨?_, ?_, ?_, ?_, ?_, hstub, hpos.trans hlength⟩
  · rw [hptype]
    exact f.not_rts
  · rw [hfrag0, hfrag1]
    exact (ofLe16_le16 _).trans (Nat.mod_eq_of_lt hfits)
  · rw [hauth0, hauth1]
    exact (ofLe16_le16 _).trans (Nat.mod_eq_of_lt (by omega))
  · rw [hcall0, hcall1, hcall2, hcall3]
    rfl
  · have hindex : f.frag_length - f.auth.length - 6 = 24 + f.stub.length +
      f.padding.length + 2 := by
      unfold RpcFragment.frag_length
      omega
    rw [hindex, hpad]
    exact Nat.mod_eq_of_lt hpadding

theorem check_tsg_pdu.spec {rpch : Rpch κ} (hskip : cb.tsg_skip_pdu = rpch_skip_pdu rpch)
    {f : RpcFragment} (h : HasFragment s f) (t : rdpTransport κ) (fuel : Nat) :
    ∃ extra recv_buffer,
      check_tsg_pdu cb fuel { t with recv_buffer := s } =
        tsg_pdu_loop cb fuel { t with extra, recv_buffer }
          (stream_seek (stream_poke t.proc_buffer t.proc_buffer.pos f.stub) f.stub.length) := by
  have hfields := h.fields
  have hfrag := hfields.frag_length
  have hpos := hfields.length
  obtain ⟨hdata, hsize, hfalse⟩ := rpch_skip_pdu.spec rpch t.extra (stream_set_pos s 0)
  have hnot : (rpch_skip_pdu rpch t.extra (stream_set_pos s 0)).1 = false := by
    apply hfalse.mpr
    exact ⟨hfields.ptype, hfields.call_id⟩
  refine ⟨(rpch_skip_pdu rpch t.extra (stream_set_pos s 0)).2.1,
    stream_set_pos (rpch_skip_pdu rpch t.extra (stream_set_pos s 0)).2.2 0, ?_⟩
  have hbyte : ∀ i, byte_at (rpch_skip_pdu rpch t.extra (stream_set_pos s 0)).2.2 i =
      byte_at s i := by
    intro i
    rw [byte_at, hdata]
    rfl
  have hblock : ∀ i n, bytes_at (rpch_skip_pdu rpch t.extra (stream_set_pos s 0)).2.2 i n =
      bytes_at s i n := by
    intro i n
    simp only [bytes_at, hbyte]
  have hread : ∀ s' : STREAM, (∀ i, byte_at s' i = byte_at s i) →
      (stream_read_uint16 (stream_set_pos s' 8)).1 = f.frag_length ∧
      (stream_read_uint16 (stream_set_pos s' 10)).1 = f.auth.length := by
    intro s' hsame
    simp only [stream_read_uint16, stream_set_pos_pos, byte_at_set_pos, hsame, Nat.reduceAdd]
    exact ⟨hfrag, hfields.auth_length⟩
  have hlong : 32 ≤ f.frag_length ∧ f.frag_length < 65536 := by
    have hfits := f.fits
    unfold RpcFragment.frag_length
    omega
  have hlength : (((f.frag_length : Int) - f.auth.length - 24 - 8 - f.padding.length) %
      65536).toNat = f.stub.length := by
    have hfits := f.fits
    unfold RpcFragment.frag_length
    omega
  simp only [check_tsg_pdu, hskip, stream_get_pos, hpos, (hread s fun _ => rfl).1,
    (hread _ hbyte).1, (hread _ hbyte).2, hbyte, hblock, hnot, hfields.auth_pad_length, hlength,
    hfields.stub]
  rw [if_neg (by omega), if_neg (by omega), if_neg (by omega), if_neg (by simp), if_neg]
  unfold RpcFragment.frag_length
  omega

/-! ## All fragments -/

theorem leftover_append {done : List Bytes} (h : done.flatten.length ≤ n) :
    leftover (done ++ rest) n = leftover rest (n - done.flatten.length) := by
  induction done generalizing n with
  | nil => rfl
  | cons p ps ih =>
    rw [flatten_cons, length_append] at h
    rw [cons_append, leftover, if_pos (by omega), ih (by omega), flatten_cons,
      length_append, Nat.sub_sub]

theorem leftover_cut (h : ∀ p ∈ rest.head?, n < p.length) : leftover rest n = n := by
  cases rest with
  | nil => rfl
  | cons p ps => rw [leftover, if_neg (Nat.not_le_of_lt (h p rfl))]

theorem leftover_le (pdus : List Bytes) (n : Nat) : leftover pdus n ≤ n := by
  induction pdus generalizing n with
  | nil => exact Nat.le_refl n
  | cons p ps ih =>
    unfold leftover
    split
    · exact (ih _).trans (Nat.sub_le _ _)
    · exact Nat.le_refl n

/-- What is known after some fragments. -/
structure Progress (pdus : List (List UInt8)) (got : List UInt8) (t t' : rdpTransport κ)
    (done rest : List (List UInt8)) (streams : List STREAM) : Prop where
  split : pdus = done ++ rest
  calls : t'.calls = t.calls ++ streams
  whole : Forall₂ IsWhole streams done
  got : got = done.flatten ++ t'.proc_buffer.data.take t'.proc_buffer.pos
  inside : t'.proc_buffer.pos ≤ t'.proc_buffer.data.length
  cut : ∀ p ∈ rest.head?, t'.proc_buffer.pos < p.length
  memory : t'.proc_buffer.data.length = BUFFER_SIZE

theorem Progress.pos {pdus : List Bytes} {got : Bytes} {t t' : rdpTransport κ}
    {done : List Bytes} {streams : List STREAM}
    (h : Progress pdus got t t' done rest streams) :
    t'.proc_buffer.pos = leftover pdus got.length := by
  have hinside := h.inside
  rw [h.split, h.got, leftover_append (by rw [length_append]; omega), length_append,
    Nat.add_sub_cancel_left, length_take, Nat.min_eq_left hinside, leftover_cut h.cut]

section fragments

variable {cb : Callbacks κ} {rpch : Rpch κ} {pdus : List (List UInt8)} {t : rdpTransport κ}
  {fuel : Nat}

section

variable (hskip : cb.tsg_skip_pdu = rpch_skip_pdu rpch) (hcb : KeepsRest cb)
  (hpdus : ∀ p ∈ pdus, IsRdpPdu p) (hfuel : BUFFER_SIZE < fuel) {got later : Bytes}
  {t1 : rdpTransport κ} {done rest : List Bytes}

include hskip hcb hpdus hfuel

theorem Progress.fragment {streams : List STREAM} (h : Progress pdus got t t1 done rest streams)
    {s : STREAM} {f : RpcFragment}
    (hs : HasFragment s f) (hcut : got ++ (f.stub ++ later) = pdus.flatten)
    (hroom : leftover pdus got.length + f.stub.length ≤ BUFFER_SIZE) :
    ∃ t2 done' rest' streams',
      check_tsg_pdu cb fuel { t1 with recv_buffer := s } = some (0, t2) ∧
      Progress pdus (got ++ f.stub) t t2 done' rest' streams' := by
  have hinside := h.inside
  rw [← h.pos] at hroom
  obtain ⟨extra, recv_buffer, hcheck⟩ := check_tsg_pdu.spec hskip hs t1 fuel
  have htake := take_patch t1.proc_buffer.data f.stub t1.proc_buffer.pos hinside
  have hlength := length_patch t1.proc_buffer.data f.stub t1.proc_buffer.pos hinside
  have hmemory := h.memory
  have hpending : Pending rest later
      (stream_seek (stream_poke t1.proc_buffer t1.proc_buffer.pos f.stub) f.stub.length) := by
    refine ⟨?_, ?_⟩
    · simp only [stream_seek_pos, stream_seek_data, stream_poke]
      omega
    · simp only [stream_seek_pos, stream_seek_data, stream_poke]
      rw [htake]
      rw [h.split, flatten_append, h.got, append_assoc, append_cancel_left_eq] at hcut
      rw [append_assoc]
      exact hcut
  have hrest : ∀ p ∈ rest, IsRdpPdu p := by
    intro p hp
    apply hpdus
    rw [h.split]
    exact mem_append_right _ hp
  obtain ⟨t2, done', rest', streams', hloop, hempty⟩ := tsg_pdu_loop.spec hcb hrest hpending
    { t1 with extra, recv_buffer }
    (show _ < fuel by simp only [stream_seek_pos, stream_poke]; omega)
  refine ⟨t2, done ++ done', rest', streams ++ streams', hcheck.trans hloop, ?_, ?_, ?_, ?_,
    hempty.pending.inside, hempty.cut, ?_⟩
  · rw [h.split, hempty.split, append_assoc]
  · rw [hempty.calls, h.calls, append_assoc]
  · exact rel_append h.whole hempty.whole
  · -- Both sides are what is in front of `later`.
    have hafter := hempty.pending.bytes
    rw [h.split, hempty.split, flatten_append, flatten_append, ← hafter,
      ← append_assoc, ← append_assoc, ← append_assoc,
      append_cancel_right_eq] at hcut
    rw [hcut, flatten_append]
  · rw [hempty.memory]
    simp only [stream_seek_data, stream_poke]
    omega

theorem Progress.fragments {calls : List STREAM} (h : Progress pdus got t t1 done rest calls)
    {streams : List STREAM}
    {fragments : List RpcFragment} (hstreams : Forall₂ HasFragment streams fragments)
    (hcut : got ++ ((fragments.map RpcFragment.stub).flatten ++ later) = pdus.flatten)
    (hroom : ∀ before f after, fragments = before ++ f :: after →
      leftover pdus (got.length + received before) + f.stub.length ≤ BUFFER_SIZE) :
    ∃ t2 done' rest' calls', check_fragments cb fuel streams t1 = some (0, t2) ∧
      Progress pdus (got ++ (fragments.map RpcFragment.stub).flatten) t t2 done' rest' calls' := by
  induction hstreams generalizing got t1 done rest calls with
  | nil =>
    refine ⟨t1, done, rest, calls, rfl, ?_⟩
    simpa using h
  | @cons s f streams fragments hs _ ih =>
    rw [map_cons, flatten_cons, append_assoc] at hcut
    obtain ⟨t2, done', rest', calls', hcheck, hprogress⟩ :=
      h.fragment hskip hcb hpdus hfuel hs hcut (hroom [] f fragments rfl)
    obtain ⟨t3, done'', rest'', calls'', hrun, hall⟩ := ih hprogress
      (by rw [append_assoc]; exact hcut) (by
        intro before g after hsplit
        have hbound := hroom (f :: before) g after (by rw [hsplit]; rfl)
        simp only [received, map_cons, flatten_cons, length_append] at hbound ⊢
        rwa [Nat.add_assoc])
    refine ⟨t3, done'', rest'', calls'', ?_, ?_⟩
    · unfold check_fragments
      rw [hcheck]
      exact hrun
    · rwa [append_assoc] at hall

end

/-- However the PDUs are cut into fragments, each PDU that is complete goes to the callback once,
whole and in order, and `proc_buffer` has the bytes behind it. No write leaves the buffer. -/
theorem gateway_delivers_each_pdu_once (hskip : cb.tsg_skip_pdu = rpch_skip_pdu rpch)
    (hcb : KeepsRest cb) (hpdus : ∀ p ∈ pdus, IsRdpPdu p) {streams : List STREAM}
    {fragments : List RpcFragment} (hstreams : Forall₂ HasFragment streams fragments)
    {later : List UInt8}
    (hcut : (fragments.map RpcFragment.stub).flatten ++ later = pdus.flatten)
    (hroom : ∀ before f after, fragments = before ++ f :: after →
      leftover pdus (received before) + f.stub.length ≤ BUFFER_SIZE)
    (hempty : t.proc_buffer.pos = 0) (hmemory : t.proc_buffer.data.length = BUFFER_SIZE)
    (hfuel : BUFFER_SIZE < fuel) :
    ∃ t' done rest calls, check_fragments cb fuel streams t = some (0, t') ∧
      Progress pdus (fragments.map RpcFragment.stub).flatten t t' done rest calls ∧
      (later = [] → done = pdus ∧ t'.proc_buffer.pos = 0) := by
  have hstart : Progress pdus [] t t [] pdus [] := by
    refine ⟨rfl, by simp, .nil, by simp [hempty], by omega, ?_, hmemory⟩
    intro p hp
    have hfour := (hpdus p (mem_of_mem_head? hp)).four_le
    omega
  obtain ⟨t', done, rest, calls, hrun, hprogress⟩ := hstart.fragments hskip hcb hpdus hfuel
    hstreams (by simpa using hcut) (by simpa using hroom)
  rw [nil_append] at hprogress
  refine ⟨t', done, rest, calls, hrun, hprogress, ?_⟩
  rintro rfl
  have hinside := hprogress.inside
  rw [append_nil, hprogress.got, hprogress.split, flatten_append, append_cancel_left_eq] at hcut
  have hlength := congrArg length hcut
  rw [length_take, Nat.min_eq_left hinside] at hlength
  cases rest with
  | nil => exact ⟨by rw [hprogress.split, append_nil], hlength⟩
  | cons p ps =>
    have hshort := hprogress.cut p rfl
    rw [flatten_cons, length_append] at hlength
    omega

end fragments

end

/-- A response with 2 bytes of padding and 3 bytes of authentication data. -/
def response (stub : List UInt8) (h : stub.length < 60000) : RpcFragment where
  start := [5, 0, 2, 3, 0x10, 0, 0, 0]
  allocation := replicate 8 0
  stub := stub
  padding := [0xAA, 0xAA]
  auth_type := 10
  auth_level := 2
  trailer := replicate 5 0
  auth := [7, 7, 7]
  start_length := rfl
  not_rts := by decide
  allocation_length := rfl
  padding_length := by decide
  trailer_length := rfl
  fits := by simp only [length_cons, length_nil]; omega

/-- A fast-path PDU and a TPKT PDU, cut inside of both headers. -/
theorem gateway_delivers_two_pdus :
    let fragments := [response [0x30] (by decide), response [5, 1, 2, 3, 3, 0] (by decide),
      response [0, 7, 9, 9, 9] (by decide)]
    ∃ t' done rest calls,
      check_fragments (⟨fun extra s => (true, extra, s), rpch_skip_pdu ⟨fun _ _ _ => (),
          fun _ _ => (), fun _ => 0, fun _ => ()⟩⟩ : Callbacks Unit) 40000
        (fragments.map fun f => ⟨f.bytes, f.bytes.length, f.bytes.length⟩)
        (transport_new () [] []) = some (0, t') ∧
      Progress [[0x30, 5, 1, 2, 3], [3, 0, 0, 7, 9, 9, 9]]
        (fragments.map RpcFragment.stub).flatten (transport_new () [] []) t' done rest calls ∧
      (([] : List UInt8) = [] → done = [[0x30, 5, 1, 2, 3], [3, 0, 0, 7, 9, 9, 9]] ∧
        t'.proc_buffer.pos = 0) := by
  intro fragments
  refine gateway_delivers_each_pdu_once rfl ?_ (by decide) ?_ ?_ ?_ rfl ?_ (by decide)
  · intro extra s
    exact ⟨rfl, rfl, rfl⟩
  · rw [forall₂_map_left_iff]
    apply forall₂_same.mpr
    intro f _
    exact ⟨rfl, take_length⟩
  · rfl
  · intro before f after hsplit
    have hlong := leftover_le [[0x30, 5, 1, 2, 3], [3, 0, 0, 7, 9, 9, 9]] (received before)
    have htotal : received fragments = 12 := rfl
    rw [hsplit] at htotal
    simp only [received, map_append, map_cons, flatten_append, flatten_cons,
      length_append] at htotal hlong
    unfold BUFFER_SIZE received
    omega
  · exact length_replicate

end neutrinordp.transport
