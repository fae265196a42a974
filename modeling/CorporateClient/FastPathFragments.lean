-- The round trip of the fast path: what the sender cuts into fragments, the receiver
-- puts together. The two halves meet at `Fragmented`, the shape of the PDUs of one
-- update. Only an update without any bytes is lost: no PDU is sent for it.
import CorporateClient.FastPath
import CorporateClient.SessionKeys
import CorporateClient.TransportFraming

namespace neutrinordp.fastpath

open List bytes stream security transport

/-! ## The PDUs of an update -/

/-- The most bytes that a PDU without encryption carries. -/
def maxChunk : Nat := FASTPATH_MAX_PACKET_SIZE - 6

/-- The header of a PDU without encryption, and the header of its update. -/
def fragmentHeader (updateCode : UInt8) (kind : FASTPATH_FRAGMENT) (length : Nat) : List UInt8 :=
  [0, UInt8.ofNat (0x80 ||| ((length + 6) >>> 8)), UInt8.ofNat ((length + 6) &&& 0xFF),
    update_header updateCode kind 0] ++ le16 length

theorem length_fragmentHeader (updateCode : UInt8) (kind : FASTPATH_FRAGMENT) (length : Nat) :
    (fragmentHeader updateCode kind length).length = 6 := rfl

def fragmentPdu (updateCode : UInt8) (kind : FASTPATH_FRAGMENT) (chunk : List UInt8) : List UInt8 :=
  fragmentHeader updateCode kind chunk.length ++ chunk

/-- A piece of an update that fits a PDU. -/
structure IsChunk (chunk : List UInt8) : Prop where
  some_bytes : 0 < chunk.length
  fits : chunk.length ≤ maxChunk

/-- The PDUs that follow the first one: each adds a piece, and the last one says so. -/
inductive Continued (updateCode : UInt8) : List UInt8 → List (List UInt8) → Prop
  | last {chunk : List UInt8} (hc : IsChunk chunk) :
      Continued updateCode chunk [fragmentPdu updateCode .LAST chunk]
  | next {chunk rest : List UInt8} {pdus : List (List UInt8)} (hc : IsChunk chunk)
      (hrest : Continued updateCode rest pdus) :
      Continued updateCode (chunk ++ rest) (fragmentPdu updateCode .NEXT chunk :: pdus)

/-- The PDUs of one update. -/
inductive Fragmented (updateCode : UInt8) : List UInt8 → List (List UInt8) → Prop
  | single {chunk : List UInt8} (hc : IsChunk chunk) :
      Fragmented updateCode chunk [fragmentPdu updateCode .SINGLE chunk]
  | first {chunk rest : List UInt8} {pdus : List (List UInt8)} (hc : IsChunk chunk)
      (hrest : Continued updateCode rest pdus) :
      Fragmented updateCode (chunk ++ rest) (fragmentPdu updateCode .FIRST chunk :: pdus)

/-- A PDU whose length field is its size, and not above the limit. -/
def Declared (pdu : List UInt8) : Prop :=
  IsFastPath pdu ∧ pdu.length ≤ FASTPATH_MAX_PACKET_SIZE

instance (pdu : List UInt8) : Decidable (Declared pdu) := inferInstanceAs (Decidable (_ ∧ _))

theorem length_bytes (n : Nat) (hn : n ≤ FASTPATH_MAX_PACKET_SIZE) :
    (UInt8.ofNat (0x80 ||| (n >>> 8))).toNat = 128 + n / 256 ∧
      (UInt8.ofNat (n &&& 0xFF)).toNat = n % 256 := by
  unfold FASTPATH_MAX_PACKET_SIZE at hn
  have hhigh : n >>> 8 = n / 256 := Nat.shiftRight_eq_div_pow n 8
  have hor : 0x80 ||| (n / 256) = 128 + n / 256 :=
    (Nat.two_pow_add_eq_or_of_lt (i := 7) (by omega) 1).symm
  have hlow : n &&& 0xFF = n % 256 := Nat.and_two_pow_sub_one_eq_mod n 8
  rw [hhigh, hor, hlow]
  constructor
  · rw [UInt8.toNat_ofNat']
    omega
  · rw [UInt8.toNat_ofNat']
    omega

theorem declared_fragmentPdu (updateCode : UInt8) (kind : FASTPATH_FRAGMENT) {chunk : Bytes}
    (hc : IsChunk chunk) : Declared (fragmentPdu updateCode kind chunk) := by
  have hfits := hc.fits
  unfold maxChunk FASTPATH_MAX_PACKET_SIZE at hfits
  have hlen : (fragmentPdu updateCode kind chunk).length = chunk.length + 6 := by
    simp only [fragmentPdu, length_append, length_fragmentHeader]
    omega
  have hle : chunk.length + 6 ≤ FASTPATH_MAX_PACKET_SIZE := by
    unfold FASTPATH_MAX_PACKET_SIZE
    omega
  obtain ⟨hhigh, hlow⟩ := length_bytes _ hle
  have hfirst : (fragmentPdu updateCode kind chunk).getD 0 0 = 0 := rfl
  refine ⟨⟨by rw [hfirst]; rfl, by rw [hfirst]; decide, ?_⟩, by rw [hlen]; exact hle⟩
  rw [hlen]
  simp only [fastPathLength, fragmentPdu, fragmentHeader, cons_append, getD_cons_succ,
    getD_cons_zero, hhigh, hlow]
  rw [if_pos (by omega)]
  omega

theorem Continued.declared {updateCode : UInt8} {payload : Bytes} {pdus : List Bytes}
    (h : Continued updateCode payload pdus) : ∀ pdu ∈ pdus, Declared pdu := by
  induction h with
  | last hc => exact forall_mem_singleton.mpr (declared_fragmentPdu _ _ hc)
  | next hc _ ih =>
    exact forall_mem_cons.mpr ⟨declared_fragmentPdu _ _ hc, ih⟩

theorem Fragmented.declared {updateCode : UInt8} {payload : Bytes}
    {pdus : List Bytes} (h : Fragmented updateCode payload pdus) :
    ∀ pdu ∈ pdus, Declared pdu := by
  cases h with
  | single hc => exact forall_mem_singleton.mpr (declared_fragmentPdu _ _ hc)
  | first hc hrest =>
    exact forall_mem_cons.mpr ⟨declared_fragmentPdu _ _ hc, hrest.declared⟩

/-! ## The sender -/

section

variable {C : Crypto}

theorem write_fragment_header_plain (s : STREAM) (updateCode : UInt8) (kind : FASTPATH_FRAGMENT)
    (length : Nat) (h : s.pos + 6 ≤ s.data.length) :
    write_fragment_header s updateCode kind length 0 =
      stream_write s (fragmentHeader updateCode kind length) := by
  have hone : ∀ a b : Bytes, stream_write (stream_write s a) b = stream_write s (a ++ b) :=
    fun a b => stream_write_write s a b (by omega)
  have hseek : ∀ s : STREAM, stream_seek s 0 = s := fun _ => rfl
  simp only [write_fragment_header, fastpath_write_update_header, stream_write_uint8,
    stream_write_uint16, hseek, hone, fragmentHeader]
  rfl

theorem bytes_at_fragment (s : STREAM) (updateCode : UInt8) (kind : FASTPATH_FRAGMENT)
    (length : Nat) (h : s.pos + 6 ≤ s.data.length) :
    bytes_at (stream_write s (fragmentHeader updateCode kind length)) s.pos (length + 6) =
      fragmentPdu updateCode kind (bytes_at s (s.pos + 6) length) := by
  have hself := bytes_at_poke_self s (fragmentHeader updateCode kind length) s.pos (by omega)
  have hbehind := bytes_at_write s (fragmentHeader updateCode kind length) (s.pos + 6) length
    (by omega) (by rw [length_fragmentHeader])
  rw [Nat.add_comm, bytes_at_add, hbehind, fragmentPdu, length_bytes_at]
  congr 1

/-- The stream after a fragment: six bytes in front of the next piece. -/
def behindFragment (s : STREAM) (header : List UInt8) (length : Nat) : STREAM :=
  stream_set_pos (stream_write s header) (s.pos + length)

theorem bytes_at_behindFragment (s : STREAM) {header : Bytes} (hh : header.length = 6)
    (length m : Nat) (h : s.pos + 6 ≤ s.data.length) :
    bytes_at (behindFragment s header length) ((behindFragment s header length).pos + 6) m =
      bytes_at s (s.pos + 6 + length) m := by
  have hbytes := bytes_at_write s header (s.pos + length + 6) m (by omega) (by omega)
  have hplace : s.pos + 6 + length = s.pos + length + 6 := by omega
  rw [hplace, ← hbytes]
  rfl

theorem length_behindFragment (s : STREAM) {header : Bytes} (hh : header.length = 6)
    (length : Nat) (h : s.pos + 6 ≤ s.data.length) :
    (behindFragment s header length).data.length = s.data.length := by
  have hlen := stream_write_length s header (by omega)
  simp only [behindFragment, stream_set_pos_data, hlen]
  omega

/-- The PDUs of the loop without encryption. -/
def plainPdus (updateCode : UInt8) (fuel fragment totalLength : Nat) (s : STREAM)
    (rdp : rdpRdp C) : List (List UInt8) :=
  (send_fragments (fun _ => true) updateCode 0 maxChunk fuel fragment totalLength s rdp).pdus

variable (updateCode : UInt8) (fuel fragment : Nat) {totalLength : Nat} (s : STREAM)
    (rdp : rdpRdp C)

theorem send_fragments.step (ht : 0 < totalLength)
    (hroom : s.pos + 6 + totalLength ≤ s.data.length) :
    let length := min maxChunk totalLength
    let kind := fragmentation_of fragment (totalLength - length)
    plainPdus updateCode (fuel + 1) fragment totalLength s rdp =
      fragmentPdu updateCode kind (bytes_at s (s.pos + 6) length) ::
        plainPdus updateCode fuel (fragment + 1) (totalLength - length)
          (behindFragment s (fragmentHeader updateCode kind length) length) rdp := by
  intro length kind
  have hpos : (stream_write s (fragmentHeader updateCode kind length)).pos + length - 6 =
      s.pos + length := by
    rw [stream_write_pos, length_fragmentHeader]
    omega
  simp only [plainPdus, send_fragments, if_pos ht, secure_fragment, Nat.lt_irrefl, if_false,
    gt_iff_lt,
    stream_get_pos, Nat.add_zero, if_true]
  rw [write_fragment_header_plain s updateCode _ _ (by omega), bytes_at_fragment _ _ _ _ (by omega)]
  simp only [hpos, behindFragment, length, kind]

theorem send_rest (ht : 0 < totalLength) (hmax : totalLength ≤ maxChunk)
    (hroom : s.pos + 6 + totalLength ≤ s.data.length) :
    plainPdus updateCode (fuel + 1) fragment totalLength s rdp =
      [fragmentPdu updateCode (fragmentation_of fragment 0)
        (bytes_at s (s.pos + 6) totalLength)] := by
  have hnone : ∀ s : STREAM, plainPdus updateCode fuel (fragment + 1) 0 s rdp = [] := by
    intro s
    cases fuel <;> simp [plainPdus, send_fragments]
  rw [send_fragments.step updateCode fuel fragment s rdp ht hroom, Nat.min_eq_right hmax,
    Nat.sub_self, hnone]

theorem send_piece (hmax : maxChunk < totalLength)
    (hroom : s.pos + 6 + totalLength ≤ s.data.length) :
    ∃ s' : STREAM,
      plainPdus updateCode (fuel + 1) fragment totalLength s rdp =
        fragmentPdu updateCode (fragmentation_of fragment (totalLength - maxChunk))
            (bytes_at s (s.pos + 6) maxChunk) ::
          plainPdus updateCode fuel (fragment + 1) (totalLength - maxChunk) s' rdp ∧
      s'.pos + 6 + (totalLength - maxChunk) ≤ s'.data.length ∧
      bytes_at s (s.pos + 6) totalLength = bytes_at s (s.pos + 6) maxChunk ++
        bytes_at s' (s'.pos + 6) (totalLength - maxChunk) := by
  have hstep := send_fragments.step updateCode fuel fragment s rdp (by omega) hroom
  rw [Nat.min_eq_left (by omega)] at hstep
  have hheader := length_fragmentHeader updateCode
    (fragmentation_of fragment (totalLength - maxChunk)) maxChunk
  refine ⟨_, hstep, ?_, ?_⟩
  · rw [length_behindFragment s hheader _ (by omega)]
    simp only [behindFragment, stream_set_pos_pos]
    omega
  · rw [bytes_at_behindFragment s hheader _ _ (by omega), ← bytes_at_add,
      Nat.add_sub_cancel' (by omega)]

theorem isChunk_bytes_at (s : STREAM) (i : Nat) {n : Nat} (hn : 0 < n) (hmax : n ≤ maxChunk) :
    IsChunk (bytes_at s i n) :=
  ⟨by rw [length_bytes_at]; exact hn, by rw [length_bytes_at]; exact hmax⟩

theorem send_continued (hfuel : totalLength ≤ fuel) (ht : 0 < totalLength)
    (hroom : s.pos + 6 + totalLength ≤ s.data.length) (hfragment : fragment ≠ 0) :
    Continued updateCode (bytes_at s (s.pos + 6) totalLength)
      (plainPdus updateCode fuel fragment totalLength s rdp) := by
  induction fuel generalizing fragment totalLength s with
  | zero => omega
  | succ fuel ih =>
    by_cases hmax : totalLength ≤ maxChunk
    · have hkind : fragmentation_of fragment 0 = .LAST := if_neg hfragment
      rw [send_rest updateCode fuel fragment s rdp ht hmax hroom, hkind]
      exact .last (isChunk_bytes_at s _ ht hmax)
    · have hpos : 0 < maxChunk := by decide
      obtain ⟨s', hpdus, hroom', hbytes⟩ := send_piece updateCode fuel fragment s rdp
        (Nat.lt_of_not_le hmax) hroom
      have hkind : fragmentation_of fragment (totalLength - maxChunk) = .NEXT := by
        unfold fragmentation_of
        rw [if_neg (by omega), if_neg hfragment]
      rw [hpdus, hkind, hbytes]
      exact .next (isChunk_bytes_at s _ hpos (Nat.le_refl _))
        (ih (fragment + 1) s' (by omega) (by omega) hroom' (by omega))

theorem send_fragmented (hfuel : totalLength ≤ fuel) (ht : 0 < totalLength)
    (hroom : s.pos + 6 + totalLength ≤ s.data.length) :
    Fragmented updateCode (bytes_at s (s.pos + 6) totalLength)
      (plainPdus updateCode fuel 0 totalLength s rdp) := by
  obtain ⟨fuel, rfl⟩ : ∃ n, fuel = n + 1 := ⟨fuel - 1, by omega⟩
  by_cases hmax : totalLength ≤ maxChunk
  · rw [send_rest updateCode fuel 0 s rdp ht hmax hroom]
    exact .single (isChunk_bytes_at s _ ht hmax)
  · have hpos : 0 < maxChunk := by decide
    obtain ⟨s', hpdus, hroom', hbytes⟩ := send_piece updateCode fuel 0 s rdp
      (Nat.lt_of_not_le hmax) hroom
    have hkind : fragmentation_of 0 (totalLength - maxChunk) = .FIRST := by
      unfold fragmentation_of
      rw [if_neg (by omega), if_pos rfl]
    rw [hpdus, hkind, hbytes]
    exact .first (isChunk_bytes_at s _ hpos (Nat.le_refl _))
      (send_continued updateCode fuel 1 s' rdp (by omega) (by omega) hroom' (by omega))

end

/-! ## The receiver -/

theorem add_fragment.spec {updateData s : STREAM} {acc chunk : Bytes}
    (h : Collected updateData acc) (hc : IsChunk chunk)
    (hread : bytes_at s s.pos chunk.length = chunk) :
    Collected (add_fragment updateData s chunk.length) (acc ++ chunk) := by
  unfold add_fragment
  rw [hread]
  exact h.add hc.some_bytes

theorem update_header_read : ∀ updateCode : UInt8, updateCode < 16 →
    ∀ kind : FASTPATH_FRAGMENT, update_header updateCode kind 0 &&& 0x0F = updateCode ∧
      fragment_of (update_header updateCode kind 0 >>> 4) = kind ∧
      (update_header updateCode kind 0 >>> 6) &&& 3 = 0 := by
  have hall : ∀ updateCode : UInt8, updateCode < 16 →
      ∀ kind ∈ [FASTPATH_FRAGMENT.SINGLE, .LAST, .FIRST, .NEXT],
        update_header updateCode kind 0 &&& 0x0F = updateCode ∧
        fragment_of (update_header updateCode kind 0 >>> 4) = kind ∧
        (update_header updateCode kind 0 >>> 6) &&& 3 = 0 := by decide +kernel
  intro updateCode hcode kind
  exact hall updateCode hcode kind (by cases kind <;> simp)

section

variable {κ : Type} (h : FastPathHandlers κ) {C : Crypto}

/-- The state in which the updates of a plain PDU are read. -/
def beginPdu (fastpath : rdpFastPath κ) : rdpFastPath κ :=
  { fastpath with
    encryptionFlags := 0, numberEvents := 0, context := h.BeginPaint fastpath.context }

def endPdu (fastpath : rdpFastPath κ) : rdpFastPath κ :=
  { fastpath with context := h.EndPaint fastpath.context }

/-- The place of the piece in its PDU. -/
def chunkStream (updateCode : UInt8) (kind : FASTPATH_FRAGMENT) (chunk : List UInt8) : STREAM :=
  stream_seek (stream_of (fragmentPdu updateCode kind chunk)) 6

theorem bytes_at_chunkStream (updateCode : UInt8) (kind : FASTPATH_FRAGMENT) (chunk : Bytes) :
    bytes_at (chunkStream updateCode kind chunk) (chunkStream updateCode kind chunk).pos
      chunk.length = chunk := by
  have hrest : Rest (chunkStream updateCode kind chunk) chunk :=
    (rest_stream_of (fragmentPdu updateCode kind chunk)).seek rfl
  rw [bytes_at_left _ _ (by rw [hrest.left]), hrest.left, take_length]

variable {updateCode : UInt8} {chunk : Bytes}

theorem fastpath_read_header_rdp.spec (fastpath : rdpFastPath κ) (updateCode : UInt8)
    (kind : FASTPATH_FRAGMENT) (hc : IsChunk chunk) :
    let s := stream_of (fragmentPdu updateCode kind chunk)
    fastpath_read_header_rdp fastpath s = (chunk.length + 3, stream_seek s 3,
      { fastpath with encryptionFlags := 0, numberEvents := 0 }) := by
  intro s
  have hfits := hc.fits
  unfold maxChunk FASTPATH_MAX_PACKET_SIZE at hfits
  obtain ⟨hhigh, hlow⟩ := length_bytes (chunk.length + 6) (by
    unfold FASTPATH_MAX_PACKET_SIZE
    omega)
  have h0 : byte_at s 0 = 0 := rfl
  have h1 : byte_at s 1 = UInt8.ofNat (0x80 ||| ((chunk.length + 6) >>> 8)) := rfl
  have h2 : byte_at s 2 = UInt8.ofNat ((chunk.length + 6) &&& 0xFF) := rfl
  have hpos : s.pos = 0 := rfl
  have hvalue : (((UInt8.ofNat (0x80 ||| ((chunk.length + 6) >>> 8)) &&& 0x7F).toNat <<< 8 |||
      (UInt8.ofNat ((chunk.length + 6) &&& 0xFF)).toNat) + 65536 - 3) % 65536 =
      chunk.length + 3 := by
    rw [shiftLeft_or_byte, and_0x7F, hhigh, hlow]
    omega
  have hlong : UInt8.ofNat (0x80 ||| ((chunk.length + 6) >>> 8)) &&& 0x80 ≠ 0 := by
    rw [and_0x80, hhigh]
    omega
  simp only [fastpath_read_header_rdp, stream_read_uint8, byte_at_seek, stream_seek_pos, hpos,
    Nat.zero_add, h0, h1, h2]
  rw [if_pos hlong, hvalue]
  rfl

theorem fastpath_recv_update_data.spec (fastpath : rdpFastPath κ) (hcode : updateCode < 16)
    (kind : FASTPATH_FRAGMENT) (hc : IsChunk chunk) :
    let s := stream_of (fragmentPdu updateCode kind chunk)
    fastpath_recv_update_data h fastpath (stream_seek s 3) =
      (stream_set_pos (chunkStream updateCode kind chunk) (6 + chunk.length),
        recv_fragment h fastpath updateCode kind chunk.length
          (chunkStream updateCode kind chunk)) := by
  intro s
  have hfits := hc.fits
  unfold maxChunk FASTPATH_MAX_PACKET_SIZE at hfits
  obtain ⟨hupdate, hkind, hcomp⟩ := update_header_read updateCode hcode kind
  have hpos : s.pos = 0 := rfl
  have h3 : byte_at s 3 = update_header updateCode kind 0 := rfl
  have hsize : ofLe16 (byte_at s 4) (byte_at s 5) = chunk.length :=
    (ofLe16_le16 chunk.length).trans (Nat.mod_eq_of_lt (by omega))
  have hheader : fastpath_read_update_header (stream_seek s 3) =
      ((updateCode, kind, 0), stream_seek s 4) := by
    simp only [fastpath_read_update_header, stream_read_uint8, bind, StateT.bind,
      byte_at_seek, stream_seek_pos, hpos, Nat.zero_add, h3, hupdate, hkind, hcomp]
    rfl
  have hnone : ¬ (0 : UInt8) = FASTPATH_OUTPUT_COMPRESSION_USED := by decide
  have hplain : ¬ (0 : UInt8) &&& PACKET_COMPRESSED ≠ 0 := by decide
  simp only [fastpath_recv_update_data, hheader, if_neg hnone, stream_read_uint16, byte_at_seek,
    stream_seek_pos, hpos, Nat.zero_add, Nat.reduceAdd, hsize, decompress_update, if_neg hplain,
    stream_get_pos]
  rfl

theorem rdp_recv_fastpath_pdu.spec (rdp : rdpRdp C) (fastpath : rdpFastPath κ)
    (hcode : updateCode < 16) (kind : FASTPATH_FRAGMENT) (hc : IsChunk chunk) :
    let s := stream_of (fragmentPdu updateCode kind chunk)
    rdp_recv_fastpath_pdu h rdp fastpath s =
      some (true, rdp, endPdu h (recv_fragment h (beginPdu h fastpath) updateCode kind
        chunk.length (chunkStream updateCode kind chunk))) := by
  intro s
  have hleft : stream_get_left (stream_seek s 3) = chunk.length + 3 := by
    simp only [stream_get_left, stream_seek_size, stream_seek_pos, s, stream_of, fragmentPdu,
      length_append, length_fragmentHeader]
    omega
  have hend : stream_get_left (stream_set_pos (chunkStream updateCode kind chunk)
      (6 + chunk.length)) = 0 := by
    simp only [stream_get_left, chunkStream, stream_set_pos_size, stream_set_pos_pos,
      stream_seek_size, stream_of, fragmentPdu, length_append, length_fragmentHeader]
    omega
  have hloop : ∀ fuel fp, recv_updates_loop h (fuel + 1) fp (stream_seek s 3) =
      recv_fragment h fp updateCode kind chunk.length (chunkStream updateCode kind chunk) := by
    intro fuel fp
    rw [recv_updates_loop, if_pos (by rw [hleft]; omega),
      fastpath_recv_update_data.spec h fp hcode kind hc]
    cases fuel with
    | zero => rfl
    | succ fuel =>
      simp only [recv_updates_loop]
      rw [if_neg (by rw [hend]; omega)]
  have hfuel : (stream_get_left (stream_seek s 3)).toNat = (chunk.length + 2) + 1 := by omega
  have hplain : ¬ (0 : UInt8) &&& FASTPATH_OUTPUT_ENCRYPTED ≠ 0 := by decide
  have hheader : fastpath_read_header_rdp fastpath s = (chunk.length + 3, stream_seek s 3, _) :=
    fastpath_read_header_rdp.spec fastpath updateCode kind hc
  simp only [rdp_recv_fastpath_pdu, hheader]
  rw [if_neg (by rw [hleft]; omega), if_neg hplain]
  simp only [fastpath_recv_updates, hfuel, hloop]
  rfl

theorem recv_fastpath_pdus_cons (rdp : rdpRdp C) (fastpath : rdpFastPath κ)
    (hcode : updateCode < 16) (kind : FASTPATH_FRAGMENT) (hc : IsChunk chunk)
    (pdus : List Bytes) :
    recv_fastpath_pdus h rdp fastpath (fragmentPdu updateCode kind chunk :: pdus) =
      recv_fastpath_pdus h rdp (endPdu h (recv_fragment h (beginPdu h fastpath) updateCode kind
        chunk.length (chunkStream updateCode kind chunk))) pdus := by
  rw [recv_fastpath_pdus, rdp_recv_fastpath_pdu.spec h rdp fastpath hcode kind hc]

theorem recv_continued (rdp : rdpRdp C) (hcode : updateCode < 16) {rest : Bytes}
    {pdus : List Bytes} (hrest : Continued updateCode rest pdus) (fastpath : rdpFastPath κ)
    {acc : Bytes} (hfp : Collected fastpath.updateData acc) :
    ∃ fastpath', recv_fastpath_pdus h rdp fastpath pdus = some (true, rdp, fastpath') ∧
      fastpath'.calls = fastpath.calls ++ [(updateCode, acc ++ rest)] := by
  induction hrest generalizing fastpath acc with
  | @last chunk hc =>
    rw [recv_fastpath_pdus_cons h rdp fastpath hcode .LAST hc]
    have hadd := add_fragment.spec hfp hc (bytes_at_chunkStream updateCode .LAST chunk)
    refine ⟨_, rfl, ?_⟩
    rw [← hadd.bytes_at]
    rfl
  | @next chunk rest pdus hc _ ih =>
    rw [recv_fastpath_pdus_cons h rdp fastpath hcode .NEXT hc, ← append_assoc]
    have hadd := add_fragment.spec hfp hc (bytes_at_chunkStream updateCode .NEXT chunk)
    exact ih _ hadd

theorem recv_fragmented (rdp : rdpRdp C) (hcode : updateCode < 16) {payload : Bytes}
    {pdus : List Bytes} (hpdus : Fragmented updateCode payload pdus)
    (fastpath : rdpFastPath κ) (hdata : fastpath.updateData.size ≤
      fastpath.updateData.data.length) :
    ∃ fastpath', recv_fastpath_pdus h rdp fastpath pdus = some (true, rdp, fastpath') ∧
      fastpath'.calls = fastpath.calls ++ [(updateCode, payload)] := by
  cases hpdus with
  | single hc =>
    rw [recv_fastpath_pdus_cons h rdp fastpath hcode .SINGLE hc]
    refine ⟨_, rfl, ?_⟩
    have hread := bytes_at_chunkStream updateCode .SINGLE payload
    simp only [endPdu, recv_fragment, call_update, beginPdu, hread]
  | @first chunk rest pdus hc hrest =>
    rw [recv_fastpath_pdus_cons h rdp fastpath hcode .FIRST hc]
    have hadd := add_fragment.spec (collected_start fastpath.updateData hdata) hc
      (bytes_at_chunkStream updateCode .FIRST chunk)
    exact recv_continued h rdp hcode hrest _ hadd

/-! ## The round trip -/

/-- An update goes through: every PDU has its size in its length field and keeps to the
limit, and the receiver gets exactly one call, with the code and the bytes that were
sent. -/
def Arrives (rdp : rdpRdp C) (fastpath : rdpFastPath κ) (updateCode : UInt8)
    (payload : List UInt8) (pdus : List (List UInt8)) : Prop :=
  (∀ pdu ∈ pdus, Declared pdu) ∧
    ∃ fastpath', recv_fastpath_pdus h rdp fastpath pdus = some (true, rdp, fastpath') ∧
      fastpath'.calls = fastpath.calls ++ [(updateCode, payload)]

theorem fastpath_send_update_pdu_plain {rdp : rdpRdp C} (hplain : rdp.do_crypt = false)
    (updateCode : UInt8) (s : STREAM) :
    fastpath_send_update_pdu (fun _ => true) rdp updateCode s =
      send_fragments (fun _ => true) updateCode 0 maxChunk (s.pos - 6) 0 (s.pos - 6)
        (stream_set_pos s 0) rdp := by
  have hsec : fastpath_get_sec_bytes rdp = 0 := by
    unfold fastpath_get_sec_bytes
    rw [hplain]
    rfl
  unfold fastpath_send_update_pdu
  rw [hsec]
  rfl

/-- Without encryption, for a receiver in any state: an update arrives exactly when it
has at least one byte. The size of the buffer for its fragments, which is doubled, is an `int`. -/
theorem updates_arrive_unless_empty (sender receiver : rdpRdp C) (hplain : sender.do_crypt = false)
    (updateCode : UInt8) (hcode : updateCode < 16) (s : STREAM) (hpos : 6 ≤ s.pos)
    (hmem : s.pos ≤ s.data.length) (payload : List UInt8)
    (hpayload : bytes_at s 6 (s.pos - 6) = payload) (fastpath : rdpFastPath κ)
    (hdata : fastpath.updateData.size ≤ fastpath.updateData.data.length)
    (_hint : payload.length ≤ 2 ^ 30) :
    Arrives h receiver fastpath updateCode payload
        (fastpath_send_update_pdu (fun _ => true) sender updateCode s).pdus ↔ payload ≠ [] := by
  have hlen : payload.length = s.pos - 6 := by rw [← hpayload, length_bytes_at]
  rw [fastpath_send_update_pdu_plain hplain]
  constructor
  · rintro ⟨-, fastpath', hrecv, hcalls⟩ hempty
    have hzero : s.pos - 6 = 0 := by rw [← hlen, hempty]; rfl
    -- Nothing is sent, so nothing is called.
    rw [hzero] at hrecv
    cases hrecv
    simp at hcalls
  · intro hbytes
    have hsome : 0 < s.pos - 6 := by
      rw [← hlen]
      exact length_pos_iff.mpr hbytes
    have hsent := send_fragmented updateCode (s.pos - 6) (stream_set_pos s 0) sender
      (Nat.le_refl _) hsome (by simp only [stream_set_pos_pos, stream_set_pos_data]; omega)
    have hsame : bytes_at (stream_set_pos s 0) ((stream_set_pos s 0).pos + 6) (s.pos - 6) =
        payload := hpayload
    rw [hsame] at hsent
    exact ⟨hsent.declared, recv_fragmented h receiver hcode hsent fastpath hdata⟩

end

/-- A receiver that only keeps the log. -/
def idleHandlers : FastPathHandlers Unit where
  BeginPaint := id
  EndPaint := id
  fastpath_recv_update := fun _ _ s context => (context, s)
  decompress_rdp := fun _ _ _ context => (none, context)

def idleReceiver : rdpFastPath Unit :=
  { encryptionFlags := 0, numberEvents := 0, updateData := stream_new 16, context := (),
    calls := [] }

/-- A connection without encryption. -/
def plainRdp : rdpRdp sampleCrypto := rdp_new true 0 () ()

/-- The position of the pointer, behind the room for the headers. -/
def pointerUpdate : STREAM :=
  stream_write (fastpath_update_pdu_init plainRdp (stream_new 16)) [10, 0, 20, 0]

theorem updates_arrive_unless_empty_sample :
    Arrives idleHandlers plainRdp idleReceiver FASTPATH_UPDATETYPE_PTR_POSITION [10, 0, 20, 0]
      (fastpath_send_update_pdu (fun _ => true) plainRdp FASTPATH_UPDATETYPE_PTR_POSITION
        pointerUpdate).pdus :=
  (updates_arrive_unless_empty idleHandlers plainRdp plainRdp rfl FASTPATH_UPDATETYPE_PTR_POSITION
    (by decide) pointerUpdate (by decide) (by decide) [10, 0, 20, 0] (by decide) idleReceiver
    (by decide) (by decide)).mpr (by decide)

/-- The update that hides the pointer has no bytes. No PDU is sent, and the receiver
never hears of it. -/
theorem updates_arrive_unless_empty_counterexample :
    (update_send_pointer_system (fun _ => true) plainRdp (stream_new 16) SYSPTR_NULL).pdus = [] ∧
    ¬ Arrives idleHandlers plainRdp idleReceiver FASTPATH_UPDATETYPE_PTR_NULL []
      (update_send_pointer_system (fun _ => true) plainRdp (stream_new 16) SYSPTR_NULL).pdus := by
  have hnone : (update_send_pointer_system (fun _ => true) plainRdp (stream_new 16)
      SYSPTR_NULL).pdus = [] := by decide
  refine ⟨hnone, ?_⟩
  rintro ⟨-, fastpath', hrecv, hcalls⟩
  cases hrecv
  exact absurd hcalls (by decide)

end neutrinordp.fastpath
