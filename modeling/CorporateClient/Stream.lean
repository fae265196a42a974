-- The byte streams of the client. Every packet is read and written through a
-- `STREAM`: a buffer, the part of it that is in use, and a position in it.
import CorporateClient.Lib.Bytes

open List bytes

namespace neutrinordp.stream

/-- `data` is the memory behind the stream, `size` the length that the client
gave it. A sealed stream has more memory than its size. -/
structure STREAM where
  data : List UInt8
  size : Nat
  pos : Nat
deriving Repr, DecidableEq, Inhabited

/-- The bytes inside the size of a stream. -/
def STREAM.bytes (s : STREAM) : List UInt8 := s.data.take s.size

/-- The bytes from the position on. -/
def STREAM.left (s : STREAM) : List UInt8 := s.bytes.drop s.pos

/-- A stream over the bytes of one packet and no others, with the position at the
start. The memory behind it may be longer. -/
structure IsWhole (s : STREAM) (p : List UInt8) : Prop where
  bytes : s.bytes = p
  size : s.size = p.length
  pos : s.pos = 0

/-- `stream_new`: a buffer of zeros. A negative size gives 0x400 bytes in C. -/
def stream_new (size : Int) : STREAM :=
  let n := if size = 0 then 0 else if size > 0 then size.toNat else 0x400
  { data := replicate n 0, size := n, pos := 0 }

def stream_of (bs : List UInt8) : STREAM := { data := bs, size := bs.length, pos := 0 }

def stream_get_pos (s : STREAM) : Nat := s.pos

def stream_set_pos (s : STREAM) (m : Nat) : STREAM := { s with pos := m }

def stream_seek (s : STREAM) (offset : Nat) : STREAM := { s with pos := s.pos + offset }

def stream_seal (s : STREAM) : STREAM := { s with size := s.pos }

def stream_get_length (s : STREAM) : Nat := s.pos

/-- The bytes from the position to the end. The C code computes an `int`: it is
negative when the position has passed the end. -/
def stream_get_left (s : STREAM) : Int := s.size - s.pos

/-- `stream_extend` makes room for `request_size` bytes, or doubles the stream.
The new memory is zero. -/
def stream_extend (s : STREAM) (request_size : Nat) : STREAM :=
  let increased_size := if request_size > s.size then request_size else s.size
  { s with
    data := s.data.take s.size ++ replicate increased_size 0
    size := s.size + increased_size }

/-- The loop of `stream_check_size`. Each turn adds at least one byte when `n`
is not 0, so `pos + n` turns are enough. -/
def stream_check_size_loop : Nat → STREAM → Nat → STREAM
  | 0, s, _ => s
  | fuel + 1, s, n =>
    if s.pos + n > s.size then stream_check_size_loop fuel (stream_extend s n) n else s

def stream_check_size (s : STREAM) (n : Nat) : STREAM :=
  stream_check_size_loop (s.pos + n) s n

/-! ## Reads -/

/-- The byte at an index of the memory. The C code does not check the index. -/
def byte_at (s : STREAM) (i : Nat) : UInt8 := s.data.getD i 0

def stream_peek_uint8 (s : STREAM) : UInt8 := byte_at s s.pos

def stream_read_uint8 : StateM STREAM UInt8 := fun s =>
  (byte_at s s.pos, stream_seek s 1)

def stream_read_uint16 : StateM STREAM Nat := fun s =>
  (ofLe16 (byte_at s s.pos) (byte_at s (s.pos + 1)), stream_seek s 2)

def stream_read_uint32 : StateM STREAM Nat := fun s =>
  (ofLe32 (byte_at s s.pos) (byte_at s (s.pos + 1)) (byte_at s (s.pos + 2))
    (byte_at s (s.pos + 3)), stream_seek s 4)

def stream_read_uint16_be : StateM STREAM Nat := fun s =>
  (ofBe16 (byte_at s s.pos) (byte_at s (s.pos + 1)), stream_seek s 2)

/-- The `n` bytes of the memory from an index on. -/
def bytes_at (s : STREAM) (i n : Nat) : List UInt8 := (range n).map fun j => byte_at s (i + j)

/-- `stream_seek` as a step of a reader. -/
def stream_skip (n : Nat) : StateM STREAM Unit := fun s => ((), stream_seek s n)

/-- `stream_read` copies `n` bytes out of the stream. -/
def stream_read (n : Nat) : StateM STREAM (List UInt8) := fun s =>
  (bytes_at s s.pos n, stream_seek s n)

/-! ## Writes -/

/-- `memcpy` into the memory of a stream. -/
def stream_poke (s : STREAM) (i : Nat) (bs : List UInt8) : STREAM :=
  { s with data := patch s.data i bs }

def stream_write (s : STREAM) (bs : List UInt8) : STREAM :=
  { s with data := patch s.data s.pos bs, pos := s.pos + bs.length }

def stream_write_uint8 (s : STREAM) (v : Nat) : STREAM := stream_write s [UInt8.ofNat v]

def stream_write_uint16 (s : STREAM) (v : Nat) : STREAM := stream_write s (le16 v)

def stream_write_uint32 (s : STREAM) (v : Nat) : STREAM := stream_write s (le32 v)

def stream_write_uint16_be (s : STREAM) (v : Nat) : STREAM := stream_write s (be16 v)

/-! ## What the operations keep -/

section

variable (s : STREAM)

@[simp] theorem stream_set_pos_data (m : Nat) : (stream_set_pos s m).data = s.data :=
  rfl

@[simp] theorem stream_set_pos_size (m : Nat) : (stream_set_pos s m).size = s.size :=
  rfl

@[simp] theorem stream_set_pos_pos (m : Nat) : (stream_set_pos s m).pos = m := rfl

@[simp] theorem stream_seek_data (n : Nat) : (stream_seek s n).data = s.data := rfl

@[simp] theorem stream_seek_size (n : Nat) : (stream_seek s n).size = s.size := rfl

@[simp] theorem stream_seek_pos (n : Nat) : (stream_seek s n).pos = s.pos + n := rfl

@[simp] theorem byte_at_seek (n i : Nat) : byte_at (stream_seek s n) i = byte_at s i :=
  rfl

@[simp] theorem byte_at_set_pos (m i : Nat) :
    byte_at (stream_set_pos s m) i = byte_at s i := rfl

@[simp] theorem stream_poke_pos (i : Nat) (bs : Bytes) :
    (stream_poke s i bs).pos = s.pos := rfl

@[simp] theorem stream_poke_size (i : Nat) (bs : Bytes) :
    (stream_poke s i bs).size = s.size := rfl

/-! ## Reads of what is left

A packet is parsed from the front: each read takes the first bytes of `left`. -/

theorem left_seek (n : Nat) : (stream_seek s n).left = s.left.drop n := by
  simp [STREAM.left, STREAM.bytes]

theorem left_set_pos_zero : (stream_set_pos s 0).left = s.bytes := by
  simp [STREAM.left, STREAM.bytes]

end

variable {s : STREAM} {b a : Bytes}

theorem IsWhole.left {p : Bytes} (h : IsWhole s p) : s.left = p := by
  rw [STREAM.left, h.bytes, h.pos, drop_zero]

theorem byte_at_left (s : STREAM) (i : Nat) (h : i < s.left.length) :
    byte_at s (s.pos + i) = s.left.getD i 0 := by
  simp only [STREAM.left, STREAM.bytes, length_drop, length_take] at h
  simp only [byte_at, STREAM.left, STREAM.bytes, getD_eq_getElem?_getD, List.getElem?_drop]
  rw [List.getElem?_take_of_lt (by omega)]

theorem length_bytes_at (s : STREAM) (i n : Nat) : (bytes_at s i n).length = n := by
  simp [bytes_at]

theorem bytes_at_left (s : STREAM) (n : Nat) (h : n ≤ s.left.length) :
    bytes_at s s.pos n = s.left.take n := by
  apply ext_getElem
  · simp [bytes_at, h]
  · intro i hi hi'
    have hlt : i < s.left.length := by simp at hi'; omega
    simp only [bytes_at, getElem_map, getElem_range, getElem_take]
    rw [byte_at_left s i hlt, getD_eq_getElem]

theorem stream_get_left_eq (s : STREAM) (hp : s.pos ≤ s.size) (hs : s.size ≤ s.data.length) :
    stream_get_left s = s.left.length := by
  simp only [stream_get_left, STREAM.left, STREAM.bytes, length_drop, length_take]
  omega

theorem IsWhole.size_le {p : Bytes} (h : IsWhole s p) : s.size ≤ s.data.length := by
  have hlen := congrArg length h.bytes
  rw [STREAM.bytes, length_take, ← h.size] at hlen
  omega

theorem IsWhole.left_seek (h : IsWhole s (a ++ b)) {n : Nat} (hn : a.length = n) :
    (stream_seek s n).left = b ∧ (stream_seek s n).pos ≤ (stream_seek s n).size := by
  constructor
  · rw [stream.left_seek, h.left]
    exact drop_left' hn
  · simp only [stream_seek_pos, stream_seek_size, h.pos, h.size, length_append]
    omega

/-- A stream with nothing but `bs` behind its position. -/
structure Rest (s : STREAM) (bs : List UInt8) : Prop where
  left : s.left = bs
  pos : s.pos ≤ s.size
  size : s.size ≤ s.data.length

theorem Rest.get_left {bs : Bytes} (h : Rest s bs) : stream_get_left s = bs.length := by
  rw [stream_get_left_eq s h.pos h.size, h.left]

theorem Rest.seek (h : Rest s (a ++ b)) {n : Nat} (hn : a.length = n) :
    Rest (stream_seek s n) b := by
  have hleft := h.get_left
  simp only [stream_get_left, length_append] at hleft
  refine ⟨?_, ?_, h.size⟩
  · rw [stream.left_seek, h.left]
    exact drop_left' hn
  · simp only [stream_seek_pos, stream_seek_size]
    omega

theorem Rest.byte_at (h : Rest s (a ++ b)) {i : Nat} (hi : i < a.length) :
    byte_at s (s.pos + i) = a.getD i 0 := by
  rw [byte_at_left s i (by rw [h.left, length_append]; omega), h.left, getD_append _ _ _ _ hi]

theorem rest_stream_of (bs : Bytes) : Rest (stream_of bs) bs :=
  ⟨take_length, Nat.zero_le _, Nat.le_refl _⟩

/-! ## Writes in a row -/

section

variable (s : STREAM)

variable (bs : Bytes)

theorem take_stream_write (h : s.pos ≤ s.data.length) :
    (stream_write s bs).data.take (stream_write s bs).pos = s.data.take s.pos ++ bs :=
  take_patch s.data bs s.pos h

theorem stream_write_write (a b : Bytes) (h : s.pos ≤ s.data.length) :
    stream_write (stream_write s a) b = stream_write s (a ++ b) := by
  simp [stream_write, patch_patch s.data a b s.pos h, Nat.add_assoc]

theorem bytes_at_poke (i j n : Nat) (h : i ≤ s.data.length)
    (hj : i + bs.length ≤ j) : bytes_at (stream_poke s i bs) j n = bytes_at s j n := by
  apply map_congr_left
  intro k _
  exact getD_patch_of_ge s.data bs i (j + k) 0 h (by omega)

theorem bytes_at_poke_before (i j n : Nat) (h : i ≤ s.data.length) (hj : j + n ≤ i) :
    bytes_at (stream_poke s i bs) j n = bytes_at s j n := by
  apply map_congr_left
  intro k hk
  exact getD_patch_of_lt s.data bs i (j + k) 0 h (by simp at hk; omega)

theorem bytes_at_poke_self (i : Nat) (h : i ≤ s.data.length) :
    bytes_at (stream_poke s i bs) i bs.length = bs := by
  apply ext_getElem
  · simp [bytes_at]
  · intro k _ hk
    simp only [bytes_at, getElem_map, getElem_range]
    exact (getD_patch_mem s.data bs i k 0 h hk).trans (getD_eq_getElem _ _ hk)

theorem bytes_at_add (i m n : Nat) :
    bytes_at s i (m + n) = bytes_at s i m ++ bytes_at s (i + m) n := by
  simp [bytes_at, range_add, map_map, Nat.add_assoc]

theorem bytes_at_poke_behind (i n : Nat) (h : i + n ≤ s.data.length) :
    bytes_at (stream_poke s (i + n) bs) i (n + bs.length) = bytes_at s i n ++ bs := by
  rw [bytes_at_add, bytes_at_poke_self s bs (i + n) h,
    bytes_at_poke_before s bs (i + n) i n h (Nat.le_refl _)]

theorem bytes_at_write (j n : Nat) (h : s.pos ≤ s.data.length)
    (hj : s.pos + bs.length ≤ j) : bytes_at (stream_write s bs) j n = bytes_at s j n :=
  bytes_at_poke s bs s.pos j n h hj

theorem stream_write_pos :
    (stream_write s bs).pos = s.pos + bs.length := rfl

theorem stream_write_length (h : s.pos ≤ s.data.length) :
    (stream_write s bs).data.length = max s.data.length (s.pos + bs.length) :=
  length_patch s.data bs s.pos h

theorem take_poke_write (a b : Bytes) (h : s.pos ≤ s.data.length) :
    (stream_poke (stream_write s a) (s.pos + a.length) b).data.take
        (s.pos + a.length + b.length) = s.data.take s.pos ++ a ++ b := by
  have hpoke : (stream_poke (stream_write s a) (s.pos + a.length) b).data =
      (stream_write (stream_write s a) b).data := rfl
  rw [hpoke, stream_write_write s a b h, Nat.add_assoc, ← length_append, ← stream_write_pos,
    take_stream_write s _ h, append_assoc]

theorem left_poke (hp : s.pos ≤ s.size)
    (hs : s.size ≤ s.data.length) (h : bs.length = s.left.length) :
    (stream_poke s s.pos bs).left = bs := by
  have hlen := stream_get_left_eq s hp hs
  simp only [stream_get_left] at hlen
  have htake := take_patch s.data bs s.pos (by omega)
  have hsize : s.pos + bs.length = s.size := by omega
  rw [hsize] at htake
  simp only [STREAM.left, STREAM.bytes, stream_poke, htake]
  exact drop_left' (by simp; omega)

variable (n : Nat)

theorem left_shrink (hp : s.pos + n ≤ s.size) :
    ({ s with size := s.size - n } : STREAM).left = s.left.take (s.size - n - s.pos) := by
  simp only [STREAM.left, STREAM.bytes, take_drop, take_take]
  congr 2
  omega

/-! ## Room -/

variable (hn : 0 < n) (hp : s.pos ≤ s.size)

include hn hp

theorem stream_check_size.spec :
    stream_check_size s n = if s.pos + n > s.size then stream_extend s n else s := by
  unfold stream_check_size
  obtain ⟨k, hk⟩ : ∃ k, s.pos + n = k + 1 := ⟨s.pos + n - 1, by omega⟩
  rw [hk, stream_check_size_loop, ← hk]
  split
  · have hroom : ¬ (stream_extend s n).pos + n > (stream_extend s n).size := by
      simp only [stream_extend]
      split <;> omega
    cases k with
    | zero => rfl
    | succ k => rw [stream_check_size_loop, if_neg hroom]
  · rfl

theorem stream_check_size_pos : (stream_check_size s n).pos = s.pos := by
  rw [stream_check_size.spec s n hn hp]
  split <;> rfl

theorem stream_check_size_room : s.pos + n ≤ (stream_check_size s n).size := by
  rw [stream_check_size.spec s n hn hp]
  split
  · simp only [stream_extend]
    split <;> omega
  · omega

theorem stream_check_size_take (hd : s.pos ≤ s.data.length) :
    (stream_check_size s n).data.take s.pos = s.data.take s.pos := by
  rw [stream_check_size.spec s n hn hp]
  split
  · simp only [stream_extend]
    rw [take_append_of_le_length (by simp; omega), take_take]
    congr 1
    omega
  · rfl

theorem stream_check_size_length
    (hd : s.pos ≤ s.data.length) : s.pos ≤ (stream_check_size s n).data.length := by
  rw [stream_check_size.spec s n hn hp]
  split
  · simp only [stream_extend, length_append, length_take, length_replicate]
    omega
  · exact hd

theorem stream_check_size_memory (hs : s.size ≤ s.data.length) :
    (stream_check_size s n).size ≤ (stream_check_size s n).data.length := by
  rw [stream_check_size.spec s n hn hp]
  split
  · simp only [stream_extend, length_append, length_take, length_replicate]
    omega
  · exact hs

end

/-! ## Collecting -/

/-- The bytes collected so far stand in front of the position. -/
structure Collected (s : STREAM) (acc : List UInt8) : Prop where
  take : s.data.take s.pos = acc
  pos : s.pos = acc.length
  inside : s.pos ≤ s.size
  memory : s.size ≤ s.data.length

theorem collected_start (s : STREAM) (h : s.size ≤ s.data.length) :
    Collected (stream_set_pos s 0) [] :=
  ⟨take_zero, rfl, Nat.zero_le _, h⟩

theorem Collected.add {acc chunk : Bytes} (h : Collected s acc) (hn : 0 < chunk.length) :
    Collected (stream_write (stream_check_size s chunk.length) chunk) (acc ++ chunk) := by
  have hpos := stream_check_size_pos s _ hn h.inside
  have hroom := stream_check_size_room s _ hn h.inside
  have hmem := stream_check_size_memory s _ hn h.inside h.memory
  have htake := stream_check_size_take s _ hn h.inside (h.inside.trans h.memory)
  have hwrite := take_stream_write (stream_check_size s chunk.length) chunk (by omega)
  have hlength := stream_write_length (stream_check_size s chunk.length) chunk (by omega)
  have hacc := h.pos
  constructor
  · rw [hwrite, hpos, htake, h.take]
  · rw [stream_write_pos, hpos, hacc, length_append]
  · rw [stream_write_pos, hpos]
    exact hroom
  · rw [hlength]
    exact Nat.le_trans hmem (Nat.le_max_left _ _)

theorem Collected.bytes_at {acc : Bytes} (h : Collected s acc) :
    neutrinordp.stream.bytes_at (stream_set_pos s 0) 0 s.pos = acc := by
  have hinside := h.inside
  have hmemory := h.memory
  have hleft := left_set_pos_zero s
  have hread := bytes_at_left (stream_set_pos s 0) s.pos (by
    rw [hleft, STREAM.bytes, length_take]
    omega)
  rw [stream_set_pos_pos, hleft, STREAM.bytes, take_take, Nat.min_eq_left hinside, h.take] at hread
  exact hread

end neutrinordp.stream
