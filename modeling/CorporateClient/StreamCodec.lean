-- A stream as the place where messages are written to and read from, with the integers
-- and blocks of bytes that all the messages are made of.
import CorporateClient.Lib.Codec
import CorporateClient.Stream

open List bytes codec

namespace neutrinordp.stream

/-! ## Writes -/

/-- A stream takes bytes at its position. -/
def out : Sink STREAM UInt8 where
  append := stream_write
  Room s := s.pos ≤ s.data.length
  append_nil s := by simp [stream_write]
  append_append s a b h := stream_write_write s a b h
  room_append s a h := by
    rw [stream_write_length s a h, stream_write_pos]
    exact Nat.le_max_right _ _

theorem writes_bytes (bs : Bytes) : Writes out (modify (stream_write · bs)) bs () :=
  fun _ _ => rfl

theorem writes_uint8 (v : Nat) : Writes out (modify (stream_write_uint8 · v)) [UInt8.ofNat v] () :=
  fun _ _ => rfl

theorem writes_byte (b : UInt8) : Writes out (modify (stream_write_uint8 · b.toNat)) [b] () := by
  have hwrite := writes_uint8 b.toNat
  rwa [UInt8.ofNat_toNat] at hwrite

theorem writes_uint16_be (v : Nat) : Writes out (modify (stream_write_uint16_be · v)) (be16 v) () :=
  fun _ _ => rfl

theorem stream_write_over (s : STREAM) (a x y b : Bytes) (hs : s.pos ≤ s.data.length)
    (hxy : x.length = y.length) :
    stream_set_pos (stream_write (stream_set_pos (stream_write s (a ++ x ++ b))
      (s.pos + a.length)) y) (s.pos + (a ++ x ++ b).length) = stream_write s (a ++ y ++ b) := by
  unfold stream_write stream_set_pos
  rw [patch_over _ _ _ _ _ _ hs hxy]
  simp [hxy]

theorem stream_seek_eq_write (s : STREAM) (n : Nat) (h : s.pos + n ≤ s.data.length) :
    ∃ x, x.length = n ∧ stream_seek s n = stream_write s x := by
  have hn : ((s.data.drop s.pos).take n).length = n := by
    rw [length_take, length_drop]
    omega
  refine ⟨_, hn, ?_⟩
  unfold stream_write stream_seek
  rw [patch_same _ _ _ h, hn]

/-! ## Reads -/

theorem Rest.byte {s : STREAM} {a rest : Bytes} {b : UInt8} (h : Rest s (a ++ rest)) (i : Nat)
    (hi : a[i]? = some b) : neutrinordp.stream.byte_at s (s.pos + i) = b := by
  obtain ⟨hlt, hb⟩ := List.getElem?_eq_some_iff.mp hi
  rw [h.byte_at hlt, getD_eq_getElem _ _ hlt, hb]

/-- A reader that takes some bytes and moves the position behind them. -/
def Takes {α : Type} (m : StateM STREAM α) (bs : List UInt8) (v : α) : Prop :=
  ∀ s rest, Rest s (bs ++ rest) → m s = (v, stream_seek s bs.length)

variable {bs : Bytes} {α : Type} {m : StateM STREAM α} {v : α} {x n : Nat}

theorem Takes.reads (h : Takes m bs v) : Reads Rest m bs v :=
  fun s rest hs => ⟨_, h s rest hs, hs.seek rfl⟩

theorem takes_uint8 {b : UInt8} : Takes stream_read_uint8 [b] b := by
  intro s more hs
  unfold stream_read_uint8
  rw [← Nat.add_zero s.pos, hs.byte 0 rfl]
  rfl

theorem takes_uint16 : Takes stream_read_uint16 (le16 x) (x % 65536) := by
  intro s more hs
  unfold stream_read_uint16
  rw [← ofLe16_le16, hs.byte 1 rfl, ← Nat.add_zero s.pos, hs.byte 0 rfl]
  rfl

theorem takes_uint16_be : Takes stream_read_uint16_be (be16 x) (x % 65536) := by
  intro s more hs
  unfold stream_read_uint16_be
  rw [← ofBe16_be16, hs.byte 1 rfl, ← Nat.add_zero s.pos, hs.byte 0 rfl]
  rfl

theorem takes_uint32 : Takes stream_read_uint32 (le32 x) (x % 4294967296) := by
  intro s more hs
  unfold stream_read_uint32
  rw [← ofLe32_le32, hs.byte 1 rfl, hs.byte 2 rfl, hs.byte 3 rfl, ← Nat.add_zero s.pos,
    hs.byte 0 rfl]
  rfl

theorem takes_skip (hn : bs.length = n) : Takes (stream_skip n) bs () := by
  subst hn
  exact fun _ _ _ => rfl

theorem takes_block (hn : bs.length = n) : Takes (stream_read n) bs bs := by
  subst hn
  intro s more hs
  unfold stream_read
  rw [bytes_at_left s _ (by rw [hs.left, length_append]; omega), hs.left, take_left' rfl]

theorem reads_uint8 (b : UInt8) : Reads Rest stream_read_uint8 [b] b := takes_uint8.reads

theorem reads_uint16 (v : Nat) : Reads Rest stream_read_uint16 (le16 v) (v % 65536) :=
  takes_uint16.reads

theorem reads_uint16_be (v : Nat) : Reads Rest stream_read_uint16_be (be16 v) (v % 65536) :=
  takes_uint16_be.reads

theorem reads_uint32 (v : Nat) : Reads Rest stream_read_uint32 (le32 v) (v % 4294967296) :=
  takes_uint32.reads

theorem uint32_read (x : UInt32) : UInt32.ofNat (x.toNat % 4294967296) = x := by
  rw [Nat.mod_eq_of_lt x.toNat_lt, UInt32.ofNat_toNat]

theorem reads_uint16_be_of_lt {v : Nat} (h : v < 65536) :
    Reads Rest stream_read_uint16_be (be16 v) v := by
  have hread := reads_uint16_be v
  rwa [Nat.mod_eq_of_lt h] at hread

theorem reads_bytes (bs : Bytes) (hn : bs.length = n) :
    Reads Rest (stream_read n) bs bs := (takes_block hn).reads

/-! ## What is written and read is unique -/

theorem writes_unique {a b : Bytes} {w : α} (ha : Writes out m a v) (hb : Writes out m b w) :
    a = b := by
  have hsame := (ha ⟨[], 0, 0⟩ (Nat.le_refl _)).symm.trans (hb ⟨[], 0, 0⟩ (Nat.le_refl _))
  have hdata := congrArg (fun r => r.2.data) hsame
  simpa [out, stream_write, patch] using hdata

theorem reads_unique {w : α} (hv : Reads Rest m bs v) (hw : Reads Rest m bs w) : v = w := by
  have hrest : Rest (stream_of bs) (bs ++ []) := by
    rw [append_nil]
    exact rest_stream_of bs
  obtain ⟨s, hs, -⟩ := hv _ _ hrest
  obtain ⟨s', hs', -⟩ := hw _ _ hrest
  exact (Prod.mk.inj (hs.symm.trans hs')).1

/-! ## Reads in a row

Each rule is one step of a reader with the steps behind it. -/

namespace Takes

variable {α β : Type} {v : α} {w : β} {bs rest : Bytes} {n : Nat}

theorem pure (v : α) : Takes (Pure.pure v) [] v := fun _ _ _ => rfl

theorem pure_eq {v' : α} (h : v = v') : Takes (Pure.pure v) [] v' := h ▸ .pure v

theorem bind {m : StateM STREAM α} {f : α → StateM STREAM β} (hm : Takes m bs v)
    (hf : Takes (f v) rest w) : Takes (m >>= f) (bs ++ rest) w := by
  intro s more hs
  rw [append_assoc] at hs
  rw [run_bind (hm s _ hs), hf _ _ (hs.seek rfl)]
  simp [stream_seek, Nat.add_assoc]

theorem uint8 {f : UInt8 → StateM STREAM β} {b : UInt8} (h : Takes (f b) rest w) :
    Takes (stream_read_uint8 >>= f) ([b] ++ rest) w := .bind takes_uint8 h

theorem uint16 {f : Nat → StateM STREAM β} {x : Nat} (h : Takes (f (x % 65536)) rest w) :
    Takes (stream_read_uint16 >>= f) (le16 x ++ rest) w := .bind takes_uint16 h

theorem uint32 {f : Nat → StateM STREAM β} {x : Nat} (h : Takes (f (x % 4294967296)) rest w) :
    Takes (stream_read_uint32 >>= f) (le32 x ++ rest) w := .bind takes_uint32 h

theorem skip {f : Unit → StateM STREAM β} (hn : bs.length = n) (h : Takes (f ()) rest w) :
    Takes (stream_skip n >>= f) (bs ++ rest) w := .bind (takes_skip hn) h

theorem block {f : Bytes → StateM STREAM β} (hn : bs.length = n) (h : Takes (f bs) rest w) :
    Takes (stream_read n >>= f) (bs ++ rest) w := .bind (takes_block hn) h

end Takes

/-! ## Functions that may fail

A function that returns `false`, or that goes where the C code is undefined, gives nothing. -/

abbrev Fallible (α : Type) := StateT STREAM Option α

instance : MonadLift (StateM STREAM) (StateT STREAM Option) := ⟨fun m s => some (m s)⟩

/-- The check in front of a read: `n` bytes have to be left. -/
def require (n : Nat) : Fallible Unit := fun s =>
  if stream_get_left s < n then none else some ((), s)

/-- The program ends with `false` if the condition holds. -/
def refuse (c : Prop) [Decidable c] : Fallible Unit := fun s => if c then none else some ((), s)

variable {s s' : STREAM}

theorem fallible_bind {α β : Type} {m : Fallible α} {f : α → Fallible β} {v : α}
    (h : m s = some (v, s')) : (m >>= f) s = f v s' := by
  show (m s).bind (fun r => f r.1 r.2) = _
  rw [h]
  rfl

theorem fallible_get {β : Type} {f : STREAM → Fallible β} (s : STREAM) :
    (get >>= f) s = f s s := rfl

theorem fallible_modify {β : Type} {g : STREAM → STREAM} {f : PUnit → Fallible β} (s : STREAM) :
    (modify g >>= f) s = f ⟨⟩ (g s) := rfl

theorem fallible_bind_some {α β : Type} {m : Fallible α} {f : α → Fallible β}
    {w : β} (h : (m >>= f) s = some (w, s')) :
    ∃ v s1, m s = some (v, s1) ∧ f v s1 = some (w, s') := by
  obtain ⟨r, hm, hf⟩ := Option.bind_eq_some_iff.mp h
  exact ⟨r.1, r.2, hm, hf⟩

/-- The program takes the bytes `bs`, whatever comes behind them, and gives `v`. -/
def Accepts {α : Type} (m : Fallible α) (bs : List UInt8) (v : α) : Prop :=
  ∀ s rest, Rest s (bs ++ rest) → ∃ s', m s = some (v, s') ∧ Rest s' rest

namespace Accepts

variable {α β : Type} {v : α} {w : β} {bs rest : Bytes} {n : Nat}

theorem pure (v : α) : Accepts (Pure.pure v) [] v := fun s _ hs => ⟨s, rfl, hs⟩

theorem pure_eq {v' : α} (h : v = v') : Accepts (Pure.pure v) [] v' := h ▸ .pure v

theorem bind {m : Fallible α} {f : α → Fallible β} (hm : Accepts m bs v)
    (hf : Accepts (f v) rest w) : Accepts (m >>= f) (bs ++ rest) w := by
  intro s more hs
  rw [append_assoc] at hs
  obtain ⟨s1, hm, hs1⟩ := hm s _ hs
  obtain ⟨s2, hf, hs2⟩ := hf s1 _ hs1
  exact ⟨s2, (fallible_bind hm).trans hf, hs2⟩

theorem lift {m : StateM STREAM α} (hm : Reads Rest m bs v) :
    Accepts (liftM m : Fallible α) bs v := by
  intro s more hs
  obtain ⟨s', hm, hs'⟩ := hm s more hs
  exact ⟨s', congrArg some hm, hs'⟩

theorem uint16 {f : Nat → Fallible β} {x : Nat} (h : Accepts (f (x % 65536)) rest w) :
    Accepts (liftM stream_read_uint16 >>= f) (le16 x ++ rest) w :=
  .bind (.lift (reads_uint16 x)) h

theorem uint32 {f : Nat → Fallible β} {x : Nat} (h : Accepts (f (x % 4294967296)) rest w) :
    Accepts (liftM stream_read_uint32 >>= f) (le32 x ++ rest) w :=
  .bind (.lift (reads_uint32 x)) h

theorem skip {f : Unit → Fallible β} (hn : bs.length = n) (h : Accepts (f ()) rest w) :
    Accepts (liftM (stream_skip n) >>= f) (bs ++ rest) w :=
  .bind (.lift (takes_skip hn).reads) h

theorem block {f : Bytes → Fallible β} (hn : bs.length = n) (h : Accepts (f bs) rest w) :
    Accepts (liftM (stream_read n) >>= f) (bs ++ rest) w :=
  .bind (.lift (reads_bytes bs hn)) h

theorem require {f : Unit → Fallible β} (hn : n ≤ bs.length) (h : Accepts (f ()) bs w) :
    Accepts (require n >>= f) bs w := by
  intro s more hs
  have hleft : ¬ stream_get_left s < n := by
    rw [hs.get_left, length_append]
    omega
  have hcheck : neutrinordp.stream.require n s = some ((), s) := if_neg hleft
  rw [fallible_bind hcheck]
  exact h s more hs

end Accepts

/-- The program takes the bytes `bs` and moves the position behind them. -/
def Consumes {α : Type} (m : Fallible α) (bs : List UInt8) (v : α) : Prop :=
  ∀ s rest, Rest s (bs ++ rest) → m s = some (v, stream_seek s bs.length)

namespace Consumes

variable {α β : Type} {v : α} {w : β} {bs rest : Bytes} {n : Nat}

theorem pure (v : α) : Consumes (Pure.pure v) [] v := fun _ _ _ => rfl

theorem pure_eq {v' : α} (h : v = v') : Consumes (Pure.pure v) [] v' := h ▸ .pure v

theorem bind {m : Fallible α} {f : α → Fallible β} (hm : Consumes m bs v)
    (hf : Consumes (f v) rest w) : Consumes (m >>= f) (bs ++ rest) w := by
  intro s more hs
  rw [append_assoc] at hs
  rw [fallible_bind (hm s _ hs), hf _ _ (hs.seek rfl)]
  simp [stream_seek, Nat.add_assoc]

theorem lift {m : StateM STREAM α} (hm : Takes m bs v) : Consumes (liftM m : Fallible α) bs v :=
  fun s more hs => congrArg some (hm s more hs)

theorem uint8 {f : UInt8 → Fallible β} {b : UInt8} (h : Consumes (f b) rest w) :
    Consumes (liftM stream_read_uint8 >>= f) ([b] ++ rest) w :=
  .bind (.lift takes_uint8) h

theorem uint16 {f : Nat → Fallible β} {x : Nat} (h : Consumes (f (x % 65536)) rest w) :
    Consumes (liftM stream_read_uint16 >>= f) (le16 x ++ rest) w :=
  .bind (.lift takes_uint16) h

theorem uint32 {f : Nat → Fallible β} {x : Nat} (h : Consumes (f (x % 4294967296)) rest w) :
    Consumes (liftM stream_read_uint32 >>= f) (le32 x ++ rest) w :=
  .bind (.lift takes_uint32) h

theorem skip {f : Unit → Fallible β} (hn : bs.length = n) (h : Consumes (f ()) rest w) :
    Consumes (liftM (stream_skip n) >>= f) (bs ++ rest) w :=
  .bind (.lift (takes_skip hn)) h

theorem block {f : Bytes → Fallible β} (hn : bs.length = n) (h : Consumes (f bs) rest w) :
    Consumes (liftM (stream_read n) >>= f) (bs ++ rest) w :=
  .bind (.lift (takes_block hn)) h

theorem refuse {f : Unit → Fallible β} {c : Prop} [Decidable c] (hc : ¬ c)
    (h : Consumes (f ()) bs w) : Consumes (refuse c >>= f) bs w := by
  intro s more hs
  have hcheck : neutrinordp.stream.refuse c s = some ((), s) := if_neg hc
  rw [fallible_bind hcheck]
  exact h s more hs

theorem goOn {m m' : Fallible α} {c : Prop} [Decidable c] (hc : ¬ c) (h : Consumes m' bs v) :
    Consumes (if c then m else m') bs v := by
  rw [if_neg hc]
  exact h

theorem some {f : α → Fallible β} {o : Option α} (ho : o = Option.some v)
    (h : Consumes (f v) bs w) : Consumes (liftM o >>= f) bs w := by
  intro s more hs
  rw [ho]
  exact h s more hs

end Consumes

theorem require_some {n : Nat} {v : Unit} (h : require n s = some (v, s')) : s' = s := by
  unfold require at h
  split at h
  · cases h
  · cases h
    rfl

theorem lift_some {α : Type} {m : StateM STREAM α} {v : α}
    (h : (liftM m : Fallible α) s = some (v, s')) : m s = (v, s') := Option.some.inj h

/-- Whatever the bytes are, the program goes forward by `n` of them, if it succeeds. -/
def Forward {α : Type} (m : Fallible α) (n : Nat) : Prop :=
  ∀ s s' v, m s = some (v, s') → s' = stream_seek s n

namespace Forward

variable {α β : Type} {n k : Nat}

theorem pure (v : α) : Forward (Pure.pure v) 0 := fun _ _ _ h =>
  (congrArg Prod.snd (Option.some.inj h)).symm

theorem bind {m : Fallible α} {f : α → Fallible β} (hm : Forward m n)
    (hf : ∀ v, Forward (f v) k) : Forward (m >>= f) (n + k) := by
  intro s s' w h
  obtain ⟨v, s1, hfirst, hrest⟩ := fallible_bind_some h
  rw [hf v s1 s' w hrest, hm s s1 v hfirst]
  simp [stream_seek, Nat.add_assoc]

theorem uint16 {f : Nat → Fallible β} (h : ∀ x, Forward (f x) k) :
    Forward (liftM stream_read_uint16 >>= f) (2 + k) :=
  .bind (fun _ _ _ h => (congrArg Prod.snd (Option.some.inj h)).symm) h

theorem uint32 {f : Nat → Fallible β} (h : ∀ x, Forward (f x) k) :
    Forward (liftM stream_read_uint32 >>= f) (4 + k) :=
  .bind (fun _ _ _ h => (congrArg Prod.snd (Option.some.inj h)).symm) h

theorem skip {f : Unit → Fallible β} (h : ∀ x, Forward (f x) k) :
    Forward (liftM (stream_skip n) >>= f) (n + k) :=
  .bind (fun _ _ _ h => (congrArg Prod.snd (Option.some.inj h)).symm) h

theorem block {f : Bytes → Fallible β} (h : ∀ x, Forward (f x) k) :
    Forward (liftM (stream_read n) >>= f) (n + k) :=
  .bind (fun _ _ _ h => (congrArg Prod.snd (Option.some.inj h)).symm) h

theorem require {f : Unit → Fallible β} (h : ∀ x, Forward (f x) k) :
    Forward (require n >>= f) k := by
  intro s s' w hrun
  obtain ⟨v, s1, hcheck, hrest⟩ := fallible_bind_some hrun
  rw [require_some hcheck] at hrest
  exact h _ s s' w hrest

end Forward

/-- The program writes the bytes `bs` and gives `v`. -/
def Emits {α : Type} (m : Fallible α) (bs : List UInt8) (v : α) : Prop :=
  ∀ s : STREAM, s.pos ≤ s.data.length → m s = some (v, stream_write s bs)

namespace Emits

variable {α β : Type} {v : α} {w : β} {bs rest : Bytes}

theorem pure (v : α) : Emits (Pure.pure v) [] v := by
  intro s _
  have hnil : stream_write s [] = s := out.append_nil s
  rw [hnil]
  rfl

theorem bind {m : Fallible α} {f : α → Fallible β} (hm : Emits m bs v)
    (hf : Emits (f v) rest w) : Emits (m >>= f) (bs ++ rest) w := by
  intro s hs
  have hroom : (stream_write s bs).pos ≤ (stream_write s bs).data.length := out.room_append s bs hs
  rw [fallible_bind (hm s hs), hf _ hroom, stream_write_write s bs rest hs]

variable {f : PUnit → Fallible β} {x : Nat}

theorem bytes (h : Emits (f ⟨⟩) rest w) : Emits (modify (stream_write · bs) >>= f) (bs ++ rest) w :=
  .bind (v := PUnit.unit) (fun _ _ => rfl) h

theorem uint8 (h : Emits (f ⟨⟩) rest w) :
    Emits (modify (stream_write_uint8 · x) >>= f) ([UInt8.ofNat x] ++ rest) w :=
  .bind (v := PUnit.unit) (fun _ _ => rfl) h

theorem uint16 (h : Emits (f ⟨⟩) rest w) :
    Emits (modify (stream_write_uint16 · x) >>= f) (le16 x ++ rest) w :=
  .bind (v := PUnit.unit) (fun _ _ => rfl) h

theorem uint32 (h : Emits (f ⟨⟩) rest w) :
    Emits (modify (stream_write_uint32 · x) >>= f) (le32 x ++ rest) w :=
  .bind (v := PUnit.unit) (fun _ _ => rfl) h

theorem uint32_end : Emits (modify (stream_write_uint32 · x)) (le32 x ++ []) ⟨⟩ := by
  exact fun _ _ => rfl

theorem some {f : α → Fallible β} {o : Option α} (ho : o = Option.some v)
    (h : Emits (f v) bs w) : Emits (liftM o >>= f) bs w := by
  intro s hs
  rw [ho]
  exact h s hs

end Emits

/-! ## Reads past the size

The code reads without a look at the size. What it reads is decided by the memory. -/

def resize (s : STREAM) (n : Nat) : STREAM := { s with size := n }

/-- The program does the same for any size of the stream. -/
def IgnoresSize {α : Type} (m : StateM STREAM α) : Prop :=
  ∀ s n, m (resize s n) = ((m s).1, resize (m s).2 n)

theorem IgnoresSize.pure {α : Type} (v : α) : IgnoresSize (pure v) := fun _ _ => rfl

theorem IgnoresSize.bind {α β : Type} {m : StateM STREAM α} {f : α → StateM STREAM β}
    (hm : IgnoresSize m) (hf : ∀ v, IgnoresSize (f v)) : IgnoresSize (m >>= f) := by
  intro s n
  show f (m (resize s n)).1 (m (resize s n)).2 = _
  rw [hm s n]
  exact hf _ _ n

theorem IgnoresSize.ite {α : Type} {c : Prop} [Decidable c] {m m' : StateM STREAM α}
    (hm : IgnoresSize m) (hm' : IgnoresSize m') : IgnoresSize (if c then m else m') := by
  split
  · exact hm
  · exact hm'

theorem ignores_size_uint8 : IgnoresSize stream_read_uint8 := fun _ _ => rfl

theorem ignores_size_uint16_be : IgnoresSize stream_read_uint16_be := fun _ _ => rfl

theorem ignores_size_bytes (n : Nat) : IgnoresSize (stream_read n) := fun _ _ => rfl

end neutrinordp.stream
