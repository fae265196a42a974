-- Messages that one side writes and the other side reads, item by item. A writer is known
-- by the items that it appends, and a reader by the items that it takes and the value that
-- it gives for them. Both rules compose along the steps of a program.
import Mathlib.Data.List.Basic

open List

namespace codec

variable {σ ω α β : Type}

variable {f : α → StateM σ β}

variable {m : StateM σ α}

theorem run_bind {s s' : σ} {v : α} (h : m s = (v, s')) : (m >>= f) s = f v s' := by
  show f (m s).1 (m s).2 = _
  rw [h]

theorem run_get {f : σ → StateM σ β} (s : σ) : (get >>= f) s = f s s := rfl

theorem run_modify {g : σ → σ} {f : PUnit → StateM σ β} (s : σ) :
    (modify g >>= f) s = f ⟨⟩ (g s) := rfl

/-! ## Writers -/

/-- Where items are written to. They go behind what is there already, as long as there is
room. -/
structure Sink (σ ω : Type) where
  append : σ → List ω → σ
  Room : σ → Prop
  append_nil : ∀ s, append s [] = s
  append_append : ∀ s a b, Room s → append (append s a) b = append s (a ++ b)
  room_append : ∀ s a, Room s → Room (append s a)

/-- The program appends the items `ws` and gives `v`. -/
def Writes (k : Sink σ ω) (m : StateM σ α) (ws : List ω) (v : α) : Prop :=
  ∀ s, k.Room s → m s = (v, k.append s ws)

variable {k : Sink σ ω}

theorem Writes.pure (v : α) : Writes k (pure v) [] v := by
  intro s _
  rw [k.append_nil]
  rfl

theorem Writes.bind {a b : List ω} {v : α}
    {w : β} (hm : Writes k m a v) (hf : Writes k (f v) b w) : Writes k (m >>= f) (a ++ b) w := by
  intro s hs
  rw [run_bind (hm s hs), hf _ (k.room_append s a hs), k.append_append s a b hs]

theorem Writes.last {a : List ω} {v : α}
    {w : β} (hm : Writes k m a v) (hf : Writes k (f v) [] w) : Writes k (m >>= f) a w := by
  have h := hm.bind hf
  rwa [append_nil] at h

theorem Writes.forM {write : α → StateM σ PUnit} {encode : α → List ω}
    (xs : List α) (h : ∀ x ∈ xs, Writes k (write x) (encode x) PUnit.unit) :
    Writes k (xs.forM write) (xs.flatMap encode) PUnit.unit := by
  induction xs with
  | nil => exact .pure _
  | cons x xs ih =>
    have hx := h x mem_cons_self
    exact hx.bind (ih (forall_mem_cons.mp h).2)

/-! ## Readers -/

/-- `Ahead s ws` says which items stand in front of a reader. The program takes the items
`ws`, whatever comes behind them, and gives `v`. -/
def Reads (Ahead : σ → List ω → Prop) (m : StateM σ α) (ws : List ω) (v : α) : Prop :=
  ∀ s rest, Ahead s (ws ++ rest) → ∃ s', m s = (v, s') ∧ Ahead s' rest

variable {Ahead : σ → List ω → Prop}

theorem Reads.pure (v : α) : Reads Ahead (pure v) [] v := by
  intro s rest hs
  exact ⟨s, rfl, hs⟩

theorem Reads.bind {a b : List ω} {v : α} {w : β}
    (hm : Reads Ahead m a v) (hf : Reads Ahead (f v) b w) : Reads Ahead (m >>= f) (a ++ b) w := by
  intro s rest hs
  rw [append_assoc] at hs
  obtain ⟨s1, hm, hs1⟩ := hm s _ hs
  obtain ⟨s2, hf, hs2⟩ := hf s1 rest hs1
  refine ⟨s2, ?_, hs2⟩
  rw [run_bind hm, hf]

theorem Reads.last {a : List ω} {v : α} {w : β}
    (hm : Reads Ahead m a v) (hf : Reads Ahead (f v) [] w) : Reads Ahead (m >>= f) a w := by
  have h := hm.bind hf
  rwa [append_nil] at h

end codec
