-- Messages that send only the changed fields of a record. A set of flags says which fields
-- a message has. The other fields keep the values that the receiver has held.
import Mathlib.Data.List.Basic

namespace fields

section

variable {σ R α : Type}

/-- A field of a record of type `R`, sent through a stream of type `σ`. `keeps old new`
says that its value is the same in both records. `carries old new s s'` says that the
message at `s` has the value of `new` for it, and goes on at `s'`. -/
structure Field (σ R : Type) where
  flag : Nat
  keeps : R → R → Prop
  carries : R → R → σ → σ → Prop

/-- A field with one value. The value on the stream may depend on the old one. -/
def Field.value (flag : Nat) (get : R → α) (carried : α → σ → α × σ) : Field σ R where
  flag := flag
  keeps old new := get new = get old
  carries old new s s' := carried (get old) s = (get new, s')

/-- What one field of a message does. -/
def Field.Step (f : Field σ R) (present : Nat → Bool) (old new : R) (s s' : σ) : Prop :=
  if present f.flag then f.carries old new s s' else f.keeps old new ∧ s' = s

/-- The message at `s` takes the record from `old` to `new` and ends at `s'`: every field
that is present has the value of the message, and every other one is kept. -/
def Decodes (present : Nat → Bool) (old new : R) : List (Field σ R) → σ → σ → Prop
  | [], s, s' => s' = s
  | f :: fs, s, s' => ∃ s₁, f.Step present old new s s₁ ∧ Decodes present old new fs s₁ s'

variable {present : Nat → Bool} {old new : R}

variable {s s' t t' : σ} {f : Field σ R} {fs gs : List (Field σ R)} {new' : R}

theorem Field.Step.kept (h : f.Step present old new s s') (hflag : present f.flag = false) :
    f.keeps old new ∧ s' = s := by
  unfold Field.Step at h
  rwa [if_neg (by rw [hflag]; exact Bool.false_ne_true)] at h

theorem Field.Step.carried (h : f.Step present old new s s') (hflag : present f.flag = true) :
    f.carries old new s s' := by
  unfold Field.Step at h
  rwa [if_pos hflag] at h

theorem Field.Step.of_carried (hflag : present f.flag = true) (h : f.carries old new s s') :
    f.Step present old new s s' := by
  unfold Field.Step
  rwa [if_pos hflag]

theorem Field.Step.of_kept (hflag : ¬ present f.flag = true) (h : f.keeps old new) :
    f.Step present old new s s := by
  unfold Field.Step
  rw [if_neg hflag]
  exact ⟨h, rfl⟩

theorem Decodes.nil : Decodes present old new [] s s := rfl

theorem Decodes.cons {s1 : σ} (hstep : f.Step present old new s s1)
    (hrest : Decodes present old new fs s1 s') :
    Decodes present old new (f :: fs) s s' :=
  ⟨s1, hstep, hrest⟩

theorem decodes_append :
    Decodes present old new (fs ++ gs) s s' ↔
      ∃ s1, Decodes present old new fs s s1 ∧ Decodes present old new gs s1 s' := by
  induction fs generalizing s with
  | nil =>
    constructor
    · intro h
      exact ⟨s, rfl, h⟩
    · rintro ⟨s1, rfl, h⟩
      exact h
  | cons f fs ih =>
    constructor
    · rintro ⟨s1, hstep, hrest⟩
      obtain ⟨s2, hfs, hgs⟩ := ih.mp hrest
      exact ⟨s2, ⟨s1, hstep, hfs⟩, hgs⟩
    · rintro ⟨s2, ⟨s1, hstep, hfs⟩, hgs⟩
      exact ⟨s1, hstep, ih.mpr ⟨s2, hfs, hgs⟩⟩

theorem Decodes.append {s1 : σ} (hfs : Decodes present old new fs s s1)
    (hgs : Decodes present old new gs s1 s') :
    Decodes present old new (fs ++ gs) s s' :=
  decodes_append.mpr ⟨s1, hfs, hgs⟩

/-! ## One message has one meaning -/

/-- The old record and the message leave only one value for the field. -/
structure Field.Functional (f : Field σ R) : Prop where
  keeps : ∀ old new new', f.keeps old new → f.keeps old new' → f.keeps new new'
  carries : ∀ old new new' s t t', f.carries old new s t → f.carries old new' s t' →
    f.keeps new new' ∧ t' = t

theorem Field.value_functional (flag : Nat) (get : R → α) (carried : α → σ → α × σ) :
    (Field.value flag get carried).Functional where
  keeps := by
    intro old new new' h h'
    exact Eq.trans h' (Eq.symm h)
  carries := by
    intro old new new' s t t' h h'
    have heq : (get new', t') = (get new, t) := Eq.trans (Eq.symm h') h
    exact ⟨congrArg Prod.fst heq, congrArg Prod.snd heq⟩

theorem Field.Functional.step (hf : f.Functional) (h : f.Step present old new s t)
    (h' : f.Step present old new' s t') :
    f.keeps new new' ∧ t' = t := by
  by_cases hflag : present f.flag = true
  · exact hf.carries old new new' s t t' (h.carried hflag) (h'.carried hflag)
  · have hfalse := Bool.eq_false_iff.mpr hflag
    obtain ⟨hkeep, rfl⟩ := h.kept hfalse
    obtain ⟨hkeep', rfl⟩ := h'.kept hfalse
    exact ⟨hf.keeps old new new' hkeep hkeep', rfl⟩

end

end fields
