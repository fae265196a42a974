-- Items for many keys that come in one line. Each key has a state of its own, and an item only
-- touches the state of its key. So what happens at one key is decided by the items for it,
-- however they are mixed with the others.
import Mathlib.Data.List.Basic
import Mathlib.Logic.Function.Basic

open List

namespace demux

variable {κ α β σ S : Type}

/-! ## The items for one key -/

section

variable [DecidableEq κ]

/-- The items for the key `k`, in order. -/
def onKey (k : κ) (items : List (κ × α)) : List α :=
  items.filterMap fun item => if item.1 = k then some item.2 else none

theorem onKey_cons_self (k : κ) (a : α) (items : List (κ × α)) :
    onKey k ((k, a) :: items) = a :: onKey k items := by
  simp [onKey]

theorem onKey_cons_ne {k k' : κ} (h : k' ≠ k) (a : α) (items : List (κ × α)) :
    onKey k ((k', a) :: items) = onKey k items := by
  simp [onKey, h]

theorem mem_onKey {k : κ} {a : α} {items : List (κ × α)} : a ∈ onKey k items ↔ (k, a) ∈ items := by
  simp only [onKey, mem_filterMap, Option.ite_none_right_eq_some, Option.some.injEq]
  constructor
  · rintro ⟨⟨k', a'⟩, hmem, rfl, rfl⟩
    exact hmem
  · intro hmem
    exact ⟨(k, a), hmem, rfl, rfl⟩

theorem onKey_map (f : α → β) (k : κ) (items : List (κ × α)) :
    onKey k (items.map fun item => (item.1, f item.2)) = (onKey k items).map f := by
  induction items with
  | nil => rfl
  | cons item items ih =>
    obtain ⟨k', a⟩ := item
    rw [map_cons]
    by_cases hk : k' = k
    · subst hk
      rw [onKey_cons_self, onKey_cons_self, map_cons, ih]
    · rw [onKey_cons_ne hk, onKey_cons_ne hk, ih]

end

/-! ## Runs -/

/-- `view s k` is the state of the key `k`. A step with an item for `k` does `one` with it and
keeps the other keys as they are. -/
structure Splits (Inv : S → Prop) (view : S → κ → Option σ) (step : S → κ × α → Option S)
    (one : σ → α → Option σ) : Prop where
  at_key : ∀ {s k a x x'}, Inv s → view s k = some x → one x a = some x' →
    ∃ s', step s (k, a) = some s' ∧ Inv s' ∧ view s' k = some x' ∧
      ∀ k', k' ≠ k → view s' k' = view s k'

theorem Splits.run [DecidableEq κ] {Inv : S → Prop} {view : S → κ → Option σ}
    {step : S → κ × α → Option S} {one : σ → α → Option σ} (h : Splits Inv view step one)
    (items : List (κ × α)) (s : S) (hs : Inv s)
    (hrun : ∀ k, onKey k items ≠ [] →
      ∃ x x', view s k = some x ∧ (onKey k items).foldlM one x = some x') :
    ∃ s', items.foldlM step s = some s' ∧ Inv s' ∧
      ∀ k, view s' k = (view s k).bind fun x => (onKey k items).foldlM one x := by
  induction items generalizing s with
  | nil =>
    refine ⟨s, rfl, hs, fun k => ?_⟩
    cases view s k <;> rfl
  | cons item items ih =>
    obtain ⟨k, a⟩ := item
    obtain ⟨x, x'', hx, hone⟩ := hrun k (by rw [onKey_cons_self]; exact cons_ne_nil _ _)
    rw [onKey_cons_self, foldlM_cons] at hone
    obtain ⟨x', hfirst, hrest⟩ := Option.bind_eq_some_iff.mp hone
    obtain ⟨s', hstep, hs', hkey, hother⟩ := h.at_key hs hx hfirst
    -- The other keys have the states and the items that they had.
    have hrun' : ∀ k', onKey k' items ≠ [] →
        ∃ y y', view s' k' = some y ∧ (onKey k' items).foldlM one y = some y' := by
      intro k' hk'
      by_cases heq : k' = k
      · subst heq
        exact ⟨x', x'', hkey, hrest⟩
      · rw [hother k' heq]
        have hsame : onKey k' ((k, a) :: items) = onKey k' items :=
          onKey_cons_ne (fun h => heq h.symm) a items
        have hbefore := hrun k'
        rw [hsame] at hbefore
        exact hbefore hk'
    obtain ⟨s'', hitems, hs'', hview⟩ := ih s' hs' hrun'
    refine ⟨s'', ?_, hs'', fun k' => ?_⟩
    · rw [foldlM_cons, hstep]
      exact hitems
    · rw [hview k']
      by_cases heq : k' = k
      · subst heq
        rw [hkey, hx, onKey_cons_self]
        show (onKey k' items).foldlM one x' = (a :: onKey k' items).foldlM one x
        rw [foldlM_cons, hfirst]
        rfl
      · rw [hother k' heq, onKey_cons_ne (fun h => heq h.symm)]

theorem foldlM_groups {one : σ → α → Option σ} {group : β → List α} {P : List β → σ → Prop}
    (groups done : List β) (x : σ) (hx : P done x)
    (h : ∀ done x, ∀ b ∈ groups, P done x →
      ∃ x', (group b).foldlM one x = some x' ∧ P (done ++ [b]) x') :
    ∃ x', (groups.flatMap group).foldlM one x = some x' ∧ P (done ++ groups) x' := by
  induction groups generalizing done x with
  | nil => exact ⟨x, rfl, by rwa [append_nil]⟩
  | cons b groups ih =>
    obtain ⟨x1, hgroup, hx1⟩ := h done x b mem_cons_self hx
    obtain ⟨x', hrest, hx'⟩ := ih _ x1 hx1
      fun done x b' hb' => h done x b' (mem_cons_of_mem b hb')
    refine ⟨x', ?_, ?_⟩
    · rw [flatMap_cons, foldlM_append, hgroup]
      exact hrest
    · rwa [append_assoc] at hx'

/-! ## Tables

A table is searched from its start, and the first entry that fits is changed in place. -/

/-- The first entry with `p` is changed by `f`. -/
def changeFirst (p : α → Bool) (f : α → α) : List α → List α
  | [] => []
  | a :: table => if p a then f a :: table else a :: changeFirst p f table

variable {p : α → Bool} {a : α}

theorem find_changeFirst_self {f : α → α} (hf : ∀ a, p a → p (f a)) (table : List α) :
    (changeFirst p f table).find? p = (table.find? p).map f := by
  induction table with
  | nil => rfl
  | cons a table ih =>
    unfold changeFirst
    by_cases ha : p a
    · rw [if_pos ha, find?_cons_of_pos (hf a ha), find?_cons_of_pos ha]
      rfl
    · rw [if_neg ha, find?_cons_of_neg ha, find?_cons_of_neg ha, ih]

theorem find_changeFirst_other {q : α → Bool} {f : α → α} (hf : ∀ a, p a → p (f a))
    (hpq : ∀ a, p a → ¬ q a) (table : List α) :
    (changeFirst p f table).find? q = table.find? q := by
  induction table with
  | nil => rfl
  | cons a table ih =>
    unfold changeFirst
    by_cases ha : p a
    · rw [if_pos ha, find?_cons_of_neg (hpq _ (hf a ha)), find?_cons_of_neg (hpq a ha)]
    · rw [if_neg ha, find?_cons, find?_cons, ih]

theorem changeFirst_same {table : List α} (h : table.find? p = some a) :
    changeFirst p (fun _ => a) table = table := by
  induction table with
  | nil => cases h
  | cons b table ih =>
    unfold changeFirst
    by_cases hb : p b
    · rw [find?_cons_of_pos hb] at h
      cases h
      rw [if_pos hb]
    · rw [find?_cons_of_neg hb] at h
      rw [if_neg hb, ih h]

theorem changeFirst_found {table : List α} (h : table.find? p = some a) (f : α → α) :
    changeFirst p f table = changeFirst p (fun _ => f a) table := by
  induction table with
  | nil => rfl
  | cons b table ih =>
    unfold changeFirst
    by_cases hb : p b
    · rw [find?_cons_of_pos hb] at h
      cases h
      rw [if_pos hb, if_pos hb]
    · rw [find?_cons_of_neg hb] at h
      rw [if_neg hb, if_neg hb, ih h]

theorem changeFirst_changeFirst (ha : p a) (b : α) (table : List α) :
    changeFirst p (fun _ => b) (changeFirst p (fun _ => a) table) =
      changeFirst p (fun _ => b) table := by
  induction table with
  | nil => rfl
  | cons c table ih =>
    by_cases hc : p c
    · simp [changeFirst, hc, ha]
    · simp [changeFirst, hc, ih]

end demux
