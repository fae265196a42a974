-- Byte strings: a write into the middle of a buffer, and the numbers that two
-- and four bytes hold in either byte order.
import Mathlib.Data.List.Basic
import Mathlib.Data.Nat.Bitwise
import Mathlib.Tactic.Ring

open List

namespace bytes

/-- A byte string. -/
abbrev Bytes := List UInt8

/-! ## A write into a buffer -/

section Patch

variable {α : Type*}

/-- The buffer after `seg` was written at index `i`. A write that passes the
end makes the buffer longer. -/
def patch (l : List α) (i : Nat) (seg : List α) : List α :=
  l.take i ++ seg ++ l.drop (i + seg.length)

variable (l seg : List α) (i j : Nat)

@[simp] theorem patch_nil : patch l i [] = l := by
  simp [patch]

theorem length_patch (h : i ≤ l.length) :
    (patch l i seg).length = max l.length (i + seg.length) := by
  simp only [patch, length_append, length_take, length_drop]
  omega

theorem take_patch (h : i ≤ l.length) :
    (patch l i seg).take (i + seg.length) = l.take i ++ seg := by
  unfold patch
  rw [take_left' (by simp [h])]

theorem take_patch_of_le (hj : j ≤ i) (h : i ≤ l.length) : (patch l i seg).take j = l.take j := by
  unfold patch
  rw [append_assoc, take_append_of_le_length (by simp; omega), take_take]
  congr 1
  omega

theorem drop_patch (h : i ≤ l.length) :
    (patch l i seg).drop (i + seg.length) = l.drop (i + seg.length) := by
  unfold patch
  rw [drop_left' (by simp [h])]

theorem take_drop_patch (h : i ≤ l.length) : ((patch l i seg).drop i).take seg.length = seg := by
  unfold patch
  rw [append_assoc, drop_left' (length_take_of_le h), take_left]

theorem take_patch_front (header body : List α) (h : header.length ≤ l.length) :
    (patch (patch l header.length body) 0 header).take (header.length + body.length) =
      header ++ body := by
  have hfront : patch (patch l header.length body) 0 header =
      header ++ (patch l header.length body).drop header.length := by
    simp [patch]
  rw [hfront, take_length_add_append, take_drop_patch l body _ h]

theorem getD_patch_of_ge (d : α) (h : i ≤ l.length)
    (hj : i + seg.length ≤ j) : (patch l i seg).getD j d = l.getD j d := by
  unfold patch
  rw [getD_append_right _ _ _ _ (by simp; omega)]
  simp only [length_append, length_take, Nat.min_eq_left h,
    getD_eq_getElem?_getD, List.getElem?_drop]
  rw [Nat.add_sub_cancel' hj]

theorem getD_patch_of_lt (d : α) (h : i ≤ l.length) (hj : j < i) :
    (patch l i seg).getD j d = l.getD j d := by
  unfold patch
  rw [append_assoc, getD_append _ _ _ _ (by simp; omega)]
  simp [getD_eq_getElem?_getD, List.getElem?_take_of_lt hj]

theorem getD_patch_mem (d : α) (h : i ≤ l.length)
    (hj : j < seg.length) : (patch l i seg).getD (i + j) d = seg.getD j d := by
  unfold patch
  rw [getD_append _ _ _ _ (by simp; omega), getD_append_right _ _ _ _ (by simp)]
  simp [Nat.min_eq_left h]

theorem patch_patch (a b : List α) (i : Nat) (h : i ≤ l.length) :
    patch (patch l i a) (i + a.length) b = patch l i (a ++ b) := by
  have htake := take_patch l a i h
  have hdrop : (patch l i a).drop (i + a.length + b.length)
      = l.drop (i + a.length + b.length) := by
    rw [← drop_drop, drop_patch l a i h, drop_drop]
  rw [show patch (patch l i a) (i + a.length) b =
      (patch l i a).take (i + a.length) ++ b ++ (patch l i a).drop (i + a.length + b.length)
    from rfl, htake, hdrop]
  simp [patch, Nat.add_assoc]

theorem patch_over (a x y b : List α) (i : Nat) (h : i ≤ l.length) (hxy : x.length = y.length) :
    patch (patch l i (a ++ x ++ b)) (i + a.length) y = patch l i (a ++ y ++ b) := by
  have hfirst : patch l i (a ++ x ++ b) =
      (l.take i ++ a) ++ (x ++ (b ++ l.drop (i + (a ++ x ++ b).length))) := by
    simp [patch]
  have hlen : (l.take i ++ a).length = i + a.length := by simp [h]
  rw [hfirst]
  unfold patch
  rw [take_left' hlen, ← drop_drop, drop_left' hlen, drop_left' hxy]
  simp [hxy]

theorem patch_same (n : Nat) (h : i + n ≤ l.length) : patch l i ((l.drop i).take n) = l := by
  have hn : ((l.drop i).take n).length = n := by
    rw [length_take, length_drop]
    omega
  unfold patch
  rw [hn, ← drop_drop, append_assoc, take_append_drop, take_append_drop]

theorem take_patch_append (a b : List α) (i n : Nat) (h : i ≤ l.length)
    (hn : n ≤ i + a.length) : (patch l i (a ++ b)).take n = (patch l i a).take n := by
  rw [← patch_patch l a b i h]
  apply take_patch_of_le _ _ _ _ hn
  rw [length_patch l a i h]
  omega

end Patch

theorem getD_of_take_eq {α : Type*} {l m : List α} {n i : Nat} (h : l.take n = m.take n)
    (hi : i < n) (d : α) : l.getD i d = m.getD i d := by
  have hget : (l.take n)[i]? = (m.take n)[i]? := by rw [h]
  rw [List.getElem?_take_of_lt hi, List.getElem?_take_of_lt hi] at hget
  simp [List.getD, hget]

theorem take_of_append_eq {α : Type*} {a b c d : List α} {n : Nat} (h : a ++ b = c ++ d)
    (ha : n ≤ a.length) (hc : n ≤ c.length) : a.take n = c.take n := by
  have htake := congrArg (List.take n) h
  rwa [take_append_of_le_length ha, take_append_of_le_length hc] at htake

/-! ## Single bytes -/

/-- A statement over all bytes can be decided by trying each of them. -/
instance decidableForallUInt8 {P : UInt8 → Prop} [DecidablePred P] : Decidable (∀ b, P b) :=
  decidable_of_iff (∀ i : Fin 256, P (UInt8.ofFin i))
    ⟨fun h b => h b.toFin, fun h i => h (UInt8.ofFin i)⟩

theorem and_0x80 : ∀ b : UInt8, b &&& 0x80 ≠ 0 ↔ 128 ≤ b.toNat := by decide +kernel

theorem and_0x7F : ∀ b : UInt8, (b &&& 0x7F).toNat = b.toNat % 128 := by decide +kernel

/-! ## Numbers in bytes -/

/-- The number that two bytes hold, low byte first. -/
def ofLe16 (a b : UInt8) : Nat := a.toNat + (b.toNat <<< 8)

/-- The number that two bytes hold, high byte first. -/
def ofBe16 (a b : UInt8) : Nat := (a.toNat <<< 8) + b.toNat

/-- The number that four bytes hold, low byte first. -/
def ofLe32 (a b c d : UInt8) : Nat :=
  a.toNat + (b.toNat <<< 8) + (c.toNat <<< 16) + (d.toNat <<< 24)

/-- The two low bytes of a number, low byte first. -/
def le16 (v : Nat) : List UInt8 := [UInt8.ofNat v, UInt8.ofNat (v >>> 8)]

/-- The two low bytes of a number, high byte first. -/
def be16 (v : Nat) : List UInt8 := [UInt8.ofNat (v >>> 8), UInt8.ofNat v]

/-- The four low bytes of a number, low byte first. -/
def le32 (v : Nat) : List UInt8 :=
  [UInt8.ofNat v, UInt8.ofNat (v >>> 8), UInt8.ofNat (v >>> 16), UInt8.ofNat (v >>> 24)]

@[simp] theorem length_le16 (v : Nat) : (le16 v).length = 2 := rfl

@[simp] theorem length_be16 (v : Nat) : (be16 v).length = 2 := rfl

@[simp] theorem length_le32 (v : Nat) : (le32 v).length = 4 := rfl

theorem ofLe16_lt (a b : UInt8) : ofLe16 a b < 65536 := by
  have ha := a.toNat_lt
  have hb := b.toNat_lt
  simp only [ofLe16, Nat.shiftLeft_eq]
  omega

theorem ofBe16_lt (a b : UInt8) : ofBe16 a b < 65536 := by
  have ha := a.toNat_lt
  have hb := b.toNat_lt
  simp only [ofBe16, Nat.shiftLeft_eq]
  omega

theorem ofLe16_le16 (v : Nat) : ofLe16 (UInt8.ofNat v) (UInt8.ofNat (v >>> 8)) = v % 65536 := by
  simp only [ofLe16, UInt8.toNat_ofNat', Nat.shiftLeft_eq, Nat.shiftRight_eq_div_pow]
  omega

theorem le16_ofLe16 (a b : UInt8) : le16 (ofLe16 a b) = [a, b] := by
  have ha := a.toNat_lt
  have hb := b.toNat_lt
  have hlow : UInt8.ofNat (ofLe16 a b) = a := by
    apply UInt8.toNat_inj.mp
    simp only [ofLe16, UInt8.toNat_ofNat', Nat.shiftLeft_eq]
    omega
  have hhigh : UInt8.ofNat (ofLe16 a b >>> 8) = b := by
    apply UInt8.toNat_inj.mp
    simp only [ofLe16, UInt8.toNat_ofNat', Nat.shiftLeft_eq, Nat.shiftRight_eq_div_pow]
    omega
  rw [le16, hlow, hhigh]

theorem ofBe16_be16 (v : Nat) : ofBe16 (UInt8.ofNat (v >>> 8)) (UInt8.ofNat v) = v % 65536 := by
  simp only [ofBe16, UInt8.toNat_ofNat', Nat.shiftLeft_eq, Nat.shiftRight_eq_div_pow]
  omega

theorem ofLe32_le32 (v : Nat) :
    ofLe32 (UInt8.ofNat v) (UInt8.ofNat (v >>> 8)) (UInt8.ofNat (v >>> 16))
      (UInt8.ofNat (v >>> 24)) = v % 4294967296 := by
  have hdigits : v % 4294967296 = v % 256 + v / 256 % 256 * 256 + v / 65536 % 256 * 65536 +
      v / 16777216 % 256 * 16777216 := by
    omega
  rw [hdigits]
  unfold ofLe32
  rw [Nat.shiftLeft_eq, Nat.shiftLeft_eq, Nat.shiftLeft_eq, UInt8.toNat_ofNat', UInt8.toNat_ofNat',
    UInt8.toNat_ofNat', UInt8.toNat_ofNat', Nat.shiftRight_eq_div_pow, Nat.shiftRight_eq_div_pow,
    Nat.shiftRight_eq_div_pow]

theorem shiftLeft_or_byte (a : Nat) (b : UInt8) : (a <<< 8) ||| b.toNat = a * 256 + b.toNat := by
  rw [← Nat.shiftLeft_add_eq_or_of_lt b.toNat_lt a, Nat.shiftLeft_eq]

/-! ## Numbers of any width -/

/-- The number in a little-endian string. -/
def ofLe : List UInt8 → Nat
  | [] => 0
  | b :: bs => b.toNat + 256 * ofLe bs

/-- The `n` low bytes of a number. -/
def leBytes : Nat → Nat → List UInt8
  | 0, _ => []
  | n + 1, v => UInt8.ofNat v :: leBytes n (v / 256)

@[simp] theorem length_leBytes (n v : Nat) : (leBytes n v).length = n := by
  induction n generalizing v with
  | zero => rfl
  | succ n ih => rw [leBytes, length_cons, ih]

theorem ofLe_lt (bs : Bytes) : ofLe bs < 256 ^ bs.length := by
  induction bs with
  | nil => exact Nat.one_pos
  | cons b bs ih =>
    have hb := b.toNat_lt
    rw [ofLe, length_cons, Nat.pow_succ]
    omega

theorem ofLe_leBytes {n v : Nat} (h : v < 256 ^ n) : ofLe (leBytes n v) = v := by
  induction n generalizing v with
  | zero =>
    rw [Nat.pow_zero] at h
    exact (Nat.lt_one_iff.mp h).symm
  | succ n ih =>
    rw [Nat.pow_succ] at h
    rw [leBytes, ofLe, ih (by omega), UInt8.toNat_ofNat']
    omega

theorem leBytes_ofLe (bs : Bytes) : leBytes bs.length (ofLe bs) = bs := by
  induction bs with
  | nil => rfl
  | cons b bs ih =>
    have hb := b.toNat_lt
    have hhead : UInt8.ofNat (b.toNat + 256 * ofLe bs) = b := by
      apply UInt8.toNat_inj.mp
      rw [UInt8.toNat_ofNat']
      omega
    have htail : (b.toNat + 256 * ofLe bs) / 256 = ofLe bs := by omega
    rw [length_cons, ofLe, leBytes, hhead, htail, ih]

end bytes
