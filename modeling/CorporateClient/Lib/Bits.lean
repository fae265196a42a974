-- Strings of bits, high bit first: the number that they hold, bits at the top of a
-- machine word, and bits packed into bytes.
import Mathlib.Data.Nat.Bitwise
import Mathlib.Data.List.Basic
import Mathlib.Tactic.Ring

open List

namespace bits

/-! ## Numbers -/

/-- The number that a string of bits holds. -/
def ofBits : List Bool → Nat
  | [] => 0
  | b :: bs => b.toNat * 2 ^ bs.length + ofBits bs

/-- The `w` low bits of a number. -/
def toBits : Nat → Nat → List Bool
  | 0, _ => []
  | w + 1, n => decide (n / 2 ^ w % 2 = 1) :: toBits w n

variable (w n : Nat) (bs : List Bool)

@[simp] theorem length_toBits : (toBits w n).length = w := by
  induction w with
  | zero => rfl
  | succ w ih => rw [toBits, length_cons, ih]

theorem ofBits_lt : ofBits bs < 2 ^ bs.length := by
  induction bs with
  | nil => simp [ofBits]
  | cons b bs ih =>
    have hb : b.toNat ≤ 1 := Bool.toNat_le b
    have hmul : b.toNat * 2 ^ bs.length ≤ 1 * 2 ^ bs.length := Nat.mul_le_mul_right _ hb
    rw [ofBits, length_cons, Nat.pow_succ]
    omega

theorem ofBits_append (a b : List Bool) : ofBits (a ++ b) = ofBits a * 2 ^ b.length + ofBits b := by
  induction a with
  | nil => simp [ofBits]
  | cons x a ih =>
    rw [cons_append, ofBits, ih, ofBits, length_append, Nat.pow_add]
    ring

theorem ofBits_toBits : ofBits (toBits w n) = n % 2 ^ w := by
  induction w with
  | zero => simp [toBits, ofBits, Nat.mod_one]
  | succ w ih =>
    have hbit : (decide (n / 2 ^ w % 2 = 1)).toNat = n / 2 ^ w % 2 := by
      rcases Nat.mod_two_eq_zero_or_one (n / 2 ^ w) with h | h <;> simp [h]
    rw [toBits, ofBits, ih, length_toBits, hbit, Nat.mod_pow_succ, Nat.mul_comm, Nat.add_comm]

theorem toBits_add_mul (m n : Nat) : toBits w (m * 2 ^ w + n) = toBits w n := by
  induction w generalizing m with
  | zero => rfl
  | succ w ih =>
    have hpow : m * 2 ^ (w + 1) = m * 2 * 2 ^ w := by
      ring
    have hhead : (m * 2 * 2 ^ w + n) / 2 ^ w % 2 = n / 2 ^ w % 2 := by
      rw [Nat.add_comm, Nat.add_mul_div_right _ _ (Nat.two_pow_pos w)]
      omega
    rw [hpow, toBits, hhead, ih, toBits]

theorem toBits_append : toBits (w + bs.length) (n * 2 ^ bs.length + ofBits bs) = toBits w n ++
      toBits bs.length (ofBits bs) := by
  induction w with
  | zero => rw [Nat.zero_add, toBits_add_mul, toBits, nil_append]
  | succ w ih =>
    have hhead : (n * 2 ^ bs.length + ofBits bs) / 2 ^ (w + bs.length) = n / 2 ^ w := by
      rw [Nat.pow_add, Nat.mul_comm (2 ^ w), ← Nat.div_div_eq_div_mul, Nat.add_comm,
        Nat.add_mul_div_right _ _ (Nat.two_pow_pos _), Nat.div_eq_of_lt (ofBits_lt bs),
        Nat.zero_add]
    rw [Nat.succ_add, toBits, hhead, ih, toBits, cons_append]

theorem toBits_ofBits : toBits bs.length (ofBits bs) = bs := by
  induction bs with
  | nil => rfl
  | cons b bs ih =>
    have hone : toBits 1 b.toNat = [b] := by cases b <;> rfl
    rw [length_cons, Nat.add_comm, ofBits, toBits_append, ih, hone, singleton_append]

theorem toBits_add (a b n : Nat) : toBits (a + b) n = toBits a (n / 2 ^ b) ++ toBits b n := by
  have hsplit : n / 2 ^ b * 2 ^ b + n % 2 ^ b = n := Nat.div_add_mod' n (2 ^ b)
  have hmod := toBits_append a (n / 2 ^ b) (toBits b n)
  rwa [length_toBits, ofBits_toBits, hsplit, ← toBits_add_mul b _ _,
    hsplit] at hmod

theorem toBits_mod : toBits w (n % 2 ^ w) = toBits w n := by
  rw [← toBits_add_mul, Nat.div_add_mod']

theorem getElem_toBits (i : Nat) (h : i < (toBits w n).length) :
    (toBits w n)[i] = n.testBit (w - 1 - i) := by
  induction w generalizing i with
  | zero => exact absurd h (by simp [toBits])
  | succ w ih =>
    cases i with
    | zero =>
      simp only [toBits, getElem_cons_zero, Nat.testBit_eq_decide_div_mod_eq]
      rfl
    | succ i =>
      simp only [toBits, getElem_cons_succ]
      rw [ih]
      congr 1
      omega

theorem ofBits_mid (a m z : List Bool) :
    ofBits (a ++ (m ++ z)) / 2 ^ z.length % 2 ^ m.length = ofBits m := by
  have hz := ofBits_lt z
  rw [ofBits_append, ofBits_append, length_append, Nat.pow_add, ← Nat.mul_assoc,
    ← Nat.add_assoc, ← Nat.add_mul, Nat.add_comm _ (ofBits z),
    Nat.add_mul_div_right _ _ (Nat.two_pow_pos _), Nat.div_eq_of_lt hz, Nat.zero_add, Nat.add_comm,
    Nat.add_mul_mod_self_right, Nat.mod_eq_of_lt (ofBits_lt m)]

theorem toBits_overwrite {w s b c v : Nat} (h : s + b ≤ w) :
    toBits w ((c &&& ((2 ^ w - 1) ^^^ ((2 ^ b - 1) <<< s))) ||| ((v &&& (2 ^ b - 1)) <<< s)) =
      (toBits w c).take (w - s - b) ++ (toBits b v ++ (toBits w c).drop (w - s)) := by
  apply ext_getElem
  · simp only [length_toBits, length_append, length_take, length_drop]
    omega
  intro i hi hi'
  rw [length_toBits] at hi
  rw [getElem_toBits, Nat.testBit_or, Nat.testBit_and, Nat.testBit_xor, Nat.testBit_shiftLeft,
    Nat.testBit_shiftLeft, Nat.testBit_and, Nat.testBit_two_pow_sub_one,
    Nat.testBit_two_pow_sub_one]
  have hin : decide (w - 1 - i < w) = true := decide_eq_true (by omega)
  rw [hin]
  by_cases hhigh : i < w - s - b
  · have habove : ¬ (w - 1 - i - s < b) := by omega
    rw [getElem_append_left (by simp; omega), getElem_take, getElem_toBits]
    simp [habove]
  · rw [getElem_append_right (by simp; omega)]
    simp only [length_take, length_toBits, Nat.min_eq_left (by omega : w - s - b ≤ w)]
    by_cases hmid : i - (w - s - b) < b
    · have hfrom : s ≤ w - 1 - i := by omega
      have hto : w - 1 - i - s < b := by omega
      rw [getElem_append_left (by simpa using hmid), getElem_toBits]
      have hindex : b - 1 - (i - (w - s - b)) = w - 1 - i - s := by omega
      simp [hfrom, hto, hindex]
    · have hbelow : ¬ s ≤ w - 1 - i := by omega
      rw [getElem_append_right (by simp; omega), getElem_drop, getElem_toBits]
      have hindex : w - 1 - (w - s + (i - (w - s - b) - b)) = w - 1 - i := by omega
      simp [hbelow, hindex]

/-! ## Bits at the top of a word -/

/-- A word of `w` bits that starts with `x` and goes on with zeros. -/
def aligned (w : Nat) (x : List Bool) : Nat := ofBits x * 2 ^ (w - x.length)

theorem aligned_lt {w : Nat} {x : List Bool} (h : x.length ≤ w) : aligned w x < 2 ^ w := by
  have hpow : 2 ^ w = 2 ^ x.length * 2 ^ (w - x.length) := by
    rw [← Nat.pow_add, Nat.add_sub_cancel' h]
  rw [aligned, hpow]
  exact Nat.mul_lt_mul_of_pos_right (ofBits_lt x) (Nat.two_pow_pos _)

theorem aligned_div {w : Nat} {a b : List Bool} (h : a.length + b.length ≤ w) :
    aligned w (a ++ b) / 2 ^ (w - a.length) = ofBits a := by
  have hpow : 2 ^ (w - a.length) = 2 ^ (w - (a.length + b.length)) * 2 ^ b.length := by
    rw [← Nat.pow_add]
    congr 1
    omega
  rw [aligned, length_append, hpow, ← Nat.div_div_eq_div_mul,
    Nat.mul_div_cancel _ (Nat.two_pow_pos _), ofBits_append, Nat.add_comm,
    Nat.add_mul_div_right _ _ (Nat.two_pow_pos _), Nat.div_eq_of_lt (ofBits_lt b), Nat.zero_add]

theorem aligned_shift {w : Nat} {a b : List Bool} (h : a.length + b.length ≤ w) :
    (aligned w (a ++ b) <<< a.length) % 2 ^ w = aligned w b := by
  have hword : 2 ^ b.length * 2 ^ (w - (a.length + b.length)) * 2 ^ a.length = 2 ^ w := by
    rw [← Nat.pow_add, ← Nat.pow_add]
    congr 1
    omega
  have hrest : 2 ^ (w - (a.length + b.length)) * 2 ^ a.length = 2 ^ (w - b.length) := by
    rw [← Nat.pow_add]
    congr 1
    omega
  have hsplit : aligned w (a ++ b) * 2 ^ a.length = aligned w b + 2 ^ w * ofBits a := by
    rw [aligned, ofBits_append, length_append, aligned, ← hrest, ← hword]
    ring
  rw [Nat.shiftLeft_eq, hsplit, Nat.add_mul_mod_self_left, Nat.mod_eq_of_lt (aligned_lt (by omega))]

theorem aligned_or {w : Nat} {x y : List Bool} (h : x.length + y.length ≤ w) :
    aligned w x ||| (ofBits y <<< (w - x.length - y.length)) = aligned w (x ++ y) := by
  have hpow : 2 ^ (w - x.length) = 2 ^ y.length * 2 ^ (w - x.length - y.length) := by
    rw [← Nat.pow_add]
    congr 1
    omega
  have hlt : ofBits y <<< (w - x.length - y.length) < 2 ^ (w - x.length) := by
    rw [Nat.shiftLeft_eq, hpow]
    exact Nat.mul_lt_mul_of_pos_right (ofBits_lt y) (Nat.two_pow_pos _)
  have hlen : w - (x.length + y.length) = w - x.length - y.length := by omega
  have hleft : aligned w x = ofBits x <<< (w - x.length) := (Nat.shiftLeft_eq _ _).symm
  rw [hleft, ← Nat.shiftLeft_add_eq_or_of_lt hlt, Nat.shiftLeft_eq, Nat.shiftLeft_eq, aligned,
    ofBits_append, length_append, hlen, hpow]
  ring

theorem and_high {n w j : Nat} (hn : n < 2 ^ w) (hj : j ≤ w) :
    n &&& (2 ^ w - 2 ^ j) = n / 2 ^ j * 2 ^ j := by
  have hmask : 2 ^ w - 2 ^ j = (2 ^ (w - j) - 1) <<< j := by
    rw [Nat.shiftLeft_eq, Nat.sub_mul, ← Nat.pow_add, Nat.sub_add_cancel hj, Nat.one_mul]
  apply Nat.eq_of_testBit_eq
  intro i
  rw [hmask, Nat.testBit_and, Nat.testBit_shiftLeft, Nat.testBit_two_pow_sub_one,
    Nat.testBit_mul_two_pow, Nat.testBit_div_two_pow]
  by_cases hi : j ≤ i
  · rw [Nat.sub_add_cancel hi]
    by_cases hw : i - j < w - j
    · simp [hi, hw]
    · have hzero : n.testBit i = false :=
        Nat.testBit_lt_two_pow (Nat.lt_of_lt_of_le hn (Nat.pow_le_pow_right (by omega) (by omega)))
      simp [hzero]
  · simp [hi]

theorem and_high_mod {w j : Nat} (hj : j ≤ w) :
    n &&& (2 ^ w - 2 ^ j) = n % 2 ^ w / 2 ^ j * 2 ^ j := by
  have hmask : 2 ^ w - 2 ^ j < 2 ^ w := Nat.sub_lt (Nat.two_pow_pos _) (Nat.two_pow_pos _)
  calc n &&& (2 ^ w - 2 ^ j)
      = (n &&& (2 ^ w - 2 ^ j)) % 2 ^ w := (Nat.mod_eq_of_lt (Nat.and_lt_two_pow n hmask)).symm
    _ = n % 2 ^ w &&& (2 ^ w - 2 ^ j) := by rw [Nat.and_mod_two_pow, Nat.mod_eq_of_lt hmask]
    _ = n % 2 ^ w / 2 ^ j * 2 ^ j := and_high (Nat.mod_lt n (Nat.two_pow_pos w)) hj

/-! ## Bytes -/

def byteBits (b : UInt8) : List Bool := toBits 8 b.toNat

@[simp] theorem length_byteBits (b : UInt8) : (byteBits b).length = 8 := length_toBits 8 _

theorem ofBits_byteBits (b : UInt8) : ofBits (byteBits b) = b.toNat := by
  rw [byteBits, ofBits_toBits]
  exact Nat.mod_eq_of_lt b.toNat_lt

/-- All bits of a byte string. -/
def unpack (bytes : List UInt8) : List Bool := bytes.flatMap byteBits

@[simp] theorem unpack_nil : unpack [] = [] := rfl

@[simp] theorem unpack_cons (b : UInt8) (bytes : List UInt8) :
    unpack (b :: bytes) = byteBits b ++ unpack bytes := rfl

theorem length_unpack (bytes : List UInt8) : (unpack bytes).length = 8 * bytes.length := by
  induction bytes with
  | nil => rfl
  | cons b bytes ih =>
    rw [unpack_cons, length_append, length_byteBits, ih, length_cons]
    omega

theorem unpack_append (a b : List UInt8) : unpack (a ++ b) = unpack a ++ unpack b := flatMap_append

theorem unpack_take (bytes : List UInt8) : unpack (bytes.take n) = (unpack bytes).take (8 * n) := by
  induction n generalizing bytes with
  | zero => simp
  | succ n ih =>
    cases bytes with
    | nil => simp
    | cons b bytes =>
      have hhead : (byteBits b).take (8 * (n + 1)) = byteBits b :=
        take_of_length_le (by rw [length_byteBits]; omega)
      rw [take_succ_cons, unpack_cons, unpack_cons, ih, take_append, length_byteBits,
        hhead, Nat.mul_succ, Nat.add_sub_cancel]

/-- Bits in bytes. The last byte is filled up with zeros. -/
def pack (bs : List Bool) : List UInt8 :=
  (range ((bs.length + 7) / 8)).map fun i =>
    UInt8.ofNat (ofBits (((bs ++ replicate 7 false).drop (8 * i)).take 8))

theorem byteBits_ofBits (x : List Bool) (h : x.length = 8) :
    byteBits (UInt8.ofNat (ofBits x)) = x := by
  have hlt := ofBits_lt x
  rw [h] at hlt
  have hback := toBits_ofBits x
  rw [h] at hback
  rw [byteBits, UInt8.toNat_ofNat', Nat.mod_eq_of_lt hlt, hback]

theorem unpack_pack : ∃ k, k < 8 ∧ unpack (pack bs) = bs ++ replicate k false := by
  have hchunks : ∀ (l : List Bool) n, 8 * n ≤ l.length →
      ((range n).map fun i => UInt8.ofNat (ofBits ((l.drop (8 * i)).take 8))).flatMap
        byteBits = l.take (8 * n) := by
    intro l n
    induction n with
    | zero => intro _; simp
    | succ n ih =>
      intro hn
      have hlen : ((l.drop (8 * n)).take 8).length = 8 := by simp; omega
      rw [range_succ, map_append, flatMap_append, ih (by omega), Nat.mul_succ, take_add]
      simp [byteBits_ofBits _ hlen]
  refine ⟨8 * ((bs.length + 7) / 8) - bs.length, by omega, ?_⟩
  have hall := hchunks (bs ++ replicate 7 false) ((bs.length + 7) / 8) (by simp; omega)
  rw [unpack, pack, hall, take_append, take_of_length_le (by omega), take_replicate]
  congr 2
  omega

end bits
