-- The conversion between the strings of the program and the strings on the wire (unicode.c,
-- built without iconv as the build files do). The program has UTF-8, the wire has UTF-16 with
-- the low byte first.
import CorporateClient.Lib.Bytes
import Mathlib.Tactic.Common

open List bytes

namespace neutrinordp.unicode

/-- A cast to `char`. -/
def char (wc : UInt32) : UInt8 := wc.toUInt8

/-- A character as `freerdp_uniconv_in` writes it. -/
def utf8 (wc : UInt32) : List UInt8 :=
  let tail : UInt32 → UInt8 := fun bits => char (0x80 + (bits &&& 0x3F))
  if wc ≤ 0x7F then [char wc]
  else if wc ≤ 0x07FF then [char ((0xC0 : UInt32) + (wc >>> 6)), tail wc]
  else if wc ≤ 0xFFFF then [char ((0xE0 : UInt32) + (wc >>> 12)), tail (wc >>> 6), tail wc]
  else [char ((0xF0 : UInt32) + (wc >>> 18)), tail (wc >>> 12), tail (wc >>> 6), tail wc]

/-- A character as `freerdp_uniconv_out` writes it. -/
def utf16 (wc : UInt32) : List UInt8 :=
  if wc ≤ 0xFFFF then [char (wc &&& 0xFF), char (wc >>> 8)]
  else
    let wc := wc - 0x10000
    [char ((wc >>> 10) &&& (0xFF : UInt32)), char ((wc >>> 18) + (0xD8 : UInt32)),
      char (wc &&& 0xFF), char (((wc >>> 8) &&& (0x03 : UInt32)) + (0xDC : UInt32))]

/-- The loop of `freerdp_uniconv_in`. A single byte at the end is left out. -/
def uniconv_in : List UInt8 → List UInt8
  | a :: b :: rest =>
    let wc := a.toUInt32 + (b.toUInt32 <<< 8)
    if wc ≥ 0xD800 ∧ wc ≤ 0xDFFF then
      match rest with
      | c :: d :: rest =>
        utf8 (((wc - 0xD800) <<< 10) + (0x10000 : UInt32) + c.toUInt32 +
            ((d.toUInt32 - 0xDC) <<< 8)) ++
          uniconv_in rest
      | rest => utf8 wc ++ uniconv_in rest
    else utf8 wc ++ uniconv_in rest
  | _ => []

/-- `none`: `xmalloc` has no memory for the text, and the code writes to a null pointer. The texts
in fields with lengths of 16 bits stay below this limit. -/
def freerdp_uniconv_in (pin : List UInt8) : Option (List UInt8) :=
  if pin.length * 2 + 1 > 16 * 1024 * 1024 then none else some (uniconv_in pin)

/-- The loop of `freerdp_uniconv_out`. `none` is a character that the end of the string cuts:
the program reads behind the string then. -/
def uniconv_out : List UInt8 → Option (List UInt8)
  | [] => some []
  | b :: rest =>
    let wc := b.toUInt32
    if wc ≥ 0xF0 then
      match rest with
      | c :: d :: e :: rest => (uniconv_out rest).map
          (utf16 (((wc - 0xF0) <<< 18) + ((c.toUInt32 - 0x80) <<< 12) +
            ((d.toUInt32 - 0x80) <<< 6) + (e.toUInt32 - 0x80)) ++ ·)
      | _ => none
    else if wc ≥ 0xE0 then
      match rest with
      | c :: d :: rest => (uniconv_out rest).map
          (utf16 (((wc - 0xE0) <<< 12) + ((c.toUInt32 - 0x80) <<< 6) + (d.toUInt32 - 0x80)) ++ ·)
      | _ => none
    else if wc ≥ 0xC0 then
      match rest with
      | c :: rest =>
        (uniconv_out rest).map (utf16 (((wc - 0xC0) <<< 6) + (c.toUInt32 - 0x80)) ++ ·)
      | _ => none
    else (uniconv_out rest).map (utf16 wc ++ ·)

/-- There is nothing to convert without a string. -/
def freerdp_uniconv_out : Option (List UInt8) → Option (List UInt8)
  | none => some []
  | some str => if 2 * str.length + 2 > 16 * 1024 * 1024 then none else uniconv_out str

/-- A buffer as a string of the program: it ends at the first zero. -/
def cstr (buffer : List UInt8) : List UInt8 := buffer.takeWhile (· ≠ 0)

/-! ## Characters -/

variable {str : Bytes} {wc : UInt32}

theorem unit_toNat (a b : UInt8) :
    (a.toUInt32 + (b.toUInt32 <<< 8)).toNat = a.toNat + 256 * b.toNat := by
  have ha := a.toNat_lt
  have hb := b.toNat_lt
  simp [Nat.shiftLeft_eq]
  omega

theorem pair_toNat (hlow : 0xD800 ≤ wc.toNat) (hhigh : wc.toNat ≤ 0xDFFF) (c d : UInt8) :
    (((wc - 0xD800) <<< 10) + (0x10000 : UInt32) + c.toUInt32 + ((d.toUInt32 - 0xDC) <<< 8)).toNat =
      (wc.toNat - 0xD800) * 1024 + 0x10000 + c.toNat + d.toNat * 256 - 0xDC00 := by
  have hc := c.toNat_lt
  have hd := d.toNat_lt
  simp [UInt32.toNat_sub, Nat.shiftLeft_eq]
  omega

/-- A character in UTF-16, the low byte first. -/
def utf16le (c : Char) : List UInt8 :=
  let v := c.val.toNat
  if v ≤ 0xFFFF then le16 v
  else le16 (0xD800 + (v - 0x10000) / 1024) ++ le16 (0xDC00 + v % 1024)

theorem char_eq {n : Nat} (h : wc.toNat % 256 = n % 256) : char wc = UInt8.ofNat n :=
  UInt8.toNat_inj.mp (by rw [UInt8.toNat_ofNat']; exact h)

theorem scalar (c : Char) :
    c.val.toNat < 0xD800 ∨ 0xDFFF < c.val.toNat ∧ c.val.toNat < 0x110000 := c.valid

theorem masked (n : Nat) : n &&& 63 = n % 64 ∧ n &&& 255 = n % 256 ∧ n &&& 3 = n % 4 :=
  ⟨Nat.and_two_pow_sub_one_eq_mod n 6, Nat.and_two_pow_sub_one_eq_mod n 8,
    Nat.and_two_pow_sub_one_eq_mod n 2⟩

theorem utf8_val (c : Char) : utf8 c.val = String.utf8EncodeChar c := by
  have hc := scalar c
  obtain ⟨wc, hwc⟩ := c
  unfold String.utf8EncodeChar
  dsimp only at hc ⊢
  show (if wc.toNat ≤ 127 then _ else if wc.toNat ≤ 2047 then _ else
    if wc.toNat ≤ 65535 then _ else _) = _
  split_ifs
  · rw [char_eq rfl]
  all_goals
    simp only [cons.injEq, and_true]
    repeat' apply And.intro
  all_goals
    apply char_eq
    simp [masked, Nat.shiftRight_eq_div_pow]
    omega

theorem utf16_val (c : Char) : utf16 c.val = utf16le c := by
  have hc := scalar c
  obtain ⟨wc, hwc⟩ := c
  unfold utf16le
  dsimp only at hc ⊢
  show (if wc.toNat ≤ 65535 then _ else _) = _
  split_ifs
  · rw [char_eq (n := wc.toNat) (by simp [masked]), char_eq (n := wc.toNat >>> 8) (by simp)]
    rfl
  · have hsub : (wc - 0x10000).toNat = wc.toNat - 0x10000 :=
      UInt32.toNat_sub_of_le _ _ (UInt32.le_iff_toNat_le.mpr (by show 65536 ≤ wc.toNat; omega))
    simp only [le16, cons_append, nil_append, cons.injEq, and_true]
    repeat' apply And.intro
    all_goals
      apply char_eq
      simp [masked, Nat.shiftRight_eq_div_pow, hsub]
      omega

theorem uniconv_out_char (c : Char) (rest : Bytes) :
    uniconv_out (String.utf8EncodeChar c ++ rest) = (uniconv_out rest).map (utf16le c ++ ·) := by
  rw [← utf16_val]
  have hc := scalar c
  obtain ⟨wc, hwc⟩ := c
  unfold String.utf8EncodeChar
  dsimp only at hc ⊢
  split_ifs
  -- One goal for each length: the first byte chooses the branch, and the bits come together.
  all_goals
    rw [cons_append]
    conv => lhs; unfold uniconv_out
    simp only [cons_append, nil_append, ge_iff_le, UInt32.le_iff_toNat_le, UInt8.toNat_toUInt32,
      UInt8.toNat_ofNat', UInt32.reduceToNat]
    simp (disch := omega) only [if_neg, if_pos]
    refine congrArg (fun v => (uniconv_out rest).map (utf16 v ++ ·)) (UInt32.toNat_inj.mp ?_)
    simp [UInt32.toNat_sub, Nat.shiftLeft_eq]
    omega

theorem uniconv_in_char (c : Char) (rest : Bytes) :
    uniconv_in (utf16le c ++ rest) =
      String.utf8EncodeChar c ++ uniconv_in rest := by
  rw [← utf8_val]
  have hc := scalar c
  obtain ⟨wc, hwc⟩ := c
  unfold utf16le
  dsimp only at hc ⊢
  split_ifs
  all_goals
    simp only [le16, cons_append, nil_append]
    conv => lhs; unfold uniconv_in
    simp only [ge_iff_le, UInt32.le_iff_toNat_le, unit_toNat, UInt8.toNat_ofNat',
      UInt32.reduceToNat, Nat.shiftRight_eq_div_pow]
    simp (disch := omega) only [if_neg, if_pos]
    refine congrArg (utf8 · ++ uniconv_in rest) (UInt32.toNat_inj.mp ?_)
    simp [UInt32.toNat_sub, Nat.shiftLeft_eq]
    omega

/-! ## ASCII -/

/-- An ASCII string without a zero. -/
def Ascii (str : List UInt8) : Prop := ∀ b ∈ str, b ≠ 0 ∧ b < 128

instance (str : List UInt8) : Decidable (Ascii str) :=
  inferInstanceAs (Decidable (∀ b ∈ str, b ≠ 0 ∧ b < 128))

/-- An ASCII string on the wire. -/
def widen (str : List UInt8) : List UInt8 := str.flatMap fun b => [b, 0]

@[simp] theorem length_widen (str : Bytes) : (widen str).length = 2 * str.length := by
  induction str with
  | nil => rfl
  | cons b str ih =>
    have hcons : (widen (b :: str)).length = (widen str).length + 2 := rfl
    rw [hcons, ih, length_cons]
    omega

theorem widen_take (str : Bytes) (n : Nat) :
    (widen str).take (2 * n) = widen (str.take n) := by
  induction str generalizing n with
  | nil => simp [widen]
  | cons b str ih =>
    cases n with
    | zero => rfl
    | succ n =>
      have htwo : 2 * (n + 1) = 2 * n + 1 + 1 := by omega
      show (b :: 0 :: widen str).take (2 * (n + 1)) = b :: 0 :: widen (str.take n)
      rw [htwo, take_succ_cons, take_succ_cons, ih]

theorem ascii_take (h : Ascii str) (n : Nat) : Ascii (str.take n) :=
  fun b hb => h b (mem_of_mem_take hb)

theorem ascii_char : ∀ b : UInt8, b < 128 →
    String.utf8EncodeChar (Char.ofNat b.toNat) = [b] ∧ utf16le (Char.ofNat b.toNat) = [b, 0] := by
  decide +kernel

theorem uniconv_out_ascii (h : Ascii str) : uniconv_out str = some (widen str) := by
  induction str with
  | nil => rfl
  | cons b str ih =>
    obtain ⟨hb, hstr⟩ := forall_mem_cons.mp h
    have hchar := uniconv_out_char (Char.ofNat b.toNat) str
    rw [(ascii_char b hb.2).1, (ascii_char b hb.2).2, ih hstr] at hchar
    exact hchar

theorem freerdp_uniconv_out_ascii {str : Option Bytes} (h : Ascii (str.getD []))
    (hshort : 2 * (str.getD []).length < 65536) :
    freerdp_uniconv_out str = some (widen (str.getD [])) := by
  cases str with
  | none => rfl
  | some str => exact (if_neg (by dsimp at hshort; omega)).trans (uniconv_out_ascii h)

theorem uniconv_in_ascii {b : UInt8} (h : b < 128) (rest : Bytes) :
    uniconv_in (b :: 0 :: rest) = b :: uniconv_in rest := by
  have hchar := uniconv_in_char (Char.ofNat b.toNat) rest
  rw [(ascii_char b h).1, (ascii_char b h).2] at hchar
  exact hchar

theorem uniconv_in_widen (h : Ascii str) (rest : Bytes) :
    uniconv_in (widen str ++ rest) = str ++ uniconv_in rest := by
  induction str with
  | nil => rfl
  | cons b str ih =>
    have hb := (h b mem_cons_self).2
    have hwiden : widen (b :: str) ++ rest = b :: 0 :: (widen str ++ rest) := rfl
    rw [hwiden, uniconv_in_ascii hb, ih (forall_mem_cons.mp h).2]
    rfl

theorem cstr_ascii (h : Ascii str) (rest : Bytes) : cstr (str ++ rest) = str ++ cstr rest := by
  unfold cstr
  rw [takeWhile_append_of_pos fun b hb => by simpa using (h b hb).1]

theorem cstr_zero (rest : Bytes) : cstr (0 :: rest) = [] := rfl

theorem cstr_in_widen_zero (h : Ascii str) (rest : Bytes) :
    cstr (uniconv_in (widen str ++ 0 :: 0 :: rest)) = str := by
  rw [uniconv_in_widen h, uniconv_in_ascii (by decide), cstr_ascii h, cstr_zero, append_nil]

theorem cstr_in_widen (h : Ascii str) : cstr (uniconv_in (widen str)) = str := by
  have hread := uniconv_in_widen h []
  have hnil : uniconv_in [] = [] := rfl
  rw [append_nil, hnil] at hread
  rw [hread, cstr_ascii h]
  exact append_nil str

/-! ## Other characters -/

theorem head_utf8 (h : 0x7F < wc.toNat) (hmax : wc.toNat < 0x400000) (rest : Bytes) :
    ∃ b text, utf8 wc ++ rest = b :: text ∧ 128 ≤ b := by
  unfold utf8
  simp only [UInt32.le_iff_toNat_le, UInt32.reduceToNat]
  rw [if_neg (by omega)]
  split_ifs
  all_goals
    refine ⟨_, _, rfl, ?_⟩
    rw [UInt8.le_iff_toNat_le]
    simp [char, Nat.shiftRight_eq_div_pow]
    omega

theorem uniconv_in_other {a b : UInt8} (h : ¬ (a < 128 ∧ b = 0)) (rest : Bytes) :
    ∃ c text, uniconv_in (a :: b :: rest) = c :: text ∧ 128 ≤ c := by
  have hunit := unit_toNat a b
  have ha := a.toNat_lt
  have hb := b.toNat_lt
  have hbig : 0x7F < (a.toUInt32 + (b.toUInt32 <<< 8)).toNat := by
    rw [UInt8.lt_iff_toNat_lt, ← UInt8.toNat_inj] at h
    simp only [UInt8.reduceToNat] at h
    omega
  have hone := head_utf8 hbig (by rw [hunit]; omega)
  unfold uniconv_in
  dsimp only
  split
  · rename_i hpair
    split
    · rename_i c d rest'
      have hwide := pair_toNat hpair.1 hpair.2 c d
      have hc := c.toNat_lt
      have hd := d.toNat_lt
      have hhigh : (a.toUInt32 + (b.toUInt32 <<< 8)).toNat ≤ 0xDFFF := hpair.2
      exact head_utf8 (by rw [hwide]; omega) (by rw [hwide]; omega) _
    · exact hone _
  · exact hone _

theorem length_of_ascii (h : Ascii str) {bs : Bytes}
    (hread : cstr (uniconv_in bs) = str) : 2 * str.length ≤ bs.length := by
  induction str generalizing bs with
  | nil => exact Nat.zero_le _
  | cons e str ih =>
    match bs with
    | [] => exact absurd hread (by simp [uniconv_in, cstr])
    | [_] => exact absurd hread (by simp [uniconv_in, cstr])
    | a :: b :: rest =>
      have he := h e mem_cons_self
      by_cases hunit : a < 128 ∧ b = 0
      · obtain ⟨hascii, rfl⟩ := hunit
        rw [uniconv_in_ascii hascii, cstr, takeWhile_cons] at hread
        split at hread
        · rw [List.cons.injEq] at hread
          have hrest := ih (forall_mem_cons.mp h).2 hread.2
          simp only [length_cons]
          omega
        · exact absurd hread (cons_ne_nil e str).symm
      · obtain ⟨c, text, htext, hc⟩ := uniconv_in_other hunit rest
        rw [htext, cstr, takeWhile_cons] at hread
        split at hread
        · rw [List.cons.injEq] at hread
          rw [hread.1] at hc
          exact absurd he.2 (UInt8.not_lt.mpr hc)
        · exact absurd hread (cons_ne_nil e str).symm

/-! ## Texts -/

def utf8Bytes (text : List Char) : List UInt8 := text.flatMap String.utf8EncodeChar

def utf16Bytes (text : List Char) : List UInt8 := text.flatMap utf16le

theorem length_char (c : Char) : (utf16le c).length ≤ 2 * (String.utf8EncodeChar c).length ∧
    (String.utf8EncodeChar c).length ≤ 2 * (utf16le c).length := by
  unfold utf16le String.utf8EncodeChar le16
  dsimp only
  split_ifs
  all_goals
    simp only [length_append, length_cons, length_nil]
    omega

theorem length_text (text : List Char) :
    (utf16Bytes text).length ≤ 2 * (utf8Bytes text).length ∧
      (utf8Bytes text).length ≤ 2 * (utf16Bytes text).length := by
  induction text with
  | nil => exact ⟨Nat.le_refl _, Nat.le_refl _⟩
  | cons c text ih =>
    have hc := length_char c
    simp only [utf16Bytes, utf8Bytes, flatMap_cons, length_append] at ih ⊢
    omega

theorem uniconv_out_long (h : 16 * 1024 * 1024 < 2 * str.length + 2) :
    freerdp_uniconv_out (some str) = none := if_pos h

theorem uniconv_out_text (text : List Char) :
    uniconv_out (utf8Bytes text) = some (utf16Bytes text) := by
  induction text with
  | nil => rfl
  | cons c text ih =>
    have hc := uniconv_out_char c (utf8Bytes text)
    rw [ih] at hc
    exact hc

theorem uniconv_in_text (text : List Char) : uniconv_in (utf16Bytes text) = utf8Bytes text := by
  induction text with
  | nil => rfl
  | cons c text ih =>
    have hc := uniconv_in_char c (utf16Bytes text)
    rw [ih] at hc
    exact hc

/-- A text comes back as it was. While characters are left, the first buffer has room for two
bytes for each byte of them, and the second one has room for the text and its zero. -/
structure RoundTrip (text : List Char) : Prop where
  out : freerdp_uniconv_out (some (utf8Bytes text)) = some (utf16Bytes text)
  back : freerdp_uniconv_in (utf16Bytes text) = some (utf8Bytes text)
  out_buffer : ∀ n, (utf16Bytes (text.take n)).length + 2 * (utf8Bytes (text.drop n)).length ≤
    2 * (utf8Bytes text).length
  in_buffer : (utf8Bytes text).length + 1 ≤ (utf16Bytes text).length * 2 + 1

/-- A text makes the round trip exactly if `xmalloc` has memory for both buffers. -/
theorem unicode_round_trip_iff (text : List Char) :
    RoundTrip text ↔ 2 * (utf8Bytes text).length + 2 ≤ 16 * 1024 * 1024 ∧
      (utf16Bytes text).length * 2 + 1 ≤ 16 * 1024 * 1024 := by
  constructor
  · intro h
    constructor
    · by_contra hlong
      exact Option.some_ne_none _ (h.out.symm.trans (uniconv_out_long (Nat.not_le.mp hlong)))
    · by_contra hlong
      exact Option.some_ne_none _ (h.back.symm.trans (if_pos (Nat.not_le.mp hlong)))
  · rintro ⟨hout, hback⟩
    refine ⟨?_, ?_, ?_, ?_⟩
    · exact (if_neg (Nat.not_lt.mpr hout)).trans (uniconv_out_text text)
    · exact (if_neg (Nat.not_lt.mpr hback)).trans (congrArg some (uniconv_in_text text))
    · intro n
      have hdone := (length_text (text.take n)).1
      conv => rhs; rw [← take_append_drop n text]
      simp only [utf8Bytes, flatMap_append, length_append] at hdone ⊢
      omega
    · have htext := (length_text text).2
      omega

/-- There is no buffer for the UTF-16 of 8388608 ASCII characters. -/
theorem long_text_has_no_buffer : ¬ RoundTrip (replicate 8388608 'a') := by
  intro h
  have hlength : ∀ n, (utf8Bytes (replicate n 'a')).length = n := by
    intro n
    induction n with
    | zero => rfl
    | succ n ih => exact congrArg (· + 1) ih
  refine Option.some_ne_none _ (h.out.symm.trans (uniconv_out_long ?_))
  rw [hlength]
  decide

end neutrinordp.unicode
