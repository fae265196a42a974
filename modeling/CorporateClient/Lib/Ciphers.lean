-- Ciphers with a state: a stream cipher that masks the data with a keystream, and a
-- block cipher whose decryptor follows its encryptor.
import Mathlib.Data.List.Basic

namespace ciphers

/-! ## Stream ciphers -/

/-- The data, masked with the keystream from its byte `i` on. -/
def mask (keystream : Nat → UInt8) : Nat → List UInt8 → List UInt8
  | _, [] => []
  | i, b :: bs => (b ^^^ keystream i) :: mask keystream (i + 1) bs

@[simp] theorem length_mask (keystream : Nat → UInt8) (i : Nat) (bs : List UInt8) :
    (mask keystream i bs).length = bs.length := by
  induction bs generalizing i with
  | nil => rfl
  | cons b bs ih => simp [mask, ih]

theorem mask_mask (keystream : Nat → UInt8) (i : Nat) (bs : List UInt8) :
    mask keystream i (mask keystream i bs) = bs := by
  induction bs generalizing i with
  | nil => rfl
  | cons b bs ih =>
    simp only [mask, ih, UInt8.xor_assoc, UInt8.xor_self, UInt8.xor_zero]

/-- The state of a stream cipher: its key, and how many bytes of the keystream are
used up. -/
structure StreamState where
  key : List UInt8
  used : Nat
deriving Repr, DecidableEq

/-- One use of a stream cipher. `keystream` gives the keystream of each key. -/
def crypt (keystream : List UInt8 → Nat → UInt8) (st : StreamState) (data : List UInt8) :
    List UInt8 × StreamState :=
  (mask (keystream st.key) st.used data, { st with used := st.used + data.length })

@[simp] theorem length_crypt (keystream : List UInt8 → Nat → UInt8) (st : StreamState)
    (data : List UInt8) : (crypt keystream st data).1.length = data.length :=
  length_mask _ _ _

theorem crypt_crypt (keystream : List UInt8 → Nat → UInt8) (st : StreamState)
    (data : List UInt8) :
    crypt keystream st (crypt keystream st data).1 = (data, (crypt keystream st data).2) := by
  simp [crypt, mask_mask]

/-! ## Block ciphers -/

/-- A block cipher that keeps a state from one use to the next. `Matches` says that a
decryptor is in step with an encryptor. -/
structure BlockCipher (block : Nat) where
  Enc : Type
  Dec : Type
  encrypt_init : List UInt8 → List UInt8 → Enc
  decrypt_init : List UInt8 → List UInt8 → Dec
  encrypt : Enc → List UInt8 → List UInt8 × Enc
  decrypt : Dec → List UInt8 → List UInt8 × Dec
  Matches : Enc → Dec → Prop
  matches_init : ∀ key iv, Matches (encrypt_init key iv) (decrypt_init key iv)
  length_encrypt : ∀ e data, block ∣ data.length → (encrypt e data).1.length = data.length
  decrypt_encrypt : ∀ e d data, Matches e d → block ∣ data.length →
    (decrypt d (encrypt e data).1).1 = data ∧
    Matches (encrypt e data).2 (decrypt d (encrypt e data).1).2

end ciphers
