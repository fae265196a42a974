-- LZ77 over a circular window. The output is written into the window at a position,
-- and a copy takes its bytes from the window as it is by then, so a copy may overlap
-- its own output.
import CorporateClient.Lib.Bytes

open bytes

namespace lz77

inductive Token (α : Type)
  | literal (a : α)
  | copy (offset length : Nat)
deriving Repr, DecidableEq

section

variable {α : Type} [Inhabited α]

/-- The number of items that a token stands for. -/
def Token.size : Token α → Nat
  | .literal _ => 1
  | .copy _ length => length

/-- The item `offset` places before the write position, around the window. `out` is
what was written from `p` on. -/
def behind (window : List α) (p offset : Nat) (out : List α) : α :=
  (patch window p out).getD ((p + out.length + window.length - offset) % window.length) default

/-- `length` items, one after the other. -/
def copied (window : List α) (p offset : Nat) : Nat → List α → List α
  | 0, out => out
  | length + 1, out => copied window p offset length (out ++ [behind window p offset out])

/-- The output of a token behind the output so far. -/
def expandToken (window : List α) (p : Nat) (out : List α) : Token α → List α
  | .literal a => out ++ [a]
  | .copy offset length => copied window p offset length out

/-- The output of a list of tokens, written from `p` on. -/
def expand (window : List α) (p : Nat) (tokens : List (Token α)) : List α :=
  tokens.foldl (expandToken window p) []

theorem length_copied (window : List α) (p offset length : Nat) (out : List α) :
    (copied window p offset length out).length = out.length + length := by
  induction length generalizing out with
  | zero => rfl
  | succ length ih =>
    rw [copied, ih, List.length_append, List.length_singleton]
    omega

theorem length_expandToken (window : List α) (p : Nat) (out : List α) (t : Token α) :
    (expandToken window p out t).length = out.length + t.size := by
  cases t with
  | literal a => rw [expandToken, List.length_append]; rfl
  | copy offset length => exact length_copied window p offset length out

end

end lz77
