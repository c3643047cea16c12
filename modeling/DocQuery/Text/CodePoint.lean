/-
This file defines code points, of which texts are made.

A code point is a character as a rule. Text that is written in halves, two for a character beyond
the first plane, can also hold a half without its partner, which is no character. A half can be
told apart from every other code point, put in order and written with an escape, but it cannot be
shown.
-/

namespace DocQuery

/-- A code point: a character, or the half of a pair without its other half. There are 2048 halves,
and their codes follow each other. -/
inductive CodePoint
  | char (c : Char)
  | half (offset : Fin 2048)
  deriving DecidableEq, Repr

namespace CodePoint

instance : Coe Char CodePoint := ⟨.char⟩

def firstHalf : Nat := 0xd800

def code : CodePoint → Nat
  | .char c => c.toNat
  | .half offset => firstHalf + offset.val

/-- The code point of a code unit that has no partner. -/
def ofUnit (unit : Nat) : CodePoint :=
  if firstHalf ≤ unit ∧ unit < firstHalf + 2048 then .half (Fin.ofNat 2048 (unit - firstHalf))
  else .char (Char.ofNat unit)

/-- The character that is shown for a code point; a half is shown as the replacement character. -/
def shown : CodePoint → Char
  | .char c => c
  | .half _ => Char.ofNat 0xfffd

/-- Code points are in the order of their codes. -/
instance : LT CodePoint := ⟨fun point other => point.code < other.code⟩

instance : DecidableLT CodePoint := fun point other =>
  inferInstanceAs (Decidable (point.code < other.code))

/-- Code points with one code are the same. -/
theorem code_inj {point other : CodePoint} (same : point.code = other.code) : point = other := by
  cases point with
  | char c =>
    cases other with
    | char d => rw [Char.toNat_inj.mp same]
    | half offset =>
      have valid : c.val.toNat.isValidChar := c.valid
      have code : c.val.toNat = firstHalf + offset.val := same
      have small := offset.isLt
      rw [Nat.isValidChar, firstHalf] at *
      omega
  | half offset =>
    cases other with
    | char d =>
      have valid : d.val.toNat.isValidChar := d.valid
      have code : firstHalf + offset.val = d.val.toNat := same
      have small := offset.isLt
      rw [Nat.isValidChar, firstHalf] at *
      omega
    | half other => rw [Fin.ext (Nat.add_left_cancel same)]

end CodePoint

end DocQuery
