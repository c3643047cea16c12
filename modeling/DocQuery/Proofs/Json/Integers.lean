/-
This file proves that an integer of JSON text is read as the integer it was written for.

The reader takes digits as long as there are any and looks for a fraction and an exponent behind
them. So an integer is read as itself if what follows does not carry the numeral on. Its first
digit is a zero only if that is all of it, which is what the reader asks for. More digits than the
reader takes are a fault of their own.
-/

import DocQuery.Json.Printer
import DocQuery.Json.Reader
import DocQuery.Proofs.Json.Strings
import Mathlib.Data.List.Basic

namespace DocQuery

namespace Json

/-! ### Integers -/

/-- A text that does not carry on a numeral that stands in front of it. -/
def Stops (rest : Text) : Prop :=
  ∀ c, rest.head? = some (.char c) → c.isDigit = false ∧ c ≠ '.' ∧ c ≠ 'e' ∧ c ≠ 'E'

theorem stops_nil : Stops [] := nofun

theorem stops_cons {c : Char} {rest : Text}
    (apart : c.isDigit = false ∧ c ≠ '.' ∧ c ≠ 'e' ∧ c ≠ 'E') : Stops (.char c :: rest) := by
  rintro _ ⟨⟩
  exact apart

theorem readDigits_of_stops {rest : Text} (stops : Stops rest) : readDigits rest = ([], rest) := by
  match rest with
  | [] => rfl
  | .half _ :: _ => rfl
  | .char c :: _ =>
    have apart : ¬ c.isDigit = true := by simp [(stops c rfl).1]
    rw [readDigits, if_neg apart]

theorem readDigits_ofChars {digits : List Char} (all : ∀ c ∈ digits, c.isDigit = true) {rest : Text}
    (stops : Stops rest) : readDigits (.ofChars digits ++ rest) = (digits, rest) := by
  induction digits with
  | nil => exact readDigits_of_stops stops
  | cons c digits inductionHypothesis =>
    obtain ⟨first, others⟩ := List.forall_mem_cons.mp all
    rw [Text.ofChars_cons, List.cons_append, readDigits, if_pos first, inductionHypothesis others]

theorem readFraction_of_stops {rest : Text} (stops : Stops rest) :
    readFraction rest = ([], rest) := by
  match rest with
  | [] => rfl
  | .half _ :: _ => rfl
  | .char c :: _ =>
    have apart := (stops c rfl).2.1
    rw [readFraction]
    simpa using apart

theorem readExponent_of_stops {rest : Text} (stops : Stops rest) :
    readExponent rest = (none, rest) := by
  match rest with
  | [] => rfl
  | .half _ :: _ => rfl
  | .char c :: _ =>
    obtain ⟨_, _, lower, upper⟩ := stops c rfl
    rw [readExponent, if_neg (not_or.mpr ⟨lower, upper⟩)]

/-- The digits of a positive number do not start with a zero. -/
theorem head?_toDigits {number : Nat} (positive : 0 < number) :
    (Nat.toDigits 10 number).head? ≠ some '0' := by
  induction number using Nat.strongRecOn with
  | ind number inductionHypothesis =>
    rw [Nat.toDigits_eq_if (by decide)]
    split
    · next small =>
      have digits : ∀ digit < 10, 0 < digit → digit.digitChar ≠ '0' := by decide
      simpa using digits number small positive
    · next large =>
      rw [List.head?_append_of_ne_nil _ Nat.toDigits_ne_nil]
      exact inductionHypothesis _ (by omega) (by omega)

/-- Digits that are a zero alone or do not start with one are read whole. -/
theorem readWhole_toDigits (number : Nat) {rest : Text} (stops : Stops rest) :
    readWhole (.ofChars (Nat.toDigits 10 number) ++ rest) =
      some (Nat.toDigits 10 number, rest) := by
  have all : ∀ c ∈ Nat.toDigits 10 number, c.isDigit = true := fun c member =>
    Nat.isDigit_of_mem_toDigits (by decide) (by decide) member
  obtain rfl | positive := Nat.eq_zero_or_pos number
  · rfl
  · have head := head?_toDigits positive
    have read := readDigits_ofChars all stops
    cases digits : Nat.toDigits 10 number with
    | nil => exact absurd digits Nat.toDigits_ne_nil
    | cons c others =>
      rw [digits] at head read all
      have nonzero : c ≠ '0' := by simpa using head
      rw [Text.ofChars_cons, List.cons_append] at read ⊢
      rw [readWhole, if_pos (all c List.mem_cons_self), read]
      simpa using nonzero

/-- A limit that a value meets: an integer has too many digits, or a list or a map lies too deep. -/
inductive Limit
  | digits (count : Nat)
  | depth (container : Container)
  deriving DecidableEq, Repr

def Limit.readFault : Limit → ReadFault
  | .digits count => .tooManyDigits count
  | .depth container => .tooDeep container

def digitExcess? (number : Int) : Option Limit :=
  let count := (Nat.toDigits 10 number.natAbs).length
  if digitLimit < count then some (.digits count) else none

/-- The outcome of a reading that meets a limit or finds something. -/
def answer {α : Type} (limit? : Option Limit) (found : α) : Except ReadFault α :=
  match limit? with
  | some limit => .error limit.readFault
  | none => .ok found

theorem readMagnitude_toDigits (negative : Bool) (number : Int) {rest : Text} (stops : Stops rest) :
    readMagnitude negative (.ofChars (Nat.toDigits 10 number.natAbs) ++ rest) =
      answer (digitExcess? number)
        (.int (if negative then -(number.natAbs : Int) else number.natAbs), rest) := by
  have size : Nat.ofDigitChars 10 (Nat.toDigits 10 number.natAbs) 0 = number.natAbs :=
    Nat.ofDigitChars_toDigits (by decide) (by decide)
  rw [readMagnitude, readWhole_toDigits _ stops, digitExcess?]
  simp only [readFraction_of_stops stops, readExponent_of_stops stops, List.isEmpty_nil,
    Option.isNone_none, Bool.and_self, if_true, size]
  by_cases excess : digitLimit < (Nat.toDigits 10 number.natAbs).length
  · rw [if_pos excess, if_pos excess]
    rfl
  · rw [if_neg excess, if_neg excess, answer]

/-! ### Words -/

/-- No word starts with a digit, not even behind a minus. -/
theorem readWord_digit {c : Char} (digit : c.isDigit = true) (rest : Text) :
    readWord (.char c :: rest) words = none ∧
      readWord (.char '-' :: .char c :: rest) words = none := by
  have apart : c ≠ 'n' ∧ c ≠ 't' ∧ c ≠ 'f' ∧ c ≠ 'N' ∧ c ≠ 'I' ∧ c ≠ '-' := by
    refine ⟨?_, ?_, ?_, ?_, ?_, ?_⟩ <;>
      · rintro rfl
        exact absurd digit (by decide)
  obtain ⟨n, t, f, undefined, infinite, minus⟩ := apart
  constructor <;>
    simp [words, readWord, Text.ofString, afterWord?, n.symm, t.symm, f.symm, undefined.symm,
      infinite.symm, minus.symm]

theorem exists_digit (number : Nat) :
    ∃ c digits, Nat.toDigits 10 number = c :: digits ∧ c.isDigit = true := by
  cases same : Nat.toDigits 10 number with
  | nil => exact absurd same Nat.toDigits_ne_nil
  | cons c digits =>
    have member : c ∈ Nat.toDigits 10 number := by rw [same]; exact List.mem_cons_self
    exact ⟨c, digits, rfl, Nat.isDigit_of_mem_toDigits (by decide) (by decide) member⟩

/-- An integer is read as itself, unless it has more digits than are read. -/
theorem readScalar_integer (number : Int) {rest : Text} (stops : Stops rest) :
    readScalar (.ofChars (Text.integer number) ++ rest) =
      answer (digitExcess? number) (.int number, rest) := by
  obtain ⟨c, digits, same, digit⟩ := exists_digit number.natAbs
  have read (negative : Bool) := readMagnitude_toDigits negative number stops
  have noMinus : c ≠ '-' := by
    rintro rfl
    exact absurd digit (by decide)
  have noWord (others : Text) := readWord_digit digit others
  rw [same, Text.ofChars_cons, List.cons_append] at read
  rw [Text.integer, same]
  split
  · next below =>
    have value : -(number.natAbs : Int) = number := by omega
    have found := read true
    rw [if_pos rfl, value] at found
    rw [Text.ofChars_cons, Text.ofChars_cons, List.cons_append, List.cons_append, readScalar,
      (noWord _).2]
    exact found
  · next notBelow =>
    have value : (number.natAbs : Int) = number := by omega
    have found := read false
    rw [if_neg Bool.false_ne_true, value] at found
    rw [Text.ofChars_cons, List.cons_append, readScalar, (noWord _).1]
    · exact found
    · rintro rest same
      exact noMinus (CodePoint.char.inj (List.cons.inj same).1)

end Json

end DocQuery
