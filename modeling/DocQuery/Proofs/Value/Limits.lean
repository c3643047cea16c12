/-
This file says which values are written.

The first fault of a value is found by going through its parts in order, with a level fewer for what is
in a list or a map. That there is none means that the whole value is within the limits, which are said
here without an order: `Value.Within` looks at each item and at each entry by itself.
-/

import DocQuery.Value.Written

namespace DocQuery

/-! ### Integers -/

/-- An integer does not have too many digits. -/
def IsShort (number : Int) : Prop := (Nat.toDigits 10 number.natAbs).length ≤ Json.digitLimit

theorem TextFault.ofInt?_eq_none_iff (number : Int) : ofInt? number = none ↔ IsShort number := by
  rw [ofInt?, IsShort, ite_eq_right_iff]
  simp

/-- A key that is an integer does not have too many digits. -/
def Key.IsShort (key : Key) : Prop := ∀ number, key = .int number → DocQuery.IsShort number

theorem Key.textFault?_eq_none_iff (key : Key) : key.textFault? = none ↔ key.IsShort := by
  cases key with
  | int number => simpa [textFault?, IsShort] using TextFault.ofInt?_eq_none_iff number
  | _ => simp [textFault?, IsShort]

/-! ### Values -/

namespace Value

/-- At most so many lists and maps lie inside each other in a value, and no integer in it has too many
digits. -/
inductive Within : Nat → Value → Prop
  | null {levels : Nat} : Within levels .null
  | bool {levels : Nat} {flag : Bool} : Within levels (.bool flag)
  | int {levels : Nat} {number : Int} (short : IsShort number) : Within levels (.int number)
  | float {levels : Nat} {number : Binary64} : Within levels (.float number)
  | text {levels : Nat} {content : Text} : Within levels (.text content)
  | bytes {levels : Nat} {content : List UInt8} : Within levels (.bytes content)
  | direction {levels : Nat} {sense : Direction} : Within levels (.direction sense)
  | list {inner : Nat} {items : List Value} (each : ∀ item ∈ items, Within inner item) :
      Within (inner + 1) (.list items)
  | map {inner : Nat} {entries : Entries} (keys : ∀ entry ∈ entries, entry.1.IsShort)
      (each : ∀ entry ∈ entries, Within inner entry.2) : Within (inner + 1) (.map entries)

theorem textFaultOfItems?_eq_none_iff (levels : Nat) (items : List Value) :
    textFaultOfItems? levels items = none ↔ ∀ item ∈ items, textFault? levels item = none := by
  induction items with
  | nil => simp [textFaultOfItems?]
  | cons item rest inductionHypothesis =>
    rw [textFaultOfItems?, Option.or_eq_none_iff, inductionHypothesis, List.forall_mem_cons]

theorem textFaultOfEntries?_eq_none_iff (levels : Nat) (entries : Entries) :
    textFaultOfEntries? levels entries = none ↔
      (∀ entry ∈ entries, entry.1.IsShort) ∧ ∀ entry ∈ entries, textFault? levels entry.2 = none := by
  induction entries with
  | nil => simp [textFaultOfEntries?]
  | cons entry rest inductionHypothesis =>
    rw [textFaultOfEntries?, Option.or_eq_none_iff, Option.or_eq_none_iff, inductionHypothesis,
      Key.textFault?_eq_none_iff, List.forall_mem_cons, List.forall_mem_cons, and_and_and_comm]

/-- Only a value outside of these bounds has a fault. The induction is on the levels, of which each
list and each map uses up one. -/
theorem textFault?_eq_none_iff (levels : Nat) (value : Value) :
    textFault? levels value = none ↔ Within levels value := by
  induction levels generalizing value with
  | zero =>
    cases value with
    | int number =>
      rw [textFault?, TextFault.ofInt?_eq_none_iff]
      exact ⟨.int, fun | .int short => short⟩
    | list items => exact ⟨nofun, nofun⟩
    | map entries => exact ⟨nofun, nofun⟩
    | _ => exact ⟨fun _ => by constructor, fun _ => rfl⟩
  | succ inner inductionHypothesis =>
    cases value with
    | int number =>
      rw [textFault?, TextFault.ofInt?_eq_none_iff]
      exact ⟨.int, fun | .int short => short⟩
    | list items =>
      simp only [textFault?, textFaultOfItems?_eq_none_iff, inductionHypothesis]
      exact ⟨.list, fun | .list each => each⟩
    | map entries =>
      simp only [textFault?, textFaultOfEntries?_eq_none_iff, inductionHypothesis]
      exact ⟨fun ⟨keys, each⟩ => .map keys each, fun | .map keys each => ⟨keys, each⟩⟩
    | _ => exact ⟨fun _ => by constructor, fun _ => rfl⟩

/-- A value is written if it is within the limits. -/
theorem hasText_iff {levels : Nat} {value : Value} : value.HasText levels ↔ value.Within levels :=
  textFault?_eq_none_iff levels value

end Value

end DocQuery
