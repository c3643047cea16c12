/-
This file proves that queries cannot tell values apart that differ in the order of entries only.

A map lists its entries in the order in which they were entered, and what is read from a store keeps
that order, but nothing that a query asks of a value depends on it: no key is twice in a map, so a
key finds the same value wherever it stands. Values that list the entries of maps inside them in
other orders are therefore equal to the same values, compare alike, and lead to alike values.
-/

import DocQuery.Proofs.Value.Contents
import DocQuery.Store.Reference
import Mathlib.Data.List.Forall2

namespace DocQuery

/-! ### Keys -/

namespace Key

/-- An undefined number is not the same key as any. -/
theorem ne_nan_of_same {key other : Key} (same : key.same other = true) :
    key ≠ .float .nan ∧ other ≠ .float .nan := by
  constructor
  · rintro rfl
    cases other <;>
      simp [Key.same, quantity?, Quantity.ofBinary64, Quantity.same_undefined] at same
  · rintro rfl
    cases key <;>
      simp [Key.same, quantity?, Quantity.ofBinary64, Quantity.same,
        Quantity.order_undefined_right] at same

/-- Two keys that are the same as a third are the same. -/
theorem same_of_same {first second third : Key} (one : first.same third = true)
    (other : second.same third = true) : first.same second = true := by
  obtain ⟨firstDefined, thirdDefined⟩ := ne_nan_of_same one
  obtain ⟨secondDefined, _⟩ := ne_nan_of_same other
  rw [same_iff firstDefined thirdDefined] at one
  rw [same_iff secondDefined thirdDefined] at other
  rw [same_iff firstDefined secondDefined, one, other]

theorem same_symm {key other : Key} (same : key.same other = true) : other.same key = true := by
  obtain ⟨defined, otherDefined⟩ := ne_nan_of_same same
  rw [same_iff defined otherDefined] at same
  rw [same_iff otherDefined defined, same]

end Key

/-! ### Entries in another order -/

namespace Entries

theorem Distinct.perm {entries others : Entries} (distinct : entries.Distinct)
    (perm : entries.Perm others) : others.Distinct := by
  refine List.Pairwise.perm distinct (perm.map Prod.fst) fun {key other} apart => ?_
  rw [← Bool.not_eq_true] at apart ⊢
  exact mt Key.same_symm apart

/-- A key finds the same value wherever it stands. -/
theorem lookup_perm {entries others : Entries} (distinct : entries.Distinct)
    (perm : entries.Perm others) (key : Key) : entries.lookup key = others.lookup key := by
  induction perm with
  | nil => rfl
  | cons entry _ inductionHypothesis =>
    rw [lookup, lookup, inductionHypothesis (List.pairwise_cons.mp distinct).2]
  | swap first second rest =>
    have apart := (List.pairwise_cons.mp distinct).1 first.1 List.mem_cons_self
    by_cases one : first.1.same key = true
    · have not : ¬ second.1.same key = true := fun other =>
        Bool.false_ne_true (apart.symm.trans (Key.same_of_same other one))
      simp [lookup, one, not]
    · simp [lookup, one]
  | trans one _ firstHypothesis secondHypothesis =>
    rw [firstHypothesis distinct, secondHypothesis (distinct.perm one)]

/-- Replacing the value of an entry changes what its key finds, and nothing else. -/
theorem lookup_replace (before after : Entries) (key : Key) (old new : Value) (asked : Key) :
    (lookup asked (before ++ (key, old) :: after) = some old ∧
        lookup asked (before ++ (key, new) :: after) = some new) ∨
      lookup asked (before ++ (key, old) :: after) =
        lookup asked (before ++ (key, new) :: after) := by
  induction before with
  | nil =>
    simp only [List.nil_append, lookup]
    split
    · exact .inl ⟨rfl, rfl⟩
    · exact .inr rfl
  | cons entry rest inductionHypothesis =>
    simp only [List.cons_append, lookup]
    split
    · exact .inr rfl
    · exact inductionHypothesis

end Entries

namespace Value

/-! ### Values that are alike -/

/-- Values are alike if they differ in the order of entries only, in maps at any depth. -/
inductive Alike : Value → Value → Prop
  | refl (value : Value) : Alike value value
  | trans {first second third : Value} (one : Alike first second) (other : Alike second third) :
      Alike first third
  | rearranged {entries others : Entries} (distinct : entries.Distinct)
      (perm : entries.Perm others) : Alike (.map entries) (.map others)
  | inList (before after : List Value) {old new : Value} (alike : Alike old new) :
      Alike (.list (before ++ old :: after)) (.list (before ++ new :: after))
  | inMap (before after : Entries) (key : Key) {old new : Value} (alike : Alike old new) :
      Alike (.map (before ++ (key, old) :: after)) (.map (before ++ (key, new) :: after))

/-- No comparison tells two values apart. -/
structure Indistinct (value other : Value) : Prop where
  sameLeft : ∀ right : Value, value.same right = other.same right
  sameRight : ∀ left : Value, left.same value = left.same other
  orderLeft : ∀ right : Value, value.order right = other.order right
  orderRight : ∀ left : Value, left.order value = left.order other

namespace Indistinct

theorem refl (value : Value) : Indistinct value value :=
  ⟨fun _ => rfl, fun _ => rfl, fun _ => rfl, fun _ => rfl⟩

theorem symm {value other : Value} (alike : Indistinct value other) : Indistinct other value :=
  ⟨fun right => (alike.sameLeft right).symm, fun left => (alike.sameRight left).symm,
    fun right => (alike.orderLeft right).symm, fun left => (alike.orderRight left).symm⟩

theorem trans {first second third : Value} (one : Indistinct first second)
    (other : Indistinct second third) : Indistinct first third :=
  ⟨fun right => (one.sameLeft right).trans (other.sameLeft right),
    fun left => (one.sameRight left).trans (other.sameRight left),
    fun right => (one.orderLeft right).trans (other.orderLeft right),
    fun left => (one.orderRight left).trans (other.orderRight left)⟩

theorem sameList {items items' others others' : List Value}
    (left : List.Forall₂ Indistinct items items') (right : List.Forall₂ Indistinct others others') :
    Value.sameList items others = Value.sameList items' others' := by
  induction left generalizing others others' with
  | nil => cases right <;> rfl
  | cons first _ inductionHypothesis =>
    cases right with
    | nil => rfl
    | cons other rest =>
      rw [Value.sameList, Value.sameList, first.sameLeft, other.sameRight, inductionHypothesis rest]

theorem orderList {items items' others others' : List Value}
    (left : List.Forall₂ Indistinct items items') (right : List.Forall₂ Indistinct others others') :
    Value.orderList items others = Value.orderList items' others' := by
  induction left generalizing others others' with
  | nil => cases right <;> rfl
  | cons first _ inductionHypothesis =>
    cases right with
    | nil => rfl
    | cons other rest =>
      rw [Value.orderList, Value.orderList, first.sameLeft, other.sameRight, first.orderLeft,
        other.orderRight, inductionHypothesis rest]

/-- Lists are not told apart if their members are not. -/
theorem list {items others : List Value} (each : List.Forall₂ Indistinct items others) :
    Indistinct (.list items) (.list others) := by
  have same (members : List Value) : List.Forall₂ Indistinct members members :=
    List.forall₂_same.mpr fun member _ => refl member
  refine ⟨fun right => ?_, fun left => ?_, fun right => ?_, fun left => ?_⟩
  · cases right with
    | list members => exact sameList each (same members)
    | _ => rfl
  · cases left with
    | list members => exact sameList (same members) each
    | _ => rfl
  · cases right with
    | list members => exact orderList each (same members)
    | _ => rfl
  · cases left with
    | list members => exact orderList (same members) each
    | _ => rfl

/-- Every entry of a map is one of another, with a value that is not told apart from its own. -/
def Covers (others entries : Entries) : Prop :=
  ∀ entry ∈ entries, ∃ other ∈ others, other.1 = entry.1 ∧ Indistinct other.2 entry.2

theorem sameEntries_of_covers {entries others members : Entries} (covers : Covers others entries)
    (matched : Value.sameEntries others members = true) :
    Value.sameEntries entries members = true := by
  refine sameEntries_iff.mpr fun entry member => ?_
  obtain ⟨other, otherMember, key, alike⟩ := covers entry member
  obtain ⟨found, known, same⟩ := sameEntries_iff.mp matched other otherMember
  exact ⟨found, key ▸ known, (alike.sameLeft found).symm.trans same⟩

theorem sameEntries_of_finds {entries others : Entries}
    (finds : ∀ key, Option.Rel Indistinct (entries.lookup key) (others.lookup key))
    (members : Entries) :
    Value.sameEntries members entries = Value.sameEntries members others := by
  induction members with
  | nil => rfl
  | cons member rest inductionHypothesis =>
    obtain ⟨key, value⟩ := member
    have found := finds key
    rw [Value.sameEntries, Value.sameEntries, inductionHypothesis]
    generalize entries.lookup key = old at found ⊢
    generalize others.lookup key = new at found ⊢
    cases found with
    | none => rfl
    | some alike => exact congrArg (· && _) (alike.sameRight value)

/-- Maps of one size are not told apart if they hold entries, and find values, that are not. -/
theorem map {entries others : Entries} (length : entries.length = others.length)
    (forth : Covers others entries) (back : Covers entries others)
    (finds : ∀ key, Option.Rel Indistinct (entries.lookup key) (others.lookup key)) :
    Indistinct (.map entries) (.map others) := by
  refine ⟨fun right => ?_, fun left => ?_, fun right => ?_, fun left => ?_⟩
  · cases right with
    | map members =>
      have each : Value.sameEntries entries members = Value.sameEntries others members :=
        Bool.eq_iff_iff.mpr ⟨sameEntries_of_covers back, sameEntries_of_covers forth⟩
      rw [Value.same, Value.same, length, each]
    | _ => rfl
  · cases left with
    | map members => rw [Value.same, Value.same, length, sameEntries_of_finds finds]
    | _ => rfl
  · cases right <;> rfl
  · cases left <;> rfl

end Indistinct

namespace Alike

/-- Values that are alike are not told apart. -/
theorem indistinct {value other : Value} (alike : Alike value other) : Indistinct value other := by
  induction alike with
  | refl value => exact .refl value
  | trans _ _ one other => exact one.trans other
  | @rearranged entries others distinct perm =>
    refine .map perm.length_eq (fun entry member => ?_) (fun entry member => ?_) fun key => ?_
    · exact ⟨entry, perm.mem_iff.mp member, rfl, .refl entry.2⟩
    · exact ⟨entry, perm.mem_iff.mpr member, rfl, .refl entry.2⟩
    · rw [Entries.lookup_perm distinct perm]
      cases others.lookup key with
      | none => exact .none
      | some value => exact .some (.refl value)
  | inList before after _ inductionHypothesis =>
    have same (members : List Value) : List.Forall₂ Indistinct members members :=
      List.forall₂_same.mpr fun member _ => .refl member
    exact .list (List.rel_append (same before) (.cons inductionHypothesis (same after)))
  | @inMap before after key old new _ inductionHypothesis =>
    have covers {first second : Value} (alike : Indistinct first second) :
        Indistinct.Covers (before ++ (key, first) :: after) (before ++ (key, second) :: after) := by
      intro entry member
      rcases List.mem_append.mp member with earlier | later
      · exact ⟨entry, List.mem_append_left _ earlier, rfl, .refl entry.2⟩
      · rcases List.mem_cons.mp later with rfl | later
        · exact ⟨(key, first), List.mem_append_right _ List.mem_cons_self, rfl, alike⟩
        · exact ⟨entry, List.mem_append_right _ (List.mem_cons_of_mem _ later), rfl, .refl entry.2⟩
    refine .map (by simp) (covers inductionHypothesis.symm) (covers inductionHypothesis)
      fun asked => ?_
    rcases Entries.lookup_replace before after key old new asked with both | same
    · rw [both.1, both.2]
      exact .some inductionHypothesis
    · rw [same]
      cases Entries.lookup asked (before ++ (key, new) :: after) with
      | none => exact .none
      | some value => exact .some (.refl value)

/-- Values that are alike lead to alike values, or both to none. -/
theorem walk {value other : Value} (alike : Alike value other) (keys : List Text) :
    Option.Rel Alike (value.walk keys) (other.walk keys) := by
  have itself (found : Option Value) : Option.Rel Alike found found := by
    cases found with
    | none => exact .none
    | some value => exact .some (.refl value)
  induction alike generalizing keys with
  | refl value => exact itself _
  | @trans first second third _ _ one other =>
    have oneFound := one keys
    have otherFound := other keys
    generalize first.walk keys = start at oneFound ⊢
    generalize second.walk keys = middle at oneFound otherFound
    cases oneFound with
    | none => exact otherFound
    | some alike =>
      generalize third.walk keys = finish at otherFound ⊢
      cases otherFound with
      | some otherAlike => exact .some (alike.trans otherAlike)
  | rearranged distinct perm =>
    cases keys with
    | nil => exact .some (.rearranged distinct perm)
    | cons name rest =>
      rw [Value.walk, Value.walk, Entries.lookup_perm distinct perm]
      exact itself _
  | inList before after alike _ =>
    cases keys with
    | nil => exact .some (.inList before after alike)
    | cons name rest => exact .none
  | @inMap before after key old new alike inductionHypothesis =>
    cases keys with
    | nil => exact .some (.inMap before after key alike)
    | cons name rest =>
      rw [Value.walk, Value.walk]
      rcases Entries.lookup_replace before after key old new name with both | same
      · rw [both.1, both.2]
        exact inductionHypothesis rest
      · rw [same]
        exact itself _

/-- Alike lists hold alike members, and what is no list holds none. -/
theorem memberOf_members {value other : Value} (alike : Alike value other) (wanted : Value) :
    wanted.memberOf (Operator.members value) = wanted.memberOf (Operator.members other) := by
  induction alike with
  | refl value => rfl
  | trans _ _ one other => exact one.trans other
  | rearranged distinct perm => rfl
  | inList before after alike _ =>
    simp only [Operator.members, memberOf, List.any_append, List.any_cons,
      alike.indistinct.sameRight]
  | inMap before after key _ _ => rfl

/-- No filter tells values apart that are alike. -/
theorem passes_congr {actual other : Value} (alike : Alike actual other) (operator : Operator)
    (expected : Value) : operator.passes actual expected = operator.passes other expected := by
  have same := alike.indistinct
  have inside (items : List Value) : actual.memberOf items = other.memberOf items := by
    rw [memberOf, memberOf, funext same.sameLeft]
  have answers : operator.compare? actual expected = operator.compare? other expected := by
    cases operator <;>
      simp only [Operator.compare?, Operator.containsAny, relates?, inside, memberOf_members alike,
        same.orderLeft, same.sameLeft]
  rw [Operator.passes, Operator.passes, answers]

/-- Values that are alike sort alike. -/
theorem less?_congr {first firstOther second secondOther : Value}
    (firstAlike : Alike first firstOther) (secondAlike : Alike second secondOther) :
    first.less? second = firstOther.less? secondOther := by
  rw [Value.less?, Value.less?, relates?, relates?, firstAlike.indistinct.orderLeft,
    secondAlike.indistinct.orderRight]

end Alike

end Value

end DocQuery
