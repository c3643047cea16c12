/-
This file proves that the operators of filters go together.

Equality and order are two questions about the same values, and ten operators ask them. That they
never contradict each other rests on one fact: values that are equal compare as equal if they
compare at all. Two lists are compared at the first place where their members are not equal, and equal lists
have no such place, however little their members can be compared; so the fact needs no knowledge of
what stands inside the members, and it holds of undefined numbers and of maps as well.

Null and maps are equal to themselves without having an order. That is the only way in which two
equal values fail to be at most as high as each other.
-/

import DocQuery.Proofs.Building.Acceptance
import DocQuery.Proofs.Value.Contents

namespace DocQuery

/-! ### Equality and order -/

theorem Comparison.ofTexts_self (content : Text) :
    Comparison.ofTexts content content = .ordered .eq := by
  rw [ofTexts, if_neg (Text.lt_irrefl content), if_pos rfl]

theorem Comparison.ofBytes_self (content : List UInt8) :
    Comparison.ofBytes content content = .eq := by
  rw [ofBytes_eq_compare]
  exact Std.ReflCmp.compare_self

/-- Quantities that are the same compare as equal. -/
theorem Comparison.ofQuantities_of_same {left right : Quantity} (equal : left.same right = true) :
    Comparison.ofQuantities left right = .ordered .eq := by
  rw [Quantity.same, beq_iff_eq] at equal
  rw [ofQuantities, equal]

namespace Value

/-- Two values of a kind that has an order: two texts, two strings of bytes, two lists, or two
numbers. -/
inductive OfOneKind : Value → Value → Prop
  | texts {left right : Value} {content other : Text} (leftText : left.asText? = some content)
      (rightText : right.asText? = some other) : OfOneKind left right
  | bytes (content other : List UInt8) : OfOneKind (.bytes content) (.bytes other)
  | lists (items others : List Value) : OfOneKind (.list items) (.list others)
  | numbers {left right : Value} {quantity other : Quantity}
      (leftNumber : left.quantity? = some quantity) (rightNumber : right.quantity? = some other) :
      OfOneKind left right

theorem exists_quantity_of_same {quantity : Quantity} {value : Value}
    (equal : sameQuantity quantity value = true) :
    ∃ other, value.quantity? = some other ∧ quantity.same other = true := by
  rw [sameQuantity] at equal
  split at equal
  · next other number => exact ⟨other, number, equal⟩
  · cases equal

theorem asText?_of_same {content : Text} {value : Value} (equal : sameText content value = true) :
    value.asText? = some content := by
  rw [sameText] at equal
  split at equal
  · next other text => rw [text, beq_iff_eq.mp equal]
  · cases equal

/-- Equal values are of one kind, if there is any order between them. -/
theorem ofOneKind_of_same {left right : Value} (equal : left.same right = true) :
    OfOneKind left right ∨ left.order right = .incomparable := by
  cases left with
  | null => exact .inr rfl
  | map entries => exact .inr rfl
  | bool flag =>
    obtain ⟨other, number, _⟩ := exists_quantity_of_same equal
    exact .inl (.numbers rfl number)
  | int content =>
    obtain ⟨other, number, _⟩ := exists_quantity_of_same equal
    exact .inl (.numbers rfl number)
  | float content =>
    obtain ⟨other, number, _⟩ := exists_quantity_of_same equal
    exact .inl (.numbers rfl number)
  | text content => exact .inl (.texts rfl (asText?_of_same equal))
  | direction sense => exact .inl (.texts rfl (asText?_of_same equal))
  | bytes content =>
    cases right with
    | bytes other => exact .inl (.bytes content other)
    | _ => cases equal
  | list items =>
    cases right with
    | list others => exact .inl (.lists items others)
    | _ => cases equal

/-- Lists that are equal member by member compare as equal: no place decides between them. -/
theorem orderList_of_sameList {items others : List Value} (equal : sameList items others = true) :
    orderList items others = .ordered .eq := by
  induction items generalizing others with
  | nil =>
    cases others with
    | nil => rfl
    | cons other rest => cases equal
  | cons item items inductionHypothesis =>
    cases others with
    | nil => cases equal
    | cons other rest =>
      obtain ⟨first, further⟩ := Bool.and_eq_true_iff.mp equal
      rw [orderList, if_pos first]
      exact inductionHypothesis further

/-- Equal values of one kind compare as equal. -/
theorem OfOneKind.order_of_same {left right : Value} (kind : OfOneKind left right)
    (equal : left.same right = true) : left.order right = .ordered .eq := by
  cases kind with
  | texts leftText rightText =>
    cases left <;> cases leftText
    all_goals
      have text := asText?_of_same equal
      rw [order, orderText, text]
      exact Comparison.ofTexts_self _
  | bytes content other =>
    rw [same, beq_iff_eq] at equal
    rw [order, equal, Comparison.ofBytes_self]
  | lists items others => exact orderList_of_sameList equal
  | numbers leftNumber rightNumber =>
    cases left <;> cases leftNumber
    all_goals
      obtain ⟨quantity, number, alike⟩ := exists_quantity_of_same equal
      rw [order, number]
      exact Comparison.ofQuantities_of_same alike

/-- Values with an order that puts one below or above the other are not equal. -/
theorem eq_of_order_of_same {left right : Value} {ordering : Ordering}
    (compared : left.order right = .ordered ordering) (equal : left.same right = true) :
    ordering = .eq := by
  rcases ofOneKind_of_same equal with kind | refused
  · exact Comparison.ordered.inj (compared.symm.trans (kind.order_of_same equal))
  · rw [compared] at refused
    cases refused

end Value

/-! ### What operators say -/

/-- The operator that asks for a relation. -/
def Relation.operator : Relation → Operator
  | .below => .below
  | .atMost => .atMost
  | .above => .above
  | .atLeast => .atLeast

/-- A relation is found exactly where there is an order that admits it. -/
theorem Relation.passes_operator_iff (relation : Relation) (actual expected : Value) :
    relation.operator.passes actual expected = true ↔
      ∃ ordering, actual.order expected = .ordered ordering ∧ relation.admits ordering = true := by
  have asked : relation.operator.passes actual expected =
      ((actual.order expected).decide? relation).getD false := by
    cases relation <;> rfl
  rw [asked]
  cases actual.order expected with
  | incomparable => simp [Comparison.decide?]
  | unordered => simp [Comparison.decide?]
  | ordered ordering => simp [Comparison.decide?]

/-! ### Filters that are taken -/

namespace Filter

/-- Some collection takes a filter when it is asked for one on a field, by an operator's symbol,
with a value. -/
def IsTaken (name symbol : Text) (value : Value) (filter : Filter) : Prop :=
  ∃ reference refined : Reference,
    reference.filter (.text name) (.text symbol) value = .ok refined ∧
      refined.filters = reference.filters ++ [filter]

/-- Collections take filters by the symbols of operators, with a list where one is needed. -/
theorem isTaken_iff {name symbol : Text} {value : Value} {filter : Filter} :
    filter.IsTaken name symbol value ↔ ∃ operator : Operator, symbol = operator.symbol ∧
      (operator.needsList = true → ∃ items, value = .list items) ∧
        filter = ⟨.text name, operator, value⟩ := by
  have taken (reference refined : Reference) (collection : reference.isCollection = true) :
      reference.filter (.text name) (.text symbol) value = .ok refined ↔ _ :=
    Reference.refine_eq_ok_iff collection (.filter (.text name) (.text symbol) value)
  have added (operator : Operator) (reference : Reference) :
      (reference.refinedBy
          [(Refinement.filter (.text name) (.text operator.symbol) value).call]).filters =
        reference.filters ++ [⟨.text name, operator, value⟩] := by
    simp [Reference.refinedBy, Refinement.call, NavigationCall.filter?, Operator.ofSymbol?_symbol]
  constructor
  · rintro ⟨reference, refined, accepted, filters⟩
    have collection : reference.isCollection = true := by
      by_contra none
      rw [Reference.filter, Reference.requireCollection, if_neg none] at accepted
      cases accepted
    obtain ⟨⟨operator, same, listed⟩, rfl⟩ := (taken reference refined collection).mp accepted
    obtain rfl := Value.text.inj same
    rw [added] at filters
    exact ⟨operator, rfl, listed, (List.singleton_inj.mp (List.append_cancel_left filters)).symm⟩
  · rintro ⟨operator, rfl, listed, rfl⟩
    refine ⟨.plain ["collection"], _, (taken _ _ (by rfl)).mpr ⟨⟨operator, rfl, listed⟩, rfl⟩, ?_⟩
    exact added operator _

end Filter

/-! ### Coherence -/

namespace Entries

/-- The data of a document match: a collection takes the filter, and the filter admits them. -/
def Matches (name symbol : Text) (value : Value) (data : Entries) : Prop :=
  ∃ filter : Filter, filter.IsTaken name symbol value ∧ filter.admits data = .ok true

/-- The operators go together in what they say of the data of a document at a field. -/
structure Coheres (name : Text) (data : Entries) : Prop where
  /-- Whatever filter is taken has an answer: to have no order is not to match. -/
  answers : ∀ {symbol value filter}, Filter.IsTaken name symbol value filter →
    ∃ admitted, filter.admits data = .ok admitted
  unresolved : Value.resolve name (.map data) = none →
    ∀ symbol value, ¬ data.Matches name symbol value
  unequal : Value.resolve name (.map data) ≠ none → ∀ value,
    (data.Matches name "!=" value ↔ ¬ data.Matches name "==" value)
  inside : ∀ items, data.Matches name "in" (.list items) ↔
    ∃ item ∈ items, data.Matches name "==" item
  notInside : Value.resolve name (.map data) ≠ none → ∀ items,
    (data.Matches name "not-in" (.list items) ↔ ¬ data.Matches name "in" (.list items))
  containsAny : ∀ items, data.Matches name "array-contains-any" (.list items) ↔
    ∃ item ∈ items, data.Matches name "array-contains" item
  /-- At most one of the three is found. -/
  apart : ∀ value, ¬ (data.Matches name "<" value ∧ data.Matches name "==" value) ∧
    ¬ (data.Matches name "<" value ∧ data.Matches name ">" value) ∧
      ¬ (data.Matches name "==" value ∧ data.Matches name ">" value)
  below : ∀ value, data.Matches name "<" value → data.Matches name "<=" value ∧
    data.Matches name "!=" value ∧ ¬ data.Matches name ">=" value
  above : ∀ value, data.Matches name ">" value → data.Matches name ">=" value ∧
    data.Matches name "!=" value ∧ ¬ data.Matches name "<=" value
  equal : ∀ actual value, Value.resolve name (.map data) = some actual →
    Value.OfOneKind actual value → data.Matches name "==" value →
      data.Matches name "<=" value ∧ data.Matches name ">=" value

theorem matches_iff {name : Text} {operator : Operator} {value : Value} {data : Entries} :
    data.Matches name operator.symbol value ↔
      (operator.needsList = true → ∃ items, value = .list items) ∧
        ∃ actual, Value.resolve name (.map data) = some actual ∧
          operator.passes actual value = true := by
  have admits : Filter.admits ⟨.text name, operator, value⟩ data = .ok true ↔
      ∃ actual, Value.resolve name (.map data) = some actual ∧
        operator.passes actual value = true := by
    rw [Filter.admits, Value.resolveField_text]
    cases Value.resolve name (.map data) <;> simp
  rw [← admits]
  constructor
  · rintro ⟨filter, taken, admitted⟩
    obtain ⟨other, same, listed, rfl⟩ := Filter.isTaken_iff.mp taken
    have known := other.ofSymbol?_symbol
    rw [← same, operator.ofSymbol?_symbol] at known
    obtain rfl := Option.some.inj known
    exact ⟨listed, admitted⟩
  · rintro ⟨listed, admitted⟩
    exact ⟨_, Filter.isTaken_iff.mpr ⟨operator, rfl, listed, rfl⟩, admitted⟩

/-- A field that leads nowhere matches nothing. -/
theorem not_matches_of_resolve {name : Text} {data : Entries}
    (unresolved : Value.resolve name (.map data) = none) (symbol : Text) (value : Value) :
    ¬ data.Matches name symbol value := by
  rintro ⟨filter, taken, admitted⟩
  obtain ⟨operator, rfl, -, rfl⟩ := Filter.isTaken_iff.mp taken
  rw [Filter.admits, Value.resolveField_text, unresolved] at admitted
  cases admitted

section Resolved

variable {name : Text} {data : Entries} {actual : Value}

/-- Where a field leads to a value, a filter matches if its operator passes. -/
theorem matches_iff_of_resolve (resolved : Value.resolve name (.map data) = some actual)
    (operator : Operator) (value : Value)
    (listed : operator.needsList = true → ∃ items, value = .list items) :
    data.Matches name operator.symbol value ↔ operator.passes actual value = true := by
  rw [matches_iff, resolved]
  simp only [Option.some.injEq, exists_eq_left', and_iff_right_iff_imp]
  exact fun _ => listed

theorem matches_equal_iff (resolved : Value.resolve name (.map data) = some actual)
    (value : Value) : data.Matches name "==" value ↔ actual.same value = true :=
  matches_iff_of_resolve resolved .equal value nofun

theorem matches_contains_iff (resolved : Value.resolve name (.map data) = some actual)
    (value : Value) :
    data.Matches name "array-contains" value ↔ value.memberOf (Operator.members actual) = true :=
  matches_iff_of_resolve resolved .arrayContains value nofun

theorem matches_unequal_iff (resolved : Value.resolve name (.map data) = some actual)
    (value : Value) : data.Matches name "!=" value ↔ ¬ data.Matches name "==" value := by
  have unequal : data.Matches name "!=" value ↔ (!actual.same value) = true :=
    matches_iff_of_resolve resolved .unequal value nofun
  rw [unequal, matches_equal_iff resolved, Bool.not_eq_true', Bool.not_eq_true]

theorem matches_inside_iff (resolved : Value.resolve name (.map data) = some actual)
    (items : List Value) :
    data.Matches name "in" (.list items) ↔ actual.memberOf items = true :=
  matches_iff_of_resolve resolved .inside (.list items) fun _ => ⟨items, rfl⟩

theorem matches_notInside_iff (resolved : Value.resolve name (.map data) = some actual)
    (items : List Value) :
    data.Matches name "not-in" (.list items) ↔ ¬ data.Matches name "in" (.list items) := by
  have notInside : data.Matches name "not-in" (.list items) ↔ (!actual.memberOf items) = true :=
    matches_iff_of_resolve resolved .notInside (.list items) fun _ => ⟨items, rfl⟩
  rw [notInside, matches_inside_iff resolved, Bool.not_eq_true', Bool.not_eq_true]

theorem matches_containsAny_iff (resolved : Value.resolve name (.map data) = some actual)
    (items : List Value) :
    data.Matches name "array-contains-any" (.list items) ↔
      Operator.containsAny actual items = true :=
  matches_iff_of_resolve resolved .arrayContainsAny (.list items) fun _ => ⟨items, rfl⟩

/-- A relation matches where there is an order that admits it. -/
theorem matches_relation_iff (resolved : Value.resolve name (.map data) = some actual)
    (relation : Relation) (value : Value) :
    data.Matches name relation.operator.symbol value ↔
      ∃ ordering, actual.order value = .ordered ordering ∧ relation.admits ordering = true := by
  have listed : relation.operator.needsList = true → ∃ items, value = .list items := by
    cases relation <;> exact nofun
  rw [matches_iff_of_resolve resolved relation.operator value listed]
  exact relation.passes_operator_iff actual value

variable {value : Value} {ordering : Ordering}

/-- Where there is an order, it alone decides every relation. -/
theorem matches_relation_iff_of_order (resolved : Value.resolve name (.map data) = some actual)
    (compared : actual.order value = .ordered ordering) (relation : Relation) :
    data.Matches name relation.operator.symbol value ↔ relation.admits ordering = true := by
  simp [matches_relation_iff resolved, compared]

/-- What is put below or above a value is not found as equal to it. -/
theorem not_matches_equal_of_order (resolved : Value.resolve name (.map data) = some actual)
    (compared : actual.order value = .ordered ordering) (strict : ordering ≠ .eq) :
    ¬ data.Matches name "==" value := by
  rw [matches_equal_iff resolved]
  exact fun equal => strict (Value.eq_of_order_of_same compared equal)

end Resolved

/-- What is found by a relation is found at a field that leads to a value. -/
theorem exists_order_of_matches {name : Text} {data : Entries} {value : Value} {relation : Relation}
    (found : data.Matches name relation.operator.symbol value) :
    ∃ actual ordering, Value.resolve name (.map data) = some actual ∧
      actual.order value = .ordered ordering ∧ relation.admits ordering = true := by
  cases resolved : Value.resolve name (.map data) with
  | none => exact absurd found (not_matches_of_resolve resolved _ value)
  | some actual =>
    obtain ⟨ordering, compared, admitted⟩ := (matches_relation_iff resolved relation value).mp found
    exact ⟨actual, ordering, rfl, compared, admitted⟩

theorem exists_order_of_matches_below {name : Text} {data : Entries} {value : Value}
    (found : data.Matches name "<" value) :
    ∃ actual, Value.resolve name (.map data) = some actual ∧ actual.order value = .ordered .lt := by
  obtain ⟨actual, ordering, resolved, compared, admitted⟩ :=
    @exists_order_of_matches name data value .below found
  rw [beq_iff_eq.mp admitted] at compared
  exact ⟨actual, resolved, compared⟩

theorem exists_order_of_matches_above {name : Text} {data : Entries} {value : Value}
    (found : data.Matches name ">" value) :
    ∃ actual, Value.resolve name (.map data) = some actual ∧ actual.order value = .ordered .gt := by
  obtain ⟨actual, ordering, resolved, compared, admitted⟩ :=
    @exists_order_of_matches name data value .above found
  rw [beq_iff_eq.mp admitted] at compared
  exact ⟨actual, resolved, compared⟩

/-- The operators of filters go together, whatever the data, the field and the values are. -/
theorem coheres (name : Text) (data : Entries) : data.Coheres name where
  answers := by
    intro symbol value filter taken
    obtain ⟨operator, -, -, rfl⟩ := Filter.isTaken_iff.mp taken
    rw [Filter.admits, Value.resolveField_text]
    cases Value.resolve name (.map data) <;> exact ⟨_, rfl⟩
  unresolved unresolved := not_matches_of_resolve unresolved
  unequal resolves value := by
    obtain ⟨actual, resolved⟩ := Option.ne_none_iff_exists'.mp resolves
    exact matches_unequal_iff resolved value
  inside items := by
    cases resolved : Value.resolve name (.map data) with
    | none => simp [not_matches_of_resolve resolved]
    | some actual =>
      simp only [matches_inside_iff resolved, matches_equal_iff resolved]
      exact List.any_eq_true
  notInside resolves items := by
    obtain ⟨actual, resolved⟩ := Option.ne_none_iff_exists'.mp resolves
    exact matches_notInside_iff resolved items
  containsAny items := by
    cases resolved : Value.resolve name (.map data) with
    | none => simp [not_matches_of_resolve resolved]
    | some actual =>
      simp only [matches_containsAny_iff resolved, matches_contains_iff resolved]
      exact List.any_eq_true
  apart value := by
    refine ⟨?_, ?_, ?_⟩
    · rintro ⟨found, equal⟩
      obtain ⟨actual, resolved, compared⟩ := exists_order_of_matches_below found
      exact not_matches_equal_of_order resolved compared (by decide) equal
    · rintro ⟨found, refuted⟩
      obtain ⟨actual, resolved, compared⟩ := exists_order_of_matches_below found
      have above := matches_relation_iff_of_order resolved compared .above
      exact absurd (above.mp refuted) (by decide)
    · rintro ⟨equal, found⟩
      obtain ⟨actual, resolved, compared⟩ := exists_order_of_matches_above found
      exact not_matches_equal_of_order resolved compared (by decide) equal
  below value found := by
    obtain ⟨actual, resolved, compared⟩ := exists_order_of_matches_below found
    have decides := matches_relation_iff_of_order resolved compared
    have different := not_matches_equal_of_order resolved compared (by decide)
    exact ⟨(decides .atMost).mpr rfl, (matches_unequal_iff resolved value).mpr different,
      fun refuted => absurd ((decides .atLeast).mp refuted) (by decide)⟩
  above value found := by
    obtain ⟨actual, resolved, compared⟩ := exists_order_of_matches_above found
    have decides := matches_relation_iff_of_order resolved compared
    have different := not_matches_equal_of_order resolved compared (by decide)
    exact ⟨(decides .atLeast).mpr rfl, (matches_unequal_iff resolved value).mpr different,
      fun refuted => absurd ((decides .atMost).mp refuted) (by decide)⟩
  equal actual value resolved kind found := by
    have compared := kind.order_of_same ((matches_equal_iff resolved value).mp found)
    exact ⟨(matches_relation_iff resolved .atMost value).mpr ⟨.eq, compared, rfl⟩,
      (matches_relation_iff resolved .atLeast value).mpr ⟨.eq, compared, rfl⟩⟩

/-- Null is equal to itself without being as high as itself. -/
example :
    Operator.equal.passes .null .null = true ∧ Operator.atMost.passes .null .null = false := by
  decide

end Entries

end DocQuery
