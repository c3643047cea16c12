/-
This file proves which queries can be built in a store in memory, and what is built of them.

A walk keeps two accounts of where it stands: the location of its reference, and whether it expects a
collection next. They agree until an `all` or a refinement comes between a collection and the
document after it, and then the next literal is refused. So a query is accepted exactly if its names
are clean, nothing of that kind stands in between, and every refinement that meets a collection is
acceptable. What is built can be read off the query: the literals are the location, and the
refinements that met a collection are those behind the last literal.

The induction goes from the end of a query, since what a component meets depends on what stands
before it.
-/

import DocQuery.Builder
import DocQuery.Proofs.Store.Answers
import Mathlib.Data.List.Induction

namespace DocQuery

/-! ### Refinements -/

theorem Operator.eq_symbol_of_ofSymbol? {symbol : Text} {operator : Operator}
    (known : ofSymbol? symbol = some operator) : symbol = operator.symbol := by
  obtain ⟨before, after, same, _⟩ := List.lookup_eq_some_iff.mp known
  have listed : ∀ entry ∈ symbols, entry.1 = Text.ofString entry.2.symbol := by decide
  exact listed (symbol, operator) (same ▸ List.mem_append_right _ List.mem_cons_self)

namespace Refinement

/-- The call by hand that asks for the same. -/
def call : Refinement → NavigationCall
  | .filter field operator value => .filter field operator value
  | .limit count => .limit count
  | .order field direction => .orderBy field (.direction direction)

/-- A refinement that every collection accepts: its operator is known, and has a list where it needs
one; its limit is a positive integer. -/
def IsAcceptable : Refinement → Prop
  | .filter _ operator value => ∃ found : Operator, operator = .text found.symbol ∧
      (found.needsList = true → ∃ items, value = .list items)
  | .limit count => ∃ number : Int, count = .int number ∧ 1 ≤ number
  | .order _ _ => True

end Refinement

namespace Reference

theorem operatorNamed_eq_ok_iff {operator : Value} (path : Text) {found : Operator} :
    operatorNamed operator path = .ok found ↔ operator = .text found.symbol := by
  constructor
  · intro named
    obtain ⟨symbol, rfl, known⟩ := exists_symbol named
    rw [Operator.eq_symbol_of_ofSymbol? known]
  · rintro rfl
    rw [operatorNamed, Operator.ofSymbol?_symbol]

theorem isList_iff {value : Value} : isList value = true ↔ ∃ items, value = .list items := by
  cases value <;> simp [isList]

theorem limitCount_eq_ok_iff {count : Value} {path : Text} {limit : Nat} :
    limitCount count path = .ok limit ↔
      ∃ number : Int, count = .int number ∧ 1 ≤ number ∧ limit = number.toNat := by
  cases count with
  | int number =>
    rw [limitCount]
    by_cases positive : 1 ≤ number
    · simp [positive, eq_comm]
    · simp [positive]
  | _ => simp [limitCount]

theorem refinedBy_append (first second : List NavigationCall) (reference : Reference) :
    (reference.refinedBy first).refinedBy second = reference.refinedBy (first ++ second) := by
  simp only [refinedBy, List.filterMap_append, List.append_assoc, List.getLast?_append,
    Option.or_assoc]

@[simp] theorem refinedBy_nil (reference : Reference) : reference.refinedBy [] = reference := by
  simp [refinedBy]

/-- A collection takes acceptable refinements and no others. -/
theorem refine_eq_ok_iff {reference refined : Reference} (collection : reference.isCollection = true)
    (refinement : Refinement) : reference.refine refinement = .ok refined ↔
      refinement.IsAcceptable ∧ refined = reference.refinedBy [refinement.call] := by
  have required (operation : String) : requireCollection operation reference = .ok () := by
    rw [requireCollection, if_pos collection]
  cases refinement with
  | filter field operator value =>
    rw [refine, filter, required, Refinement.IsAcceptable]
    cases named : operatorNamed operator reference.path with
    | error failure =>
      have unknown (found : Operator) : operator ≠ .text found.symbol := by
        intro same
        rw [(operatorNamed_eq_ok_iff _).mpr same] at named
        cases named
      simp [unknown]
    | ok found =>
      have known := (operatorNamed_eq_ok_iff reference.path).mp named
      have added : reference.refinedBy [(Refinement.filter field operator value).call] =
          { reference with filters := reference.filters ++ [⟨field, found, value⟩] } := by
        simp [known, refinedBy, Refinement.call, NavigationCall.filter?, NavigationCall.sortKey?,
          NavigationCall.limit?, Operator.ofSymbol?_symbol]
      have same (other : Operator) : operator = .text other.symbol ↔ other = found := by
        rw [← operatorNamed_eq_ok_iff reference.path, named, Except.ok.injEq, eq_comm]
      simp only [added, same, exists_eq_left, ← isList_iff]
      by_cases suits : found.needsList = true → isList value = true
      · rw [if_neg (by simpa using suits), Except.ok.injEq, eq_comm]
        exact ⟨fun equal => ⟨suits, equal⟩, And.right⟩
      · rw [if_pos (by simpa using suits)]
        constructor
        · intro refused
          cases refused
        · intro accepted
          exact absurd accepted.1 suits
  | limit count =>
    rw [refine, limitTo, required, Refinement.IsAcceptable]
    cases counted : limitCount count reference.path with
    | error failure =>
      have unfit (number : Int) (same : count = .int number) : ¬ 1 ≤ number := by
        intro positive
        rw [limitCount_eq_ok_iff.mpr ⟨number, same, positive, rfl⟩] at counted
        cases counted
      constructor
      · intro refused
        cases refused
      · rintro ⟨⟨number, same, positive⟩, -⟩
        exact absurd positive (unfit number same)
    | ok limit =>
      obtain ⟨number, rfl, positive, rfl⟩ := limitCount_eq_ok_iff.mp counted
      have added : reference.refinedBy [(Refinement.limit (.int number)).call] =
          { reference with limit := some number.toNat } := by
        simp [refinedBy, Refinement.call, NavigationCall.filter?, NavigationCall.sortKey?,
          NavigationCall.limit?]
      rw [added, Except.ok.injEq, eq_comm]
      exact ⟨fun equal => ⟨⟨number, rfl, positive⟩, equal⟩, And.right⟩
  | order field direction =>
    have added : reference.refinedBy [(Refinement.order field direction).call] =
        { reference with orders := reference.orders ++ [⟨field, direction⟩] } := by
      simp [refinedBy, Refinement.call, NavigationCall.filter?, NavigationCall.sortKey?,
        NavigationCall.limit?, directionNamed]
    rw [refine, orderBy, required, Refinement.IsAcceptable, added, Except.ok.injEq, eq_comm,
      true_and]

theorem refineAll_eq_ok_iff (reference : Reference) {refined : Reference}
    (collection : reference.isCollection = true) (refinements : List Refinement) :
    (navigation.refineAll refinements reference ()).1 = .ok refined ↔
      (∀ refinement ∈ refinements, refinement.IsAcceptable) ∧
        refined = reference.refinedBy (refinements.map Refinement.call) := by
  induction refinements generalizing reference with
  | nil => simp [Navigation.refineAll, eq_comm]
  | cons refinement rest inductionHypothesis =>
    rw [Navigation.refineAll]
    cases once : reference.refine refinement with
    | error failure =>
      have unacceptable : ¬ refinement.IsAcceptable := by
        intro acceptable
        rw [(refine_eq_ok_iff collection refinement).mpr ⟨acceptable, rfl⟩] at once
        cases once
      simp [navigation, once, unacceptable]
    | ok next =>
      obtain ⟨acceptable, rfl⟩ := (refine_eq_ok_iff collection refinement).mp once
      have further := inductionHypothesis (reference.refinedBy [refinement.call]) collection
      simp only [navigation, once] at further ⊢
      rw [further, refinedBy_append, List.forall_mem_cons]
      simp [acceptable]

/-! ### Names and plain references -/

theorem isRefined_eq_false_iff {reference : Reference} :
    reference.isRefined = false ↔ reference = plain reference.segments := by
  obtain ⟨segments, filters, orders, limit⟩ := reference
  simp [isRefined, plain, and_assoc]

/-- A refinement that is acceptable leaves its trace. -/
theorem isRefined_refinedBy {refinements : List Refinement}
    (acceptable : ∀ refinement ∈ refinements, refinement.IsAcceptable) (reference : Reference) :
    (reference.refinedBy (refinements.map Refinement.call)).isRefined = false ↔
      reference.isRefined = false ∧ refinements = [] := by
  constructor
  · intro unrefined
    cases refinements with
    | nil => exact ⟨by simpa using unrefined, rfl⟩
    | cons refinement rest =>
      have first := acceptable refinement List.mem_cons_self
      simp only [isRefined, refinedBy, Bool.or_eq_false_iff, Bool.not_eq_false',
        List.isEmpty_iff, List.append_eq_nil_iff, List.filterMap_eq_nil_iff, List.map_cons,
        List.forall_mem_cons, Option.isSome_eq_false_iff, Option.isNone_iff_eq_none,
        Option.or_eq_none_iff, List.getLast?_eq_none_iff] at unrefined
      obtain ⟨⟨⟨_, noFilter, _⟩, _, noKey, _⟩, ⟨noLimit, _⟩, _⟩ := unrefined
      cases refinement with
      | filter field operator value =>
        obtain ⟨found, rfl, _⟩ := first
        simp [Refinement.call, NavigationCall.filter?, Operator.ofSymbol?_symbol] at noFilter
      | limit count =>
        obtain ⟨number, rfl, _⟩ := first
        cases noLimit
      | order field direction => cases noKey
  · rintro ⟨unrefined, rfl⟩
    simpa using unrefined

theorem segmentName_text_eq_ok_iff {name content : Text} :
    segmentName (.text name) = .ok content ↔
      (name ≠ [] ∧ .char '/' ∉ name) ∧ content = name := by
  rw [segmentName]
  simp only [Value.asText?]
  by_cases unclean : name = [] ∨ .char '/' ∈ name
  · rw [if_pos unclean]
    refine ⟨nofun, fun ⟨⟨nonempty, clean⟩, _⟩ => ?_⟩
    exact absurd unclean (not_or.mpr ⟨nonempty, clean⟩)
  · rw [if_neg unclean, Except.ok.injEq, eq_comm]
    exact ⟨fun same => ⟨not_or.mp unclean, same⟩, And.right⟩

theorem collection_eq_ok_iff {name : Text} {reference reached : Reference} :
    reference.collection (.text name) = .ok reached ↔
      (name ≠ [] ∧ .char '/' ∉ name) ∧ reference.isCollection = false ∧
        reached = plain (reference.segments ++ [name]) := by
  rw [collection]
  cases called : segmentName (.text name) with
  | error failure =>
    refine ⟨nofun, fun accepted => ?_⟩
    rw [segmentName_text_eq_ok_iff.mpr ⟨accepted.1, rfl⟩] at called
    cases called
  | ok content =>
    obtain ⟨clean, rfl⟩ := segmentName_text_eq_ok_iff.mp called
    cases reference.isCollection <;> simp [clean, eq_comm]

theorem document_eq_ok_iff {name : Text} {reference reached : Reference} :
    reference.document (.text name) = .ok reached ↔
      (name ≠ [] ∧ .char '/' ∉ name) ∧ reference.isCollection = true ∧
        reference.isRefined = false ∧ reached = plain (reference.segments ++ [name]) := by
  rw [document]
  cases called : segmentName (.text name) with
  | error failure =>
    refine ⟨nofun, fun accepted => ?_⟩
    rw [segmentName_text_eq_ok_iff.mpr ⟨accepted.1, rfl⟩] at called
    cases called
  | ok content =>
    obtain ⟨clean, rfl⟩ := segmentName_text_eq_ok_iff.mp called
    cases reference.isCollection <;> cases reference.isRefined <;> simp [clean, eq_comm]

end Reference

/-! ### Queries that can be built -/

namespace Component

/-- The name that a literal gives. -/
def literal? : Component → Option Text
  | .literal name => some name
  | _ => none

/-- The names of a query, in order. -/
def literals (components : List Component) : List Text := components.filterMap literal?

/-- The collection expressions of a query in front of which the number of literals, counted from so
many on, leaves a remainder by two. -/
def expressionsAt (remainder : Nat) : Nat → List Component → List (List Refinement)
  | _, [] => []
  | passed, .literal _ :: rest => expressionsAt remainder (passed + 1) rest
  | passed, .collectionExpression refinements :: rest =>
    if passed % 2 = remainder then refinements :: expressionsAt remainder passed rest
    else expressionsAt remainder passed rest
  | passed, _ :: rest => expressionsAt remainder passed rest

/-- The refinements of a query that meet a collection, in order: those behind an odd number of
literals. -/
def applied (components : List Component) : List Refinement := (expressionsAt 1 0 components).flatten

/-- What a query names: its literals, with the filters, the sort keys and the last limit among the
refinements that meet a collection. -/
def named (components : List Component) : Reference where
  segments := literals components
  filters := (applied components).filterMap fun refinement => refinement.call.filter?
  orders := (applied components).filterMap fun refinement => refinement.call.sortKey?
  limit := ((applied components).filterMap fun refinement => refinement.call.limit?).getLast?

/-- A component that may stand between a collection and the document after it. -/
def IsCalm : Component → Prop
  | .all => False
  | .collectionExpression refinements => refinements = []
  | .literal _ | .documentExpression _ => True

/-- A query that can be built. -/
structure IsBuildable (components : List Component) : Prop where
  names : ∀ name, .literal name ∈ components → name ≠ [] ∧ .char '/' ∉ name
  undisturbed : ∀ before name between next after,
    components = before ++ .literal name :: (between ++ .literal next :: after) →
      literalCount before % 2 = 0 → literalCount between = 0 →
        ∀ component ∈ between, component.IsCalm
  refinements : ∀ before refinements after,
    components = before ++ .collectionExpression refinements :: after →
      literalCount before % 2 = 1 → ∀ refinement ∈ refinements, refinement.IsAcceptable

/-! ### One component more -/

theorem concat_eq_append_cons_iff {α : Type} {items before after : List α} {item other : α} :
    items ++ [item] = before ++ other :: after ↔
      (after = [] ∧ items = before ∧ item = other) ∨
        ∃ rest, after = rest ++ [item] ∧ items = before ++ other :: rest := by
  rcases List.eq_nil_or_concat after with rfl | ⟨rest, last, rfl⟩
  · simp
  · rw [List.concat_eq_append, ← List.cons_append, ← List.append_assoc]
    constructor
    · intro same
      obtain ⟨earlier, lasts⟩ := List.append_inj' same rfl
      cases lasts
      exact .inr ⟨rest, rfl, earlier⟩
    · rintro (⟨none, _⟩ | ⟨others, same, rfl⟩)
      · simp at none
      · obtain ⟨rfl, lasts⟩ := List.append_inj' same rfl
        cases lasts
        rfl

/-- No component behind the last literal disturbs. -/
def IsUndisturbed (components : List Component) : Prop :=
  ∀ before name between, components = before ++ .literal name :: between →
    literalCount between = 0 → ∀ component ∈ between, component.IsCalm

/-- Whether a component may come last, behind components that can be built. -/
def Fits (components : List Component) : Component → Prop
  | .literal name => (name ≠ [] ∧ .char '/' ∉ name) ∧
      (literalCount components % 2 = 1 → IsUndisturbed components)
  | .collectionExpression refinements =>
    literalCount components % 2 = 1 → ∀ refinement ∈ refinements, refinement.IsAcceptable
  | .all | .documentExpression _ => True

theorem literalCount_concat (components : List Component) (component : Component) :
    literalCount (components ++ [component]) =
      literalCount components + if component.isLiteral then 1 else 0 := by
  simp [literalCount, List.countP_append, List.countP_singleton]

theorem literalCount_around (before : List Component) (name : Text) (between : List Component) :
    literalCount (before ++ .literal name :: between) =
      literalCount before + 1 + literalCount between := by
  rw [literalCount, List.countP_append, List.countP_cons_of_pos rfl, Nat.add_assoc,
    Nat.add_comm 1]
  rfl

theorem exists_last_literal {components : List Component} (some : literalCount components ≠ 0) :
    ∃ before name between, components = before ++ .literal name :: between ∧
      literalCount between = 0 := by
  induction components using List.reverseRecOn with
  | nil => exact absurd rfl some
  | append_singleton components component inductionHypothesis =>
    rw [literalCount_concat] at some
    cases component with
    | literal name => exact ⟨components, name, [], rfl, rfl⟩
    | _ =>
      obtain ⟨before, name, between, rfl, none⟩ := inductionHypothesis (by simpa [isLiteral] using some)
      refine ⟨before, name, between ++ [_], by rw [List.append_assoc, List.cons_append], ?_⟩
      rw [literalCount_concat, none]
      rfl

theorem isUndisturbed_literal (components : List Component) (name : Text) :
    IsUndisturbed (components ++ [.literal name]) := by
  intro before other between same none component member
  rcases concat_eq_append_cons_iff.mp same with ⟨rfl, _⟩ | ⟨rest, rfl, _⟩
  · cases member
  · rw [literalCount_concat] at none
    cases none

/-- Behind a literal, one component more disturbs exactly if it is not calm. -/
theorem isUndisturbed_concat_iff {components : List Component} {component : Component}
    (some : literalCount components ≠ 0) (other : component.isLiteral = false) :
    IsUndisturbed (components ++ [component]) ↔
      IsUndisturbed components ∧ component.IsCalm := by
  constructor
  · intro undisturbed
    have extended {before name between} (same : components = before ++ .literal name :: between)
        (none : literalCount between = 0) : ∀ found ∈ between ++ [component], found.IsCalm := by
      refine undisturbed before name (between ++ [component]) ?_ ?_
      · rw [same, List.append_assoc, List.cons_append]
      · rw [literalCount_concat, none, other]
        rfl
    refine ⟨fun before name between same none found member =>
      extended same none found (List.mem_append_left _ member), ?_⟩
    obtain ⟨before, name, between, same, none⟩ := exists_last_literal some
    exact extended same none component (List.mem_append_right _ (List.mem_singleton_self _))
  · rintro ⟨undisturbed, calm⟩ before name between same none found member
    rcases concat_eq_append_cons_iff.mp same with ⟨_, _, rfl⟩ | ⟨rest, rfl, earlier⟩
    · cases other
    · rw [literalCount_concat] at none
      rcases List.mem_append.mp member with known | last
      · exact undisturbed before name rest earlier (Nat.eq_zero_of_add_eq_zero_right none) found known
      · rw [List.mem_singleton.mp last]
        exact calm

/-- Whether a query can be built is decided from its start on, component by component. -/
theorem isBuildable_concat_iff {components : List Component} {component : Component} :
    IsBuildable (components ++ [component]) ↔
      IsBuildable components ∧ component.Fits components := by
  constructor
  · rintro ⟨names, undisturbed, refinements⟩
    refine ⟨⟨fun name member => names name (List.mem_append_left _ member),
      fun before name between next after same => undisturbed before name between next
        (after ++ [component]) (by simp [same]),
      fun before found after same => refinements before found (after ++ [component])
        (by simp [same])⟩, ?_⟩
    cases component with
    | literal name =>
      refine ⟨names name (List.mem_append_right _ (List.mem_singleton_self _)),
        fun odd before earlier between same none => ?_⟩
      refine undisturbed before earlier between name [] (by simp [same]) ?_ none
      rw [same, literalCount_around] at odd
      omega
    | collectionExpression found => exact refinements components found [] rfl
    | all => trivial
    | documentExpression fields => trivial
  · rintro ⟨⟨names, undisturbed, refinements⟩, fits⟩
    refine ⟨fun name member => ?_, fun before name between next after same even none => ?_,
      fun before found after same => ?_⟩
    · rcases List.mem_append.mp member with known | last
      · exact names name known
      · cases List.mem_singleton.mp last
        exact fits.1
    · rw [← List.cons_append, ← List.append_assoc] at same
      rcases concat_eq_append_cons_iff.mp same with ⟨_, rfl, rfl⟩ | ⟨rest, _, earlier⟩
      · refine fits.2 ?_ before name between rfl none
        rw [literalCount_around, none]
        omega
      · exact undisturbed before name between next rest (by simp [earlier]) even none
    · rcases concat_eq_append_cons_iff.mp same with ⟨_, rfl, rfl⟩ | ⟨rest, _, earlier⟩
      · exact fits
      · exact refinements before found rest earlier

/-! ### What a query names -/

theorem expressionsAt_append (remainder passed : Nat) (first second : List Component) :
    expressionsAt remainder passed (first ++ second) =
      expressionsAt remainder passed first ++
        expressionsAt remainder (passed + literalCount first) second := by
  induction first generalizing passed with
  | nil => rfl
  | cons component rest inductionHypothesis =>
    have counted : literalCount (component :: rest) =
        literalCount rest + if component.isLiteral then 1 else 0 := by
      simp [literalCount, List.countP_cons]
    rw [List.cons_append, counted]
    cases component with
    | literal name =>
      rw [expressionsAt, expressionsAt, inductionHypothesis, Nat.add_right_comm, Nat.add_assoc]
      rfl
    | collectionExpression refinements =>
      rw [expressionsAt, expressionsAt, inductionHypothesis]
      split <;> rfl
    | all => exact inductionHypothesis passed
    | documentExpression fields => exact inductionHypothesis passed

theorem expressionsAt_concat (remainder : Nat) (components : List Component)
    (component : Component) :
    expressionsAt remainder 0 (components ++ [component]) =
      expressionsAt remainder 0 components ++
        expressionsAt remainder (literalCount components) [component] := by
  rw [expressionsAt_append, Nat.zero_add]

theorem length_literals (components : List Component) :
    (literals components).length = literalCount components := by
  rw [literals, literalCount, List.length_filterMap_eq_countP]
  congr 1
  funext component
  cases component <;> rfl

theorem isCollection_named (components : List Component) :
    (named components).isCollection = (literalCount components % 2 == 1) := by
  rw [← length_literals]
  rfl

theorem named_eq (components : List Component) :
    named components = (Reference.plain (literals components)).refinedBy
      ((applied components).map Refinement.call) := by
  simp [named, Reference.refinedBy, Reference.plain, List.filterMap_map]

theorem named_concat (components : List Component) (component : Component) :
    named (components ++ [component]) =
      (Reference.plain (literals components ++ literals [component])).refinedBy
        ((applied components ++
          (expressionsAt 1 (literalCount components) [component]).flatten).map
            Refinement.call) := by
  rw [named_eq, applied, applied, expressionsAt_concat, List.flatten_append, literals, literals,
    literals, List.filterMap_append]

/-- A component that is neither a name nor a refinement of a collection leaves what is named. -/
theorem named_concat_of_idle {components : List Component} {component : Component}
    (nameless : component.literal? = none)
    (idle : expressionsAt 1 (literalCount components) [component] = []) :
    named (components ++ [component]) = named components := by
  rw [named_concat, named_eq, idle, literals, literals]
  simp [nameless]

/-! ### The cursor of a walk -/

/-- Where a walk over components stands. Only on a collection can its two accounts disagree. -/
structure Stands (components : List Component) (cursor : Cursor Reference) : Prop where
  reference : cursor.reference = named components
  even : literalCount components % 2 = 0 →
    cursor.expectingCollection = true ∧ cursor.reference.isRefined = false
  odd : literalCount components % 2 = 1 →
    (cursor.expectingCollection = false ∧ cursor.reference.isRefined = false ↔
      IsUndisturbed components)

theorem stands_start : Stands [] (.start .root) where
  reference := rfl
  even _ := ⟨rfl, rfl⟩
  odd odd := by cases odd

theorem named_literal (components : List Component) (name : Text) :
    named (components ++ [.literal name]) =
      { named components with segments := (named components).segments ++ [name] } := by
  simp [named, applied, expressionsAt_concat, expressionsAt, literals, literal?]

theorem named_literal_of_unrefined {components : List Component}
    (unrefined : (named components).isRefined = false) (name : Text) :
    named (components ++ [.literal name]) =
      Reference.plain ((named components).segments ++ [name]) := by
  rw [named_literal]
  conv_lhs => rw [Reference.isRefined_eq_false_iff.mp unrefined]
  rfl

/-- A literal that may come next leads to what is named with it, and any other is refused. -/
theorem Stands.enter_eq_ok_iff {components : List Component} {cursor : Cursor Reference}
    (stands : Stands components cursor) (name : Text) {reached : Reference} :
    (Reference.navigation.enter name cursor ()).1 = .ok reached ↔
      (literal name).Fits components ∧ reached = named (components ++ [.literal name]) := by
  have collection : cursor.reference.isCollection = (literalCount components % 2 == 1) := by
    rw [stands.reference, isCollection_named]
  have entered (unrefined : cursor.reference.isRefined = false) :
      Reference.plain (cursor.reference.segments ++ [name]) =
        named (components ++ [.literal name]) := by
    rw [stands.reference] at unrefined ⊢
    rw [named_literal_of_unrefined unrefined]
  rw [Navigation.enter, Fits]
  rcases Nat.mod_two_eq_zero_or_one (literalCount components) with even | odd
  · obtain ⟨expecting, unrefined⟩ := stands.even even
    rw [if_pos expecting]
    show cursor.reference.collection (.text name) = .ok reached ↔ _
    rw [Reference.collection_eq_ok_iff, collection, even, entered unrefined]
    simp
  · have settled := stands.odd odd
    by_cases expecting : cursor.expectingCollection = true
    · rw [if_pos expecting]
      show cursor.reference.collection (.text name) = .ok reached ↔ _
      rw [Reference.collection_eq_ok_iff, collection, odd, ← settled, expecting]
      simp
    · rw [Bool.not_eq_true] at expecting
      rw [if_neg (by simp [expecting])]
      show cursor.reference.document (.text name) = .ok reached ↔ _
      rw [Reference.document_eq_ok_iff, collection, odd, ← settled, expecting]
      constructor
      · rintro ⟨clean, _, unrefined, rfl⟩
        exact ⟨⟨clean, fun _ => ⟨rfl, unrefined⟩⟩, entered unrefined⟩
      · rintro ⟨⟨clean, quiet⟩, rfl⟩
        exact ⟨clean, rfl, (quiet rfl).2, (entered (quiet rfl).2).symm⟩

/-! ### Steps -/

/-- The notices of a component that comes next. -/
def remarks (components : List Component) : Component → List Notice
  | .collectionExpression _ =>
    if literalCount components % 2 = 0 then
      [.ignoredExpression (.text (Segments.path (literals components)))]
    else []
  | _ => []

theorem length_remarks (components : List Component) (component : Component) :
    (remarks components component).length =
      (expressionsAt 0 (literalCount components) [component]).length := by
  cases component with
  | collectionExpression refinements =>
    rw [remarks, expressionsAt]
    split <;> rfl
  | _ => rfl

theorem exists_ignored {components : List Component} {component : Component} {notice : Notice}
    (given : notice ∈ remarks components component) :
    ∃ path, notice = .ignoredExpression path := by
  unfold remarks at given
  split at given
  · split at given
    · exact ⟨_, List.mem_singleton.mp given⟩
    · cases given
  · cases given

/-- In front of a literal that may come next, the two accounts of a walk agree. -/
theorem Stands.agree_of_fits {components : List Component} {cursor : Cursor Reference}
    (stands : Stands components cursor) {name : Text} (fits : (literal name).Fits components) :
    cursor.expectingCollection = (literalCount components % 2 == 0) ∧
      (named components).isRefined = false := by
  rw [← stands.reference]
  rcases Nat.mod_two_eq_zero_or_one (literalCount components) with even | odd
  · rw [even]
    exact stands.even even
  · rw [odd]
    exact (stands.odd odd).mpr (fits.2 odd)

theorem Stands.literal {components : List Component} {cursor : Cursor Reference}
    (stands : Stands components cursor) {name : Text} (fits : (literal name).Fits components) :
    Stands (components ++ [.literal name])
      { cursor with
        reference := named (components ++ [.literal name])
        expectingCollection := !cursor.expectingCollection } := by
  obtain ⟨expecting, unrefined⟩ := stands.agree_of_fits fits
  have counted : literalCount (components ++ [.literal name]) = literalCount components + 1 :=
    literalCount_concat components _
  have plain : (named (components ++ [.literal name])).isRefined = false := by
    rw [named_literal_of_unrefined unrefined]
    rfl
  refine ⟨rfl, fun even => ⟨?_, plain⟩, fun odd => ?_⟩
  · have odd : literalCount components % 2 = 1 := by omega
    simp [expecting, odd]
  · have even : literalCount components % 2 = 0 := by omega
    simp [expecting, even, plain, isUndisturbed_literal]

/-- A component that names nothing and refines no collection keeps a cursor where it stands, but
that an `all` makes it expect a collection. -/
theorem Stands.idle {components : List Component} {cursor next : Cursor Reference}
    (stands : Stands components cursor) {component : Component}
    (nameless : component.isLiteral = false)
    (unmoved : named (components ++ [component]) = named components)
    (reference : next.reference = cursor.reference)
    (even : literalCount components % 2 = 0 →
      next.expectingCollection = cursor.expectingCollection ∨ next.expectingCollection = true)
    (odd : literalCount components % 2 = 1 →
      (next.expectingCollection = false ↔
        cursor.expectingCollection = false ∧ component.IsCalm)) :
    Stands (components ++ [component]) next := by
  have counted : literalCount (components ++ [component]) = literalCount components := by
    rw [literalCount_concat, nameless]
    rfl
  refine ⟨by rw [reference, stands.reference, unmoved], fun stillEven => ?_, fun stillOdd => ?_⟩
  · rw [counted] at stillEven
    obtain ⟨expecting, unrefined⟩ := stands.even stillEven
    rw [reference]
    refine ⟨?_, unrefined⟩
    rcases even stillEven with same | set
    · rw [same, expecting]
    · exact set
  · rw [counted] at stillOdd
    rw [isUndisturbed_concat_iff (by omega) nameless, ← stands.odd stillOdd, odd stillOdd, reference,
      and_right_comm]

/-- A collection that takes refinements stays undisturbed exactly if there are none. -/
theorem Stands.refined {components : List Component} {cursor : Cursor Reference}
    (stands : Stands components cursor) (odd : literalCount components % 2 = 1)
    {refinements : List Refinement}
    (acceptable : ∀ refinement ∈ refinements, refinement.IsAcceptable) :
    Stands (components ++ [.collectionExpression refinements])
      { cursor with
        reference := cursor.reference.refinedBy (refinements.map Refinement.call) } := by
  have counted : literalCount (components ++ [.collectionExpression refinements]) =
      literalCount components := literalCount_concat components _
  refine ⟨?_, fun even => by omega, fun _ => ?_⟩
  · have nameless : literals [.collectionExpression refinements] = [] := rfl
    have met : expressionsAt 1 (literalCount components) [.collectionExpression refinements] =
        [refinements] := by
      rw [expressionsAt, if_pos odd]
      rfl
    rw [named_concat, stands.reference, named_eq, Reference.refinedBy_append, ← List.map_append,
      nameless, met, List.append_nil, List.flatten_singleton]
  · rw [isUndisturbed_concat_iff (by omega) rfl, ← stands.odd odd,
      Reference.isRefined_refinedBy acceptable, IsCalm, and_assoc]

/-- What a step from behind some components comes to if its component may stand there. -/
theorem Stands.exists_step {components : List Component} {cursor : Cursor Reference}
    (stands : Stands components cursor) {component : Component}
    (fits : component.Fits components) :
    ∃ next, Reference.navigation.step .permissive component cursor () =
        ⟨.ok next, remarks components component, ()⟩ ∧
      Stands (components ++ [component]) next := by
  cases component with
  | literal name =>
    have reached := (stands.enter_eq_ok_iff name).mpr ⟨fits, rfl⟩
    have entered : Reference.navigation.enter name cursor () =
        (.ok (named (components ++ [.literal name])), ()) := Prod.ext reached rfl
    rw [Navigation.step, entered]
    exact ⟨_, rfl, stands.literal fits⟩
  | all =>
    refine ⟨_, rfl, stands.idle rfl (named_concat_of_idle rfl rfl) rfl (fun _ => .inr rfl) fun _ => ?_⟩
    simp [IsCalm]
  | documentExpression fields =>
    refine ⟨_, rfl, stands.idle rfl (named_concat_of_idle rfl rfl) rfl (fun _ => .inl rfl) fun _ => ?_⟩
    simp [IsCalm]
  | collectionExpression refinements =>
    have collection : cursor.reference.isCollection = (literalCount components % 2 == 1) := by
      rw [stands.reference, isCollection_named]
    rw [Navigation.step, show Reference.navigation.isCollection cursor.reference =
      (literalCount components % 2 == 1) from collection, remarks]
    rcases Nat.mod_two_eq_zero_or_one (literalCount components) with even | odd
    · have unmet : expressionsAt 1 (literalCount components) [.collectionExpression refinements] =
          [] := by
        rw [expressionsAt, even]
        rfl
      have path : Reference.navigation.path cursor.reference =
          .text (Segments.path (literals components)) := by
        rw [stands.reference]
        rfl
      rw [even, if_neg (by decide), if_pos rfl, Navigation.misplaced, path]
      exact ⟨cursor, rfl, stands.idle rfl (named_concat_of_idle rfl unmet) rfl (fun _ => .inl rfl)
        fun odd => by omega⟩
    · rw [odd] at collection
      have reached := (Reference.refineAll_eq_ok_iff _ collection refinements).mpr ⟨fits odd, rfl⟩
      have refined : Reference.navigation.refineAll refinements cursor.reference () =
          (.ok (cursor.reference.refinedBy (refinements.map Refinement.call)), ()) :=
        Prod.ext reached rfl
      rw [odd, if_pos (by decide), if_neg (by decide), refined]
      exact ⟨_, rfl, stands.refined odd (fits odd)⟩

/-- A component that may not stand where it stands ends the walk. -/
theorem Stands.exists_failure {components : List Component} {cursor : Cursor Reference}
    (stands : Stands components cursor) {component : Component}
    (unfit : ¬ component.Fits components) :
    ∃ failure, (Reference.navigation.step .permissive component cursor ()).outcome =
      .error failure := by
  have stopped (expecting : Bool) {reached : Except Failure Reference × Unit}
      (refused : ∀ reference, reached.1 ≠ .ok reference) :
      ∃ failure, (Navigation.moved cursor expecting reached).outcome = .error failure := by
    obtain ⟨outcome, state⟩ := reached
    cases outcome with
    | error failure => exact ⟨failure, rfl⟩
    | ok reference => exact absurd rfl (refused reference)
  cases component with
  | literal name =>
    rw [Navigation.step]
    exact stopped _ fun reference reached => unfit ((stands.enter_eq_ok_iff name).mp reached).1
  | all => exact absurd trivial unfit
  | documentExpression fields => exact absurd trivial unfit
  | collectionExpression refinements =>
    rw [Fits, Classical.not_imp] at unfit
    obtain ⟨odd, unacceptable⟩ := unfit
    have collection : cursor.reference.isCollection = true := by
      rw [stands.reference, isCollection_named, odd]
      rfl
    rw [Navigation.step, show Reference.navigation.isCollection cursor.reference = true from
      collection, if_pos rfl]
    exact stopped _ fun reference reached =>
      unacceptable ((Reference.refineAll_eq_ok_iff _ collection refinements).mp reached).1

end Component

/-! ### Walks -/

namespace Navigation

variable {σ ρ : Type}

/-- A walk over one component more is the walk before it and one step. -/
theorem walk_concat (navigation : Navigation σ ρ) (mode : BuildMode)
    (components : List Component) (component : Component) (cursor : Cursor ρ) (state : σ) :
    navigation.walk mode (components ++ [component]) cursor state =
      match navigation.walk mode components cursor state with
      | ⟨.error failure, notices, after⟩ => ⟨.error failure, notices, after⟩
      | ⟨.ok next, notices, after⟩ =>
        let last := navigation.step mode component next after
        { last with notices := notices ++ last.notices } := by
  induction components generalizing cursor state with
  | nil =>
    rw [List.nil_append, walk, walk]
    dsimp only
    generalize navigation.step mode component cursor state = last
    obtain ⟨outcome, notices, after⟩ := last
    cases outcome <;> simp
  | cons first rest inductionHypothesis =>
    rw [List.cons_append, walk, walk]
    obtain ⟨outcome, notices, after⟩ := navigation.step mode first cursor state
    cases outcome with
    | error failure => rfl
    | ok next =>
      dsimp only
      rw [inductionHypothesis]
      obtain ⟨outcome, others, last⟩ := navigation.walk mode rest next after
      cases outcome <;> simp

end Navigation

theorem Reference.build_outcome (mode : BuildMode) (components : List Component) :
    (build mode components).outcome =
      (navigation.walk mode components (.start .root) ()).outcome.map fun cursor =>
        ⟨cursor.reference, cursor.projection⟩ := rfl

namespace Component

/-- The walk over a query that can be built, and over one that cannot. -/
theorem exists_walk (components : List Component) :
    (IsBuildable components → ∃ cursor notices,
      Reference.navigation.walk .permissive components (.start .root) () =
          ⟨.ok cursor, notices, ()⟩ ∧
        Stands components cursor ∧
        notices.length = (expressionsAt 0 0 components).length ∧
        ∀ notice ∈ notices, ∃ path, notice = .ignoredExpression path) ∧
    (¬ IsBuildable components → ∃ failure,
      (Reference.navigation.walk .permissive components (.start .root) ()).outcome =
        .error failure) := by
  induction components using List.reverseRecOn with
  | nil =>
    refine ⟨fun _ => ⟨_, [], rfl, stands_start, rfl, nofun⟩, fun unbuildable => ?_⟩
    exact absurd ⟨nofun, by simp, by simp⟩ unbuildable
  | append_singleton components component inductionHypothesis =>
    obtain ⟨built, refused⟩ := inductionHypothesis
    rw [Navigation.walk_concat]
    by_cases buildable : IsBuildable components
    · obtain ⟨cursor, notices, walked, stands, counted, ignored⟩ := built buildable
      rw [walked]
      refine ⟨fun longer => ?_, fun unbuildable => ?_⟩
      · obtain ⟨next, stepped, standsNext⟩ :=
          stands.exists_step (isBuildable_concat_iff.mp longer).2
        dsimp only
        rw [stepped]
        refine ⟨next, _, rfl, standsNext, ?_, fun notice member => ?_⟩
        · rw [List.length_append, length_remarks, counted, expressionsAt_concat, List.length_append]
        · exact (List.mem_append.mp member).elim (ignored notice) exists_ignored
      · exact stands.exists_failure fun fits =>
          unbuildable (isBuildable_concat_iff.mpr ⟨buildable, fits⟩)
    · obtain ⟨failure, failed⟩ := refused buildable
      refine ⟨fun longer => absurd (isBuildable_concat_iff.mp longer).1 buildable,
        fun _ => ⟨failure, ?_⟩⟩
      generalize Reference.navigation.walk .permissive components (.start .root) () = walked at failed
      obtain ⟨outcome, notices, state⟩ := walked
      cases failed
      rfl

/-! ### Building -/

/-- A query is built exactly if its names are clean, nothing disturbs a collection in front of its
document, and the refinements that meet a collection are acceptable. What is built is what it names,
and each collection expression that meets no collection is noticed once. -/
theorem build_eq_ok_iff (components : List Component) :
    (∀ reference, (Reference.build .permissive components).outcome.map Built.reference =
        .ok reference ↔ IsBuildable components ∧ reference = named components) ∧
      (IsBuildable components →
        (Reference.build .permissive components).notices.length =
            (expressionsAt 0 0 components).length ∧
          ∀ notice ∈ (Reference.build .permissive components).notices,
            ∃ path, notice = .ignoredExpression path) := by
  obtain ⟨built, refused⟩ := exists_walk components
  rw [Reference.build, Navigation.build]
  refine ⟨fun reference => ?_, fun buildable => ?_⟩
  · by_cases buildable : IsBuildable components
    · obtain ⟨cursor, notices, walked, stands, _⟩ := built buildable
      rw [walked]
      show (Except.ok cursor.reference : Except Failure Reference) = .ok reference ↔ _
      rw [stands.reference, Except.ok.injEq, eq_comm]
      exact ⟨fun same => ⟨buildable, same⟩, And.right⟩
    · obtain ⟨failure, failed⟩ := refused buildable
      dsimp only
      rw [failed]
      exact ⟨nofun, fun accepted => absurd accepted.1 buildable⟩
  · obtain ⟨cursor, notices, walked, _, counted, ignored⟩ := built buildable
    rw [walked]
    exact ⟨counted, ignored⟩

end Component

end DocQuery
