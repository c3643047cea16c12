/-
This file says which values are read as components, and as which, and what reading them again gives.

The raw form of a query is a list of maps. `Component.Spells` gives it as a grammar, with one rule for
each type of a component, and `Refinement.Spells` with one for each type of an entry of a collection
expression. A rule names the keys that it asks for; further keys are passed over. Reading accepts what
the grammar spells and nothing else, and it gives what is spelled, one component for each member of the
list, in the order of the list.

What becomes a text has to be within the limits of writing, which the rules of literals and of document
expressions ask for: a literal that is an integer of too many digits has all that a literal needs, but it
is not read.

A component that was read stands for itself, and what it is written as is read as itself. So reading
a query again gives the same components, from whatever is written of them, and from whatever beginning
of the query is handed over as what it was read as.
-/

import DocQuery.Proofs.Component.RoundTrip
import DocQuery.Proofs.Value.Limits
import Mathlib.Data.List.Forall2

namespace DocQuery

/-! ### Outcomes -/

section Outcomes

variable {α β : Type}

theorem map_eq_ok_iff {outcome : Except Failure α} {change : α → β} {value : β} :
    outcome.map change = .ok value ↔ ∃ found, outcome = .ok found ∧ change found = value := by
  cases outcome <;> simp [Except.map]

theorem bind_eq_ok_iff {outcome : Except Failure α} {next : α → Except Failure β} {value : β} :
    outcome.bind next = .ok value ↔ ∃ found, outcome = .ok found ∧ next found = .ok value := by
  cases outcome <;> simp [Except.bind]

/-- Values are read one after the other, each as what it is read as alone. -/
theorem all_eq_ok_iff (read : α → Except Failure β) (all : List α → Except Failure (List β))
    (nil : all [] = .ok [])
    (cons : ∀ value rest, all (value :: rest) =
      (read value).bind fun found => (all rest).map fun others => found :: others)
    {values : List α} {found : List β} :
    all values = .ok found ↔
      List.Forall₂ (fun value item => read value = .ok item) values found := by
  induction values generalizing found with
  | nil =>
    rw [nil, List.forall₂_nil_left_iff, Except.ok.injEq]
    exact eq_comm
  | cons value rest inductionHypothesis =>
    rw [cons]
    constructor
    · intro done
      obtain ⟨first, known, later⟩ := bind_eq_ok_iff.mp done
      obtain ⟨others, remaining, rfl⟩ := map_eq_ok_iff.mp later
      exact .cons known (inductionHypothesis.mp remaining)
    · rintro (_ | ⟨known, remaining⟩)
      exact bind_eq_ok_iff.mpr
        ⟨_, known, map_eq_ok_iff.mpr ⟨_, inductionHypothesis.mpr remaining, rfl⟩⟩

/-- A list is related to another if each of its members is related to something. -/
theorem exists_forall₂_iff (relation : α → β → Prop) (values : List α) :
    (∃ items, List.Forall₂ relation values items) ↔
      ∀ value ∈ values, ∃ item, relation value item := by
  induction values with
  | nil => simp
  | cons value rest inductionHypothesis =>
    rw [List.forall_mem_cons, ← inductionHypothesis]
    constructor
    · rintro ⟨_, related | ⟨first, others⟩⟩
      exact ⟨⟨_, first⟩, _, others⟩
    · rintro ⟨⟨item, first⟩, items, others⟩
      exact ⟨item :: items, .cons first others⟩

end Outcomes

/-! ### Texts -/

theorem Value.toTexts_eq_ok_iff {levels : Nat} {values : List Value} {texts : List Text} :
    toTexts levels values = .ok texts ↔
      (∀ value ∈ values, value.Within levels) ∧ texts = values.map displayed := by
  rw [all_eq_ok_iff (toText levels) (toTexts levels) rfl fun _ _ => rfl]
  simp only [toText_eq_ok_iff, hasText_iff, List.forall₂_and_left]
  refine and_congr_right fun _ => ?_
  calc List.Forall₂ (fun value text => text = displayed value) values texts
      ↔ List.Forall₂ Eq (values.map displayed) texts := by
        simp only [List.forall₂_map_left_iff, eq_comm]
    _ ↔ texts = values.map displayed := by rw [List.forall₂_eq_eq_eq, eq_comm]

/-! ### Directions -/

/-- A value that stands for the ascending direction: one, or the direction itself. -/
def Value.Ascends (value : Value) : Prop :=
  value.same (.int 1) = true ∨ value = .direction .ascending

theorem Direction.decode_eq_ascending_iff (value : Value) :
    decode value = .ascending ↔ value.Ascends := by
  cases value with
  | direction sense =>
    have other : Value.same (.direction sense) (.int 1) = false := rfl
    simp [decode, Value.Ascends, other]
  | _ => simp [decode, Value.Ascends]

/-- The direction under a key is ascending exactly if there is a value for it that says so. -/
theorem Direction.eq_decode_iff (given : Option Value) (direction : Direction) :
    direction = decode (given.getD .null) ↔
      (direction = .ascending ↔ ∃ value, given = some value ∧ value.Ascends) := by
  have sense : decode (given.getD .null) = .ascending ↔
      ∃ value, given = some value ∧ value.Ascends := by
    cases given with
    | none => exact ⟨nofun, nofun⟩
    | some value => simpa using decode_eq_ascending_iff value
  rw [← sense]
  cases direction <;> cases decode (given.getD .null) <;> simp

/-! ### Entries of collection expressions -/

namespace Refinement

/-- A value is the raw form of a refinement. -/
inductive Spells : Value → Refinement → Prop
  | filter {entries : Entries} {field operator : Value}
      (type : entries.lookup "type" = some (.text "where"))
      (named : entries.lookup "field" = some field)
      (compared : entries.lookup "operator" = some operator) :
      Spells (.map entries) (.filter field operator ((entries.lookup "value").getD .null))
  | limit {entries : Entries} {count : Value}
      (type : entries.lookup "type" = some (.text "limit"))
      (counted : entries.lookup "limit" = some count) :
      Spells (.map entries) (.limit count)
  | order {entries : Entries} {field : Value} {direction : Direction}
      (type : entries.lookup "type" = some (.text "order"))
      (named : entries.lookup "field" = some field)
      (sense : direction = .ascending ↔
        ∃ value, entries.lookup "direction" = some value ∧ value.Ascends) :
      Spells (.map entries) (.order field direction)

theorem decode_eq_ok_iff {levels : Nat} {value : Value} {refinement : Refinement} :
    decode levels value = .ok refinement ↔ Spells value refinement := by
  constructor
  · intro read
    cases value with
    | map entries =>
      rw [decode, decodeEntries] at read
      obtain ⟨kind, found, read⟩ := bind_eq_ok_iff.mp read
      have type := required_eq_ok_iff.mp found
      split at read
      · next filter =>
        obtain ⟨field, named, read⟩ := bind_eq_ok_iff.mp read
        obtain ⟨operator, compared, rfl⟩ := map_eq_ok_iff.mp read
        exact .filter (filter ▸ type) (required_eq_ok_iff.mp named)
          (required_eq_ok_iff.mp compared)
      · split at read
        · next limit =>
          obtain ⟨count, counted, rfl⟩ := map_eq_ok_iff.mp read
          exact .limit (limit ▸ type) (required_eq_ok_iff.mp counted)
        · split at read
          · next order =>
            obtain ⟨field, named, rfl⟩ := map_eq_ok_iff.mp read
            exact .order (order ▸ type) (required_eq_ok_iff.mp named)
              ((Direction.eq_decode_iff _ _).mp rfl)
          · cases read
    | _ => cases read
  · rintro (⟨type, named, compared⟩ | ⟨type, counted⟩ | ⟨type, named, sense⟩)
    · simp [decode, decodeEntries, required, type, named, compared, Except.bind, Except.map]
    · simp [decode, decodeEntries, required, type, counted, Except.bind, Except.map]
    · rw [(Direction.eq_decode_iff _ _).mpr sense]
      simp [decode, decodeEntries, required, type, named, Except.bind, Except.map]

theorem decodeAll_eq_ok_iff (levels : Nat) {values : List Value} {refinements : List Refinement} :
    decodeAll levels values = .ok refinements ↔ List.Forall₂ Spells values refinements := by
  rw [all_eq_ok_iff (decode levels) (decodeAll levels) rfl fun _ _ => rfl]
  simp only [decode_eq_ok_iff]

end Refinement

/-! ### Components -/

namespace Component

/-- A value is the raw form of a component, where a writer goes into so many levels. -/
inductive Spells (levels : Nat) : Value → Component → Prop
  | literal {entries : Entries} {value : Value}
      (type : entries.lookup "type" = some (.text "literal"))
      (named : entries.lookup "value" = some value) (within : value.Within levels) :
      Spells levels (.map entries) (.literal value.displayed)
  | all {entries : Entries} (type : entries.lookup "type" = some (.text "all")) :
      Spells levels (.map entries) .all
  | collectionExpression {entries : Entries} {parts : Value} {members : List Value}
      {refinements : List Refinement}
      (type : entries.lookup "type" = some (.text "collectionExpression"))
      (found : entries.lookup "components" = some parts) (listed : parts.items = .ok members)
      (each : List.Forall₂ Refinement.Spells members refinements) :
      Spells levels (.map entries) (.collectionExpression refinements)
  | documentExpression {entries : Entries} {parts : Value} {members : List Value}
      (type : entries.lookup "type" = some (.text "documentExpression"))
      (found : entries.lookup "components" = some parts) (listed : parts.items = .ok members)
      (within : ∀ member ∈ members, member.Within levels) :
      Spells levels (.map entries) (.documentExpression (members.map Value.displayed))

variable {levels : Nat}

theorem Spells.lookup_type_ne_none {entries : Entries} {component : Component}
    (spelled : Spells levels (.map entries) component) : entries.lookup "type" ≠ none := by
  cases spelled <;> simp [*]

theorem decodeTyped_eq_ok_iff {kind : Value} {entries : Entries} {component : Component}
    (type : entries.lookup "type" = some kind) :
    decodeTyped levels kind entries = .ok component ↔ Spells levels (.map entries) component := by
  constructor
  · intro read
    rw [decodeTyped] at read
    split at read
    · next literal =>
      obtain ⟨value, found, read⟩ := bind_eq_ok_iff.mp read
      obtain ⟨name, written, rfl⟩ := map_eq_ok_iff.mp read
      obtain ⟨within, rfl⟩ := Value.toText_eq_ok_iff.mp written
      exact .literal (literal ▸ type) (required_eq_ok_iff.mp found) (Value.hasText_iff.mp within)
    · split at read
      · next all =>
        cases read
        exact .all (all ▸ type)
      · split at read
        · next collection =>
          obtain ⟨parts, found, read⟩ := bind_eq_ok_iff.mp read
          obtain ⟨members, listed, read⟩ := bind_eq_ok_iff.mp read
          obtain ⟨refinements, each, rfl⟩ := map_eq_ok_iff.mp read
          exact .collectionExpression (collection ▸ type) (required_eq_ok_iff.mp found) listed
            ((Refinement.decodeAll_eq_ok_iff levels).mp each)
        · split at read
          · next document =>
            obtain ⟨parts, found, read⟩ := bind_eq_ok_iff.mp read
            obtain ⟨members, listed, read⟩ := bind_eq_ok_iff.mp read
            obtain ⟨fields, written, rfl⟩ := map_eq_ok_iff.mp read
            obtain ⟨within, rfl⟩ := Value.toTexts_eq_ok_iff.mp written
            exact .documentExpression (document ▸ type) (required_eq_ok_iff.mp found) listed within
          · cases read
  · rintro (⟨known, named, within⟩ | ⟨known⟩ | ⟨known, found, listed, each⟩ |
      ⟨known, found, listed, within⟩) <;> cases type.symm.trans known
    · have written := Value.toText_of_hasText (Value.hasText_iff.mpr within)
      simp [decodeTyped, required, named, written, Except.bind, Except.map]
    · rfl
    · have read := (Refinement.decodeAll_eq_ok_iff levels).mpr each
      simp [decodeTyped, required, found, listed, read, Except.bind, Except.map]
    · have written := Value.toTexts_eq_ok_iff.mpr ⟨within, rfl⟩
      simp [decodeTyped, required, found, listed, written, Except.bind, Except.map]

theorem decode_eq_ok_iff {value : Value} {component : Component} :
    decode levels value = .ok component ↔ Spells levels value component := by
  cases value with
  | map entries =>
    cases type : Entries.lookup "type" entries with
    | some kind =>
      rw [← decodeTyped_eq_ok_iff type]
      simp only [decode, type]
    | none =>
      simp only [decode, type]
      exact ⟨nofun, fun spelled => absurd type spelled.lookup_type_ne_none⟩
  | _ => exact ⟨nofun, nofun⟩

theorem decodeMixedAll_eq_ok_iff {members : List Mixed} {components : List Component} :
    decodeMixedAll levels members = .ok components ↔
      List.Forall₂ (fun member component => decodeMixed levels member = .ok component)
        members components :=
  all_eq_ok_iff (decodeMixed levels) (decodeMixedAll levels) rfl fun _ _ => rfl

theorem decodeAll_eq_ok_iff {members : List Value} {components : List Component} :
    decodeMixedAll levels (members.map .inr) = .ok components ↔
      List.Forall₂ (Spells levels) members components := by
  rw [decodeMixedAll_eq_ok_iff, List.forall₂_map_left_iff]
  simp only [decodeMixed, decode_eq_ok_iff]

end Component

/-! ### Queries -/

theorem queryMembers_eq_ok_iff {value : Value} {members : List Value} :
    queryMembers value = .ok members ↔ value = .list members := by
  cases value <;> simp [queryMembers, Value.items]

/-- A query is read exactly if it is a list in which every value is the raw form of a component, and
what is read are these components, one for each value and in the same order. -/
theorem decodeQuery_eq_ok_iff_spells (levels : Nat) (value : Value) :
    ((∃ components, decodeQuery levels value = .ok components) ↔
        ∃ members, value = .list members ∧
          ∀ member ∈ members, ∃ component, Component.Spells levels member component) ∧
      ∀ components, decodeQuery levels value = .ok components ↔
        ∃ members, value = .list members ∧
          List.Forall₂ (Component.Spells levels) members components := by
  have reads (components : List Component) : decodeQuery levels value = .ok components ↔
      ∃ members, value = .list members ∧
        List.Forall₂ (Component.Spells levels) members components := by
    rw [decodeQuery, bind_eq_ok_iff]
    simp only [queryMembers_eq_ok_iff, Component.decodeAll_eq_ok_iff]
  refine ⟨?_, reads⟩
  calc (∃ components, decodeQuery levels value = .ok components)
      ↔ ∃ members, value = .list members ∧
          ∃ components, List.Forall₂ (Component.Spells levels) members components := by
        simp only [reads, exists_and_left, exists_comm (α := List Component)]
    _ ↔ ∃ members, value = .list members ∧
          ∀ member ∈ members, ∃ component, Component.Spells levels member component := by
        simp only [exists_forall₂_iff]

/-- A query with a number for a name, with a comparison without a value and a direction that is a truth
value, and with a text for a list of fields. -/
def looseQuery : List Value :=
  [.map [("value", .int (-7)), ("type", .text "literal")],
    .map [("type", .text "collectionExpression"), ("components", .list
      [.map [("type", .text "where"), ("field", .text "age"), ("operator", .text "==")],
        .map [("type", .text "order"), ("field", .text "age"), ("direction", .bool true)]])],
    .map [("type", .text "documentExpression"), ("components", .text "xy"), ("note", .null)]]

/-- What the loose query is read as. -/
def looseComponents : List Component :=
  [.literal "-7",
    .collectionExpression [.filter (.text "age") (.text "==") .null, .order (.text "age") .ascending],
    .documentExpression ["x", "y"]]

theorem decodeQuery_eq_ok_iff_spells_loose :
    decodeQuery 0 (.list looseQuery) = .ok looseComponents ∧
      List.Forall₂ (Component.Spells 0) looseQuery looseComponents := by
  have read : decodeQuery 0 (.list looseQuery) = .ok looseComponents := rfl
  obtain ⟨members, same, spelled⟩ :=
    ((decodeQuery_eq_ok_iff_spells 0 (.list looseQuery)).2 looseComponents).mp read
  cases same
  exact ⟨read, spelled⟩

/-- The raw form of a literal whose value is an integer. -/
def numbered (number : Int) : Entries := [("type", .text "literal"), ("value", .int number)]

theorem decodeQuery_numbered (levels : Nat) {number : Int} (long : ¬ IsShort number) :
    decodeQuery levels (.list [.map (numbered number)]) = .error TextFault.tooManyDigits.failure := by
  have unwritten : Value.toText levels (.int number) = .error TextFault.tooManyDigits.failure := by
    rw [Value.toText, Value.textFault?, TextFault.ofInt?, if_pos (Nat.lt_of_not_le long)]
  exact congrArg (fun written => (written.map Component.literal).map fun component => [component])
    unwritten

/-- A literal with its value is not always read, however many levels there are: ten to the power of the
greatest number of digits has one too many. -/
theorem decodeQuery_numbered_pow :
    (numbered (10 ^ Json.digitLimit)).lookup "type" = some (.text "literal") ∧
      (numbered (10 ^ Json.digitLimit)).lookup "value" = some (.int (10 ^ Json.digitLimit)) ∧
      ∀ levels components, decodeQuery levels (.list [.map (numbered (10 ^ Json.digitLimit))]) ≠
        .ok components := by
  have long : ¬ IsShort (10 ^ Json.digitLimit) :=
    Nat.not_le_of_lt (Json.lt_length_toDigits_pow (show 0 < Json.digitLimit by decide))
  refine ⟨rfl, rfl, fun levels components read => ?_⟩
  rw [decodeQuery_numbered levels long] at read
  cases read

/-! ### Reading again -/

/-- A sequence, raw or mixed, is read as before if members at its beginning are replaced by what they
were read as. -/
theorem Component.decodeMixedAll_take_append_drop {levels : Nat} {members : List Mixed}
    {components : List Component} (read : decodeMixedAll levels members = .ok components)
    (count : Nat) :
    decodeMixedAll levels ((components.take count).map .inl ++ members.drop count) =
      .ok components := by
  rw [decodeMixedAll_eq_ok_iff] at read ⊢
  have typed : List.Forall₂ (fun member component => decodeMixed levels member = .ok component)
      ((components.take count).map .inl) (components.take count) := by
    rw [List.forall₂_map_left_iff, List.forall₂_same]
    exact fun _ _ => rfl
  have spliced := List.rel_append typed (List.forall₂_drop count read)
  simpa only [List.take_append_drop] using spliced

/-- A query is read back from what it is written as. A query that was read from a list of values gives
the same components when it is read again from what they are written as, or from any number of them
followed by the values that are left. -/
theorem decodeQuery_rereads (levels : Nat) :
    (∀ components, decodeQuery levels (encodeQuery components) = .ok components) ∧
      ∀ members components, decodeQuery levels (.list members) = .ok components →
        decodeQuery levels (encodeQuery components) = .ok components ∧
          ∀ count, Component.decodeMixedAll levels
            ((components.take count).map .inl ++ (members.drop count).map .inr) = .ok components := by
  refine ⟨decodeQuery_encodeQuery levels, fun members components read => ?_⟩
  refine ⟨decodeQuery_encodeQuery levels components, fun count => ?_⟩
  rw [List.map_drop]
  exact Component.decodeMixedAll_take_append_drop read count

theorem decodeQuery_rereads_loose :
    decodeQuery 0 (.list looseQuery) = .ok looseComponents ∧
      decodeQuery 0 (encodeQuery looseComponents) = .ok looseComponents ∧
      Component.decodeMixedAll 0
        ((looseComponents.take 1).map .inl ++ (looseQuery.drop 1).map .inr) = .ok looseComponents :=
  have again := (decodeQuery_rereads 0).2 looseQuery looseComponents rfl
  ⟨rfl, again.1, again.2 1⟩

end DocQuery
