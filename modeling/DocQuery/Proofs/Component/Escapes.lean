/-
This file finds out which faults of reading a query do not come as parse failures.

Reading checks the kind of a value in most places and reports a parse failure if it is wrong. In
three places it does not: what holds the components of a query, what holds the parts of a component,
and what is taken for an entry of a collection expression. There the failure of the operation
that met the value comes through. So it does where a value is to be written and is not: a literal, a
field of a document expression, or an unknown type that is to be reported. Since reading stops at the
first fault, such a failure escapes exactly if everything in front of the value is read.

JSON text has two faults more that are no syntax faults and come through too.
-/

import DocQuery.Component.Decode

namespace DocQuery

/-! ### Failures that escape -/

@[simp] theorem Failure.family_parse (cause : ParseCause) : (parse cause).family = .parse := rfl

/-- What was to be read failed, and not with a parse failure. -/
def Escapes {α : Type} (outcome : Except Failure α) : Prop :=
  ∃ failure, outcome = .error failure ∧ failure.family ≠ .parse

namespace Escapes

variable {α β : Type}

@[simp] theorem ok (value : α) : ¬ Escapes (.ok value : Except Failure α) := by
  rintro ⟨failure, same, _⟩
  cases same

@[simp] theorem error_iff (failure : Failure) :
    Escapes (.error failure : Except Failure α) ↔ failure.family ≠ .parse := by
  simp [Escapes]

@[simp] theorem map_iff (outcome : Except Failure α) (change : α → β) :
    Escapes (outcome.map change) ↔ Escapes outcome := by
  cases outcome <;> simp [Except.map]

theorem bind_iff (outcome : Except Failure α) (next : α → Except Failure β) :
    Escapes (outcome.bind next) ↔
      Escapes outcome ∨ ∃ value, outcome = .ok value ∧ Escapes (next value) := by
  cases outcome <;> simp [Except.bind]

/-- Values are read one after the other up to the first fault, so a failure escapes from the first
value that is not read. -/
theorem all_iff (read : α → Except Failure β) (all : List α → Except Failure (List β))
    (nil : all [] = .ok [])
    (cons : ∀ value rest, all (value :: rest) =
      (read value).bind fun found => (all rest).map fun others => found :: others)
    (values : List α) :
    Escapes (all values) ↔ ∃ before value after, values = before ++ value :: after ∧
      (∀ earlier ∈ before, ∃ found, read earlier = .ok found) ∧ Escapes (read value) := by
  induction values with
  | nil => simp [nil]
  | cons value rest inductionHypothesis =>
    rw [cons, bind_iff]
    simp only [map_iff, inductionHypothesis]
    constructor
    · rintro (escaped | ⟨found, known, before, other, after, rfl, readBefore, escaped⟩)
      · exact ⟨[], value, rest, rfl, nofun, escaped⟩
      · exact ⟨value :: before, other, after, rfl,
          List.forall_mem_cons.mpr ⟨⟨found, known⟩, readBefore⟩, escaped⟩
    · rintro ⟨before, other, after, same, readBefore, escaped⟩
      cases before with
      | nil =>
        cases same
        exact .inl escaped
      | cons first others =>
        cases same
        obtain ⟨⟨found, known⟩, readOthers⟩ := List.forall_mem_cons.mp readBefore
        exact .inr ⟨found, known, others, other, after, rfl, readOthers, escaped⟩

end Escapes

/-! ### Values without items -/

theorem Value.escapes_items_iff (value : Value) :
    Escapes value.items ↔ value.hasItems = false := by
  cases value <;> simp [items, hasItems, Except.isOk, Except.toBool, Failure.unsuitable, Failure.family]

/-! ### Values that are not written -/

theorem TextFault.family_failure (fault : TextFault) : fault.failure.family ≠ .parse := by
  cases fault <;> exact nofun

theorem Value.escapes_toText_iff (levels : Nat) (value : Value) :
    Escapes (value.toText levels) ↔ ¬ value.HasText levels := by
  rw [toText, HasText]
  cases value.textFault? levels with
  | none => simp
  | some fault => simp [fault.family_failure]

theorem Value.escapes_toTexts_iff (levels : Nat) (values : List Value) :
    Escapes (toTexts levels values) ↔ ∃ value ∈ values, ¬ value.HasText levels := by
  induction values with
  | nil => simp [toTexts]
  | cons value rest inductionHypothesis =>
    rw [toTexts, Escapes.bind_iff]
    simp only [Escapes.map_iff, escapes_toText_iff, inductionHypothesis, List.mem_cons, or_and_right,
      exists_or, exists_eq_left]
    constructor
    · rintro (unwritten | ⟨_, _, later⟩)
      · exact .inl unwritten
      · exact .inr later
    · rintro (unwritten | later)
      · exact .inl unwritten
      · -- What stands behind a value counts only if the value itself is written.
        by_cases written : value.HasText levels
        · exact .inr ⟨value.displayed, toText_of_hasText written, later⟩
        · exact .inl written

/-- A parse failure that quotes a value is one exactly if the value is written. -/
theorem Failure.family_quoting_iff (levels : Nat) (value : Value) (cause : ParseCause) :
    (quoting levels value (parse cause)).family = .parse ↔ value.HasText levels := by
  rw [quoting, Value.HasText]
  cases value.textFault? levels with
  | none => simp
  | some fault => simp [fault.family_failure]

/-! ### Entries of collection expressions -/

namespace Refinement

variable {levels : Nat}

/-- A value that is taken for an entry of a collection expression though it is no map, or though its
type is not written. -/
def Trips (levels : Nat) (part : Value) : Prop :=
  (∀ entries, part ≠ .map entries) ∨ ∃ entries kind, part = .map entries ∧
    Entries.lookup "type" entries = some kind ∧ ¬ kind.HasText levels

theorem escapes_decode_iff (value : Value) :
    Escapes (decode levels value) ↔ Trips levels value := by
  have required_escapes (key : String) (entries : Entries) : ¬ Escapes (required key entries) := by
    unfold required
    split <;> simp
  cases value with
  | map entries =>
    rw [decode, decodeEntries, Trips]
    simp only [Escapes.bind_iff, required_escapes, required_eq_ok_iff, false_or, Value.map.injEq,
      exists_and_left, exists_eq_left', ne_eq, forall_eq']
    refine exists_congr fun kind => and_congr_right fun _ => ?_
    -- A type that is known is a text, so it is written.
    by_cases filter : kind = .text "where"
    · subst filter
      simp [Escapes.bind_iff, required_escapes]
    by_cases limit : kind = .text "limit"
    · subst limit
      simp [required_escapes]
    by_cases order : kind = .text "order"
    · subst order
      simp [required_escapes]
    · simp [filter, limit, order, Failure.family_quoting_iff]
  | _ => simp [decode, Trips, Failure.unsuitable, Failure.family]

/-- The first part that is no entry of a collection expression trips the reader. -/
def MeetsOther (levels : Nat) (parts : List Value) : Prop :=
  ∃ before part after, parts = before ++ part :: after ∧
    (∀ earlier ∈ before, ∃ refinement, decode levels earlier = .ok refinement) ∧
    Trips levels part

theorem escapes_decodeAll_iff (parts : List Value) :
    Escapes (decodeAll levels parts) ↔ MeetsOther levels parts := by
  rw [Escapes.all_iff (decode levels) (decodeAll levels) rfl (fun _ _ => rfl), MeetsOther]
  simp only [escapes_decode_iff]

end Refinement

/-! ### Components -/

namespace Component

variable {levels : Nat}

/-- What trips the reader in a map of some type: the type or the name of a literal is not written, the
parts cannot be gone through, or one of the parts is not written where it is taken for a field, or trips
the reader where it is taken for an entry. -/
def TripsIn (levels : Nat) (entries : Entries) (kind : Value) : Prop :=
  ¬ kind.HasText levels ∨
    (kind = .text "literal" ∧
      ∃ name, Entries.lookup "value" entries = some name ∧ ¬ name.HasText levels) ∨
    ∃ parts, Entries.lookup "components" entries = some parts ∧
      (kind = .text "documentExpression" ∧ (parts.hasItems = false ∨
          ∃ members, parts.items = .ok members ∧ ∃ member ∈ members, ¬ member.HasText levels) ∨
        kind = .text "collectionExpression" ∧ (parts.hasItems = false ∨
          ∃ members, parts.items = .ok members ∧ Refinement.MeetsOther levels members))

/-- A value that is taken for a component though something in it trips the reader. -/
def Trips (levels : Nat) (value : Value) : Prop :=
  ∃ entries kind, value = .map entries ∧ Entries.lookup "type" entries = some kind ∧
    TripsIn levels entries kind

theorem escapes_decodeTyped_iff (kind : Value) (entries : Entries) :
    Escapes (decodeTyped levels kind entries) ↔ TripsIn levels entries kind := by
  have required_escapes (component key : String) : ¬ Escapes (required component key entries) := by
    unfold required
    split <;> simp
  unfold decodeTyped
  rw [TripsIn]
  by_cases literal : kind = .text "literal"
  · subst literal
    simp [Escapes.bind_iff, required_escapes, required_eq_ok_iff, Value.escapes_toText_iff]
  by_cases all : kind = .text "all"
  · subst all
    simp
  by_cases collection : kind = .text "collectionExpression"
  · subst collection
    simp [Escapes.bind_iff, required_escapes, required_eq_ok_iff, Value.escapes_items_iff,
      Refinement.escapes_decodeAll_iff]
  by_cases document : kind = .text "documentExpression"
  · subst document
    simp [Escapes.bind_iff, required_escapes, required_eq_ok_iff, Value.escapes_items_iff,
      Value.escapes_toTexts_iff]
  · simp [literal, all, collection, document, Failure.family_quoting_iff]

theorem escapes_decode_iff (value : Value) :
    Escapes (decode levels value) ↔ Trips levels value := by
  cases value with
  | map entries =>
    rw [decode, Trips]
    cases found : Entries.lookup "type" entries with
    | none => simp [found]
    | some kind => simp [found, escapes_decodeTyped_iff]
  | _ => simp [decode, Trips]

end Component

/-! ### Queries -/

/-- A value in which something is gone through that has no items, or taken for a map that is none, or to
be written though it is not, before anything else is found to be wrong. -/
def Value.Trips (levels : Nat) (value : Value) : Prop :=
  value.hasItems = false ∨ ∃ before component after,
    value = .list (before ++ component :: after) ∧
      (∀ earlier ∈ before, ∃ found, Component.decode levels earlier = .ok found) ∧
      Component.Trips levels component

theorem escapes_decodeQuery_iff (levels : Nat) (value : Value) :
    Escapes (decodeQuery levels value) ↔ value.Trips levels := by
  have members (found : List Value) :
      Escapes (Component.decodeMixedAll levels (found.map .inr)) ↔ ∃ before component after,
        found = before ++ component :: after ∧
          (∀ earlier ∈ before, ∃ component, Component.decode levels earlier = .ok component) ∧
          Component.Trips levels component := by
    rw [Escapes.all_iff (Component.decode levels)
      (fun found => Component.decodeMixedAll levels (found.map .inr)) rfl (fun _ _ => rfl)]
    simp only [Component.escapes_decode_iff]
  rw [decodeQuery, Escapes.bind_iff, Value.Trips]
  cases value with
  | list found =>
    have itemised : Value.hasItems (.list found) = true := rfl
    have read : queryMembers (.list found) = .ok found := rfl
    simp only [read, Escapes.ok, Except.ok.injEq, exists_eq_left', members, itemised, false_or,
      Bool.true_eq_false, Value.list.injEq]
  | null | bool flag | int number | float number =>
    simp [queryMembers, Value.items, Value.hasItems, Except.isOk, Except.toBool,
      Failure.unsuitable, Failure.family]
  | text content | bytes content | map entries | direction sense =>
    simp [queryMembers, Value.items, Value.hasItems, Except.isOk, Except.toBool]

theorem escapes_decodeQueryJson_iff (read written : Nat) (text : Text) :
    Escapes (decodeQueryJson read written text) ↔
      (∃ fault, Json.read read text = .error fault ∧ fault ≠ .malformed) ∨
        ∃ value, Json.read read text = .ok value ∧ value.Trips written := by
  rw [decodeQueryJson]
  cases Json.read read text with
  | error fault => cases fault <;> simp [Json.ReadFault.failure, Failure.family]
  | ok value => simp [escapes_decodeQuery_iff]

/-- Reading a query gives components or a parse failure, but for values that trip it, and for JSON
text that holds such a value, a numeral of too many digits, or something that lies too deep. -/
theorem escapes_iff_trips (read written : Nat) (value : Value) (text : Text) :
    (Escapes (decodeQuery written value) ↔ value.Trips written) ∧
      (Escapes (decodeQueryJson read written text) ↔
        (∃ fault, Json.read read text = .error fault ∧ fault ≠ .malformed) ∨
          ∃ found, Json.read read text = .ok found ∧ found.Trips written) :=
  ⟨escapes_decodeQuery_iff written value, escapes_decodeQueryJson_iff read written text⟩

/-- A failure escapes from a number at the top, and from one among the entries of an expression. -/
theorem exists_escape :
    Escapes (decodeQueryJson Json.nestingLimit Json.nestingLimit "5") ∧
      Escapes (decodeQuery Json.nestingLimit (.list [.map [("type", .text "collectionExpression"),
        ("components", .list [.int 0])]])) :=
  ⟨⟨_, rfl, by decide⟩, ⟨_, rfl, by decide⟩⟩

end DocQuery
