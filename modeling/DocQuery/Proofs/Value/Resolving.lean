/-
This file proves that dotted names compose.

A name is cut at every dot, and the pieces are the keys that are followed through nested maps. Cutting
two names with a dot between them gives the keys of the one and then those of the other, empty pieces
included, so the longer name leads where the second leads from where the first does. Keys without dots
come back from the name they make, and then following them is looking each of them up in the value that
the one before has led to; it fails at the first that has nothing there.
-/

import DocQuery.Value.Conversion

namespace DocQuery

namespace Value

/-! ### Following keys -/

/-- The value under a key of a map; anything else has no keys. -/
def child? (key : Text) : Value → Option Value
  | .map entries => Entries.lookup key entries
  | _ => none

/-- A key has no value if it is absent, or if there is no map. -/
theorem child?_eq_none_iff {key : Text} {value : Value} :
    value.child? key = none ↔ ∀ entries, value = .map entries → .text key ∉ Entries.keys entries := by
  cases value with
  | map entries =>
    rw [child?, Entries.lookup_eq_none_iff]
    exact ⟨fun absent _ same => Value.map.inj same ▸ absent, fun absent => absent entries rfl⟩
  | _ => exact iff_of_true rfl nofun

theorem walk_cons (key : Text) (rest : List Text) (value : Value) :
    value.walk (key :: rest) = (value.child? key).bind (walk rest) := by
  cases value <;> rfl

/-- Following keys is looking them up one after the other. -/
theorem walk_eq_foldlM (keys : List Text) (value : Value) :
    value.walk keys = keys.foldlM (fun reached key => reached.child? key) value := by
  induction keys generalizing value with
  | nil => rfl
  | cons key rest inductionHypothesis =>
    rw [walk_cons, List.foldlM_cons]
    exact congrArg _ (funext inductionHypothesis)

/-- Keys lead nowhere exactly if one of them has no value where those before it lead. -/
theorem walk_eq_none_iff_exists {keys : List Text} {value : Value} :
    value.walk keys = none ↔ ∃ before key after reached, keys = before ++ key :: after ∧
      value.walk before = some reached ∧ reached.child? key = none := by
  constructor
  · intro nowhere
    induction keys generalizing value with
    | nil => cases nowhere
    | cons key rest inductionHypothesis =>
      rw [walk_cons] at nowhere
      cases found : value.child? key with
      | none => exact ⟨[], key, rest, value, rfl, rfl, found⟩
      | some inner =>
        rw [found] at nowhere
        obtain ⟨before, last, after, reached, rfl, leads, absent⟩ := inductionHypothesis nowhere
        exact ⟨key :: before, last, after, reached, rfl, by rw [walk_cons, found]; exact leads, absent⟩
  · rintro ⟨before, key, after, reached, rfl, leads, absent⟩
    rw [walk_append, leads, Option.bind_some, walk_cons, absent, Option.bind_none]

/-! ### Dotted names -/

/-- The keys of two names with a dot between them. -/
theorem nameParts_append (first second : Text) :
    nameParts (first ++ "." ++ second) = nameParts first ++ nameParts second := by
  rw [List.append_assoc]
  exact Text.split_append_cons '.' first second

/-- Two names with a dot between them lead where the second leads from where the first does. -/
theorem resolve_append (first second : Text) (value : Value) :
    value.resolve (first ++ "." ++ second) = (value.resolve first).bind (resolve second) := by
  rw [resolve, nameParts_append, walk_append]
  rfl

/-- The name that keys without dots make leads where the keys do. -/
theorem resolve_join {keys : List Text} (given : keys ≠ [])
    (undotted : ∀ key ∈ keys, CodePoint.char '.' ∉ key) (value : Value) :
    value.resolve (Text.join '.' keys) = value.walk keys := by
  rw [resolve, nameParts, Text.split_join '.' keys given undotted]

/-- Dotted names compose, whatever dots they begin or end with: two names with a dot between them lead
nowhere if the first does, and otherwise where the second leads from there. The name that keys without
dots make is a lookup of the keys one after the other through nested maps, and it leads nowhere exactly
if some of the keys lead to a value that is no map or does not have the next key. -/
theorem resolve_composes (value : Value) :
    (∀ first second : Text, value.resolve (first ++ "." ++ second) =
        match value.resolve first with
        | none => none
        | some reached => reached.resolve second) ∧
      ∀ keys : List Text, keys ≠ [] → (∀ key ∈ keys, CodePoint.char '.' ∉ key) →
        value.resolve (Text.join '.' keys) =
            keys.foldlM (fun reached key => reached.child? key) value ∧
          (value.resolve (Text.join '.' keys) = none ↔
            ∃ before key after reached, keys = before ++ key :: after ∧
              before.foldlM (fun reached key => reached.child? key) value = some reached ∧
              ∀ entries, reached = .map entries → .text key ∉ Entries.keys entries) := by
  refine ⟨fun first second => ?_, fun keys given undotted => ⟨?_, ?_⟩⟩
  · rw [resolve_append]
    cases value.resolve first <;> rfl
  · rw [resolve_join given undotted, walk_eq_foldlM]
  · rw [resolve_join given undotted, walk_eq_none_iff_exists]
    simp only [walk_eq_foldlM, child?_eq_none_iff]

/-- A map with an empty key, under which lies another map with one. -/
def hollow : Value :=
  .map [(("" : Text), .map [(("" : Text), .int 1), (("city" : Text), .int 2)])]

/-- Keys that lead through the empty one, and then ask a number for a street. -/
def hollowKeys : List Text := ["", "city", "street"]

theorem resolve_composes_hollow :
    hollowKeys ≠ [] ∧ (∀ key ∈ hollowKeys, CodePoint.char '.' ∉ key) ∧
      hollow.resolve (Text.join '.' hollowKeys) =
          hollowKeys.foldlM (fun reached key => reached.child? key) hollow ∧
        (hollow.resolve (Text.join '.' hollowKeys) = none ↔
          ∃ before key after reached, hollowKeys = before ++ key :: after ∧
            before.foldlM (fun reached key => reached.child? key) hollow = some reached ∧
            ∀ entries, reached = .map entries → .text key ∉ Entries.keys entries) :=
  ⟨by decide, by decide, (resolve_composes hollow).2 hollowKeys (by decide) (by decide)⟩

/-- An empty piece of a name is an empty key. -/
example : hollow.resolve "." = some (.int 1) ∧ hollow.resolve ".." = none ∧
    hollow.resolve ".city" = some (.int 2) ∧ hollow.resolve "city." = none := by
  decide

end Value

end DocQuery
