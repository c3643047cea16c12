/-
This file reads components from values.

A parser hands over a query as a list of maps, each with its type under the key `type`. A list
may mix such maps with components that are typed already; these pass unchanged. What does not
follow the form is a parse failure, and where a list or a map is expected and something quite
different is found, the failure of the operation that met it comes through.

A literal and the fields of a document expression become texts whatever they are, unless they are
not written at all, which depends on how many levels a writer goes into. All values inside refinements
stay as they are, except directions: one means ascending, a direction means itself, and everything
else, nothing included, means descending.
-/

import DocQuery.Component.Basic
import DocQuery.Json.Reader
import DocQuery.Value.Conversion
import DocQuery.Value.Order
import DocQuery.Value.Written

namespace DocQuery

/-! ### Refinements -/

/-- The direction that a value encodes. -/
def Direction.decode : Value → Direction
  | .direction sense => sense
  | value => if value.same (.int 1) then .ascending else .descending

namespace Refinement

/-- The value of a key that an entry of a collection expression has to have. -/
def required (key : String) (entries : Entries) : Except Failure Value :=
  match entries.lookup key with
  | some value => .ok value
  | none => .error (.parse (.missingEntryField key))

theorem required_eq_ok_iff {key : String} {entries : Entries} {value : Value} :
    required key entries = .ok value ↔ entries.lookup key = some value := by
  unfold required
  split <;> simp [*]

/-- Reads one entry of a collection expression from its map. -/
def decodeEntries (levels : Nat) (entries : Entries) : Except Failure Refinement :=
  (required "type" entries).bind fun kind =>
    if kind = .text "where" then
      (required "field" entries).bind fun field =>
        (required "operator" entries).map fun operator =>
          .filter field operator ((entries.lookup "value").getD .null)
    else if kind = .text "limit" then
      (required "limit" entries).map fun count => .limit count
    else if kind = .text "order" then
      (required "field" entries).map fun field =>
        .order field (Direction.decode ((entries.lookup "direction").getD .null))
    else .error (.quoting levels kind (.parse (.unknownEntry kind)))

/-- Reads one entry of a collection expression. -/
def decode (levels : Nat) (value : Value) : Except Failure Refinement :=
  match value with
  | .map entries => decodeEntries levels entries
  | _ => .error (.unsuitable value)

/-- Reads entries in order; the first fault is the answer. -/
def decodeAll (levels : Nat) : List Value → Except Failure (List Refinement)
  | [] => .ok []
  | value :: rest =>
    (decode levels value).bind fun refinement =>
      (decodeAll levels rest).map fun refinements => refinement :: refinements

end Refinement

/-! ### Components -/

namespace Component

/-- The value of a key that a component of a type has to have. -/
def required (kind key : String) (entries : Entries) : Except Failure Value :=
  match entries.lookup key with
  | some value => .ok value
  | none => .error (.parse (.missingField kind key))

theorem required_eq_ok_iff {kind key : String} {entries : Entries} {value : Value} :
    required kind key entries = .ok value ↔ entries.lookup key = some value := by
  unfold required
  split <;> simp [*]

/-- Reads a component of a given type from its map. -/
def decodeTyped (levels : Nat) (kind : Value) (entries : Entries) : Except Failure Component :=
  if kind = .text "literal" then
    (required "literal" "value" entries).bind fun value =>
      (value.toText levels).map fun name => .literal name
  else if kind = .text "all" then .ok .all
  else if kind = .text "collectionExpression" then
    (required "collectionExpression" "components" entries).bind fun parts =>
      parts.items.bind fun members =>
        (Refinement.decodeAll levels members).map fun refinements => .collectionExpression refinements
  else if kind = .text "documentExpression" then
    (required "documentExpression" "components" entries).bind fun parts =>
      parts.items.bind fun members =>
        (Value.toTexts levels members).map fun fields => .documentExpression fields
  else .error (.quoting levels kind (.parse (.unknownType kind)))

/-- Reads one component. -/
def decode (levels : Nat) (value : Value) : Except Failure Component :=
  match value with
  | .map entries =>
    match Entries.lookup "type" entries with
    | some kind => decodeTyped levels kind entries
    | none => .error (.parse .untyped)
  | _ => .error (.parse (.notAMapping value.kindName))

/-- A member of a sequence that may mix typed and raw components. -/
abbrev Mixed := Component ⊕ Value

/-- Reads one member of a mixed sequence: a typed component is itself. -/
def decodeMixed (levels : Nat) : Mixed → Except Failure Component
  | .inl component => .ok component
  | .inr value => decode levels value

/-- Reads the members of a mixed sequence in order; the first fault is the answer. -/
def decodeMixedAll (levels : Nat) : List Mixed → Except Failure (List Component)
  | [] => .ok []
  | member :: rest =>
    (decodeMixed levels member).bind fun component =>
      (decodeMixedAll levels rest).map fun components => component :: components

end Component

/-! ### Queries -/

/-- The members of a value that is a sequence of components. Texts, bytes and maps have items
too, but are no such sequence. -/
def queryMembers (value : Value) : Except Failure (List Value) :=
  match value with
  | .text _ | .bytes _ | .map _ | .direction _ => .error (.parse .notASequence)
  | _ => value.items

/-- Reads a query. -/
def decodeQuery (levels : Nat) (value : Value) : Except Failure (List Component) :=
  (queryMembers value).bind fun members => Component.decodeMixedAll levels (members.map .inr)

/-- The failure of a text that is not read as JSON. -/
def Json.ReadFault.failure : Json.ReadFault → Failure
  | .malformed => .parse (.notJson Json.malformedText)
  | .tooManyDigits count => .foreign .refused (Json.excessText count)
  | .tooDeep container => .foreign .excessive (Json.depthText container)

/-- Reads a query from JSON text in which at most so many lists and maps lie inside each other. How
many a writer of messages goes into is another number. -/
def decodeQueryJson (read written : Nat) (text : Text) : Except Failure (List Component) :=
  match Json.read read text with
  | .error fault => .error fault.failure
  | .ok value => decodeQuery written value

end DocQuery
