/-
This file proves that a query is read back from what it is written as.

Components are written as maps whose keys and directions the reader knows, so a query comes back from
its maps whatever it holds. On the way through JSON text it comes back if everything in it is a value
that the text keeps, in every layout, unless it meets a limit that reader and writer have. Those are
real: ten to the power of the greatest number of digits is an integer that does not come back.
-/

import DocQuery.Component.Decode
import DocQuery.Component.Encode
import DocQuery.Proofs.Json.Values
import Mathlib.Algebra.Ring.Int.Defs

namespace DocQuery

/-! ### Maps -/

theorem Direction.decode_encode (direction : Direction) : decode direction.encode = direction := by
  cases direction <;> rfl

theorem Refinement.decode_encode (levels : Nat) (refinement : Refinement) :
    decode levels refinement.encode = .ok refinement := by
  cases refinement with
  | filter field operator value => rfl
  | limit count => rfl
  | order field direction =>
    cases direction <;> rfl

theorem Refinement.decodeAll_encode (levels : Nat) (refinements : List Refinement) :
    decodeAll levels (refinements.map encode) = .ok refinements := by
  induction refinements with
  | nil => rfl
  | cons refinement rest inductionHypothesis =>
    rw [List.map_cons, decodeAll, decode_encode, inductionHypothesis]
    rfl

/-- Texts are taken for themselves. -/
theorem Value.toTexts_text (levels : Nat) (texts : List Text) :
    toTexts levels (texts.map .text) = .ok texts := by
  induction texts with
  | nil => rfl
  | cons text rest inductionHypothesis =>
    rw [List.map_cons, toTexts, toText_text, inductionHypothesis]
    rfl

theorem Component.decode_encode (levels : Nat) (component : Component) :
    decode levels component.encode = .ok component := by
  cases component with
  | literal name => exact congrArg (Except.map Component.literal) (Value.toText_text levels name)
  | all => rfl
  | collectionExpression refinements =>
    exact congrArg (Except.map _) (Refinement.decodeAll_encode levels refinements)
  | documentExpression fields =>
    exact congrArg (Except.map Component.documentExpression) (Value.toTexts_text levels fields)

/-- A query is read back from its maps, whatever it holds. -/
theorem decodeQuery_encodeQuery (levels : Nat) (components : List Component) :
    decodeQuery levels (encodeQuery components) = .ok components := by
  have all : Component.decodeMixedAll levels ((components.map Component.encode).map .inr) =
      .ok components := by
    induction components with
    | nil => rfl
    | cons component rest inductionHypothesis =>
      rw [List.map_cons, List.map_cons, Component.decodeMixedAll, Component.decodeMixed,
        Component.decode_encode, inductionHypothesis]
      rfl
  exact all

/-! ### JSON text -/

namespace Json

def keepsRefinement : Refinement → Bool
  | .filter field operator value => keeps field && keeps operator && keeps value
  | .limit count => keeps count
  | .order field _ => keeps field

/-- Whether all texts and values in a component are kept by JSON text. -/
def keepsComponent : Component → Bool
  | .literal name => isWhole name
  | .all => true
  | .collectionExpression refinements => refinements.all keepsRefinement
  | .documentExpression fields => fields.all isWhole

@[simp] theorem isWhole_ofString (content : String) : isWhole content = true := by
  simp [isWhole, Text.ofString, Text.isHalf]

theorem keeps_map {entries : Entries} (distinct : decide entries.Distinct = true)
    (kept : keepsEntries entries) : keeps (.map entries) :=
  Bool.and_eq_true_iff.mpr ⟨distinct, kept⟩

theorem keeps_encode_refinement {refinement : Refinement} (kept : keepsRefinement refinement) :
    keeps refinement.encode := by
  cases refinement with
  | filter field operator value =>
    refine keeps_map rfl ?_
    simpa [keepsEntries, keepsKey, keeps, keepsRefinement, and_assoc] using kept
  | limit count =>
    refine keeps_map rfl ?_
    simpa [keepsEntries, keepsKey, keeps, keepsRefinement] using kept
  | order field direction =>
    refine keeps_map rfl ?_
    have sign : keeps direction.encode := by cases direction <;> rfl
    simpa [keepsEntries, keepsKey, keeps, keepsRefinement, sign] using kept

theorem keeps_encode {component : Component} (kept : keepsComponent component) :
    keeps component.encode := by
  cases component with
  | literal name =>
    refine keeps_map rfl ?_
    simpa [keepsEntries, keepsKey, keeps, keepsComponent] using kept
  | all => rfl
  | collectionExpression refinements =>
    refine keeps_map rfl ?_
    have each : ∀ refinement ∈ refinements, keeps refinement.encode := fun refinement member =>
      keeps_encode_refinement (List.all_eq_true.mp kept refinement member)
    simpa [keepsEntries, keepsKey, keeps, keepsItems_iff] using each
  | documentExpression fields =>
    refine keeps_map rfl ?_
    simpa [keepsEntries, keepsKey, keeps, keepsItems_iff, keepsComponent] using kept

theorem keeps_encodeQuery {components : List Component}
    (kept : ∀ component ∈ components, keepsComponent component) :
    keeps (encodeQuery components) := by
  rw [encodeQuery, keeps, keepsItems_iff]
  intro item member
  obtain ⟨component, among, rfl⟩ := List.mem_map.mp member
  exact keeps_encode (kept component among)

end Json

/-- Nothing stops the writer of a query that JSON text keeps but a limit. -/
theorem encodeQueryJson_of_keeps (levels : Nat) (layout : JsonLayout) {components : List Component}
    (kept : ∀ component ∈ components, Json.keepsComponent component) :
    encodeQueryJson levels layout components =
      match Json.excess? levels (encodeQuery components) with
      | some limit => .error limit.writeFault.failure
      | none => .ok (Json.print layout (encodeQuery components)) := by
  rw [encodeQueryJson, Value.toJson, Json.write,
    Json.writeFault?_of_keeps false (Json.keeps_encodeQuery kept)]
  cases Json.excess? levels (encodeQuery components) <;> rfl

theorem decodeQueryJson_print (read written : Nat) (layout : JsonLayout)
    {components : List Component} (kept : ∀ component ∈ components, Json.keepsComponent component) :
    decodeQueryJson read written (Json.print layout (encodeQuery components)) =
      match Json.excess? read (encodeQuery components) with
      | some limit => .error limit.readFault.failure
      | none => .ok components := by
  rw [decodeQueryJson, Json.read_print read layout (Json.keeps_encodeQuery kept)]
  cases Json.excess? read (encodeQuery components) with
  | some limit => rfl
  | none => exact decodeQuery_encodeQuery written components

/-- A query for documents of a street with a long name, the last ones first. -/
def streetQuery : List Component :=
  [.literal "straßen ♫ 𝄞", .all,
    .collectionExpression
      [.filter "place" "in" (.list [.map [("x", .int (-12)), ("y\n", .list [])], .null, .bool true]),
        .limit (.int 5), .order "length" .descending],
    .documentExpression ["name", ""]]

/-- A power of ten has one digit more than its exponent says. -/
theorem Json.lt_length_toDigits_pow {count : Nat} (positive : 0 < count) :
    count < (Nat.toDigits 10 ((10 : Int) ^ count).natAbs).length := by
  have size : ((10 : Int) ^ count).natAbs = 10 ^ count := Int.natAbs_pow 10 count
  rw [size]
  refine Nat.lt_of_not_le fun short => ?_
  exact Nat.lt_irrefl _ ((Nat.length_toDigits_le_iff (by decide) positive).mp short)

/-- A limit of too many digits is not written. -/
theorem encodeQueryJson_long (layout : JsonLayout) {number : Int}
    (long : Json.digitLimit < (Nat.toDigits 10 number.natAbs).length) :
    encodeQueryJson Json.nestingLimit layout [.collectionExpression [.limit (.int number)]] =
      .error Json.WriteFault.tooManyDigits.failure := by
  have kept : ∀ component ∈ [Component.collectionExpression [.limit (.int number)]],
      Json.keepsComponent component := by
    intro component member
    rw [List.mem_singleton.mp member]
    rfl
  have excess : Json.excess? Json.nestingLimit
      (encodeQuery [.collectionExpression [.limit (.int number)]]) = Json.digitExcess? number := by
    rw [show Json.nestingLimit = 986 + 4 from rfl]
    simp [encodeQuery, Component.encode, Refinement.encode, Json.excess?, Json.excessOfItems?,
      Json.excessOfEntries?]
  rw [encodeQueryJson_of_keeps _ _ kept, excess, Json.digitExcess?, if_pos long]
  rfl

end DocQuery
