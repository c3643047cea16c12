/-
This file proves that queries treat documents alike that are alike.

Documents are alike if they lie at one place and their data differ in the order of map entries only.
No filter and no sort tells such documents apart, so that a query that keeps, sorts and cuts one
list of documents does the same to a list of documents that are alike, one by one. It is refused for
both or for none, for one reason, and what it answers is alike again.
-/

import DocQuery.Proofs.Sorting.Relabeling
import DocQuery.Proofs.Value.Alike
import DocQuery.Store.Query

namespace DocQuery

/-! ### Outcomes and snapshots -/

/-- Outcomes are alike if they are one failure, or results of which one is like the other. -/
inductive Outcome.Alike {α : Type} (like : α → α → Prop) :
    Except Failure α → Except Failure α → Prop
  | refused (failure : Failure) : Alike like (.error failure) (.error failure)
  | answered {result other : α} (alike : like result other) : Alike like (.ok result) (.ok other)

/-- Snapshots of one document are alike if their data differ in the order of map entries only. -/
structure DocumentSnapshot.Alike (snapshot other : DocumentSnapshot) : Prop where
  path : snapshot.path = other.path
  data : Value.Alike snapshot.data other.data
  present : snapshot.present = other.present

/-- Snapshots are alike if they hold, in one order, snapshots of documents that are alike. -/
inductive Snapshot.Alike : Snapshot → Snapshot → Prop
  | document {snapshot other : DocumentSnapshot} (alike : snapshot.Alike other) :
      Alike (.document snapshot) (.document other)
  | query {snapshots others : List DocumentSnapshot}
      (each : List.Forall₂ DocumentSnapshot.Alike snapshots others) :
      Alike (.query snapshots) (.query others)
  | absent (path : Value) : Alike (.absent path) (.absent path)

/-- Documents are alike if they lie at one place and their data differ in the order of map entries
only. -/
structure StoredDocument.Alike (document other : StoredDocument) : Prop where
  segments : document.segments = other.segments
  data : Value.Alike (.map document.data) (.map other.data)

theorem StoredDocument.Alike.snapshot {document other : StoredDocument}
    (alike : document.Alike other) : document.snapshot.Alike other.snapshot :=
  ⟨congrArg Segments.path alike.segments, alike.data, rfl⟩

/-! ### Fields -/

theorem Value.Alike.resolve {value other : Value} (alike : Alike value other) (name : Text) :
    Option.Rel Alike (value.resolve name) (other.resolve name) :=
  alike.walk (nameParts name)

/-- A field leads to alike values, or it is refused as a name. -/
theorem Value.Alike.resolveField {value other : Value} (alike : Alike value other) (field : Value) :
    Outcome.Alike (Option.Rel Alike) (field.resolveField value) (field.resolveField other) := by
  rw [Value.resolveField, Value.resolveField]
  cases field.toName with
  | error failure => exact .refused failure
  | ok name => exact .answered (alike.resolve name)

namespace Query

/-! ### Filters -/

theorem admits_alike {data other : Entries} (alike : Value.Alike (.map data) (.map other))
    (filter : Filter) : filter.admits data = filter.admits other := by
  have resolved := alike.resolveField filter.field
  rw [Filter.admits, Filter.admits]
  generalize Value.resolveField filter.field (.map data) = found at resolved ⊢
  generalize Value.resolveField filter.field (.map other) = otherFound at resolved ⊢
  cases resolved with
  | refused failure => rfl
  | answered found =>
    cases found with
    | none => rfl
    | some actual => exact congrArg Except.ok (actual.passes_congr filter.operator filter.value)

theorem passesAll_alike {document other : StoredDocument} (alike : document.Alike other)
    (filters : List Filter) : passesAll document filters = passesAll other filters := by
  induction filters with
  | nil => rfl
  | cons filter rest inductionHypothesis =>
    rw [passesAll, passesAll, admits_alike alike.data, inductionHypothesis]

variable {documents others : List StoredDocument}

theorem keepPassing_alike (filters : List Filter)
    (each : List.Forall₂ StoredDocument.Alike documents others) :
    Outcome.Alike (List.Forall₂ StoredDocument.Alike) (keepPassing filters documents)
      (keepPassing filters others) := by
  induction each with
  | nil => exact .answered .nil
  | @cons document other documents others alike _ inductionHypothesis =>
    rw [keepPassing, keepPassing, passesAll_alike alike]
    generalize keepPassing filters documents = kept at inductionHypothesis ⊢
    generalize keepPassing filters others = otherKept at inductionHypothesis ⊢
    cases passesAll other filters with
    | error failure => exact .refused failure
    | ok passed =>
      cases inductionHypothesis with
      | refused failure => exact .refused failure
      | answered rest =>
        cases passed with
        | true => exact .answered (.cons alike rest)
        | false => exact .answered rest

/-! ### Sort keys -/

/-- Documents with a value each are alike if both are. -/
structure KeyedAlike (keyed other : Value × StoredDocument) : Prop where
  value : keyed.1.Alike other.1
  document : keyed.2.Alike other.2

theorem withField_alike (field : Value)
    (each : List.Forall₂ StoredDocument.Alike documents others) :
    Outcome.Alike (List.Forall₂ KeyedAlike) (withField field documents)
      (withField field others) := by
  induction each with
  | nil => exact .answered .nil
  | @cons document other documents others alike _ inductionHypothesis =>
    have resolved := alike.data.resolveField field
    rw [withField, withField]
    generalize Value.resolveField field (.map document.data) = found at resolved ⊢
    generalize Value.resolveField field (.map other.data) = otherFound at resolved ⊢
    generalize withField field documents = keyed at inductionHypothesis ⊢
    generalize withField field others = otherKeyed at inductionHypothesis ⊢
    cases resolved with
    | refused failure => exact .refused failure
    | answered found =>
      cases inductionHypothesis with
      | refused failure => exact .refused failure
      | answered rest =>
        cases found with
        | none => exact .answered rest
        | some value => exact .answered (.cons ⟨value, alike⟩ rest)

theorem sortKeyed_alike (direction : Direction) {keyed others : List (Value × StoredDocument)}
    (each : List.Forall₂ KeyedAlike keyed others) :
    Option.Rel (List.Forall₂ KeyedAlike) (sortKeyed direction keyed)
      (sortKeyed direction others) := by
  cases direction with
  | ascending =>
    exact Sorting.ascending_related
      (fun first second => Value.Alike.less?_congr first.value second.value) each
  | descending =>
    exact Sorting.descending_related
      (fun first second => Value.Alike.less?_congr first.value second.value) each

theorem sortByKey_alike (path : Text) (key : SortKey)
    (each : List.Forall₂ StoredDocument.Alike documents others) :
    Outcome.Alike (List.Forall₂ StoredDocument.Alike) (sortByKey path key documents)
      (sortByKey path key others) := by
  have keyed := withField_alike key.field each
  rw [sortByKey, sortByKey]
  generalize withField key.field documents = found at keyed ⊢
  generalize withField key.field others = otherFound at keyed ⊢
  cases keyed with
  | refused failure => exact .refused failure
  | @answered keyed otherKeyed each =>
    have sorted := sortKeyed_alike key.direction each
    dsimp only
    generalize sortKeyed key.direction keyed = result at sorted ⊢
    generalize sortKeyed key.direction otherKeyed = other at sorted ⊢
    cases sorted with
    | none => exact .refused _
    | some each =>
      refine .answered (List.forall₂_map_left_iff.mpr (List.forall₂_map_right_iff.mpr ?_))
      exact each.imp fun _ _ alike => alike.document

theorem sortByKeys_alike (path : Text) (keys : List SortKey)
    (each : List.Forall₂ StoredDocument.Alike documents others) :
    Outcome.Alike (List.Forall₂ StoredDocument.Alike) (sortByKeys path keys documents)
      (sortByKeys path keys others) := by
  induction keys with
  | nil => exact .answered each
  | cons key rest inductionHypothesis =>
    rw [sortByKeys, sortByKeys]
    generalize sortByKeys path rest documents = sorted at inductionHypothesis ⊢
    generalize sortByKeys path rest others = otherSorted at inductionHypothesis ⊢
    cases inductionHypothesis with
    | refused failure => exact .refused failure
    | answered each => exact sortByKey_alike path key each

/-! ### Limits -/

theorem cutTo_alike (limit : Option Nat)
    (each : List.Forall₂ StoredDocument.Alike documents others) :
    List.Forall₂ StoredDocument.Alike (cutTo limit documents) (cutTo limit others) := by
  cases limit with
  | none => exact each
  | some count => exact List.forall₂_take count each

end Query

end DocQuery
