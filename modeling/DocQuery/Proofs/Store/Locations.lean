/-
This file proves that a store is a map from locations to data.

Documents are written and deleted under paths, in which slashes may be doubled or stray, and read
under references, which name segments one by one. The two meet in the segments: what a reference to
a document answers is what the last accepted call left under any path with these segments, where
seeding counts as calls too. Refused calls count for nothing.

The record of a store says so for all locations at once, and besides that no location is stored
twice, and that each is one a document can have. A call that is made keeps the record, with itself
at the end, and this carries the record through all calls.
-/

import DocQuery.Proofs.Store.Answers
import Mathlib.Data.List.Sort

namespace DocQuery

/-! ### Locations and their paths -/

namespace Segments

/-- A location that a document can be stored at. -/
structure IsStorable (segments : Segments) : Prop where
  document : segments.isDocument = true
  clean : ∀ segment ∈ segments, segment ≠ [] ∧ .char '/' ∉ segment

/-- What a path is located at are its pieces that are not empty. -/
theorem isStorable_of_ofDocumentPath {path : Value} {segments : Segments}
    (located : ofDocumentPath path = .ok segments) : segments.IsStorable := by
  rw [ofDocumentPath] at located
  split at located
  · cases located
  · next name _ =>
    split at located
    · next document =>
      cases located
      refine ⟨document, fun segment member => ?_⟩
      obtain ⟨piece, nonempty⟩ := List.mem_filter.mp member
      exact ⟨of_decide_eq_true nonempty, Text.separator_not_mem_of_mem_split _ name segment piece⟩
    · cases located

theorem IsStorable.ne_nil {segments : Segments} (storable : segments.IsStorable) :
    segments ≠ [] := by
  rintro rfl
  cases storable.document

/-- Locations with one path are one. -/
theorem IsStorable.path_inj {segments other : Segments} (storable : segments.IsStorable)
    (otherStorable : other.IsStorable) (same : segments.path = other.path) : segments = other := by
  have cut {location : Segments} (possible : location.IsStorable) :
      Text.split '/' location.path = location :=
    Text.split_join '/' location possible.ne_nil fun segment member =>
      (possible.clean segment member).2
  rw [← cut storable, same, cut otherStorable]

end Segments

/-- The name that a navigation gives; refinements give none. -/
def NavigationCall.name? : NavigationCall → Option Text
  | .collection name | .document name => name.asText?
  | _ => none

namespace Reference

theorem asText?_of_segmentName {name : Value} {content : Text}
    (named : segmentName name = .ok content) : name.asText? = some content := by
  rw [segmentName] at named
  split at named
  · next found known =>
    split at named
    · cases named
    · cases named
      exact known
  · cases named

/-- A navigation adds its name, and a refinement adds nothing. -/
theorem segments_of_call {call : NavigationCall} {reference reached : Reference}
    (called : reference.call call = .ok reached) :
    reached.segments = reference.segments ++ call.name?.toList := by
  cases call with
  | collection name =>
    rw [call, collection] at called
    split at called
    · cases called
    · next content named =>
      split at called
      · cases called
      · cases called
        rw [NavigationCall.name?, asText?_of_segmentName named]
        rfl
  | document name =>
    rw [call, document] at called
    split at called
    · cases called
    · next content named =>
      split at called
      · cases called
      · cases called
        rw [NavigationCall.name?, asText?_of_segmentName named]
        rfl
  | filter field operator value =>
    rw [call, filter] at called
    split at called
    · cases called
    · cases called
    · split at called
      · cases called
      · cases called
        exact (List.append_nil _).symm
  | orderBy field direction =>
    rw [call, orderByNamed] at called
    split at called
    · cases called
    · cases called
    · rw [orderBy] at called
      split at called
      · cases called
      · cases called
        exact (List.append_nil _).symm
  | limit count =>
    rw [call, limitTo] at called
    split at called
    · cases called
    · cases called
    · cases called
      exact (List.append_nil _).symm

/-- Wherever calls lead to, its segments are the names they give. -/
theorem segments_of_callAll {calls : List NavigationCall} {reference reached : Reference}
    (called : reference.callAll calls = .ok reached) :
    reached.segments = reference.segments ++ calls.filterMap NavigationCall.name? := by
  induction calls generalizing reference with
  | nil =>
    cases called
    exact (List.append_nil _).symm
  | cons call rest inductionHypothesis =>
    rw [callAll] at called
    split at called
    · cases called
    · next next stepped =>
      rw [inductionHypothesis called, segments_of_call stepped, List.append_assoc,
        List.filterMap_cons]
      cases call.name? <;> rfl

end Reference

/-! ### Data that is no dict -/

/-- A failure of an operation that met a value of a wrong kind, or with a wrong content. -/
def Failure.IsUnfit (failure : Failure) : Prop :=
  failure.family = .foreign .unsuitable ∨ failure.family = .foreign .refused

namespace Value

theorem isUnfit_of_items {value : Value} {failure : Failure}
    (refused : value.items = .error failure) : failure.IsUnfit := by
  cases value <;> cases refused <;> exact .inl rfl

theorem isUnfit_of_toEntry {value : Value} {failure : Failure}
    (refused : value.toEntry = .error failure) : failure.IsUnfit := by
  rw [toEntry] at refused
  split at refused
  · next without =>
    cases refused
    exact isUnfit_of_items without
  · split at refused
    · cases refused
    · cases refused
      exact .inl rfl
  · cases refused
    exact .inr rfl

theorem isUnfit_of_toEntryList {items : List Value} {failure : Failure}
    (refused : toEntryList items = .error failure) : failure.IsUnfit := by
  induction items with
  | nil => cases refused
  | cons item rest inductionHypothesis =>
    rw [toEntryList] at refused
    split at refused
    · next first =>
      cases refused
      exact isUnfit_of_toEntry first
    · split at refused
      · next later =>
        cases refused
        exact inductionHypothesis later
      · cases refused

/-- What cannot be taken for a dict is of a wrong kind, or has a wrong content. -/
theorem isUnfit_of_toEntries {value : Value} {failure : Failure}
    (refused : value.toEntries = .error failure) : failure.IsUnfit := by
  unfold toEntries at refused
  split at refused
  · cases refused
  · split at refused
    · next without =>
      cases refused
      exact isUnfit_of_items without
    · split at refused
      · next unentered =>
        cases refused
        exact isUnfit_of_toEntryList unentered
      · cases refused

end Value

/-! ### Calls that write -/

/-- A call that writes a document or deletes one. -/
inductive DocumentCall
  | set (path data : Value)
  | delete (path : Value)

namespace DocumentCall

/-- What a call that is accepted is about, and the data that it leaves there, if any. -/
def effect : DocumentCall → Except Failure (Segments × Option Entries)
  | .set path data =>
    (Store.acceptWrite path data).map fun written => (written.1, some written.2)
  | .delete path => (Segments.ofDocumentPath path).map fun segments => (segments, none)

theorem effect_set {path data : Value} {segments : Segments} {entries : Entries}
    (accepted : Store.acceptWrite path data = .ok (segments, entries)) :
    (set path data).effect = .ok (segments, some entries) := by
  rw [effect, accepted]
  rfl

theorem effect_delete {path : Value} {segments : Segments}
    (located : Segments.ofDocumentPath path = .ok segments) :
    (delete path).effect = .ok (segments, none) := by
  rw [effect, located]
  rfl

/-- A call under a path that names no document is refused by the store. -/
theorem effect_of_misnamed {path : Text} (misnamed : (Segments.ofPath path).isDocument = false) :
    (∀ data, (set (.text path) data).effect =
      .error (.store (.notADocumentPath (.text path)) (some path))) ∧
    (delete (.text path)).effect =
      .error (.store (.notADocumentPath (.text path)) (some path)) := by
  have refused : Segments.ofDocumentPath (.text path) =
      .error (.store (.notADocumentPath (.text path)) (some path)) :=
    if_neg (by rw [misnamed]; exact Bool.false_ne_true)
  refine ⟨fun data => ?_, ?_⟩
  · rw [effect, Store.acceptWrite, refused]
    rfl
  · rw [effect, refused]
    rfl

/-- Under the path of a document only a write can be refused, for its data. -/
theorem effect_of_named {path : Text} (named : (Segments.ofPath path).isDocument = true) :
    (∀ data failure, (set (.text path) data).effect = .error failure → failure.IsUnfit) ∧
    (delete (.text path)).effect = .ok (Segments.ofPath path, none) := by
  have located : Segments.ofDocumentPath (.text path) = .ok (Segments.ofPath path) := if_pos named
  refine ⟨fun data failure refused => ?_, effect_delete located⟩
  rw [effect, Store.acceptWrite, located] at refused
  cases entered : data.toEntries with
  | ok entries =>
    rw [entered] at refused
    cases refused
  | error cause =>
    rw [entered] at refused
    cases refused
    exact Value.isUnfit_of_toEntries entered

/-- What the last accepted call about a location left there. -/
def leftAt (segments : Segments) (calls : List DocumentCall) : Option Entries :=
  ((calls.filterMap fun call => call.effect.toOption).filter
    fun effect => effect.1 = segments).getLast?.bind Prod.snd

/-- A call that is accepted is about a location that a document can be stored at. -/
theorem isStorable_of_effect {call : DocumentCall} {segments : Segments} {left : Option Entries}
    (accepted : call.effect = .ok (segments, left)) : segments.IsStorable := by
  cases call with
  | set path data =>
    rw [effect, Store.acceptWrite] at accepted
    split at accepted
    · cases accepted
    · next located =>
      cases entered : data.toEntries with
      | error failure =>
        rw [entered] at accepted
        cases accepted
      | ok entries =>
        rw [entered] at accepted
        cases accepted
        exact Segments.isStorable_of_ofDocumentPath located
  | delete path =>
    rw [effect] at accepted
    cases located : Segments.ofDocumentPath path with
    | error failure =>
      rw [located] at accepted
      cases accepted
    | ok found =>
      rw [located] at accepted
      cases accepted
      exact Segments.isStorable_of_ofDocumentPath located

theorem leftAt_of_refused {call : DocumentCall} {failure : Failure}
    (refused : call.effect = .error failure) (segments : Segments) (calls : List DocumentCall) :
    leftAt segments (calls ++ [call]) = leftAt segments calls := by
  have none : ([call].filterMap fun call => call.effect.toOption) = [] := by
    rw [List.filterMap_cons, refused]
    rfl
  rw [leftAt, List.filterMap_append, none, List.append_nil, leftAt]

/-- An accepted call decides for its own location, and only for that. -/
theorem leftAt_of_accepted {call : DocumentCall} {here : Segments} {left : Option Entries}
    (accepted : call.effect = .ok (here, left)) (segments : Segments) (calls : List DocumentCall) :
    leftAt segments (calls ++ [call]) =
      if here = segments then left else leftAt segments calls := by
  have one : ([call].filterMap fun call => call.effect.toOption) = [(here, left)] := by
    rw [List.filterMap_cons, accepted]
    rfl
  rw [leftAt, List.filterMap_append, one, List.filter_append]
  by_cases same : here = segments
  · rw [if_pos same, List.filter_cons_of_pos (by simpa using same), List.filter_nil,
      List.getLast?_concat]
    rfl
  · rw [if_neg same, List.filter_cons_of_neg (by simpa using same), List.filter_nil,
      List.append_nil, leftAt]

end DocumentCall

/-! ### Documents by location -/

namespace Query

theorem exists_dataAt_iff {segments : Segments} {documents : List StoredDocument} :
    (∃ data, dataAt segments documents = some data) ↔
      ∃ document ∈ documents, document.segments = segments := by
  induction documents with
  | nil => simp [dataAt]
  | cons first rest inductionHypothesis =>
    rw [dataAt, List.exists_mem_cons_iff]
    by_cases same : first.segments = segments
    · simp [same]
    · rw [if_neg same, inductionHypothesis]
      simp [same]

end Query

namespace Store

variable {κ : Type}

/-- The store after a call. -/
def after (store : Store κ) (call : DocumentCall) : Store κ :=
  match call.effect with
  | .error _ => store
  | .ok (segments, some entries) => store.write segments entries
  | .ok (segments, none) => if store.holds segments then store.remove segments else store

/-- What a store holds is what calls left: at every location the data of the last one, at no
location twice, and nowhere else. -/
structure Records (calls : List DocumentCall) (store : Store κ) : Prop where
  data : ∀ segments, Query.dataAt segments store.documents = DocumentCall.leftAt segments calls
  located : Query.Located store.documents
  storable : ∀ document ∈ store.documents, document.segments.IsStorable

namespace Records

variable {calls : List DocumentCall} {store : Store κ}

/-- Only the documents of a store are on record. -/
theorem of_documents (records : store.Records calls) {other : Store κ}
    (same : other.documents = store.documents) : other.Records calls :=
  ⟨same ▸ records.data, same ▸ records.located, same ▸ records.storable⟩

theorem write (records : store.Records calls) {call : DocumentCall} {segments : Segments}
    {entries : Entries} (accepted : call.effect = .ok (segments, some entries)) :
    (store.write segments entries).Records (calls ++ [call]) := by
  refine ⟨fun location => ?_, records.located.put segments entries, fun document member => ?_⟩
  · rw [DocumentCall.leftAt_of_accepted accepted, ← records.data]
    by_cases same : segments = location
    · rw [if_pos same, ← same]
      exact Query.dataAt_put_self segments entries store.documents
    · rw [if_neg same]
      exact Query.dataAt_put_of_ne (Ne.symm same) entries store.documents
  · rcases Query.mem_put member with same | old
    · exact same ▸ DocumentCall.isStorable_of_effect accepted
    · exact records.storable document old

theorem remove (records : store.Records calls) {call : DocumentCall} {segments : Segments}
    (accepted : call.effect = .ok (segments, none)) :
    (store.remove segments).Records (calls ++ [call]) := by
  refine ⟨fun location => ?_, records.located.takeOut segments, fun document member => ?_⟩
  · rw [DocumentCall.leftAt_of_accepted accepted, ← records.data]
    by_cases same : segments = location
    · rw [if_pos same, ← same]
      exact Query.dataAt_takeOut_self segments store.documents
    · rw [if_neg same]
      exact Query.dataAt_takeOut_of_ne (Ne.symm same) store.documents
  · exact records.storable document (List.mem_filter.mp member).1

/-- A call that is made is put on record, whether it is accepted or refused. -/
theorem after (records : store.Records calls) (call : DocumentCall) :
    (store.after call).Records (calls ++ [call]) := by
  cases made : call.effect with
  | error failure =>
    rw [Store.after, made]
    exact ⟨fun location => (records.data location).trans
      (DocumentCall.leftAt_of_refused made location calls).symm, records.located, records.storable⟩
  | ok effect =>
    obtain ⟨segments, left⟩ := effect
    cases left with
    | some entries =>
      rw [Store.after, made]
      exact records.write made
    | none =>
      have removed := records.remove made
      rw [Store.after, made]
      dsimp only
      split
      · exact removed
      · next missing =>
        -- Nothing was there, so nothing is what the call leaves.
        rw [holds, Bool.not_eq_true, Option.isSome_eq_false_iff, Option.isNone_iff_eq_none]
          at missing
        refine ⟨fun location => ?_, records.located, records.storable⟩
        rw [DocumentCall.leftAt_of_accepted made, ← records.data]
        split
        · next same => rw [← same, missing]
        · rfl

end Records

/-! ### Seeds -/

/-- The calls that seeding comes to. Of a path that is listed twice only the last data counts. -/
def seedCalls (documents : List (Text × Value)) : List DocumentCall :=
  (documents.foldl (fun listed document => enlist document.1 document.2 listed) []).map
    fun document => .set (.text document.1) document.2

theorem records_seed {listed : List (Text × Value)} {documents seeded : List StoredDocument}
    {calls : List DocumentCall} (records : (ofDocuments documents : Store κ).Records calls)
    (accepted : seed listed documents = .ok seeded) :
    (ofDocuments seeded : Store κ).Records
      (calls ++ listed.map fun document => .set (.text document.1) document.2) := by
  induction listed generalizing documents calls with
  | nil =>
    cases accepted
    exact (List.append_nil calls).symm ▸ records
  | cons document rest inductionHypothesis =>
    obtain ⟨path, value⟩ := document
    rw [seed] at accepted
    split at accepted
    · cases accepted
    · cases accepted
    · next data segments entered located =>
      have written : acceptWrite (.text path) value = .ok (segments, data) := by
        rw [acceptWrite, located, entered]
      have further := inductionHypothesis (records.write (DocumentCall.effect_set written)) accepted
      rwa [List.append_assoc] at further

/-- A store that was seeded records its seed. -/
theorem records_ofSeed {documents : List (Text × Value)} {store : Store κ}
    (accepted : ofSeed documents = .ok store) : store.Records (seedCalls documents) := by
  rw [ofSeed] at accepted
  generalize found : seed _ [] = outcome at accepted
  cases outcome with
  | error failure => cases accepted
  | ok seeded =>
    cases accepted
    have empty : (ofDocuments [] : Store κ).Records [] :=
      ⟨fun _ => rfl, List.Pairwise.nil, fun _ none => absurd none List.not_mem_nil⟩
    exact records_seed empty found

/-! ### Paths -/

theorem paths_eq_insertionSort (store : Store κ) :
    store.paths =
      (store.documents.map fun document => Segments.path document.segments).insertionSort
        fun path other => ¬ other < path := by
  have placed (path : Text) (others : List Text) :
      paths.insertPath path others =
        others.orderedInsert (fun path other => ¬ other < path) path := by
    induction others with
    | nil => rfl
    | cons first rest inductionHypothesis =>
      rw [paths.insertPath, List.orderedInsert, inductionHypothesis]
      split <;> simp [*]
  rw [paths]
  generalize (store.documents.map fun document => Segments.path document.segments) = listed
  induction listed with
  | nil => rfl
  | cons path rest inductionHypothesis =>
    rw [List.foldr_cons, inductionHypothesis, placed]
    rfl

theorem perm_paths (store : Store κ) :
    store.paths.Perm (store.documents.map fun document => Segments.path document.segments) := by
  rw [paths_eq_insertionSort]
  exact List.perm_insertionSort _ _

theorem mem_paths_iff {store : Store κ} {path : Text} :
    path ∈ store.paths ↔ ∃ document ∈ store.documents, Segments.path document.segments = path := by
  rw [(perm_paths store).mem_iff, List.mem_map]

namespace Records

variable {calls : List DocumentCall} {store : Store κ}

/-- Documents at different locations have different paths. -/
theorem nodup_paths (records : store.Records calls) : store.paths.Nodup := by
  rw [(perm_paths store).nodup_iff, List.Nodup, List.pairwise_map]
  refine records.located.imp_of_mem fun left right apart same => apart ?_
  exact (records.storable _ left).path_inj (records.storable _ right) same

/-- The paths are listed in their order, each once. -/
theorem pairwise_paths (records : store.Records calls) : store.paths.Pairwise (· < ·) := by
  have total : Std.Total fun path other : Text => ¬ other < path :=
    ⟨fun path other => not_or_of_imp fun below further =>
      Text.lt_irrefl path (Text.lt_trans further below)⟩
  have transitive : IsTrans Text fun path other => ¬ other < path :=
    ⟨fun _ _ _ notBelow further => Text.not_lt_trans further notBelow⟩
  have sorted : store.paths.Pairwise fun path other => ¬ other < path := by
    rw [paths_eq_insertionSort]
    exact List.pairwise_insertionSort _ _
  exact (sorted.and records.nodup_paths).imp fun ⟨notBelow, apart⟩ =>
    (Text.lt_or_lt_of_ne apart).resolve_right notBelow

end Records

/-! ### The map of a store -/

/-- That a store is the map from locations to data that calls make: a reference that a navigation
leads to reads what the last accepted call left at the names of the navigation, and the paths are
those of the locations where something was left. -/
structure MapsPaths (calls : List DocumentCall) (store : Store κ) : Prop where
  segments : ∀ navigation reference, Reference.root.callAll navigation = .ok reference →
    reference.segments = navigation.filterMap NavigationCall.name?
  found : ∀ navigation reference, Reference.root.callAll navigation = .ok reference →
    reference.isDocument = true → ∀ data,
      store.read reference = .ok (.document (.stored reference.path data)) ↔
        DocumentCall.leftAt (navigation.filterMap NavigationCall.name?) calls = some data
  missing : ∀ navigation reference, Reference.root.callAll navigation = .ok reference →
    reference.isDocument = true →
      (store.read reference = .ok (.document (.missing reference.path)) ↔
        DocumentCall.leftAt (navigation.filterMap NavigationCall.name?) calls = none)
  sorted : store.paths.Pairwise (· < ·)
  listed : ∀ path, path ∈ store.paths ↔ ∃ segments data,
    DocumentCall.leftAt segments calls = some data ∧ Segments.path segments = path
  storable : ∀ document ∈ store.documents, document.segments.IsStorable

/-- A store that is on record is such a map. -/
theorem Records.mapsPaths {calls : List DocumentCall} {store : Store κ}
    (records : store.Records calls) : store.MapsPaths calls := by
  have named {navigation : List NavigationCall} {reference : Reference}
      (led : Reference.root.callAll navigation = .ok reference) :
      reference.segments = navigation.filterMap NavigationCall.name? :=
    Reference.segments_of_callAll led
  have stored {navigation : List NavigationCall} {reference : Reference} {data : Entries}
      (led : Reference.root.callAll navigation = .ok reference)
      (document : reference.isDocument = true)
      (left : DocumentCall.leftAt (navigation.filterMap NavigationCall.name?) calls = some data) :
      store.read reference = .ok (.document (.stored reference.path data)) := by
    rw [Store.read, Query.read, if_pos document, records.data, named led, left]
  have missing {navigation : List NavigationCall} {reference : Reference}
      (led : Reference.root.callAll navigation = .ok reference)
      (document : reference.isDocument = true)
      (left : DocumentCall.leftAt (navigation.filterMap NavigationCall.name?) calls = none) :
      store.read reference = .ok (.document (.missing reference.path)) := by
    rw [Store.read, Query.read, if_pos document, records.data, named led, left]
  refine ⟨fun _ _ => named, fun navigation reference led document data => ?_,
    fun navigation reference led document => ?_, records.pairwise_paths, fun path => ?_,
    records.storable⟩
  · cases left : DocumentCall.leftAt (navigation.filterMap NavigationCall.name?) calls with
    | none => simp [missing led document left, DocumentSnapshot.stored, DocumentSnapshot.missing]
    | some found => simp [stored led document left, DocumentSnapshot.stored]
  · cases left : DocumentCall.leftAt (navigation.filterMap NavigationCall.name?) calls with
    | none => simp [missing led document left]
    | some found =>
      simp [stored led document left, DocumentSnapshot.stored, DocumentSnapshot.missing]
  · rw [mem_paths_iff]
    constructor
    · rintro ⟨document, member, rfl⟩
      obtain ⟨data, held⟩ := Query.exists_dataAt_iff.mpr ⟨document, member, rfl⟩
      exact ⟨document.segments, data, (records.data _).symm.trans held, rfl⟩
    · rintro ⟨segments, data, left, rfl⟩
      obtain ⟨document, member, rfl⟩ :=
        Query.exists_dataAt_iff.mp ⟨data, (records.data segments).trans left⟩
      exact ⟨document, member, rfl⟩

end Store

end DocQuery
