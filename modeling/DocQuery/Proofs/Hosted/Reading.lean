/-
This file says what a hosted store's documents become, fetched or watched.

A fetch converts every document of a list, and the result leaves out those that do not exist; a
watch leaves them out before it converts the others. So if all convert, both come to the same
result, with the existing documents in the order of the client. Of one document a fetch and a watch
make the same snapshot, and a watch takes an empty list for a document that does not exist.

A live query hands on what its watch is told as a result, or as a failure of the store or of a
missing document. Nothing else can come up if the data of documents are maps.
-/

import DocQuery.Hosted.Watching

namespace DocQuery

/-! ### Native documents -/

namespace NativeDocument

/-- The data of a document are a map, if there are any. -/
def IsPlain (document : NativeDocument) : Prop :=
  document.data = .null ∨ ∃ entries, document.data = .map entries

/-- A document that can be converted. -/
def Converts (document : NativeDocument) : Prop := ∃ snapshot, document.snapshot = .ok snapshot

theorem present_of_snapshot {document : NativeDocument} {snapshot : DocumentSnapshot}
    (made : document.snapshot = .ok snapshot) : snapshot.present = document.present := by
  rw [NativeDocument.snapshot_eq] at made
  split at made
  · next present =>
    split at made
    · cases made
    · cases made
      exact present.symm
  · next missing =>
    cases made
    exact (eq_false_of_ne_true missing).symm

/-- What converts keeps its data if it exists. -/
theorem snapshot_of_present {document : NativeDocument} (present : document.present = true)
    (converts : document.Converts) :
    document.snapshot = .ok ⟨document.path, document.data, true⟩ := by
  obtain ⟨snapshot, made⟩ := converts
  rw [NativeDocument.snapshot_eq, if_pos present] at made ⊢
  split at made
  · cases made
  · rfl

theorem exists_fields {document : NativeDocument} (plain : document.IsPlain)
    {snapshot : DocumentSnapshot} (made : document.snapshot = .ok snapshot) :
    ∃ entries, snapshot.fields = .ok entries := by
  rw [NativeDocument.snapshot_eq] at made
  split at made
  · next present =>
    split at made
    · cases made
    · cases made
      rcases plain with none | ⟨entries, some⟩
      · rw [NativeDocument.present, none] at present
        cases present
      · exact ⟨entries, by rw [some]; exact DocumentSnapshot.fields_stored document.path entries⟩
  · cases made
    exact ⟨[], rfl⟩

theorem exists_of_mem_snapshots {documents : List NativeDocument}
    {snapshots : List DocumentSnapshot} (made : NativeDocument.snapshots documents = .ok snapshots)
    {snapshot : DocumentSnapshot} (member : snapshot ∈ snapshots) :
    ∃ document ∈ documents, document.snapshot = .ok snapshot := by
  induction documents generalizing snapshots with
  | nil =>
    cases made
    cases member
  | cons document rest inductionHypothesis =>
    rw [NativeDocument.snapshots_cons] at made
    split at made
    · cases made
    · next first converted =>
      split at made
      · cases made
      · next others all =>
        cases made
        rcases List.mem_cons.mp member with rfl | later
        · exact ⟨document, List.mem_cons_self, converted⟩
        · obtain ⟨found, there, known⟩ := inductionHypothesis all later
          exact ⟨found, List.mem_cons_of_mem _ there, known⟩

theorem exists_snapshots {documents : List NativeDocument}
    (converts : ∀ document ∈ documents, document.Converts) :
    ∃ snapshots, NativeDocument.snapshots documents = .ok snapshots := by
  induction documents with
  | nil => exact ⟨[], rfl⟩
  | cons document rest inductionHypothesis =>
    obtain ⟨first, others⟩ := List.forall_mem_cons.mp converts
    obtain ⟨snapshot, made⟩ := first
    obtain ⟨snapshots, all⟩ := inductionHypothesis others
    exact ⟨snapshot :: snapshots, by rw [NativeDocument.snapshots_cons, made, all]⟩

/-- To leave out what does not exist before or after the conversion is the same. -/
theorem snapshots_filter {documents : List NativeDocument} {snapshots : List DocumentSnapshot}
    (made : NativeDocument.snapshots documents = .ok snapshots) :
    NativeDocument.snapshots (documents.filter NativeDocument.present) =
      .ok (snapshots.filter DocumentSnapshot.present) := by
  induction documents generalizing snapshots with
  | nil =>
    cases made
    rfl
  | cons document rest inductionHypothesis =>
    rw [NativeDocument.snapshots_cons] at made
    split at made
    · cases made
    · next first converted =>
      split at made
      · cases made
      · next others all =>
        cases made
        have same := present_of_snapshot converted
        cases present : document.present with
        | true =>
          rw [List.filter_cons_of_pos present, List.filter_cons_of_pos (same.trans present),
            NativeDocument.snapshots_cons, converted, inductionHypothesis all]
        | false =>
          have absent := same.trans present
          rw [List.filter_cons_of_neg (by rw [present]; exact Bool.false_ne_true),
            List.filter_cons_of_neg (by rw [absent]; exact Bool.false_ne_true)]
          exact inductionHypothesis all

/-- The existing documents of a list that converts, in order. -/
theorem snapshots_present {documents : List NativeDocument}
    (converts : ∀ document ∈ documents, document.Converts) :
    NativeDocument.snapshots (documents.filter NativeDocument.present) =
      .ok ((documents.filter NativeDocument.present).map fun document =>
        ⟨document.path, document.data, true⟩) := by
  induction documents with
  | nil => rfl
  | cons document rest inductionHypothesis =>
    obtain ⟨first, others⟩ := List.forall_mem_cons.mp converts
    cases present : document.present with
    | true =>
      rw [List.filter_cons_of_pos present, List.map_cons, NativeDocument.snapshots_cons,
        snapshot_of_present present first, inductionHypothesis others]
    | false =>
      rw [List.filter_cons_of_neg (by rw [present]; exact Bool.false_ne_true)]
      exact inductionHypothesis others

end NativeDocument

/-! ### Results -/

theorem QueryResult.exists_documentsOf_of_fields (fields : List Text)
    {snapshots : List DocumentSnapshot}
    (readable : ∀ snapshot ∈ snapshots, ∃ entries, snapshot.fields = .ok entries) :
    ∃ documents, QueryResult.documentsOf fields snapshots = .ok documents := by
  induction snapshots with
  | nil => exact ⟨[], rfl⟩
  | cons snapshot rest inductionHypothesis =>
    obtain ⟨⟨entries, first⟩, others⟩ := List.forall_mem_cons.mp readable
    obtain ⟨documents, known⟩ := inductionHypothesis others
    refine ⟨⟨snapshot.path, Document.restrict fields entries, snapshot.present⟩ :: documents, ?_⟩
    rw [documentsOf, Document.ofSnapshot, first]
    dsimp only
    rw [known]

/-- A snapshot whose documents can be looked at. -/
def Snapshot.IsReadable : Snapshot → Prop
  | .document snapshot => ∃ entries, snapshot.fields = .ok entries
  | .query documents => ∀ snapshot ∈ documents, ∃ entries, snapshot.fields = .ok entries
  | .absent _ => True

/-- What can be looked at becomes a result, or a failure that live queries hand on. -/
theorem Snapshot.IsReadable.isDeliverable {snapshot : Snapshot} (readable : snapshot.IsReadable)
    {type : QueryType} {path : Value} {projection : Projection} {failure : Failure}
    (failed : QueryResult.ofSnapshot type path projection snapshot = .error failure) :
    failure.isDeliverable = true := by
  cases type with
  | document =>
    cases snapshot with
    | document found =>
      obtain ⟨entries, fields⟩ := readable
      rw [QueryResult.ofSnapshot, QueryResult.ofDocument, Document.ofSnapshot, fields] at failed
      split at failed <;> cases failed
      rfl
    | query documents =>
      cases failed
      rfl
    | absent path =>
      cases failed
      rfl
  | collection =>
    cases snapshot with
    | query documents =>
      obtain ⟨listed, known⟩ := QueryResult.exists_documentsOf_of_fields projection.restriction
        fun snapshot member => readable snapshot (List.mem_filter.mp member).1
      rw [QueryResult.ofSnapshot, QueryResult.ofCollection, known] at failed
      cases failed
    | document found =>
      cases failed
      rfl
    | absent path =>
      cases failed
      rfl

/-! ### What live queries hand on -/

/-- What a live query hands on of what was read, if anything: a result, or a failure of a store or
of a missing document. -/
def Update.delivered? : Except Failure QueryResult → Option Update
  | .ok content => some (.result content)
  | .error cause => if cause.isDeliverable then some (.failure cause) else none

theorem Update.delivered?_eq_some {outcome : Except Failure QueryResult}
    (deliverable : ∀ failure, outcome = .error failure → failure.isDeliverable = true) :
    delivered? outcome = some (.ofResult outcome) := by
  cases outcome with
  | ok result => rfl
  | error failure => exact if_pos (deliverable failure rfl)

namespace HostedReference

/-- What a query makes of a list that its watch is told. -/
def outcome (type : QueryType) (projection : Projection) (documents : List NativeDocument)
    (reference : HostedReference) : Except Failure QueryResult :=
  QueryResult.ofRead type reference.path projection (reference.told documents)

variable {type : QueryType} {projection : Projection} {documents : List NativeDocument}
  {reference : HostedReference}

theorem isDeliverable_of_told {failure : Failure}
    (failed : reference.told documents = .error failure) : failure.isDeliverable = true := by
  rw [told_eq] at failed
  split at failed
  · cases failed
  · cases failed
    rfl

/-- A list that does not convert is a bad snapshot, which is a store's failure. -/
theorem outcome_of_corrupt {cause : Failure} (corrupt : reference.watched documents = .error cause) :
    reference.outcome type projection documents = .error (.badSnapshot reference.path cause) := by
  rw [outcome, told_eq, corrupt]
  rfl

/-- No document, or one that does not exist, is missing. -/
theorem outcome_of_missing (isDocument : reference.isDocument = true)
    (missing : ∀ first ∈ documents.head?, first.present = false) :
    reference.outcome .document projection documents = .error (.notFound reference.path) := by
  cases documents with
  | nil =>
    rw [outcome, told_eq, watched_eq, if_pos isDocument, Snapshot.missing]
    cases reference.path.asText? <;> rfl
  | cons first rest =>
    have absent : first.present = false := missing first rfl
    rw [outcome, told_eq, watched_eq, if_pos isDocument]
    dsimp only
    rw [NativeDocument.snapshot_eq, absent]
    rfl

theorem isReadable_of_watched (plain : ∀ document ∈ documents, document.IsPlain)
    {snapshot : Snapshot} (made : reference.watched documents = .ok snapshot) :
    snapshot.IsReadable := by
  rw [watched_eq] at made
  split at made
  · cases documents with
    | nil =>
      cases made
      rw [Snapshot.missing]
      split
      · exact ⟨[], rfl⟩
      · trivial
    | cons first rest =>
      dsimp only at made
      cases converted : first.snapshot with
      | error failure =>
        rw [converted] at made
        cases made
      | ok found =>
        rw [converted] at made
        cases made
        exact NativeDocument.exists_fields (plain first List.mem_cons_self) converted
  · cases converted : NativeDocument.snapshots (documents.filter NativeDocument.present) with
    | error failure =>
      rw [converted] at made
      cases made
    | ok found =>
      rw [converted] at made
      cases made
      intro snapshot member
      obtain ⟨document, there, same⟩ := NativeDocument.exists_of_mem_snapshots converted member
      exact NativeDocument.exists_fields (plain document (List.mem_filter.mp there).1) same

/-- If all data are maps, whatever comes of a list is handed on. -/
theorem isDeliverable_of_outcome (plain : ∀ document ∈ documents, document.IsPlain)
    {failure : Failure} (failed : reference.outcome type projection documents = .error failure) :
    failure.isDeliverable = true := by
  rw [outcome] at failed
  cases known : reference.told documents with
  | error cause =>
    rw [known] at failed
    cases failed
    exact isDeliverable_of_told known
  | ok snapshot =>
    have made : reference.watched documents = .ok snapshot := by
      rw [told_eq] at known
      split at known
      · next same => exact same.trans known
      · cases known
    rw [known] at failed
    exact (isReadable_of_watched plain made).isDeliverable failed

end HostedReference

end DocQuery
