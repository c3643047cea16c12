/-
This file says how reads of a reference on names can fail, and what they depend on.

Such a read fails by a refusal of the store only, and what was read becomes a result or a failure
that live queries hand on. So whatever a live query is told is what asking once would have given.

A read depends on the documents that the reference covers: a write elsewhere changes nothing for it.
-/

import DocQuery.Proofs.Store.Query
import DocQuery.Result

namespace DocQuery

/-- All fields of a reference's filters and sort keys are names. -/
structure Reference.IsNamed (reference : Reference) : Prop where
  filters : ∀ filter ∈ reference.filters, filter.field.IsName
  orders : ∀ key ∈ reference.orders, key.field.IsName

namespace Query

/-! ### Failures of reads -/

theorem isStore_of_sortByKey {path : Text} {key : SortKey} (named : key.field.IsName)
    {documents : List StoredDocument} {failure : Failure}
    (failed : sortByKey path key documents = .error failure) : failure.isStore = true := by
  obtain ⟨keyed, found, _, _⟩ := exists_withField named documents
  rw [sortByKey, found] at failed
  dsimp only at failed
  split at failed
  · cases failed
    rfl
  · cases failed

theorem isStore_of_sortByKeys {path : Text} {keys : List SortKey}
    (named : ∀ key ∈ keys, key.field.IsName) {documents : List StoredDocument} {failure : Failure}
    (failed : sortByKeys path keys documents = .error failure) : failure.isStore = true := by
  induction keys generalizing failure with
  | nil => cases failed
  | cons key rest inductionHypothesis =>
    rw [sortByKeys] at failed
    split at failed
    · next earlier =>
      cases failed
      exact inductionHypothesis (fun other member => named other (List.mem_cons_of_mem key member))
        earlier
    · exact isStore_of_sortByKey (named key List.mem_cons_self) failed

/-- A read of a reference on names fails by a refusal of the store only. -/
theorem isStore_of_read {documents : List StoredDocument} {reference : Reference}
    (named : reference.IsNamed) {failure : Failure}
    (failed : read documents reference = .error failure) : failure.isStore = true := by
  rw [read] at failed
  split at failed
  · split at failed <;> cases failed
  · split at failed
    · split at failed
      · next refused =>
        cases failed
        obtain ⟨kept, passing, _, _⟩ := exists_keepPassing named.filters
          (sortById (documents.filter (StoredDocument.liesIn reference.segments)))
        rw [run, passing] at refused
        dsimp only at refused
        split at refused
        · next unsorted =>
          cases refused
          exact isStore_of_sortByKeys named.orders unsorted
        · cases refused
      · cases failed
    · cases failed
      rfl

/-- What a read answers: a document, stored or missing, or the stored documents of a collection. -/
theorem shape_of_read {documents : List StoredDocument} {reference : Reference}
    {snapshot : Snapshot} (answered : read documents reference = .ok snapshot) :
    (reference.isDocument = true ∧
        ((∃ data, snapshot = .document (.stored reference.path data)) ∨
          snapshot = .document (.missing reference.path))) ∨
      reference.isCollection = true ∧
        ∃ found : List StoredDocument, snapshot = .query (found.map StoredDocument.snapshot) := by
  rw [read] at answered
  split at answered
  · next document =>
    refine .inl ⟨document, ?_⟩
    split at answered
    · cases answered
      exact .inl ⟨_, rfl⟩
    · cases answered
      exact .inr rfl
  · split at answered
    · next collection =>
      refine .inr ⟨collection, ?_⟩
      split at answered
      · cases answered
      · cases answered
        exact ⟨_, rfl⟩
    · cases answered

end Query

/-! ### Results of reads -/

namespace QueryResult

theorem exists_documentsOf (fields : List Text) (documents : List StoredDocument) :
    ∃ found, documentsOf fields
      ((documents.map StoredDocument.snapshot).filter DocumentSnapshot.present) = .ok found := by
  induction documents with
  | nil => exact ⟨[], rfl⟩
  | cons document rest inductionHypothesis =>
    obtain ⟨found, known⟩ := inductionHypothesis
    rw [List.map_cons, List.filter_cons_of_pos rfl, documentsOf, StoredDocument.snapshot,
      Document.ofSnapshot_stored]
    dsimp only
    rw [known]
    exact ⟨_, rfl⟩

/-- What was read from a store becomes a result, or a failure that live queries hand on. -/
theorem isDeliverable_of_ofSnapshot {documents : List StoredDocument} {reference : Reference}
    {snapshot : Snapshot} (answered : Query.read documents reference = .ok snapshot)
    {type : QueryType} {path : Value} {projection : Projection} {failure : Failure}
    (failed : ofSnapshot type path projection snapshot = .error failure) :
    failure.isDeliverable = true := by
  cases type with
  | document =>
    rcases Query.shape_of_read answered with ⟨_, ⟨data, rfl⟩ | rfl⟩ | ⟨_, found, rfl⟩
    · have present : (DocumentSnapshot.stored reference.path data).present = true := rfl
      rw [ofSnapshot, ofDocument, if_pos present, Document.ofSnapshot_stored] at failed
      cases failed
    · cases failed
      rfl
    · cases failed
      rfl
  | collection =>
    rcases Query.shape_of_read answered with ⟨_, ⟨data, rfl⟩ | rfl⟩ | ⟨_, found, rfl⟩
    · cases failed
      rfl
    · cases failed
      rfl
    · obtain ⟨listed, known⟩ := exists_documentsOf projection.restriction found
      rw [ofSnapshot, ofCollection, known] at failed
      cases failed

end QueryResult

/-! ### What reads depend on -/

namespace Query

/-- A document reference reads its document, a collection reference the documents in it. -/
theorem read_congr {documents others : List StoredDocument} {reference : Reference}
    (document : reference.isDocument = true →
      dataAt reference.segments documents = dataAt reference.segments others)
    (collection : reference.isCollection = true →
      documents.filter (StoredDocument.liesIn reference.segments) =
        others.filter (StoredDocument.liesIn reference.segments)) :
    read documents reference = read others reference := by
  rw [read, read]
  by_cases isDocument : reference.isDocument = true
  · rw [if_pos isDocument, if_pos isDocument, document isDocument]
  · rw [if_neg isDocument, if_neg isDocument]
    by_cases isCollection : reference.isCollection = true
    · rw [if_pos isCollection, if_pos isCollection, run, run, collection isCollection]
    · rw [if_neg isCollection, if_neg isCollection]

theorem filter_put {keep : StoredDocument → Bool} {segments : Segments}
    (left : ∀ data, keep ⟨segments, data⟩ = false) (data : Entries)
    (documents : List StoredDocument) :
    (put segments data documents).filter keep = documents.filter keep := by
  induction documents with
  | nil => rw [put, List.filter_cons_of_neg (by rw [left]; exact Bool.false_ne_true)]
  | cons document rest inductionHypothesis =>
    rw [put]
    split
    · next same =>
      have gone : keep document = false := by
        rw [← left document.data, ← same]
      rw [List.filter_cons_of_neg (by rw [left]; exact Bool.false_ne_true),
        List.filter_cons_of_neg (by rw [gone]; exact Bool.false_ne_true)]
    · rw [List.filter_cons, List.filter_cons, inductionHypothesis]

theorem filter_takeOut {keep : StoredDocument → Bool} {segments : Segments}
    (left : ∀ data, keep ⟨segments, data⟩ = false) (documents : List StoredDocument) :
    (takeOut segments documents).filter keep = documents.filter keep := by
  rw [takeOut, List.filter_filter]
  refine List.filter_congr fun document _ => ?_
  by_cases same : document.segments = segments
  · have gone : keep document = false := by
      rw [← left document.data, ← same]
    rw [gone, Bool.false_and]
  · rw [decide_eq_true same, Bool.and_true]

variable {κ : Type} {listener : Listener κ} {segments : Segments}

theorem liesIn_of_not_covers (uncovered : listener.covers segments = false)
    (isCollection : listener.reference.isCollection = true) (data : Entries) :
    StoredDocument.liesIn listener.reference.segments ⟨segments, data⟩ = false := by
  have notDocument : listener.reference.isDocument = false :=
    Segments.not_isDocument_of_isCollection isCollection
  rw [Listener.covers, if_neg (by rw [notDocument]; exact Bool.false_ne_true),
    if_pos isCollection] at uncovered
  rw [← Bool.not_eq_true, StoredDocument.liesIn_iff]
  rintro ⟨id, same⟩
  have parent : Segments.parent segments = listener.reference.segments := by
    rw [Segments.parent, show segments = listener.reference.segments ++ [id] from same,
      List.dropLast_concat]
  rw [parent, beq_self_eq_true] at uncovered
  cases uncovered

theorem ne_of_not_covers (uncovered : listener.covers segments = false)
    (isDocument : listener.reference.isDocument = true) :
    listener.reference.segments ≠ segments := by
  intro same
  rw [Listener.covers, if_pos isDocument, same, beq_self_eq_true] at uncovered
  cases uncovered

/-- A write that does not concern a listener changes nothing that its reference reads. -/
theorem read_put (uncovered : listener.covers segments = false) (data : Entries)
    (documents : List StoredDocument) :
    read (put segments data documents) listener.reference =
      read documents listener.reference :=
  read_congr
    (fun isDocument => dataAt_put_of_ne (ne_of_not_covers uncovered isDocument) data documents)
    fun isCollection => filter_put (liesIn_of_not_covers uncovered isCollection) data documents

/-- A removal that does not concern a listener changes nothing that its reference reads. -/
theorem read_takeOut (uncovered : listener.covers segments = false)
    (documents : List StoredDocument) :
    read (takeOut segments documents) listener.reference = read documents listener.reference :=
  read_congr
    (fun isDocument => dataAt_takeOut_of_ne (ne_of_not_covers uncovered isDocument) documents)
    fun isCollection => filter_takeOut (liesIn_of_not_covers uncovered isCollection) documents

end Query

end DocQuery
