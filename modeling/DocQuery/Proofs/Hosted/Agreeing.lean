/-
This file proves that a fetch and a watch of a hosted store make the same of what the client gives.

A fetch hands on every document of a list, and the result leaves out those that do not exist; a
watch hands on those that exist only. If the list converts, both make a result of the existing
documents, in the order of the client. A document that is fetched and a list whose first document it
is come to the same result, or are missing at the same path, and so is an empty list.

What a watch makes of a list is what its live query delivers next, in an event loop or outside one.
-/

import DocQuery.Proofs.Hosted.Relaying

namespace DocQuery

/-! ### Documents of results -/

namespace NativeDocument

/-- The data of a document as a map. -/
def entries (document : NativeDocument) : Entries :=
  match document.data with
  | .map entries => entries
  | _ => []

/-- The document of a result that a document becomes which exists. -/
def listed (projection : Projection) (document : NativeDocument) : Document :=
  ⟨document.path, Document.restrict projection.restriction document.entries, true⟩

/-- A document that exists becomes a document of a result, if its data are a map. -/
theorem ofSnapshot_of_present {document : NativeDocument} (plain : document.IsPlain)
    (present : document.present = true) (projection : Projection) :
    Document.ofSnapshot projection.restriction ⟨document.path, document.data, true⟩ =
      .ok (document.listed projection) := by
  obtain ⟨path, data, broken⟩ := document
  rcases plain with none | ⟨entries, some⟩
  · rw [NativeDocument.present, none] at present
    cases present
  · cases some
    exact Document.ofSnapshot_stored projection.restriction path entries

theorem documentsOf_present {documents : List NativeDocument}
    (plain : ∀ document ∈ documents, document.IsPlain) (projection : Projection) :
    QueryResult.documentsOf projection.restriction
        ((documents.filter NativeDocument.present).map fun document =>
          ⟨document.path, document.data, true⟩) =
      .ok ((documents.filter NativeDocument.present).map (NativeDocument.listed projection)) := by
  induction documents with
  | nil => rfl
  | cons document rest inductionHypothesis =>
    obtain ⟨first, others⟩ := List.forall_mem_cons.mp plain
    cases present : document.present with
    | true =>
      rw [List.filter_cons_of_pos present, List.map_cons, List.map_cons, QueryResult.documentsOf,
        ofSnapshot_of_present first present, inductionHypothesis others]
    | false =>
      rw [List.filter_cons_of_neg (by rw [present]; exact Bool.false_ne_true)]
      exact inductionHypothesis others

end NativeDocument

/-! ### Fetches and watches -/

namespace HostedReference

variable {type : QueryType} {projection : Projection} {documents : List NativeDocument}
  {reference : HostedReference} {client : NativeClient}

theorem not_isDocument_of_isCollection (collection : reference.isCollection = true) :
    reference.isDocument = false := by
  obtain ⟨handle, kind, path⟩ := reference
  cases kind <;> first | rfl | cases collection

/-- A watch of a collection is told the snapshots of the documents that exist. -/
theorem told_of_isCollection (collection : reference.isCollection = true)
    {snapshots : List DocumentSnapshot}
    (made : NativeDocument.snapshots documents = .ok snapshots) :
    reference.told documents = .ok (.query (snapshots.filter DocumentSnapshot.present)) := by
  rw [told_eq, watched_eq, not_isDocument_of_isCollection collection,
    NativeDocument.snapshots_filter made]
  rfl

/-- A watch of a document is told the snapshot of the first. -/
theorem told_of_isDocument (isDocument : reference.isDocument = true) {first : NativeDocument}
    {snapshot : DocumentSnapshot} (made : first.snapshot = .ok snapshot)
    (rest : List NativeDocument) : reference.told (first :: rest) = .ok (.document snapshot) := by
  rw [told_eq, watched_eq, if_pos isDocument]
  dsimp only
  rw [made]
  rfl

/-- A fetch that the client does not refuse comes to what it answers. -/
theorem fst_askOnce (below : reference.kind ≠ .root)
    (accepts : client.refusal client.calls ⟨reference.handle, "get", []⟩ = none)
    (answer : NativeAnswer) : (reference.askOnce type projection answer client).1 =
      QueryResult.ofRead type reference.path projection
        ((reference.snapshotOf answer).mapError Failure.awaited) := by
  rw [askOnce, fetch, fetchViews, if_neg below, NativeClient.invoke, accepts, snapshotOf]

/-- What a watch makes of a list that converts is what a fetch makes of it. -/
theorem askOnce_documents (collection : reference.isCollection = true)
    (accepts : client.refusal client.calls ⟨reference.handle, "get", []⟩ = none)
    (converts : ∀ document ∈ documents, document.Converts) :
    (reference.askOnce type projection (.documents documents) client).1 =
      reference.outcome type projection documents := by
  have below : reference.kind ≠ .root := by
    rintro root
    rw [isCollection, root] at collection
    cases collection
  obtain ⟨snapshots, made⟩ := NativeDocument.exists_snapshots converts
  rw [fst_askOnce below accepts,
    snapshotOf_documents (not_isDocument_of_isCollection collection), made,
    outcome, told_of_isCollection collection made]
  cases type with
  | document => rfl
  | collection =>
    -- the result leaves out once more what the watch left out
    simp only [QueryResult.ofRead, Except.bind, QueryResult.ofSnapshot, QueryResult.ofCollection,
      Except.map, Except.mapError, List.filter_filter, Bool.and_self]

/-- What a watch makes of a list whose first document converts is what a fetch makes of that
document. -/
theorem askOnce_document (isDocument : reference.isDocument = true)
    (accepts : client.refusal client.calls ⟨reference.handle, "get", []⟩ = none)
    {first : NativeDocument} (converts : first.Converts) (rest : List NativeDocument) :
    (reference.askOnce type projection (.document first) client).1 =
      reference.outcome type projection (first :: rest) := by
  have below : reference.kind ≠ .root := by
    rintro root
    rw [HostedReference.isDocument, root] at isDocument
    cases isDocument
  obtain ⟨snapshot, made⟩ := converts
  rw [fst_askOnce below accepts, snapshotOf_document isDocument, made, outcome,
    told_of_isDocument isDocument made]
  rfl

/-- A collection comes to the documents that exist, in the order of the client. -/
theorem outcome_collection (collection : reference.isCollection = true)
    (converts : ∀ document ∈ documents, document.Converts)
    (plain : ∀ document ∈ documents, document.IsPlain) :
    reference.outcome .collection projection documents =
      .ok ⟨(documents.filter NativeDocument.present).map (NativeDocument.listed projection),
        projection.active⟩ := by
  obtain ⟨snapshots, made⟩ := NativeDocument.exists_snapshots converts
  have kept := (NativeDocument.snapshots_filter made).symm.trans
    (NativeDocument.snapshots_present converts)
  rw [outcome, told_of_isCollection collection made]
  simp only [QueryResult.ofRead, Except.bind, QueryResult.ofSnapshot, QueryResult.ofCollection,
    List.filter_filter, Bool.and_self]
  rw [Except.ok.inj kept, NativeDocument.documentsOf_present plain]
  rfl

/-- A document comes to itself, if it exists. -/
theorem outcome_document (isDocument : reference.isDocument = true) {first : NativeDocument}
    (converts : first.Converts) (plain : first.IsPlain) (present : first.present = true)
    (rest : List NativeDocument) :
    reference.outcome .document projection (first :: rest) =
      .ok ⟨[first.listed projection], projection.active⟩ := by
  rw [outcome, told_of_isDocument isDocument
    (NativeDocument.snapshot_of_present present converts)]
  simp only [QueryResult.ofRead, Except.bind, QueryResult.ofSnapshot, QueryResult.ofDocument,
    if_true]
  rw [NativeDocument.ofSnapshot_of_present plain present]
  rfl

end HostedReference

/-! ### Deliveries -/

namespace HostedWorld

variable {recipient query watch : Nat} {type : QueryType} {projection : Projection}
  {reference : HostedReference} {due : List Update} {hosted : HostedWorld}

/-- If no call waits, the next list is told in the next turn of the loop, or at once outside one. -/
theorem world_turn_fire (idle : hosted.waiting = []) (watch : Watch)
    (documents : List NativeDocument) : (hosted.fire watch documents).2.turn.world =
      (call ⟨watch.callback, watch.reference.told documents⟩ hosted.world).2 := by
  rw [fire, dispatch]
  split
  · rw [idle]
    rfl
  · rw [turn, idle]
    rfl

/-- What a live query delivers next, if it is active and no call waits. -/
theorem Relaying.delivers
    (relaying : Relaying type projection reference recipient query watch due hosted)
    (idle : hosted.waiting = []) (active : hosted.world.IsActive query)
    {documents : List NativeDocument} (plain : ∀ document ∈ documents, document.IsPlain) :
    (hosted.step (.fire watch documents)).turn.world.toldTo recipient =
      hosted.world.toldTo recipient ++ [updateFor type projection reference documents] := by
  obtain ⟨found, present, continues⟩ := relaying.ledger.present
  obtain ⟨known, same, isActive⟩ := active
  obtain rfl := Option.some.inj (present.symm.trans same)
  have relays := relays_call_of_active relaying.ledger.secludes present continues.sink isActive
    ((continues.delivery? _).trans (delivery?_queryOf plain))
  rw [HostedWorld.step, relaying.known]
  dsimp only
  rw [world_turn_fire idle, relays.told]

/-- Every active live query on a hosted store, in an event loop or outside one, delivers next what a
fetch comes to that the client answers with the same documents, if they convert. For a collection
these are the existing documents in the order of the client, and for a document the one document, or
that it is missing. -/
theorem delivers_fetched (looped : Bool) (mode : BuildMode) (before : List Step) (name : Text)
    (reactions : List Reaction) (type : QueryType) (projection : Projection)
    (reference : HostedReference) {reached : HostedWorld}
    (subscribed : ((start looped mode).runAll before).subscribe name reactions type projection
      reference = (.ok query, reached)) (steps : List Step)
    (active : (reached.runAll steps).turn.world.IsActive query) {documents : List NativeDocument}
    (converts : ∀ document ∈ documents, document.Converts)
    (plain : ∀ told ∈ documents :: firedAt ((start looped mode).runAll before).watches.length steps,
      ∀ document ∈ told, document.IsPlain) {client : NativeClient}
    (accepts : client.refusal client.calls ⟨reference.handle, "get", []⟩ = none) :
    let hosted := (start looped mode).runAll before
    let later := (reached.runAll steps).turn
    let fetched (answer : NativeAnswer) := (reference.askOnce type projection answer client).1
    ∃ outcome : Except Failure QueryResult,
      (later.step (.fire hosted.watches.length documents)).turn.world.toldTo
          hosted.world.recipients.length =
        later.world.toldTo hosted.world.recipients.length ++ [.ofResult outcome] ∧
      (reference.isCollection = true → fetched (.documents documents) = outcome ∧
        (type = .collection → outcome =
          .ok ⟨(documents.filter NativeDocument.present).map (NativeDocument.listed projection),
            projection.active⟩)) ∧
      (reference.isDocument = true → ∀ first rest, documents = first :: rest →
        fetched (.document first) = outcome ∧
        (type = .document → outcome =
          if first.present then .ok ⟨[first.listed projection], projection.active⟩
          else .error (.notFound reference.path))) ∧
      (reference.isDocument = true → type = .document → documents = [] →
        outcome = .error (.notFound reference.path)) := by
  intro hosted later fetched
  obtain ⟨plain, others⟩ := List.forall_mem_cons.mp plain
  obtain ⟨ran, _⟩ := relaying_runAll subscribed others
  obtain ⟨relaying, _⟩ := ran.advance (reached.runAll steps).waiting.length
  rw [← turn_eq_advance] at relaying
  refine ⟨reference.outcome type projection documents, relaying.delivers rfl active plain,
    fun collection => ⟨?_, ?_⟩, ?_, ?_⟩
  · exact HostedReference.askOnce_documents collection accepts converts
  · rintro rfl
    exact HostedReference.outcome_collection collection converts plain
  · rintro isDocument first rest rfl
    have firstConverts := converts first List.mem_cons_self
    refine ⟨HostedReference.askOnce_document isDocument accepts firstConverts rest, ?_⟩
    rintro rfl
    split
    · next present =>
      exact HostedReference.outcome_document isDocument firstConverts
        (plain first List.mem_cons_self) present rest
    · next absent =>
      refine HostedReference.outcome_of_missing isDocument fun found same => ?_
      rw [← Option.some.inj same]
      exact eq_false_of_ne_true absent
  · rintro isDocument rfl rfl
    exact HostedReference.outcome_of_missing isDocument nofun

/-- Outside an event loop, the ages of two people are asked for, one of whom is missing. -/
theorem delivers_fetched_hostedPeople :
    let reached := ((start false .permissive).subscribe "watch" [] .collection (.onto ["age"])
      hostedPeople).2.step (.fire 0 [])
    let documents := [⟨"people/eve", .null, none⟩, nativeAda]
    let result : QueryResult := ⟨[⟨"people/ada", [("age", .int 36)], true⟩], true⟩
    (hostedPeople.askOnce .collection (.onto ["age"]) (.documents documents) .willing).1 =
        .ok result ∧
      (reached.step (.fire 0 documents)).turn.world.toldTo 0 =
        [.result ⟨[], true⟩, .result result] := by
  intro reached documents result
  have ada : nativeAda.IsPlain := .inr ⟨_, rfl⟩
  have eve : NativeDocument.IsPlain ⟨"people/eve", .null, none⟩ := .inl rfl
  have adaConverts : nativeAda.Converts := ⟨_, rfl⟩
  have eveConverts : NativeDocument.Converts ⟨"people/eve", .null, none⟩ := ⟨_, rfl⟩
  have accepts : NativeClient.willing.refusal NativeClient.willing.calls
      ⟨hostedPeople.handle, "get", []⟩ = none := rfl
  obtain ⟨outcome, told, collection, _⟩ := delivers_fetched false .permissive [] "watch" []
    .collection (.onto ["age"]) hostedPeople rfl [.fire 0 []] ⟨_, rfl, rfl⟩
    (List.forall_mem_cons.mpr ⟨eveConverts, List.forall_mem_singleton.mpr adaConverts⟩)
    (List.forall_mem_cons.mpr ⟨List.forall_mem_cons.mpr ⟨eve, List.forall_mem_singleton.mpr ada⟩,
      List.forall_mem_singleton.mpr fun _ none => absurd none List.not_mem_nil⟩) accepts
  obtain ⟨fetched, existing⟩ := collection rfl
  obtain rfl := existing rfl
  exact ⟨fetched, told⟩

end HostedWorld

end DocQuery
