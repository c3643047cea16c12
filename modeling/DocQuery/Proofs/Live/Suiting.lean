/-
This file proves that the classifier, the builder and the executor agree.

Of a query that was built, the kind says whether its reference is a collection. So a snapshot that is
read of the reference is of the kind that is asked for, when the query is asked once and when it is
live. For the latter each delivery of a wrong kind is traced back: only a live query whose type does
not suit the reference it reads can be to blame, since listeners stand on the references that their
live queries read, and live queries never change what they read or of which type they are.

A failure that is reported is handed on as it is, and says nothing about how things stand.
-/

import DocQuery.Proofs.Building.Refusals
import DocQuery.Proofs.Live.Projecting
import DocQuery.Proofs.Live.Releasing

namespace DocQuery

theorem Update.eq_error_of_ofResult {delivery : Except Failure QueryResult} {failure : Failure}
    (told : ofResult delivery = .failure failure) : delivery = .error failure := by
  cases delivery <;> cases told
  rfl

namespace World

/-! ### Blame -/

/-- Every listener of a live query is on the reference that its live query reads. -/
def Matched (world : World) : Prop :=
  ∀ name id reference query, world.Attends name id reference query →
    ∃ found, world.queries[query]? = some found ∧ found.source = some (.store name reference)

/-- A live query that delivers to the sink is of a type that does not suit what it reads. -/
def Misreads (sink : Sink) (world : World) : Prop :=
  ∃ (query : Nat) (found : LiveQuery) (name : Text) (reference : Reference),
    world.queries[query]? = some found ∧ found.sink = sink ∧
      found.source = some (.store name reference) ∧ ¬ found.handle.type.Suits reference

/-- Whoever was told that things stand in a wrong way for its query has a live query to blame. -/
def Blames (world : World) : Prop :=
  ∀ event ∈ world.events, event.occasion = .standing →
    ∀ failure, event.update = .failure failure → failure.IsMismatch →
      world.Misreads (.recipient event.recipient)

/-- A state goes on to a matched one: live queries continue, and whoever was to blame still is. -/
structure Accounts (world later : World) : Prop where
  matched : later.Matched
  queries : ∀ {query : Nat} {found : LiveQuery}, world.queries[query]? = some found →
    ∃ after, later.queries[query]? = some after ∧ after.Continues found
  blames : world.Blames → later.Blames

/-- A failure by which things stand in a wrong way is told only to where a live query misreads. -/
def accounting : Terms where
  good := Matched
  allowed _ := True
  callable _ _ := True
  owed world sink occasion update := occasion = .standing →
    ∀ failure, update = .failure failure → failure.IsMismatch → world.Misreads sink
  relation := Accounts

variable {world later : World}

theorem Misreads.of_queries {sink : Sink} (misreads : world.Misreads sink)
    (queries : ∀ {query : Nat} {found : LiveQuery}, world.queries[query]? = some found →
      ∃ after, later.queries[query]? = some after ∧ after.Continues found) :
    later.Misreads sink := by
  obtain ⟨query, found, name, reference, present, same, source, unsuited⟩ := misreads
  obtain ⟨after, there, continues⟩ := queries present
  exact ⟨query, after, name, reference, there, continues.sink.trans same,
    continues.source.trans source, continues.type ▸ unsuited⟩

namespace Accounts

theorem refl (matched : world.Matched) : world.Accounts world :=
  ⟨matched, fun present => ⟨_, present, .refl _⟩, id⟩

theorem trans {first second third : World} (accounts : first.Accounts second)
    (further : second.Accounts third) : first.Accounts third := by
  refine ⟨further.matched, fun present => ?_, fun blames => further.blames (accounts.blames blames)⟩
  obtain ⟨middle, known, continues⟩ := accounts.queries present
  obtain ⟨last, there, continuing⟩ := further.queries known
  exact ⟨last, there, continuing.trans continues⟩

/-- What lets live queries continue, adds no listener and tells nothing. -/
theorem of_kept (matched : world.Matched)
    (queries : ∀ {query : Nat} {found : LiveQuery}, world.queries[query]? = some found →
      ∃ after, later.queries[query]? = some after ∧ after.Continues found)
    (attends : ∀ name id reference query, later.Attends name id reference query →
      world.Attends name id reference query)
    (events : later.events ⊆ world.events) : world.Accounts later := by
  refine ⟨fun name id reference query attending => ?_, queries,
    fun blames event member occasion failure told mismatch => ?_⟩
  · obtain ⟨found, present, source⟩ :=
      matched name id reference query (attends name id reference query attending)
    obtain ⟨after, there, continues⟩ := queries present
    exact ⟨after, there, continues.source.trans source⟩
  · exact (blames event (events member) occasion failure told mismatch).of_queries queries

/-- What leaves stores and live queries as they are, and tells nothing. -/
theorem of_same (matched : world.Matched) (stores : later.stores = world.stores)
    (queries : later.queries = world.queries) (events : later.events ⊆ world.events) :
    world.Accounts later := by
  refine .of_kept matched (fun {_ found} present => ⟨found, by rwa [queries], .refl found⟩)
    (fun name id reference query => ?_) events
  rintro ⟨store, there, member⟩
  rw [store?, stores] at there
  exact ⟨store, there, member⟩

end Accounts

/-! ### Single operations -/

theorem Matched.accounts_updateStore (matched : world.Matched)
    {change : Store Callback → Store Callback} (shrinks : Shrinks change) (name : Text) :
    world.Accounts (world.updateStore name change) := by
  obtain ⟨stores, same⟩ := exists_updateStore name change world
  exact .of_kept matched (fun {_ found} present => ⟨found, by rwa [same], .refl found⟩)
    (fun _ _ _ _ => shrinks.attends) (by rw [same]; exact List.Subset.refl _)

theorem Matched.accounts_updateHandle (matched : world.Matched) (query : Nat)
    {change : Subscription Release → Subscription Release} (steers : Steers change) :
    world.Accounts (world.updateHandle query change) :=
  .of_kept matched (steers.continues query) (fun _ _ _ _ attends => attends) (List.Subset.refl _)

/-- What is told is the last event, if whom it is told to is there. -/
theorem Matched.accounts_tell (matched : world.Matched) {index : Nat} {occasion : Occasion}
    {update : Update} (owed : accounting.owed world (.recipient index) occasion update) :
    world.Accounts (world.tell index occasion update) := by
  rw [tell]
  split
  · exact .refl matched
  · refine ⟨matched, fun present => ⟨_, present, .refl _⟩,
      fun blames event member standing failure told mismatch => ?_⟩
    rcases List.mem_append.mp member with earlier | new
    · exact blames event earlier standing failure told mismatch
    · rw [List.mem_singleton.mp new] at standing told ⊢
      exact owed standing failure told mismatch

theorem Matched.accounts_addQuery (matched : world.Matched) (query : LiveQuery) :
    world.Accounts (world.addQuery query).2 :=
  .of_kept matched
    (fun {_ found} present =>
      ⟨found, getElem?_concat_eq_some.mpr (.inl present), .refl found⟩)
    (fun _ _ _ _ attends => attends) (List.Subset.refl _)

/-- The new listener is on what its live query reads. -/
theorem Matched.accounts_register (matched : world.Matched) {name : Text} {reference : Reference}
    {callback : Callback}
    (reads : ∀ query, callback = .live query → ∃ found, world.queries[query]? = some found ∧
      found.source = some (.store name reference)) :
    world.Accounts (world.updateStore name (Store.register ⟨reference, callback⟩)) := by
  obtain ⟨stores, same⟩ := exists_updateStore name (Store.register ⟨reference, callback⟩) world
  refine ⟨fun other id asked query attends => ?_, fun {_ found} present => ?_, fun blames => ?_⟩
  · obtain ⟨after, there, member⟩ := attends
    obtain ⟨store, before, _, cases⟩ := register_cases there
    rw [same]
    rcases cases _ member with old | ⟨rfl, new, _⟩
    · exact matched other id asked query ⟨store, before, old⟩
    · cases new
      exact reads query rfl
  · rw [same]
    exact ⟨found, present, .refl found⟩
  · rw [same]
    exact blames

/-! ### Keeping accounts -/

theorem telling_accounting : accounting.Telling where
  refl := .refl
  trans := .trans
  good := Accounts.matched
  scripts _ _ _ _ _ _ := trivial
  countDelivery matched _ := .of_same matched rfl rfl (List.Subset.refl _)
  tell matched owed := matched.accounts_tell owed
  count query _ matched := matched.accounts_updateHandle query steers_count
  push matched _ := .of_same matched rfl rfl (List.Subset.refl _)
  notifyAll _ _ matched := .of_same matched rfl rfl (List.Subset.refl _)
  counted {query _ _ _ _} owed standing failure told mismatch :=
    (owed standing failure told mismatch).of_queries (steers_count.continues query)
  noticed := id

theorem releasing_accounting : accounting.Releasing where
  toTelling := telling_accounting
  shrink shrinks name _ matched := matched.accounts_updateStore shrinks name
  steer query _ steers _ matched := matched.accounts_updateHandle query steers
  release _ _ matched := .of_same matched rfl rfl (List.Subset.refl _)
  finish _ _ matched := .of_same matched rfl rfl (List.Subset.refl _)

/-- What is read for a listener of a live query is of a wrong kind only if the query misreads. -/
theorem Matched.owes (matched : world.Matched) {name : Text} {store : Store Callback}
    {entry : Nat × Listener Callback} (there : world.store? name = some store)
    (member : entry ∈ store.listeners) (accounts : world.Accounts later)
    (documents : List StoredDocument) :
    accounting.Owes entry.2.callback .standing (Query.read documents entry.2.reference) later := by
  obtain ⟨id, reference, callback⟩ := entry
  cases callback with
  | recipient index =>
    intro _ failure told mismatch
    cases answered : Query.read documents reference with
    | ok snapshot => rw [answered] at told; cases told
    | error refusal =>
      rw [answered] at told
      cases told
      exact absurd mismatch (Query.not_isMismatch_of_read answered)
  | live query =>
    intro found present _ failure told mismatch
    obtain ⟨before, known, source⟩ := matched name id reference query ⟨store, there, member⟩
    obtain ⟨after, same, continues⟩ := accounts.queries known
    obtain rfl := Option.some.inj (present.symm.trans same)
    refine ⟨query, found, name, reference, present, rfl, continues.source.trans source,
      fun suits => ?_⟩
    cases answered : Query.read documents reference with
    | ok snapshot =>
      rw [answered] at told
      exact QueryResult.not_isMismatch_of_ofSnapshot answered suits
        (Update.eq_error_of_ofResult told) mismatch
    | error refusal =>
      rw [answered] at told
      cases told
      exact Query.not_isMismatch_of_read answered mismatch

/-- Nothing that is reported says how things stand. -/
theorem owes_report (callback : Callback) (read : Except Failure Snapshot) (world : World) :
    accounting.Owes callback .report read world := by
  cases callback with
  | recipient index => exact nofun
  | live query => exact fun _ _ => nofun

theorem starting_accounting : accounting.Starting where
  toTelling := telling_accounting
  listening _ _ _ _ := trivial
  subscribing _ _ _ _ := trivial
  report _ _ _ _ _ := owes_report _ _ _
  announce _ _ _ read := owes_report _ read _
  read matched there member accounts documents := matched.owes there member accounts documents
  write name _ _ _ _ _ _ matched := matched.accounts_updateStore (shrinks_write _ _) name
  remove name _ _ _ _ matched := matched.accounts_updateStore (shrinks_remove _) name
  close name _ matched := matched.accounts_updateStore shrinks_close name
  unlisten label _ := releasing_accounting.unlisten label
  cancelQuery query _ := releasing_accounting.cancelQuery query
  closeStream stream _ := releasing_accounting.closeStream stream
  bindFeed _ _ _ _ matched := .of_same matched rfl rfl (List.Subset.refl _)
  cutShort matched := .of_same matched rfl rfl (List.Subset.refl _)
  register reads _ matched := matched.accounts_register reads
  addRecipient _ _ _ _ matched := .of_same matched rfl rfl (List.Subset.refl _)
  newListener _ _ _ := trivial
  newRecipient label reactions _ _ world matched := by
    have added : world.Accounts (world.addRecipient label reactions).2 :=
      .of_same matched rfl rfl (List.Subset.refl _)
    exact ⟨added.trans (added.matched.accounts_addQuery _), trivial⟩
  newStream _ world matched := by
    have added : world.Accounts world.addStream.2 :=
      .of_same matched rfl rfl (List.Subset.refl _)
    exact ⟨added.trans (added.matched.accounts_addQuery _), trivial⟩
  attach query release _ := releasing_accounting.attach query release
  names _ _ _ _ matched := .of_same matched rfl rfl (List.Subset.refl _)

theorem spanning_accounting : accounting.Spanning where
  toRunning := starting_accounting.running
  everything _ := trivial
  everybody callback read _ _ := owes_report callback read _
  take _ _ matched := .of_same matched rfl rfl (List.Subset.refl _)
  remark fewer _ _ matched := .of_same matched rfl rfl fewer

theorem matched_ofStores {mode : BuildMode} {stores : List (Text × Store Callback)}
    (unheard : ∀ entry ∈ stores, entry.2.listeners = []) : (ofStores mode stores).Matched := by
  rintro name id reference query ⟨store, there, member⟩
  rw [listeners_ofStores unheard there] at member
  cases member

theorem Runs.accounts {first last : World} (run : first.Runs last) (matched : first.Matched) :
    first.Accounts last :=
  spanning_accounting.of_runs run matched

/-! ### Queries that were built -/

/-- Whoever is to blame at the sink of a live query is that live query. -/
theorem Traced.not_suits {world : World} (traced : world.Traced) {query : Nat} {found : LiveQuery}
    {name : Text} {reference : Reference} (present : world.queries[query]? = some found)
    (source : found.source = some (.store name reference)) (misreads : world.Misreads found.sink) :
    ¬ found.handle.type.Suits reference := by
  obtain ⟨other, culprit, otherName, otherReference, known, sink, reads, unsuited⟩ := misreads
  obtain rfl := traced.apart other query culprit found known present sink
  obtain rfl := Option.some.inj (known.symm.trans present)
  rw [source] at reads
  cases reads
  exact unsuited

/-- A live query of a type that suits what it reads is never told of a snapshot of the wrong kind. -/
theorem Runs.not_isMismatch {mode : BuildMode} {stores : List (Text × Store Callback)}
    (unheard : ∀ entry ∈ stores, entry.2.listeners = []) (run : (ofStores mode stores).Runs later)
    {query : Nat} {found : LiveQuery} (present : later.queries[query]? = some found) {name : Text}
    {reference : Reference} (source : found.source = some (.store name reference))
    (suits : found.handle.type.Suits reference) {event : Event} (member : event ∈ later.events)
    (sink : found.sink = .recipient event.recipient) (standing : event.occasion = .standing)
    {failure : Failure} (told : event.update = .failure failure) : ¬ failure.IsMismatch := by
  intro mismatch
  have blames : later.Blames :=
    (run.accounts (matched_ofStores unheard)).blames fun _ none => absurd none List.not_mem_nil
  have misreads := blames event member standing failure told mismatch
  rw [← sink] at misreads
  exact (run.leads.traced (traced_ofStores _ _)).not_suits present source misreads suits

/-- What holds of the answers of a query and of what was built of it: its type suits the reference,
and whether it is asked once, is live, wherever it was started, or is started here with a new
recipient, no answer ever fails by a snapshot of the wrong kind. -/
structure Concord (components : List Component) (built : Built Reference) : Prop where
  suits : (classify components).Suits built.reference
  asked : ∀ (world : World) name failure,
    world.askOnce (.ofBuilt name components built) = .error failure → ¬ failure.IsMismatch
  live : ∀ {mode : BuildMode} {stores : List (Text × Store Callback)},
    (∀ entry ∈ stores, entry.2.listeners = []) → ∀ {after : World},
      (ofStores mode stores).Runs after → ∀ (query : Nat) (found : LiveQuery),
        after.queries[query]? = some found → ∀ name,
          found.source = some (.store name built.reference) →
            found.handle.type = classify components →
              ∀ event ∈ after.events, found.sink = .recipient event.recipient →
                event.occasion = .standing → ∀ failure, event.update = .failure failure →
                  ¬ failure.IsMismatch
  told : ∀ {mode : BuildMode} {stores : List (Text × Store Callback)},
    (∀ entry ∈ stores, entry.2.listeners = []) → ∀ {world : World},
      (ofStores mode stores).Runs world → ∀ {performer : Performer},
        (∀ action (inside : World), inside.Runs (performer action inside).2) →
          ∀ name label reactions after,
            ((world.addRecipient label reactions).2.subscribeTo performer label
              (.ofBuilt name components built) world.recipients.length).2.Runs after →
                ∀ event ∈ after.events, event.recipient = world.recipients.length →
                  event.occasion = .standing → ∀ failure, event.update = .failure failure →
                    ¬ failure.IsMismatch

/-- Every query that is built, in either mode, is in concord with what is built of it. -/
theorem concord_of_build {strictness : BuildMode} {components : List Component}
    {built : Built Reference}
    (outcome : (Reference.build strictness components).outcome = .ok built) :
    Concord components built := by
  have suits : (classify components).Suits built.reference :=
    (Reference.stands_of_build outcome).suits
  refine ⟨suits, fun world name failure failed => ?_,
    fun unheard after run query found present name source type event member sink standing failure
      told => ?_,
    fun unheard world run _ plays name label reactions after later event member owner standing
      failure told => ?_⟩
  · cases there : world.store? name with
    | none =>
      simp only [askOnce, fetch, Aim.ofBuilt, World.store, there] at failed
      cases failed
      intro mismatch
      cases mismatch
    | some store =>
      rw [askOnce_ofBuilt there] at failed
      cases answered : Query.read store.documents built.reference with
      | ok snapshot =>
        rw [answered] at failed
        exact QueryResult.not_isMismatch_of_ofSnapshot answered suits failed
      | error refusal =>
        rw [answered] at failed
        cases failed
        exact Query.not_isMismatch_of_read answered
  · exact run.not_isMismatch unheard present source (type ▸ suits) member sink standing told
  · have whole := (run.further (.subscribe plays label reactions _ world)).further later
    -- The live query of the start has the recipient as its sink, from when it is added.
    have allowed : accounting.Allows reactions := fun _ _ _ => trivial
    obtain ⟨added, callable⟩ := starting_accounting.newRecipient label allowed
      (.ofBuilt name components built) (run.accounts (matched_ofStores unheard)).matched
    have start := starting_accounting.subscribeTo
      (fun action inside _ matched => (plays action inside).accounts matched) label
        (.ofBuilt name components built) world.recipients.length added.matched callable
    obtain ⟨found, present, continues⟩ :=
      (start.trans (later.accounts start.matched)).queries
        (getElem?_concat_eq_some.mpr (.inr ⟨rfl, rfl⟩))
    have sink : found.sink = .recipient event.recipient := continues.sink.trans (owner ▸ rfl)
    exact whole.not_isMismatch unheard present continues.source (continues.type ▸ suits) member sink
      standing told

/-- A query on all people, with an expression where nothing can be refined yet, and a marker. -/
def markedPeople : List Component :=
  [.collectionExpression [.limit (.int 1)], .literal "people", .all]

/-- The marker lets the next literal open a collection, which is not asked of the kind; what is built
is people, and its live query is told lists, before and after the person is removed. -/
theorem concord_of_build_markedPeople :
    let built : Built Reference := ⟨.plain ["people"], .everything⟩
    let aim := Aim.ofBuilt "store" markedPeople built
    let started := ((onePerson.addRecipient "watch" []).2.subscribeTo (performTo 1) "watch" aim 0).2
    let removed := (performTo 1 (.remove "store" (.text "people/ada")) started).2
    (Reference.build .permissive markedPeople).outcome = .ok built ∧
      classify markedPeople = .collection ∧ built.reference.isCollection = true ∧
      removed.events.map Event.update =
        [.result ⟨[⟨"people/ada", [("age", .int 36), ("name", .text "Ada")], true⟩], false⟩,
          .result ⟨[], false⟩] ∧
      ∀ event ∈ removed.events, event.recipient = 0 → event.occasion = .standing →
        ∀ failure, event.update = .failure failure → ¬ failure.IsMismatch := by
  have outcome : (Reference.build .permissive markedPeople).outcome =
      .ok ⟨.plain ["people"], .everything⟩ := rfl
  have concord := concord_of_build outcome
  refine ⟨outcome, rfl, concord.suits.collection.mp rfl, rfl, ?_⟩
  have unheard : ∀ entry ∈ [(("store" : Text), (Store.ofDocuments
      [⟨["people", "ada"], [("age", .int 36), ("name", .text "Ada")]⟩] : Store Callback))],
      entry.2.listeners = [] := by
    simp [Store.ofDocuments]
  exact concord.told unheard (.stay onePerson) (fun action inside => runs_performTo 1 action inside)
    "store" "watch" [] _ (runs_performTo 1 _ _)

end World

end DocQuery
