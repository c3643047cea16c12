/-
This file proves what queries with listed fields answer, once and live.

A live query is built with the projection to the fields that are listed last, and it gets a sink
of its own. Whatever goes on later leads on, so each result that its recipient is told, and each one
that waits in its stream, can be traced back to it and was made under that projection. A query that
is asked once makes its result under the same projection. So both heed the listed fields, with the
one exception of an empty list.
-/

import DocQuery.Proofs.Building.Projecting
import DocQuery.Proofs.Live.Leading

namespace DocQuery

theorem QueryResult.IsUnder.heeds {listed : Option (List Text)} {result : QueryResult}
    (under : result.IsUnder (.ofListed listed)) : result.Heeds listed := by
  obtain ⟨type, path, snapshot, made⟩ := under
  exact heeds_of_ofSnapshot made

namespace World

/-! ### Live queries and their sinks -/

theorem traced_ofStores (mode : BuildMode) (stores : List (Text × Store Callback)) :
    (ofStores mode stores).Traced where
  told _ member := absurd member List.not_mem_nil
  queued _ _ present := absurd (List.mem_of_getElem? present) List.not_mem_nil
  there _ _ present := absurd (List.mem_of_getElem? present) List.not_mem_nil
  apart _ _ _ _ present := absurd (List.mem_of_getElem? present) List.not_mem_nil

/-- A result that is traced to the sink of a live query was made under its projection. -/
theorem Traced.isUnder {world : World} (traced : world.Traced) {query : Nat} {found : LiveQuery}
    (present : world.queries[query]? = some found) {result : QueryResult}
    (made : world.Makes found.sink result) : result.IsUnder found.projection := by
  obtain ⟨other, maker, known, sink, under⟩ := made
  obtain rfl := traced.apart other query maker found known present sink
  obtain rfl := Option.some.inj (known.symm.trans present)
  exact under

/-- Results at the sink of a live query that was added stay under its projection, whatever its
start and everything after it come to. -/
theorem isUnder_of_added {world started after : World} {aim : Aim} {sink : Sink}
    (traced : (world.addQuery (queryFor aim sink)).2.Traced)
    (start : (world.addQuery (queryFor aim sink)).2.Leads started) (later : started.Leads after)
    {result : QueryResult} (made : after.Makes sink result) :
    result.IsUnder aim.projection := by
  have leads := start.trans later
  have added : (world.addQuery (queryFor aim sink)).2.queries[world.queries.length]? =
      some (queryFor aim sink) := by
    rw [addQuery, List.getElem?_append_right (Nat.le_refl _), Nat.sub_self]
    rfl
  obtain ⟨found, present, sameSink, projection⟩ := leads.queries _ _ added
  have sinkOf : found.sink = sink := sameSink
  have projectionOf : found.projection = aim.projection := projection
  rw [← projectionOf]
  exact (leads.traced traced).isUnder present (sinkOf ▸ made)

/-! ### Heeding the listed fields -/

/-- What the answers of a query have of the fields that it lists: when it is asked once, when it is
started with a new recipient, and when it is started with a new stream, whatever goes on then. -/
structure Heeding (aim : Aim) (listed : Option (List Text)) (world : World) : Prop where
  asked : ∀ result, world.askOnce aim = .ok result → result.Heeds listed
  told : ∀ {performer : Performer},
    (∀ action (inside : World), inside.Runs (performer action inside).2) →
      ∀ label reactions after, ((world.addRecipient label reactions).2.subscribeTo performer label
        aim world.recipients.length).2.Runs after →
          ∀ event ∈ after.events, event.recipient = world.recipients.length →
            ∀ result, event.update = .result result → result.Heeds listed
  queued : ∀ {performer : Performer},
    (∀ action (inside : World), inside.Runs (performer action inside).2) →
      ∀ label after, (world.streamFrom performer label aim).2.Runs after →
        ∀ stream, after.streams[world.streams.length]? = some stream →
          ∀ result, .delivery (.ok result) ∈ stream.queue.items → result.Heeds listed

/-- In every state that is reached, every query that can be built heeds the fields that its last
document expression lists, asked once and live. -/
theorem heeding_of_runs {mode : BuildMode} {stores : List (Text × Store Callback)} {world : World}
    (run : (ofStores mode stores).Runs world) {strictness : BuildMode}
    {components : List Component} {built : Built Reference}
    (outcome : (Reference.build strictness components).outcome = .ok built) (name : Text) :
    world.Heeding (.ofBuilt name components built) (Component.listed? components) := by
  have traced := run.leads.traced (traced_ofStores mode stores)
  have projection : built.projection = .ofListed (Component.listed? components) :=
    Reference.navigation.projection_of_build outcome
  generalize made : Aim.ofBuilt name components built = aim
  have aimed : aim.projection = .ofListed (Component.listed? components) := by
    rw [← made]
    exact projection
  have leading {performer : Performer}
      (plays : ∀ action (inside : World), inside.Runs (performer action inside).2) :
      KeptBy Leads performer := fun action inside => (plays action inside).leads
  refine ⟨fun result answered => ?_,
    fun plays label reactions after later event member owner result told => ?_,
    fun plays label after later stream present result waits => ?_⟩
  · rw [askOnce, aimed] at answered
    cases fetched : world.fetch aim with
    | error failure =>
      rw [fetched] at answered
      cases answered
    | ok snapshot =>
      rw [fetched] at answered
      exact QueryResult.heeds_of_ofSnapshot answered
  · have began := (leads_newRecipient label reactions aim world).traced traced
    have start := stepwise_leads.subscribeTo (leading plays) label aim world.recipients.length
      (world.addRecipient label reactions).2
    have source := ((start.trans later.leads).traced began).told event member result told
    rw [owner] at source
    exact (aimed ▸ isUnder_of_added began start later.leads source).heeds
  · have began := (leads_newStream aim world).traced traced
    have start := stepwise_leads.streamFrom (leading plays) label aim world
    have source := ((start.trans later.leads).traced began).queued _ stream present result waits
    exact (aimed ▸ isUnder_of_added began start later.leads source).heeds

/-- A store with one person. -/
def onePerson : World :=
  ofStores .permissive [("store", .ofDocuments
    [⟨["people", "ada"], [("age", .int 36), ("name", .text "Ada")]⟩])]

/-- The query on all people that lists fields. -/
def peopleListing (fields : List Text) : List Component :=
  [.literal "people", .documentExpression fields]

/-- What is built of it. -/
def builtListing (fields : List Text) : Built Reference :=
  ⟨Reference.plain ["people"], .onto fields⟩

/-- A live query that lists the age is told the age, at its start and when the person is written
again. -/
theorem heeding_of_runs_onePerson :
    let aim := Aim.ofBuilt "store" (peopleListing ["age"]) (builtListing ["age"])
    let started := ((onePerson.addRecipient "watch" []).2.subscribeTo (performTo 1) "watch" aim 0).2
    let written := (performTo 1 (.write "store" (.text "people/ada")
      (.map [("age", .int 37), ("town", .text "London")])) started).2
    written.events.map Event.update =
        [.result ⟨[⟨"people/ada", [("age", .int 36)], true⟩], true⟩,
          .result ⟨[⟨"people/ada", [("age", .int 37)], true⟩], true⟩] ∧
      ∀ event ∈ written.events, event.recipient = 0 → ∀ result, event.update = .result result →
        result.Heeds (some ["age"]) := by
  have outcome : (Reference.build .permissive (peopleListing ["age"])).outcome =
      .ok (builtListing ["age"]) := rfl
  have heeding := heeding_of_runs (.stay onePerson) outcome "store"
  exact ⟨rfl, heeding.told (fun action inside => runs_performTo 1 action inside) "watch" [] _
    (runs_performTo 1 _ _)⟩

/-- A result can be marked and have a key that is not listed: the list is empty. -/
theorem exists_unlisted : ∃ (result : QueryResult),
    (Reference.build .permissive (peopleListing [])).outcome = .ok (builtListing []) ∧
      onePerson.askOnce (.ofBuilt "store" (peopleListing []) (builtListing [])) = .ok result ∧
        result.projected = true ∧ Component.listed? (peopleListing []) = some [] ∧
          ¬ result.KeepsTo [] := by
  refine ⟨⟨[⟨"people/ada", [("age", .int 36), ("name", .text "Ada")], true⟩], true⟩, rfl, rfl, rfl,
    rfl, fun keeps => ?_⟩
  obtain ⟨_, listed, _⟩ := keeps _ (List.mem_singleton_self _) "age" List.mem_cons_self
  cases listed

end World

end DocQuery
