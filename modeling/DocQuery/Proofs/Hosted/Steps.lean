/-
This file says what can go on around a hosted store, and what it spares.

The client tells watches whatever it likes, whenever it likes, and answers its callers as it likes.
In an event loop what was told waits, and the loop makes the waiting calls in order, as many at a
time as it gets to. Outside one a call is made at once, as if the loop got to it right away. In
between, watches and live queries are started and cancelled, and whatever listeners can do is done.
A recipient that is set apart, with its watch and the calls for it that wait, is told something by
such a call only.
-/

import DocQuery.Hosted.Watching
import DocQuery.Proofs.Live.Sparing

namespace DocQuery

namespace HostedWorld

/-! ### Steps -/

/-- The loop makes so many of the calls that wait, the oldest first. -/
def advance (count : Nat) (hosted : HostedWorld) : HostedWorld :=
  { hosted with
    world := callAll (hosted.waiting.take count) hosted.world
    waiting := hosted.waiting.drop count }

/-- What the client tells a watch waits. -/
def enqueue (watch : Watch) (documents : List NativeDocument) (hosted : HostedWorld) : HostedWorld :=
  { hosted with waiting := hosted.waiting ++ [⟨watch.callback, watch.reference.told documents⟩] }

/-- Starts a live query with a new recipient, and gives its number. -/
def subscribe (name : Text) (reactions : List Reaction) (type : QueryType)
    (projection : Projection) (reference : HostedReference) (hosted : HostedWorld) :
    Except Failure Nat × HostedWorld :=
  let added := hosted.world.addRecipient name reactions
  { hosted with world := added.2 }.startQuery type projection (.recipient added.1) reference

/-- A step of a caller, of the client, or of the loop. -/
inductive Step
  /-- Starts a watch with a new recipient. -/
  | listen (name : Text) (reactions : List Reaction) (reference : HostedReference)
  | subscribe (name : Text) (reactions : List Reaction) (type : QueryType) (projection : Projection)
      (reference : HostedReference)
  | stream (type : QueryType) (projection : Projection) (reference : HostedReference)
  /-- Names a live query, so that listeners can cancel it. -/
  | name (label : Text) (query : Nat)
  /-- Carries out what listeners can do too. -/
  | act (action : Action)
  /-- Cancels a live query. -/
  | cancel (query : Nat)
  /-- Stops a watch. -/
  | stop (watch : Nat)
  /-- The client goes on: it has had other calls, and will answer differently. -/
  | client (client : NativeClient)
  /-- The client tells a watch a list of documents. -/
  | fire (watch : Nat) (documents : List NativeDocument)
  /-- The loop makes so many of the calls that wait. -/
  | advance (count : Nat)

def step (step : Step) (hosted : HostedWorld) : HostedWorld :=
  match step with
  | .listen name reactions reference => (hosted.listen name reactions reference).2
  | .subscribe name reactions type projection reference =>
    (hosted.subscribe name reactions type projection reference).2
  | .stream type projection reference => (hosted.stream type projection reference).2
  | .name label query => { hosted with world := hosted.world.bindQuery label query }
  | .act action => { hosted with world := (hosted.world.perform action).2 }
  | .cancel query => (hosted.cancelQuery query).2
  | .stop watch =>
    match hosted.watches[watch]? with
    | none => hosted
    | some found => (hosted.stopWatch found).2
  | .client client => { hosted with client := client }
  | .fire watch documents =>
    match hosted.watches[watch]? with
    | none => hosted
    | some found => (hosted.fire found documents).2
  | .advance count => hosted.advance count

/-- Takes steps one after the other. -/
def runAll (steps : List Step) (hosted : HostedWorld) : HostedWorld :=
  steps.foldl (fun reached step => reached.step step) hosted

/-- In a turn of the loop all calls are made that wait. -/
theorem turn_eq_advance (hosted : HostedWorld) :
    hosted.turn = hosted.advance hosted.waiting.length := by
  rw [turn, advance, List.take_length, List.drop_length]

/-- Calls wait in an event loop only. -/
structure Marshals (looped : Bool) (hosted : HostedWorld) : Prop where
  loop : hosted.looped = looped
  idle : looped = false → hosted.waiting = []

namespace Marshals

variable {looped : Bool} {hosted : HostedWorld}

/-- What the client tells a watch waits in an event loop. Outside one the call is made at once. -/
theorem fire_eq (marshals : hosted.Marshals looped) (watch : Watch)
    (documents : List NativeDocument) :
    (hosted.fire watch documents).2 = if looped then hosted.enqueue watch documents
      else (hosted.enqueue watch documents).advance 1 := by
  obtain ⟨_, client, world, watches, waiting⟩ := hosted
  obtain ⟨rfl, idle⟩ := marshals
  rw [HostedWorld.fire, dispatch]
  split
  · rfl
  · next outside =>
    cases idle (eq_false_of_ne_true outside)
    rfl

theorem fire (marshals : hosted.Marshals looped) (watch : Watch) (documents : List NativeDocument) :
    (hosted.fire watch documents).2.Marshals looped := by
  rw [HostedWorld.fire, dispatch]
  split
  · next inside =>
    refine ⟨marshals.loop, fun outside => ?_⟩
    rw [marshals.loop, outside] at inside
    cases inside
  · exact ⟨marshals.loop, marshals.idle⟩

theorem advance (marshals : hosted.Marshals looped) (count : Nat) :
    (hosted.advance count).Marshals looped :=
  ⟨marshals.loop, fun outside => by
    rw [HostedWorld.advance, marshals.idle outside]
    exact List.drop_nil⟩

theorem step_fire (marshals : hosted.Marshals looped) (index : Nat)
    (documents : List NativeDocument) :
    (hosted.step (.fire index documents)).Marshals looped := by
  rw [HostedWorld.step]
  split
  · exact marshals
  · exact marshals.fire _ documents

end Marshals

/-! ### Calls -/

/-- Whatever listeners do, those that are set apart are spared. -/
theorem keptBy_perform (apart : Nat → Prop) : (World.sparing apart).KeptBy World.perform :=
  fun action world => World.keptBy_sparing apart (world.depthFor action) action world

variable {apart : Nat → Prop} {ours : Nat → Prop} {mine : Dispatch → Prop}
  {hosted later : HostedWorld}

/-- A call of a callback that tells others spares those that are set apart. -/
theorem spares_call {world : World} (secludes : world.Secludes apart) {dispatch : Dispatch}
    (bypasses : world.Bypasses apart dispatch.callback) :
    world.SparesApart apart (call dispatch world).2 := by
  rw [call]
  split
  · exact (World.telling_sparing apart).callSnapshot (keptBy_perform apart) secludes
      (bypasses.owes .report (.ok _))
  · exact (World.telling_sparing apart).callFailure (keptBy_perform apart) secludes
      (bypasses.owes .report (.error _))

/-! ### Watches that are set apart -/

/-- A state in which only some watches, and some of the calls that wait, tell those that are set
apart. -/
structure Secludes (apart : Nat → Prop) (ours : Nat → Prop) (mine : Dispatch → Prop)
    (hosted : HostedWorld) : Prop where
  world : hosted.world.Secludes apart
  watches : ∀ {index : Nat} {watch : Watch}, hosted.watches[index]? = some watch →
    ours index ∨ hosted.world.Bypasses apart watch.callback
  waiting : ∀ {dispatch : Dispatch}, dispatch ∈ hosted.waiting →
    mine dispatch ∨ hosted.world.Bypasses apart dispatch.callback

/-- What leaves the waiting calls alone and spares those that are set apart. -/
structure SparesApart (apart : Nat → Prop) (hosted later : HostedWorld) : Prop where
  world : hosted.world.SparesApart apart later.world
  looped : later.looped = hosted.looped
  kept : ∀ {index : Nat} {watch : Watch}, hosted.watches[index]? = some watch →
    later.watches[index]? = some watch
  watches : ∀ {index : Nat} {watch : Watch}, later.watches[index]? = some watch →
    hosted.watches[index]? = some watch ∨ later.world.Bypasses apart watch.callback
  waiting : later.waiting = hosted.waiting

namespace SparesApart

theorem secludes (spares : hosted.SparesApart apart later)
    (secludes : hosted.Secludes apart ours mine) : later.Secludes apart ours mine := by
  refine ⟨spares.world.secludes, fun present => ?_, fun member => ?_⟩
  · rcases spares.watches present with old | bypasses
    · exact (secludes.watches old).imp_right spares.world.bypasses
    · exact .inr bypasses
  · rw [spares.waiting] at member
    exact (secludes.waiting member).imp_right spares.world.bypasses

theorem trans {first second third : HostedWorld} (spares : first.SparesApart apart second)
    (further : second.SparesApart apart third) : first.SparesApart apart third where
  world := spares.world.trans further.world
  looped := further.looped.trans spares.looped
  kept := further.kept ∘ spares.kept
  watches present := by
    rcases further.watches present with old | bypasses
    · exact (spares.watches old).imp_right further.world.bypasses
    · exact .inr bypasses
  waiting := further.waiting.trans spares.waiting

theorem marshals {looped : Bool} (spares : hosted.SparesApart apart later)
    (marshals : hosted.Marshals looped) : later.Marshals looped :=
  ⟨spares.looped.trans marshals.loop, fun outside =>
    spares.waiting.trans (marshals.idle outside)⟩

/-- What changes the state of live queries only, and the client. -/
theorem of_world {world : World} (spares : hosted.world.SparesApart apart world)
    (client : NativeClient) :
    hosted.SparesApart apart { hosted with world := world, client := client } :=
  ⟨spares, rfl, id, .inl, rfl⟩

end SparesApart

theorem exists_of_startWatch {reference : HostedReference} {callback : Callback} {number : Nat}
    (watched : hosted.startWatch reference callback = (.ok number, later)) :
    number = hosted.watches.length ∧ ∃ client, later = { hosted with
      client := client, watches := hosted.watches ++ [⟨reference, callback⟩] } := by
  rw [startWatch] at watched
  split at watched
  · cases watched
  · cases watched
    exact ⟨rfl, _, rfl⟩

theorem spares_startWatch {callback : Callback} (secludes : hosted.world.Secludes apart)
    (bypasses : hosted.world.Bypasses apart callback) (reference : HostedReference) :
    hosted.SparesApart apart (hosted.startWatch reference callback).2 := by
  rw [startWatch]
  split
  · exact .of_world secludes.refl _
  · refine ⟨secludes.refl, rfl, fun present => World.getElem?_concat_eq_some.mpr (.inl present),
      fun {index watch} present => ?_, rfl⟩
    rcases World.getElem?_concat_eq_some.mp present with old | ⟨_, rfl⟩
    · exact .inl old
    · exact .inr bypasses

theorem spares_listen (secludes : hosted.world.Secludes apart) (name : Text)
    (reactions : List Reaction) (reference : HostedReference) :
    hosted.SparesApart apart (hosted.listen name reactions reference).2 := by
  have added := SparesApart.of_world (secludes.spares_addRecipient name reactions) hosted.client
  exact added.trans (spares_startWatch added.world.secludes
    (secludes.bypasses_addRecipient name reactions) reference)

/-- A live query that delivers to somebody who is there and not set apart. -/
theorem spares_startQuery (sink : Sink) (secludes : hosted.world.Secludes apart)
    (inside : ∀ index, sink = .recipient index → index < hosted.world.recipients.length)
    (elsewhere : ∀ index, sink = .recipient index → ¬ apart index) (type : QueryType)
    (projection : Projection) (reference : HostedReference) :
    hosted.SparesApart apart (hosted.startQuery type projection sink reference).2 := by
  have added : hosted.world.SparesApart apart (hosted.world.addQuery
      ⟨.opened type reference.path, projection, none, sink⟩).2 := secludes.spares_addQuery inside
  have started := (SparesApart.of_world added hosted.client).trans
    (spares_startWatch added.secludes (World.Secludes.bypasses_addQuery elsewhere) reference)
  have number : (hosted.world.addQuery
      ⟨.opened type reference.path, projection, none, sink⟩).1 = hosted.world.queries.length := rfl
  rw [startQuery, number]
  split
  · next failed =>
    rwa [failed] at started
  · next watch after done =>
    rw [done] at started
    exact started.trans (.of_world ((World.releasing_sparing apart).attach _ _
      started.world.secludes) after.client)

theorem spares_subscribe (secludes : hosted.world.Secludes apart) (name : Text)
    (reactions : List Reaction) (type : QueryType) (projection : Projection)
    (reference : HostedReference) :
    hosted.SparesApart apart (hosted.subscribe name reactions type projection reference).2 := by
  have added := SparesApart.of_world (secludes.spares_addRecipient name reactions) hosted.client
  obtain ⟨inside, elsewhere⟩ := secludes.bypasses_addRecipient name reactions
  exact added.trans (spares_startQuery _ added.world.secludes
    (fun _ same => Sink.recipient.inj same ▸ inside)
    (fun _ same => Sink.recipient.inj same ▸ elsewhere) type projection reference)

theorem spares_stream (secludes : hosted.world.Secludes apart) (type : QueryType)
    (projection : Projection) (reference : HostedReference) :
    hosted.SparesApart apart (hosted.stream type projection reference).2 := by
  have streamed : hosted.world.SparesApart apart hosted.world.addStream.2 :=
    secludes.spares_rest rfl rfl rfl rfl fun there member => ⟨_, there, member⟩
  exact (SparesApart.of_world streamed hosted.client).trans
    (spares_startQuery (.stream _) streamed.secludes nofun nofun type projection reference)

theorem spares_stopWatch (secludes : hosted.world.Secludes apart) (watch : Watch) :
    hosted.SparesApart apart (hosted.stopWatch watch).2 :=
  .of_world secludes.refl _

theorem world_cancelQuery (query : Nat) (hosted : HostedWorld) :
    (hosted.cancelQuery query).2.world = hosted.world.cancelQuery query := by
  rw [cancelQuery]
  split
  · next none => rw [World.cancelQuery, none]
  · split
    · split <;> rfl
    · rfl

theorem spares_cancelQuery (secludes : hosted.world.Secludes apart) (query : Nat) :
    hosted.SparesApart apart (hosted.cancelQuery query).2 := by
  have cancelled := SparesApart.of_world ((World.releasing_sparing apart).cancelQuery query secludes)
    hosted.client
  rw [cancelQuery]
  split
  · exact .of_world secludes.refl _
  · split
    · split
      · next watch _ => exact cancelled.trans (spares_stopWatch cancelled.world.secludes watch)
      · exact cancelled
    · exact cancelled

/-- Everything but what the client tells, and the calls of the loop, leaves the waiting calls alone
and spares those that are set apart. -/
theorem spares_step (secludes : hosted.world.Secludes apart) {step : Step}
    (untold : ∀ watch documents, step ≠ .fire watch documents)
    (uncalled : ∀ count, step ≠ .advance count) : hosted.SparesApart apart (hosted.step step) := by
  cases step with
  | listen name reactions reference => exact spares_listen secludes name reactions reference
  | subscribe name reactions type projection reference =>
    exact spares_subscribe secludes name reactions type projection reference
  | stream type projection reference => exact spares_stream secludes type projection reference
  | name label query =>
    have named : hosted.world.SparesApart apart (hosted.world.bindQuery label query) :=
      secludes.spares_rest rfl rfl rfl rfl fun there member => ⟨_, there, member⟩
    exact .of_world named _
  | act action => exact .of_world (keptBy_perform apart action _ trivial secludes) _
  | cancel query => exact spares_cancelQuery secludes query
  | stop watch =>
    rw [HostedWorld.step]
    split
    · exact .of_world secludes.refl _
    · exact spares_stopWatch secludes _
  | client client => exact .of_world secludes.refl _
  | fire watch documents => exact absurd rfl (untold watch documents)
  | advance count => exact absurd rfl (uncalled count)

/-! ### Nobody told -/

/-- A state in which nothing tells those that are set apart. -/
abbrev Shields (apart : Nat → Prop) (hosted : HostedWorld) : Prop :=
  hosted.Secludes apart (fun _ => False) fun _ => False

theorem spares_callAll {world : World} (secludes : world.Secludes apart) {dispatches : List Dispatch}
    (bypasses : ∀ dispatch ∈ dispatches, world.Bypasses apart dispatch.callback) :
    world.SparesApart apart (callAll dispatches world) := by
  induction dispatches generalizing world with
  | nil => exact secludes.refl
  | cons next rest inductionHypothesis =>
    have called := spares_call secludes (bypasses next List.mem_cons_self)
    refine called.trans (inductionHypothesis called.secludes fun dispatch member => ?_)
    exact called.bypasses (bypasses dispatch (List.mem_cons_of_mem _ member))

theorem Shields.enqueue (shields : hosted.Shields apart) {index : Nat} {watch : Watch}
    (present : hosted.watches[index]? = some watch) (documents : List NativeDocument) :
    (hosted.enqueue watch documents).Shields apart := by
  refine ⟨shields.world, shields.watches, fun {dispatch} member => ?_⟩
  rcases List.mem_append.mp member with old | new
  · exact shields.waiting old
  · rw [List.mem_singleton.mp new]
    exact .inr ((shields.watches present).resolve_left id)

/-- What changes the state of live queries only. -/
theorem Shields.of_world (shields : hosted.Shields apart) {later : HostedWorld}
    (spares : hosted.world.SparesApart apart later.world) (watches : later.watches = hosted.watches)
    (waiting : later.waiting ⊆ hosted.waiting) : later.Shields apart :=
  ⟨spares.secludes, fun present => (shields.watches (watches ▸ present)).imp_right spares.bypasses,
    fun member => (shields.waiting (waiting member)).imp_right spares.bypasses⟩

theorem Shields.advance (shields : hosted.Shields apart) (count : Nat) :
    hosted.world.SparesApart apart (hosted.advance count).world ∧
      (hosted.advance count).Shields apart := by
  have spares : hosted.world.SparesApart apart (hosted.advance count).world :=
    spares_callAll shields.world fun dispatch member =>
      (shields.waiting (List.mem_of_mem_take member)).resolve_left id
  exact ⟨spares, shields.of_world spares rfl (List.drop_subset count hosted.waiting)⟩

/-- Every step spares those that nothing tells, and calls wait in an event loop only. -/
theorem Shields.step {looped : Bool} (shields : hosted.Shields apart)
    (marshals : hosted.Marshals looped) (step : Step) :
    hosted.world.SparesApart apart (hosted.step step).world ∧ (hosted.step step).Shields apart ∧
      (hosted.step step).Marshals looped := by
  by_cases told : ∃ watch documents, step = .fire watch documents
  · obtain ⟨watch, documents, rfl⟩ := told
    rw [HostedWorld.step]
    split
    · exact ⟨shields.world.refl, shields, marshals⟩
    · next found present =>
      have kept := marshals.fire found documents
      have waits := shields.enqueue present documents
      rw [marshals.fire_eq] at kept ⊢
      split
      · next inside =>
        rw [if_pos inside] at kept
        exact ⟨shields.world.refl, waits, kept⟩
      · next outside =>
        rw [if_neg outside] at kept
        obtain ⟨spares, after⟩ := waits.advance 1
        exact ⟨spares, after, kept⟩
  · by_cases called : ∃ count, step = .advance count
    · obtain ⟨count, rfl⟩ := called
      obtain ⟨spares, after⟩ := shields.advance count
      exact ⟨spares, after, marshals.advance count⟩
    · have spares : hosted.SparesApart apart (hosted.step step) := spares_step shields.world
        (fun watch documents same => told ⟨watch, documents, same⟩)
        fun count same => called ⟨count, same⟩
      exact ⟨spares.world, spares.secludes shields, spares.marshals marshals⟩

/-! ### Nobody set apart -/

/-- Whoever is called around a hosted store is there. -/
abbrev Numbered (hosted : HostedWorld) : Prop := hosted.Shields fun _ => False

theorem numbered_runAll (looped : Bool) (mode : BuildMode) (steps : List Step) :
    ((start looped mode).runAll steps).Numbered ∧
      ((start looped mode).runAll steps).Marshals looped := by
  have began : (start looped mode).Numbered :=
    ⟨World.numbered_ofStores fun _ none => absurd none List.not_mem_nil,
      fun present => absurd (List.mem_of_getElem? present) List.not_mem_nil,
      fun none => absurd none List.not_mem_nil⟩
  have reached (hosted : HostedWorld) (numbered : hosted.Numbered)
      (marshals : hosted.Marshals looped) :
      (hosted.runAll steps).Numbered ∧ (hosted.runAll steps).Marshals looped := by
    induction steps generalizing hosted with
    | nil => exact ⟨numbered, marshals⟩
    | cons step rest inductionHypothesis =>
      obtain ⟨_, kept, same⟩ := numbered.step marshals step
      exact inductionHypothesis _ kept same
  exact reached _ began ⟨rfl, fun _ => rfl⟩

end HostedWorld

end DocQuery
