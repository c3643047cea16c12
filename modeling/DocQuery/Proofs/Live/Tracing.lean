/-
This file traces results back to the live queries that they were made for.

A result reaches a recipient, or the queue of a stream, through one live query only: sinks are not
shared, and whoever starts a live query gives it a sink of its own. Live queries never change where
they deliver to, nor which fields they keep. So whatever else goes on, every result that is found
at a sink was made under the projection of the query that the sink belongs to.

One state leads to another if its live queries go on so, and if this tracing is possible in the
second whenever it is in the first. Every operation leads on, and so does every run: what listeners
do inside a delivery is a parameter of which only this is known.
-/

import DocQuery.Live.Program

namespace DocQuery

/-- A result that was made under a projection, of any snapshot. -/
def QueryResult.IsUnder (projection : Projection) (result : QueryResult) : Prop :=
  ∃ type path snapshot, QueryResult.ofSnapshot type path projection snapshot = .ok result

namespace World

/-! ### Tracing results -/

/-- A sink that is there. -/
def HasSink (world : World) : Sink → Prop
  | .recipient index => index < world.recipients.length
  | .stream index => index < world.streams.length

/-- A live query that delivers to the sink could have made the result. -/
def Makes (sink : Sink) (result : QueryResult) (world : World) : Prop :=
  ∃ (query : Nat) (found : LiveQuery), world.queries[query]? = some found ∧ found.sink = sink ∧
    result.IsUnder found.projection

/-- Results that were told or that wait can be traced back, and sinks are not shared. -/
structure Traced (world : World) : Prop where
  told : ∀ event ∈ world.events, ∀ result, event.update = .result result →
    world.Makes (.recipient event.recipient) result
  queued : ∀ (index : Nat) (stream : LiveStream), world.streams[index]? = some stream →
    ∀ result, .delivery (.ok result) ∈ stream.queue.items → world.Makes (.stream index) result
  there : ∀ (query : Nat) (found : LiveQuery), world.queries[query]? = some found →
    world.HasSink found.sink
  apart : ∀ (first second : Nat) (one other : LiveQuery), world.queries[first]? = some one →
    world.queries[second]? = some other → one.sink = other.sink → first = second

/-- A state leads to a later one: live queries keep their sinks and projections, sinks stay, and
results can be traced still. -/
structure Leads (world later : World) : Prop where
  queries : ∀ (query : Nat) (found : LiveQuery), world.queries[query]? = some found →
    ∃ after, later.queries[query]? = some after ∧ after.sink = found.sink ∧
      after.projection = found.projection
  sinks : ∀ sink, world.HasSink sink → later.HasSink sink
  traced : world.Traced → later.Traced

namespace Leads

theorem refl (world : World) : world.Leads world :=
  ⟨fun _ found present => ⟨found, present, rfl, rfl⟩, fun _ => id, id⟩

theorem trans {first second third : World} (leads : first.Leads second)
    (further : second.Leads third) : first.Leads third := by
  refine ⟨fun query found present => ?_,
    fun sink there => further.sinks sink (leads.sinks sink there),
    fun traced => further.traced (leads.traced traced)⟩
  obtain ⟨middle, known, sink, projection⟩ := leads.queries query found present
  obtain ⟨last, there, sinkToo, projectionToo⟩ := further.queries query middle known
  exact ⟨last, there, sinkToo.trans sink, projectionToo.trans projection⟩

theorem makes {world later : World} (leads : world.Leads later) {sink : Sink}
    {result : QueryResult} (made : world.Makes sink result) : later.Makes sink result := by
  obtain ⟨query, found, present, same, under⟩ := made
  obtain ⟨after, known, sameSink, projection⟩ := leads.queries query found present
  exact ⟨query, after, known, sameSink.trans same, projection ▸ under⟩

/-- What keeps live queries with their sinks and projections, tells nothing, and puts nothing into a
queue. -/
theorem of_kept {world later : World}
    (queries : ∀ (query : Nat) (found : LiveQuery), world.queries[query]? = some found →
      ∃ after, later.queries[query]? = some after ∧ after.sink = found.sink ∧
        after.projection = found.projection)
    (length : later.queries.length = world.queries.length)
    (sinks : ∀ sink, world.HasSink sink → later.HasSink sink) (events : later.events ⊆ world.events)
    (queues : ∀ (index : Nat) (stream : LiveStream), later.streams[index]? = some stream →
      ∀ item ∈ stream.queue.items, ∃ before, world.streams[index]? = some before ∧
        item ∈ before.queue.items) :
    world.Leads later := by
  have kept {sink : Sink} {result : QueryResult} (made : world.Makes sink result) :
      later.Makes sink result := by
    obtain ⟨query, found, present, same, under⟩ := made
    obtain ⟨after, known, sameSink, projection⟩ := queries query found present
    exact ⟨query, after, known, sameSink.trans same, projection ▸ under⟩
  have earlier {query : Nat} {after : LiveQuery} (present : later.queries[query]? = some after) :
      ∃ found, world.queries[query]? = some found ∧ after.sink = found.sink := by
    have inside := (List.getElem?_eq_some_iff.mp present).1
    obtain ⟨found, known⟩ : ∃ found, world.queries[query]? = some found :=
      ⟨_, List.getElem?_eq_getElem (length ▸ inside)⟩
    obtain ⟨other, there, sink, _⟩ := queries query found known
    obtain rfl := Option.some.inj (present.symm.trans there)
    exact ⟨found, known, sink⟩
  refine ⟨queries, sinks, fun traced => ⟨fun event member result told => ?_,
    fun index stream present result waits => ?_, fun query after present => ?_,
    fun first second one other firstPresent secondPresent same => ?_⟩⟩
  · exact kept (traced.told event (events member) result told)
  · obtain ⟨before, known, waited⟩ := queues index stream present _ waits
    exact kept (traced.queued index before known result waited)
  · obtain ⟨found, known, sink⟩ := earlier present
    exact sink ▸ sinks _ (traced.there query found known)
  · obtain ⟨found, known, sink⟩ := earlier firstPresent
    obtain ⟨otherFound, otherKnown, otherSink⟩ := earlier secondPresent
    exact traced.apart first second found otherFound known otherKnown
      (sink.symm.trans (same.trans otherSink))

/-- What leaves live queries as they are, adds no sink, no event and nothing to a queue. -/
theorem of_same {world later : World} (queries : later.queries = world.queries)
    (recipients : later.recipients.length = world.recipients.length)
    (streams : later.streams = world.streams) (events : later.events ⊆ world.events) :
    world.Leads later := by
  refine .of_kept (fun query found present => ⟨found, by rwa [queries], rfl, rfl⟩)
    (congrArg List.length queries) (fun sink there => ?_) events
    fun index stream present item waits => ⟨stream, streams ▸ present, waits⟩
  cases sink with
  | recipient index => exact Nat.lt_of_lt_of_eq there recipients.symm
  | stream index => exact Nat.lt_of_lt_of_eq there (congrArg List.length streams).symm

end Leads

/-! ### Single operations -/

variable {world : World}

theorem leads_updateStore (name : Text) (change : Store Callback → Store Callback)
    (world : World) : world.Leads (world.updateStore name change) := by
  rw [updateStore]
  split
  · exact .of_same rfl rfl rfl (List.Subset.refl _)
  · exact .refl world

theorem leads_notify (notice : Notice) (world : World) : world.Leads (world.notify notice) :=
  .of_same rfl rfl rfl (List.Subset.refl _)

theorem leads_countDelivery (index : Nat) (world : World) :
    world.Leads (world.countDelivery index) :=
  .of_same rfl (List.length_modify ..) rfl (List.Subset.refl _)

/-- A change of a handle changes no live query otherwise. -/
theorem leads_updateHandle (query : Nat)
    (change : Subscription Release → Subscription Release) (world : World) :
    world.Leads (world.updateHandle query change) := by
  refine .of_kept (fun index found present => ?_) (List.length_modify ..)
    (fun sink there => by cases sink <;> exact there) (List.Subset.refl _)
    fun index stream present item waits => ⟨stream, present, waits⟩
  rw [updateHandle, List.getElem?_modify, present]
  exact ⟨_, rfl, by split <;> rfl, by split <;> rfl⟩

theorem leads_carryOutAny (release : Option Release) (world : World) :
    world.Leads (world.carryOutAny release) := by
  cases release with
  | none => exact .refl world
  | some release =>
    cases release with
    | listener name id => exact leads_updateStore name _ world
    | feed path => exact .of_same rfl rfl rfl (List.Subset.refl _)
    | watch index => exact .refl world

theorem leads_attach (query : Nat) (release : Release) (world : World) :
    world.Leads (world.attach query release) := by
  rw [attach]
  split
  · exact .refl world
  · exact (leads_updateHandle query _ world).trans (leads_carryOutAny _ _)

theorem leads_cancelQuery (query : Nat) (world : World) :
    world.Leads (world.cancelQuery query) := by
  rw [cancelQuery]
  split
  · exact .refl world
  · exact (leads_updateHandle query _ world).trans (leads_carryOutAny _ _)

theorem leads_addRecipient (name : Text) (reactions : List Reaction) (world : World) :
    world.Leads (world.addRecipient name reactions).2 := by
  refine .of_kept (fun query found present => ⟨found, present, rfl, rfl⟩) rfl
    (fun sink there => ?_) (List.Subset.refl _)
    fun index stream present item waits => ⟨stream, present, waits⟩
  cases sink with
  | recipient index =>
    rw [HasSink, addRecipient, List.length_append]
    exact Nat.lt_add_right _ there
  | stream index => exact there

theorem leads_addStream (world : World) : world.Leads world.addStream.2 := by
  refine .of_kept (fun query found present => ⟨found, present, rfl, rfl⟩) rfl
    (fun sink there => ?_) (List.Subset.refl _) fun index stream present item waits => ?_
  · cases sink with
    | recipient index => exact there
    | stream index =>
      rw [HasSink, addStream, List.length_append]
      exact Nat.lt_add_right _ there
  · rw [addStream, List.getElem?_append] at present
    split at present
    · exact ⟨stream, present, waits⟩
    · -- Nothing waits in the queue of the new stream.
      rw [List.mem_singleton.mp (List.mem_of_getElem? present)] at waits
      cases waits

/-- A live query gets a sink that was not there when the state before was left. -/
theorem Leads.addQuery {middle : World} (leads : world.Leads middle)
    (same : middle.queries = world.queries) {query : LiveQuery}
    (new : ¬ world.HasSink query.sink) (there : middle.HasSink query.sink) :
    world.Leads (middle.addQuery query).2 := by
  have grown {index : Nat} {found : LiveQuery} (present : middle.queries[index]? = some found) :
      (middle.addQuery query).2.queries[index]? = some found := by
    rw [World.addQuery, List.getElem?_append_left (List.getElem?_eq_some_iff.mp present).1, present]
  have known {index : Nat} {found : LiveQuery}
      (present : (middle.addQuery query).2.queries[index]? = some found) :
      middle.queries[index]? = some found ∨ index = middle.queries.length ∧ found = query := by
    rw [World.addQuery, List.getElem?_append] at present
    split at present
    · exact .inl present
    · have bound := (List.getElem?_eq_some_iff.mp present).1
      rw [List.length_singleton] at bound
      exact .inr ⟨by omega, List.mem_singleton.mp (List.mem_of_getElem? present)⟩
  have kept {sink : Sink} {result : QueryResult} (made : middle.Makes sink result) :
      (middle.addQuery query).2.Makes sink result := by
    obtain ⟨index, found, present, rest⟩ := made
    exact ⟨index, found, grown present, rest⟩
  have sinks (sink : Sink) (inside : middle.HasSink sink) :
      (middle.addQuery query).2.HasSink sink := by
    cases sink <;> exact inside
  refine ⟨fun index found present => ?_, fun sink inside => sinks sink (leads.sinks sink inside),
    fun traced => ?_⟩
  · obtain ⟨after, present, rest⟩ := leads.queries index found present
    exact ⟨after, grown present, rest⟩
  -- The sink was not there, so none of the earlier live queries delivers to it.
  have unused {index : Nat} {found : LiveQuery} (present : middle.queries[index]? = some found) :
      found.sink ≠ query.sink := by
    intro equal
    rw [same] at present
    exact new (equal ▸ traced.there index found present)
  have before := leads.traced traced
  refine ⟨fun event member result told => kept (before.told event member result told),
    fun index stream present result waits =>
      kept (before.queued index stream present result waits),
    fun index found present => ?_, fun first second one other firstKnown secondKnown equal => ?_⟩
  · rcases known present with earlier | ⟨_, rfl⟩
    · exact sinks _ (before.there index found earlier)
    · exact sinks _ there
  · rcases known firstKnown with earlier | ⟨firstLast, rfl⟩
    · rcases known secondKnown with otherEarlier | ⟨_, rfl⟩
      · exact before.apart first second one other earlier otherEarlier equal
      · exact absurd equal (unused earlier)
    · rcases known secondKnown with otherEarlier | ⟨secondLast, _⟩
      · exact absurd equal.symm (unused otherEarlier)
      · rw [firstLast, secondLast]

/-- What is told can be told if it is no result, or one of the recipient's live query. -/
theorem leads_tell {index : Nat} {occasion : Occasion} {update : Update}
    (makes : ∀ result, update = .result result → world.Makes (.recipient index) result) :
    world.Leads (world.tell index occasion update) := by
  rw [tell]
  split
  · exact .refl world
  · next recipient present =>
    have counted := leads_countDelivery index world
    refine ⟨counted.queries, counted.sinks, fun traced => ?_⟩
    have before := counted.traced traced
    refine ⟨fun event member result told => ?_, before.queued, before.there, before.apart⟩
    rcases List.mem_append.mp member with earlier | new
    · exact before.told event earlier result told
    · rw [List.mem_singleton.mp new] at told ⊢
      exact makes result told

/-- What queues up can queue up if it is no result, or one of the stream's live query. -/
theorem leads_updateQueue {index : Nat}
    {change : Stream (Except Failure QueryResult) → Stream (Except Failure QueryResult)}
    (makes : ∀ queue result, .delivery (.ok result) ∈ (change queue).items →
      .delivery (.ok result) ∈ queue.items ∨ world.Makes (.stream index) result) :
    world.Leads (world.updateQueue index change) := by
  have sinks (sink : Sink) (there : world.HasSink sink) :
      (world.updateQueue index change).HasSink sink := by
    cases sink with
    | recipient index => exact there
    | stream index =>
      rw [HasSink, updateQueue, List.length_modify]
      exact there
  refine ⟨fun query found present => ⟨found, present, rfl, rfl⟩, sinks, fun traced =>
    ⟨traced.told, fun other stream present result waits => ?_,
      fun query found present => sinks _ (traced.there query found present), traced.apart⟩⟩
  rw [updateQueue, List.getElem?_modify] at present
  obtain ⟨before, known, rfl⟩ := Option.map_eq_some_iff.mp present
  by_cases same : index = other
  · subst same
    rw [if_pos rfl] at waits
    rcases makes before.queue result waits with earlier | made
    · exact traced.queued index before known result earlier
    · exact made
  · rw [if_neg same] at waits
    exact traced.queued other before known result waits

theorem leads_closeStream (stream : Nat) (world : World) :
    world.Leads (world.closeStream stream) := by
  rw [closeStream]
  split
  · exact .refl world
  · split
    · exact .refl world
    · refine (leads_cancelQuery _ world).trans (leads_updateQueue fun queue result waits => .inl ?_)
      rw [Stream.close] at waits
      split at waits
      · exact waits
      · rw [Stream.items_enqueue, List.mem_append, List.mem_singleton] at waits
        refine waits.resolve_right fun same => ?_
        cases same

end World

end DocQuery
