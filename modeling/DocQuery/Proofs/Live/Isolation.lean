/-
This file says which streams are isolated.

A stream is isolated if no listener of a store, and no live query that watches a feed, delivers
into it. Whatever goes on then, and whatever listeners do inside deliveries, its queue stays as it
is as long as its live query is active, and nobody begins to deliver into it. Only who calls its
live query directly does. A stream that is closed has its live query cancelled first.

This is to streams what being set apart is to recipients.
-/

import DocQuery.Proofs.Live.Routes

namespace DocQuery

namespace World

/-! ### Isolated streams -/

/-- A callback that tells somebody, and not the sink. -/
def Avoids (sink : Sink) (world : World) (callback : Callback) : Prop :=
  ∃ told, world.sinkOf? callback = some told ∧ told ≠ sink

/-- A stream with a live query that nobody calls. -/
structure Isolates (stream : Nat) (world : World) : Prop where
  there : ∃ (known : LiveStream) (found : LiveQuery), world.streams[stream]? = some known ∧
    world.queries[known.query]? = some found
  listeners : ∀ {name entry}, world.Registers name entry →
    world.Avoids (.stream stream) entry.2.callback
  watchers : ∀ {label query}, (label, some query) ∈ world.feedNames →
    world.Avoids (.stream stream) (.live query)

/-- What is kept for an isolated stream: its queue stays as it is while its live query is active. -/
structure LeavesQueue (stream : Nat) (world later : World) : Prop where
  isolates : later.Isolates stream
  queries : ∀ {query : Nat} {found : LiveQuery}, world.queries[query]? = some found →
    ∃ after, later.queries[query]? = some after ∧ after.Continues found
  queue : ∀ {known}, world.streams[stream]? = some known →
    ∃ after, later.streams[stream]? = some after ∧ after.query = known.query ∧
      (after = known ∨ ¬ later.IsActive known.query)

/-- To leave an isolated stream alone, as terms. -/
def isolating (stream : Nat) : Terms where
  good := Isolates stream
  allowed _ := True
  callable := Avoids (.stream stream)
  owed _ sink _ _ := sink ≠ .stream stream
  relation := LeavesQueue stream

variable {stream : Nat} {world later : World}

theorem Avoids.mono {sink : Sink} {callback : Callback} (avoids : world.Avoids sink callback)
    (queries : ∀ {query : Nat} {found : LiveQuery}, world.queries[query]? = some found →
      ∃ after, later.queries[query]? = some after ∧ after.Continues found) :
    later.Avoids sink callback := by
  obtain ⟨told, tells, other⟩ := avoids
  exact ⟨told, sinkOf?_mono (fun present => (queries present).imp fun _ known =>
    ⟨known.1, known.2.sink⟩) tells, other⟩

/-- Who does not deliver into the stream may be told anything. -/
theorem Avoids.owes {callback : Callback} (avoids : world.Avoids (.stream stream) callback)
    (occasion : Occasion) (read : Except Failure Snapshot) :
    (isolating stream).Owes callback occasion read world := by
  cases callback with
  | recipient index => exact nofun
  | live query =>
    intro found present
    obtain ⟨told, tells, other⟩ := avoids
    rw [sinkOf?, present] at tells
    exact Option.some.inj tells ▸ other

namespace Isolates

variable (isolates : world.Isolates stream)

include isolates

/-- What brings no listener and no watcher that delivers into the stream. -/
theorem leaves (queries : ∀ {query : Nat} {found : LiveQuery}, world.queries[query]? = some found →
      ∃ after, later.queries[query]? = some after ∧ after.Continues found)
    (listeners : ∀ {name entry}, later.Registers name entry →
      world.Registers name entry ∨ later.Avoids (.stream stream) entry.2.callback)
    (watchers : ∀ {label query}, (label, some query) ∈ later.feedNames →
      (label, some query) ∈ world.feedNames ∨ later.Avoids (.stream stream) (.live query))
    (queue : ∀ {known}, world.streams[stream]? = some known →
      ∃ after, later.streams[stream]? = some after ∧ after.query = known.query ∧
        (after = known ∨ ¬ later.IsActive known.query)) : world.LeavesQueue stream later := by
  refine ⟨⟨?_, fun registers => ?_, fun watches => ?_⟩, queries, queue⟩
  · obtain ⟨known, found, there, present⟩ := isolates.there
    obtain ⟨after, thereToo, same, _⟩ := queue there
    obtain ⟨last, presentToo, _⟩ := queries present
    exact ⟨after, last, thereToo, by rw [same, presentToo]⟩
  · exact (listeners registers).elim (fun old => (isolates.listeners old).mono queries) id
  · exact (watchers watches).elim (fun old => (isolates.watchers old).mono queries) id

/-- What leaves live queries, streams and feeds, and adds no listener. -/
theorem leaves_rest (queries : later.queries = world.queries)
    (streams : later.streams = world.streams) (feedNames : later.feedNames = world.feedNames)
    (listeners : ∀ {name entry}, later.Registers name entry → world.Registers name entry) :
    world.LeavesQueue stream later :=
  isolates.leaves (fun {_ found} present => ⟨found, by rwa [queries], .refl found⟩)
    (fun registers => .inl (listeners registers)) (fun watches => .inl (feedNames ▸ watches))
    fun {known} there => ⟨known, by rwa [streams], rfl, .inl rfl⟩

theorem refl : world.LeavesQueue stream world := isolates.leaves_rest rfl rfl rfl id

/-! ### Single operations -/

theorem leaves_updateStore {change : Store Callback → Store Callback} (shrinks : Shrinks change)
    (name : Text) : world.LeavesQueue stream (world.updateStore name change) := by
  obtain ⟨stores, same⟩ := exists_updateStore name change world
  exact isolates.leaves_rest (by rw [same]) (by rw [same]) (by rw [same])
    (registers_of_shrinks shrinks)

theorem leaves_register {name : Text} {reference : Reference} {callback : Callback}
    (avoids : world.Avoids (.stream stream) callback) :
    world.LeavesQueue stream (world.updateStore name (Store.register ⟨reference, callback⟩)) := by
  have cases := @registers_of_register world name ⟨reference, callback⟩
  obtain ⟨stores, same⟩ := exists_updateStore name (Store.register ⟨reference, callback⟩) world
  rw [same] at cases ⊢
  refine isolates.leaves (fun present => ⟨_, present, .refl _⟩) (fun registers => ?_) .inl
    fun there => ⟨_, there, rfl, .inl rfl⟩
  rcases cases registers with old | ⟨_, _, _, rfl⟩
  · exact .inl old
  · exact .inr avoids

theorem leaves_updateHandle (query : Nat) {change : Subscription Release → Subscription Release}
    (steers : Steers change) : world.LeavesQueue stream (world.updateHandle query change) :=
  isolates.leaves (steers.continues query) .inl .inl fun there => ⟨_, there, rfl, .inl rfl⟩

/-- What changes the queue of a stream changes no other, and the end of a queue is put behind it
when its live query has been cancelled. -/
theorem leaves_updateQueue {index : Nat}
    (change : Stream (Except Failure QueryResult) → Stream (Except Failure QueryResult))
    (ended : index = stream → ∀ {known}, world.streams[stream]? = some known →
      ¬ world.IsActive known.query) :
    world.LeavesQueue stream (world.updateQueue index change) := by
  refine isolates.leaves (fun present => ⟨_, present, .refl _⟩) .inl .inl fun {known} there => ?_
  rw [updateQueue, List.getElem?_modify, there]
  by_cases same : index = stream
  · exact ⟨_, rfl, by split <;> rfl, .inr (ended same there)⟩
  · exact ⟨known, congrArg some (if_neg same), rfl, .inl rfl⟩

theorem leaves_tell (recipient : Nat) (occasion : Occasion) (update : Update) :
    world.LeavesQueue stream (world.tell recipient occasion update) := by
  rw [tell]
  split
  · exact isolates.refl
  · exact isolates.leaves_rest rfl rfl rfl id

theorem leaves_addQuery (query : LiveQuery) :
    world.LeavesQueue stream (world.addQuery query).2 :=
  isolates.leaves
    (fun {_ found} present => ⟨found, getElem?_concat_eq_some.mpr (.inl present), .refl found⟩)
    .inl .inl fun there => ⟨_, there, rfl, .inl rfl⟩

theorem leaves_addStream : world.LeavesQueue stream world.addStream.2 :=
  isolates.leaves (fun present => ⟨_, present, .refl _⟩) .inl .inl
    fun {known} there => ⟨known, getElem?_concat_eq_some.mpr (.inl there), rfl, .inl rfl⟩

theorem leaves_bindFeed (feed : Feed) {watcher : Option Nat}
    (avoids : ∀ query, watcher = some query → world.Avoids (.stream stream) (.live query)) :
    world.LeavesQueue stream (world.bindFeed feed watcher) := by
  refine isolates.leaves (fun present => ⟨_, present, .refl _⟩) .inl
    (fun {label query} watches => ?_) fun there => ⟨_, there, rfl, .inl rfl⟩
  rcases List.mem_cons.mp watches with new | old
  · cases new
    exact .inr (avoids query rfl)
  · exact .inl old

/-- A stream that is new is another one. -/
theorem ne_length : stream ≠ world.streams.length := by
  obtain ⟨known, _, there, _⟩ := isolates.there
  exact Nat.ne_of_lt (List.getElem?_eq_some_iff.mp there).1

end Isolates

theorem LeavesQueue.trans {first second third : World} (leaves : first.LeavesQueue stream second)
    (further : second.LeavesQueue stream third) : first.LeavesQueue stream third where
  isolates := further.isolates
  queries present := by
    obtain ⟨between, known, continues⟩ := leaves.queries present
    obtain ⟨after, there, later⟩ := further.queries known
    exact ⟨after, there, later.trans continues⟩
  queue {known} there := by
    obtain ⟨between, thereToo, same, kept⟩ := leaves.queue there
    obtain ⟨after, last, sameToo, keptToo⟩ := further.queue thereToo
    refine ⟨after, last, sameToo.trans same, ?_⟩
    rcases kept with rfl | cancelled
    · exact keptToo
    -- The live query was there, so it is the same that would be active again.
    · refine .inr fun active => cancelled ?_
      obtain ⟨other, found, knownToo, present⟩ := leaves.isolates.there
      obtain rfl := Option.some.inj (thereToo.symm.trans knownToo)
      rw [← same] at active ⊢
      obtain ⟨later, presentToo, continues⟩ := further.queries present
      obtain ⟨final, presentLast, isActive⟩ := active
      obtain rfl := Option.some.inj (presentToo.symm.trans presentLast)
      exact ⟨found, present, continues.active isActive⟩

/-! ### Isolation -/

theorem releasing_isolating (stream : Nat) : (isolating stream).Releasing where
  refl := Isolates.refl
  trans := .trans
  good := LeavesQueue.isolates
  scripts _ _ _ _ _ _ := trivial
  countDelivery isolates _ := isolates.leaves_rest rfl rfl rfl id
  tell isolates _ := isolates.leaves_tell _ _ _
  count query _ isolates := isolates.leaves_updateHandle query steers_count
  push isolates other := isolates.leaves_updateQueue _ fun same => absurd (same ▸ rfl) other
  notifyAll _ _ isolates := isolates.leaves_rest rfl rfl rfl id
  counted := id
  noticed := id
  shrink shrinks name _ isolates := isolates.leaves_updateStore shrinks name
  steer query _ steers _ isolates := isolates.leaves_updateHandle query steers
  release _ _ isolates := isolates.leaves_rest rfl rfl rfl id
  finish there ended isolates := isolates.leaves_updateQueue _ fun same _ thereToo =>
    Option.some.inj (there.symm.trans (same ▸ thereToo)) ▸ ended

theorem starting_isolating (stream : Nat) : (isolating stream).Starting where
  toTelling := (releasing_isolating stream).toTelling
  listening _ _ _ _ := trivial
  subscribing _ _ _ _ := trivial
  report isolates there member leaves failure :=
    ((isolates.listeners ⟨_, there, member⟩).mono leaves.queries).owes _ _
  announce isolates watches leaves read :=
    ((isolates.watchers watches).mono leaves.queries).owes _ read
  read isolates there member leaves documents :=
    ((isolates.listeners ⟨_, there, member⟩).mono leaves.queries).owes _ _
  write name _ _ _ _ _ _ isolates := isolates.leaves_updateStore (shrinks_write _ _) name
  remove name _ _ _ _ isolates := isolates.leaves_updateStore (shrinks_remove _) name
  close name _ isolates := isolates.leaves_updateStore shrinks_close name
  unlisten label _ := (releasing_isolating stream).unlisten label
  cancelQuery query _ := (releasing_isolating stream).cancelQuery query
  closeStream index _ := (releasing_isolating stream).closeStream index
  bindFeed feed _ _ avoids isolates := isolates.leaves_bindFeed feed avoids
  cutShort isolates := isolates.leaves_rest rfl rfl rfl id
  register _ avoids isolates := isolates.leaves_register avoids
  addRecipient _ _ _ _ isolates := isolates.leaves_rest rfl rfl rfl id
  newListener _ _ _ := ⟨_, rfl, nofun⟩
  newRecipient label reactions _ aim world isolates := by
    have added : LeavesQueue stream world (world.addRecipient label reactions).2 :=
      isolates.leaves_rest rfl rfl rfl id
    exact ⟨added.trans (added.isolates.leaves_addQuery _), _, sinkOf?_addQuery _ _, nofun⟩
  newStream aim world isolates := by
    have added := isolates.leaves_addStream
    exact ⟨added.trans (added.isolates.leaves_addQuery _), _, sinkOf?_addQuery _ _,
      fun same => isolates.ne_length (Sink.stream.inj same).symm⟩
  attach query release _ := (releasing_isolating stream).attach query release
  names _ _ _ _ isolates := isolates.leaves_rest rfl rfl rfl id

/-- Whatever listeners do, an isolated stream is left alone. -/
theorem keptBy_isolating (stream depth : Nat) : (isolating stream).KeptBy (performTo depth) :=
  (starting_isolating stream).running.keptBy_performTo depth

end World

end DocQuery
