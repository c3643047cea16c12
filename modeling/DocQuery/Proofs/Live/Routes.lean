/-
This file proves that one listener tells one sink.

A listener that was installed on a reference tells its recipient, and the listener of a live
query, or a feed that the live query watches, tells whoever the live query delivers to. Nobody is
given a sink that somebody else has: a recipient and a stream are new when they are given, and so
is the live query that delivers to them. So no two listeners tell one sink, nor do a listener and
a feed, and a stream is fed by the live query that it cancels when it is closed.

A route is new only where a callback is given to a store or a feed. What does not do that follows,
and keeps the routes there are.
-/

import DocQuery.Proofs.Live.Leading
import DocQuery.Proofs.Live.Openings
import DocQuery.Proofs.Live.Releasing
import DocQuery.Proofs.Live.Starting

namespace DocQuery

namespace World

/-! ### Routes -/

/-- Whom a callback tells. -/
def sinkOf? (callback : Callback) (world : World) : Option Sink :=
  match callback with
  | .recipient index => some (.recipient index)
  | .live query => (world.queries[query]?).map LiveQuery.sink

/-- A listener is registered with the store of a name. -/
def Registers (name : Text) (entry : Nat × Listener Callback) (world : World) : Prop :=
  ∃ store, world.store? name = some store ∧ entry ∈ store.listeners

/-- Whoever is told by a listener or a feed is there, and is told by nobody else. -/
structure Routed (world : World) : Prop where
  listeners : ∀ {name entry}, world.Registers name entry →
    ∃ sink, world.sinkOf? entry.2.callback = some sink ∧ world.HasSink sink
  watchers : ∀ {label query}, (label, some query) ∈ world.feedNames →
    ∃ sink, world.sinkOf? (.live query) = some sink ∧ world.HasSink sink
  apart : ∀ {name other entry another sink}, world.Registers name entry →
    world.Registers other another → world.sinkOf? entry.2.callback = some sink →
      world.sinkOf? another.2.callback = some sink → name = other ∧ entry.1 = another.1
  unwatched : ∀ {name entry label query sink}, world.Registers name entry →
    (label, some query) ∈ world.feedNames → world.sinkOf? entry.2.callback = some sink →
      world.sinkOf? (.live query) ≠ some sink
  fed : ∀ {query : Nat} {found : LiveQuery} {stream : Nat}, world.queries[query]? = some found →
    found.sink = .stream stream →
      ∃ known, world.streams[stream]? = some known ∧ known.query = query

/-- A callback that tells somebody whom neither a listener nor a feed tells. -/
structure IsFree (callback : Callback) (world : World) (sink : Sink) : Prop where
  tells : world.sinkOf? callback = some sink
  there : world.HasSink sink
  unheard : ∀ {name entry}, world.Registers name entry →
    world.sinkOf? entry.2.callback ≠ some sink
  unwatched : ∀ {label query}, (label, some query) ∈ world.feedNames →
    world.sinkOf? (.live query) ≠ some sink

/-- A state goes on without a new route, and takes no sink away. -/
structure Follows (world later : World) : Prop where
  sinks : ∀ sink, world.HasSink sink → later.HasSink sink
  queries : ∀ {query : Nat} {found : LiveQuery}, world.queries[query]? = some found →
    ∃ after, later.queries[query]? = some after ∧ after.sink = found.sink
  listeners : ∀ {name entry}, later.Registers name entry → world.Registers name entry
  watchers : ∀ {label query}, (label, some query) ∈ later.feedNames →
    (label, some query) ∈ world.feedNames

variable {world later : World}

/-- Live queries keep whom they deliver to, so a callback tells whom it told. -/
theorem sinkOf?_mono (queries : ∀ {query : Nat} {found : LiveQuery},
      world.queries[query]? = some found →
        ∃ after, later.queries[query]? = some after ∧ after.sink = found.sink)
    {callback : Callback} {sink : Sink} (tells : world.sinkOf? callback = some sink) :
    later.sinkOf? callback = some sink := by
  cases callback with
  | recipient index => exact tells
  | live query =>
    obtain ⟨found, present, rfl⟩ := Option.map_eq_some_iff.mp tells
    obtain ⟨after, there, same⟩ := queries present
    exact Option.map_eq_some_iff.mpr ⟨after, there, same⟩

theorem Leads.sinkOf? (leads : world.Leads later) {callback : Callback} {sink : Sink}
    (tells : world.sinkOf? callback = some sink) : later.sinkOf? callback = some sink :=
  sinkOf?_mono (fun present => (leads.queries _ _ present).imp fun _ kept => ⟨kept.1, kept.2.1⟩)
    tells

theorem registers_of_stores_eq (stores : later.stores = world.stores) {name : Text}
    {entry : Nat × Listener Callback} (registers : later.Registers name entry) :
    world.Registers name entry := by
  rwa [Registers, store?, stores] at registers

namespace Follows

theorem of_leads (leads : world.Leads later) (stores : later.stores = world.stores)
    (feedNames : later.feedNames = world.feedNames) : world.Follows later := by
  refine ⟨leads.sinks, fun present => ?_, registers_of_stores_eq stores,
    fun watches => feedNames ▸ watches⟩
  exact (leads.queries _ _ present).imp fun _ kept => ⟨kept.1, kept.2.1⟩

/-- What leaves live queries, sinks, stores and feeds as they are. -/
theorem of_same (recipients : later.recipients.length = world.recipients.length)
    (streams : later.streams.length = world.streams.length)
    (queries : later.queries = world.queries) (stores : later.stores = world.stores)
    (feedNames : later.feedNames = world.feedNames) : world.Follows later := by
  refine ⟨fun sink there => ?_, fun {_ found} present => ⟨found, by rwa [queries], rfl⟩,
    registers_of_stores_eq stores, fun watches => feedNames ▸ watches⟩
  cases sink with
  | recipient index => exact Nat.lt_of_lt_of_eq there recipients.symm
  | stream index => exact Nat.lt_of_lt_of_eq there streams.symm

/-- A callback tells whom it told. -/
theorem sinkOf? (follows : world.Follows later) {callback : Callback} {sink : Sink}
    (tells : world.sinkOf? callback = some sink) : later.sinkOf? callback = some sink :=
  sinkOf?_mono follows.queries tells

/-- Whom a callback tells later that told somebody before, it told before. -/
theorem told (follows : world.Follows later) {callback : Callback} {sink told : Sink}
    (known : world.sinkOf? callback = some told) (tells : later.sinkOf? callback = some sink) :
    world.sinkOf? callback = some sink := by
  rw [known, ← follows.sinkOf? known, tells]

end Follows

theorem sinkOf?_addQuery (query : LiveQuery) (world : World) :
    (world.addQuery query).2.sinkOf? (.live world.queries.length) = some query.sink := by
  rw [sinkOf?, getElem?_addQuery]
  rfl

theorem hasSink_addStream (world : World) :
    world.addStream.2.HasSink (.stream world.streams.length) := by
  rw [HasSink, addStream, List.length_append]
  exact Nat.lt_succ_self _

/-- A change that only removes listeners brings none. -/
theorem registers_of_shrinks {change : Store Callback → Store Callback} (shrinks : Shrinks change)
    {name other : Text} {entry : Nat × Listener Callback}
    (registers : (world.updateStore name change).Registers other entry) :
    world.Registers other entry := by
  obtain ⟨after, there, member⟩ := registers
  obtain ⟨store, found, ⟨_, rfl⟩ | ⟨_, rfl⟩⟩ := store?_updateStore_cases there
  · exact ⟨store, found, shrinks.listeners store _ member⟩
  · exact ⟨_, found, member⟩

/-- A listener of a state in which one was registered is an earlier one or the new one. -/
theorem registers_of_register {name : Text} {listener : Listener Callback} {other : Text}
    {entry : Nat × Listener Callback}
    (registers : (world.updateStore name (Store.register listener)).Registers other entry) :
    world.Registers other entry ∨ ∃ store, world.store? name = some store ∧ other = name ∧
      entry = (store.nextListener, listener) := by
  obtain ⟨after, there, member⟩ := registers
  obtain ⟨store, found, _, cases⟩ := register_cases there
  rcases cases entry member with old | ⟨rfl, new, _⟩
  · exact .inl ⟨store, found, old⟩
  · exact .inr ⟨store, found, rfl, new⟩

namespace Routed

variable (routed : world.Routed)

include routed

theorem of_follows (follows : world.Follows later)
    (fed : ∀ {query : Nat} {after : LiveQuery} {stream : Nat},
      later.queries[query]? = some after → after.sink = .stream stream →
        ∃ known, later.streams[stream]? = some known ∧ known.query = query) : later.Routed where
  listeners registers := by
    obtain ⟨sink, tells, there⟩ := routed.listeners (follows.listeners registers)
    exact ⟨sink, follows.sinkOf? tells, follows.sinks sink there⟩
  watchers watches := by
    obtain ⟨sink, tells, there⟩ := routed.watchers (follows.watchers watches)
    exact ⟨sink, follows.sinkOf? tells, follows.sinks sink there⟩
  apart registers another tells tellsToo := by
    have before := follows.listeners registers
    have beforeToo := follows.listeners another
    obtain ⟨_, told, _⟩ := routed.listeners before
    obtain ⟨_, toldToo, _⟩ := routed.listeners beforeToo
    exact routed.apart before beforeToo (follows.told told tells) (follows.told toldToo tellsToo)
  unwatched registers watches tells tellsToo := by
    have before := follows.listeners registers
    have watched := follows.watchers watches
    obtain ⟨_, told, _⟩ := routed.listeners before
    obtain ⟨_, toldToo, _⟩ := routed.watchers watched
    exact routed.unwatched before watched (follows.told told tells) (follows.told toldToo tellsToo)
  fed := fed

/-- What leaves streams and their live queries as they are, too. -/
theorem of_streams_eq (follows : world.Follows later) (queries : later.queries = world.queries)
    (streams : later.streams = world.streams) : later.Routed :=
  routed.of_follows follows fun present sink => by
    rw [queries] at present
    rw [streams]
    exact routed.fed present sink

/-- Whoever tells a sink that was not there is the only one. -/
theorem isFree_new (follows : world.Follows later) {callback : Callback} {sink : Sink}
    (tells : later.sinkOf? callback = some sink) (new : ¬ world.HasSink sink)
    (there : later.HasSink sink) : later.IsFree callback sink where
  tells := tells
  there := there
  unheard registers tellsToo := by
    obtain ⟨_, told, thereToo⟩ := routed.listeners (follows.listeners registers)
    obtain rfl := Option.some.inj (told.symm.trans (follows.told told tellsToo))
    exact new thereToo
  unwatched watches tellsToo := by
    obtain ⟨_, told, thereToo⟩ := routed.watchers (follows.watchers watches)
    obtain rfl := Option.some.inj (told.symm.trans (follows.told told tellsToo))
    exact new thereToo

/-! ### Single operations -/

theorem updateStore {change : Store Callback → Store Callback} (shrinks : Shrinks change)
    (name : Text) : (world.updateStore name change).Routed := by
  obtain ⟨stores, same⟩ := exists_updateStore name change world
  have leads := leads_updateStore name change world
  have follows : world.Follows (world.updateStore name change) := by
    refine ⟨leads.sinks, fun {_ found} present => ⟨found, by rwa [same], rfl⟩,
      registers_of_shrinks shrinks, fun watches => ?_⟩
    rwa [same] at watches
  exact routed.of_streams_eq follows (by rw [same]) (by rw [same])

theorem updateHandle (query : Nat) (change : Subscription Release → Subscription Release) :
    (world.updateHandle query change).Routed := by
  refine routed.of_follows (.of_leads (leads_updateHandle query change world) rfl rfl)
    fun {other after stream} present sink => ?_
  rw [queries_updateHandle] at present
  obtain ⟨before, known, rfl⟩ := Option.map_eq_some_iff.mp present
  refine routed.fed known ?_
  split at sink <;> exact sink

/-- A change of a queue leaves the stream with its live query. -/
theorem updateQueue (stream : Nat)
    (change : Stream (Except Failure QueryResult) → Stream (Except Failure QueryResult)) :
    (world.updateQueue stream change).Routed := by
  refine routed.of_follows (.of_same rfl (List.length_modify ..) rfl rfl rfl)
    fun {query found other} present sink => ?_
  obtain ⟨known, there, same⟩ := routed.fed present sink
  rw [World.updateQueue, List.getElem?_modify, there]
  exact ⟨_, rfl, by split <;> exact same⟩

theorem tell (recipient : Nat) (occasion : Occasion) (update : Update) :
    (world.tell recipient occasion update).Routed := by
  rw [World.tell]
  split
  · exact routed
  · exact routed.of_streams_eq (.of_same (List.length_modify ..) rfl rfl rfl rfl) rfl rfl

theorem addRecipient (label : Text) (reactions : List Reaction) :
    (world.addRecipient label reactions).2.Routed :=
  routed.of_streams_eq (.of_leads (leads_addRecipient label reactions world) rfl rfl) rfl rfl

theorem newRecipient (label : Text) (reactions : List Reaction) (aim : Aim) :
    ((world.addRecipient label reactions).2.addQuery
      (queryFor aim (.recipient world.recipients.length))).2.Routed := by
  refine routed.of_follows (.of_leads (leads_newRecipient label reactions aim world) rfl rfl)
    fun {query found stream} present sink => ?_
  rcases getElem?_concat_eq_some.mp present with old | ⟨_, rfl⟩
  · exact routed.fed old sink
  · cases sink

/-- A new stream is added for the live query that is added next. -/
theorem newStream (aim : Aim) :
    (world.addStream.2.addQuery (queryFor aim (.stream world.streams.length))).2.Routed := by
  refine routed.of_follows (.of_leads (leads_newStream aim world) rfl rfl)
    fun {query found stream} present sink => ?_
  rcases getElem?_concat_eq_some.mp present with old | ⟨rfl, rfl⟩
  · obtain ⟨known, there, same⟩ := routed.fed old sink
    exact ⟨known, getElem?_concat_eq_some.mpr (.inl there), same⟩
  · cases sink
    exact ⟨_, getElem?_concat_eq_some.mpr (.inr ⟨rfl, rfl⟩), rfl⟩

/-- A callback that nobody else shares its sink with is given to a store. -/
theorem register {name : Text} {reference : Reference} {callback : Callback} {sink : Sink}
    (free : world.IsFree callback sink) :
    (world.updateStore name (Store.register ⟨reference, callback⟩)).Routed := by
  obtain ⟨stores, same⟩ := exists_updateStore name (Store.register ⟨reference, callback⟩) world
  have cases := @registers_of_register world name ⟨reference, callback⟩
  rw [same] at cases ⊢
  refine ⟨fun registers => ?_, routed.watchers,
    fun {_ _ entry another told} registers more tells tellsToo => ?_,
    fun {_ entry _ _ told} registers watches tells => ?_, routed.fed⟩
  · rcases cases registers with old | ⟨store, _, _, rfl⟩
    · exact routed.listeners old
    · exact ⟨sink, free.tells, free.there⟩
  · rcases cases registers with old | ⟨store, found, rfl, rfl⟩
    · rcases cases more with oldToo | ⟨_, _, _, rfl⟩
      · exact routed.apart old oldToo tells tellsToo
      · obtain rfl := Option.some.inj (free.tells.symm.trans tellsToo)
        exact absurd tells (free.unheard old)
    · obtain rfl := Option.some.inj (free.tells.symm.trans tells)
      rcases cases more with old | ⟨other, foundToo, rfl, rfl⟩
      · exact absurd tellsToo (free.unheard old)
      · obtain rfl := Option.some.inj (found.symm.trans foundToo)
        exact ⟨rfl, rfl⟩
  · rcases cases registers with old | ⟨_, _, _, rfl⟩
    · exact routed.unwatched old watches tells
    · obtain rfl := Option.some.inj (free.tells.symm.trans tells)
      exact free.unwatched watches

/-- Whoever comes to watch a feed tells a sink that nobody else tells. -/
theorem bindFeed (feed : Feed) {watcher : Option Nat}
    (free : ∀ query, watcher = some query → ∃ sink, world.IsFree (.live query) sink) :
    (world.bindFeed feed watcher).Routed := by
  refine ⟨routed.listeners, fun watches => ?_, routed.apart,
    fun {_ entry _ _ told} registers watches tells tellsToo => ?_, routed.fed⟩
  · rcases List.mem_cons.mp watches with new | old
    · cases new
      obtain ⟨sink, alone⟩ := free _ rfl
      exact ⟨sink, alone.tells, alone.there⟩
    · exact routed.watchers old
  · rcases List.mem_cons.mp watches with new | old
    · cases new
      obtain ⟨sink, alone⟩ := free _ rfl
      obtain rfl := Option.some.inj (alone.tells.symm.trans tellsToo)
      exact alone.unheard registers tells
    · exact routed.unwatched registers old tells tellsToo

end Routed

/-! ### Runs -/

/-- To keep routes apart, as terms. A callback is given away only while its sink is free. -/
def routing : Terms where
  good := Routed
  allowed _ := True
  callable world callback := ∃ sink, world.IsFree callback sink
  owed _ _ _ _ := True
  relation _ later := later.Routed

theorem owes_routing (callback : Callback) (occasion : Occasion) (read : Except Failure Snapshot)
    (world : World) : routing.Owes callback occasion read world := by
  cases callback with
  | recipient index => trivial
  | live query => exact fun _ _ => trivial

theorem releasing_routing : routing.Releasing where
  refl := id
  trans _ := id
  good := id
  scripts _ _ _ _ _ _ := trivial
  countDelivery routed _ :=
    routed.of_streams_eq (.of_same (List.length_modify ..) rfl rfl rfl rfl) rfl rfl
  tell routed _ := routed.tell _ _ _
  count query _ routed := routed.updateHandle query _
  push routed _ := routed.updateQueue _ _
  notifyAll _ _ routed := routed.of_streams_eq (.of_same rfl rfl rfl rfl rfl) rfl rfl
  counted := id
  noticed := id
  shrink shrinks name _ routed := routed.updateStore shrinks name
  steer query _ _ _ routed := routed.updateHandle query _
  release _ _ routed := routed.of_streams_eq (.of_same rfl rfl rfl rfl rfl) rfl rfl
  finish _ _ routed := routed.updateQueue _ _

theorem starting_routing : routing.Starting where
  toTelling := releasing_routing.toTelling
  listening _ _ _ _ := trivial
  subscribing _ _ _ _ := trivial
  report _ _ _ _ _ := owes_routing _ .report _ _
  announce _ _ _ read := owes_routing _ .report read _
  read _ _ _ _ _ := owes_routing _ .standing _ _
  write name _ _ _ _ _ _ routed := routed.updateStore (shrinks_write _ _) name
  remove name _ _ _ _ routed := routed.updateStore (shrinks_remove _) name
  close name _ routed := routed.updateStore shrinks_close name
  unlisten label _ := releasing_routing.unlisten label
  cancelQuery query _ := releasing_routing.cancelQuery query
  closeStream stream _ := releasing_routing.closeStream stream
  bindFeed feed _ _ free routed := routed.bindFeed feed free
  cutShort routed := routed.of_streams_eq (.of_same rfl rfl rfl rfl rfl) rfl rfl
  register _ free routed := by
    obtain ⟨sink, alone⟩ := free
    exact routed.register alone
  addRecipient label _ _ _ routed := routed.addRecipient label _
  newListener {label _ _ reactions} _ world routed :=
    ⟨.recipient world.recipients.length,
      routed.isFree_new (.of_leads (leads_addRecipient label reactions world) rfl rfl) rfl
        (Nat.lt_irrefl _) (lt_length_addRecipient world label reactions)⟩
  newRecipient label reactions _ aim world routed :=
    ⟨routed.newRecipient label reactions aim, .recipient world.recipients.length,
      routed.isFree_new (.of_leads (leads_newRecipient label reactions aim world) rfl rfl)
        (sinkOf?_addQuery _ _) (Nat.lt_irrefl _) (lt_length_addRecipient world label reactions)⟩
  newStream aim world routed :=
    ⟨routed.newStream aim, .stream world.streams.length,
      routed.isFree_new (.of_leads (leads_newStream aim world) rfl rfl) (sinkOf?_addQuery _ _)
        (Nat.lt_irrefl _) (hasSink_addStream world)⟩
  attach query release _ := releasing_routing.attach query release
  names _ _ _ _ routed := routed.of_streams_eq (.of_same rfl rfl rfl rfl rfl) rfl rfl

theorem spanning_routing : routing.Spanning where
  toRunning := starting_routing.running
  everything _ := trivial
  everybody callback read _ _ := owes_routing callback .report read _
  take same fewer routed := by
    refine routed.of_follows (.of_same rfl same rfl rfl rfl)
      fun {query found index} present sink => ?_
    obtain ⟨known, there, feeds⟩ := routed.fed present sink
    have inside := same ▸ (List.getElem?_eq_some_iff.mp there).1
    obtain ⟨before, earlier, kept, _⟩ := fewer index _ (List.getElem?_eq_getElem inside)
    obtain rfl := Option.some.inj (there.symm.trans earlier)
    exact ⟨_, List.getElem?_eq_getElem inside, kept.trans feeds⟩
  remark _ _ _ routed := routed.of_streams_eq (.of_same rfl rfl rfl rfl rfl) rfl rfl

theorem routed_ofStores {mode : BuildMode} {stores : List (Text × Store Callback)}
    (unheard : ∀ entry ∈ stores, entry.2.listeners = []) : (ofStores mode stores).Routed := by
  have nobody {name : Text} {entry : Nat × Listener Callback} :
      ¬ (ofStores mode stores).Registers name entry := by
    rintro ⟨store, there, member⟩
    rw [listeners_ofStores unheard there] at member
    cases member
  exact ⟨fun registers => absurd registers nobody, fun none => absurd none List.not_mem_nil,
    fun registers => absurd registers nobody, fun registers => absurd registers nobody,
    fun present => absurd (List.mem_of_getElem? present) List.not_mem_nil⟩

/-- After any run routes are apart. -/
theorem Runs.routed {mode : BuildMode} {stores : List (Text × Store Callback)}
    (unheard : ∀ entry ∈ stores, entry.2.listeners = []) (run : (ofStores mode stores).Runs world) :
    world.Routed :=
  spanning_routing.of_runs run (routed_ofStores unheard)

end World

end DocQuery
