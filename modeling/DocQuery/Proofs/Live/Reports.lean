/-
This file proves whom a report of a failure calls, and with it that paths and locations correspond.

A listener leaves a store alone if it leaves the store as it is and would do the same whoever
listened to the store. So what it does while it is told something it would also do if the store
had no listeners at all; and then, since one listener tells one sink, nobody whom a listener of
the store tells hears anything, but for the one that is being told. This is how it is known of
each turn of a report that nobody else is called in it, though listeners may do to other stores,
to feeds and to live queries there what they like.

A report calls the listeners whose location is that of its path. Locations that navigation reaches
are clean, so they are told apart by their paths, and the location of a path is found again in it.
-/

import DocQuery.Proofs.Hosted.Hearing
import DocQuery.Proofs.Live.Handles
import DocQuery.Proofs.Live.Isolation
import DocQuery.Proofs.Live.Rounds
import DocQuery.Proofs.Store.Paths

namespace DocQuery

namespace World

variable {world after : World} {name : Text} {store : Store Callback}

/-! ### Leaving a store alone -/

/-- The state with other listeners at the store of a name. -/
def withListeners (name : Text) (listeners : List (Nat × Listener Callback)) (world : World) :
    World :=
  world.updateStore name fun store => { store with listeners := listeners }

/-- What is done in a state does not touch the store of a name: it leaves the store as it is, and
comes to the same whoever listens to the store, so it calls none of its listeners. -/
structure LeavesAlone (name : Text) (act : World → Except Failure Unit × World) (world : World) :
    Prop where
  kept : (act world).2.store? name = world.store? name
  same : ∀ listeners, act (world.withListeners name listeners) =
    ((act world).1, (act world).2.withListeners name listeners)

/-- The state in which a store has lost its listeners. -/
def deserted (name : Text) (world : World) : World :=
  world.withListeners name []

theorem exists_deserted (name : Text) (world : World) :
    ∃ stores, world.deserted name = { world with stores := stores } :=
  exists_updateStore name _ world

/-- What leaves a store alone does the same in the state in which the store is deserted. -/
theorem LeavesAlone.exists_deserted {act : World → Except Failure Unit × World}
    (alone : world.LeavesAlone name act) :
    ∃ stores storesAfter, world.deserted name = { world with stores := stores } ∧
      act { world with stores := stores } =
        ((act world).1, { (act world).2 with stores := storesAfter }) := by
  obtain ⟨stores, same⟩ := World.exists_deserted name world
  obtain ⟨storesAfter, sameAfter⟩ := World.exists_deserted name (act world).2
  refine ⟨stores, storesAfter, same, ?_⟩
  rw [← same, ← sameAfter]
  exact alone.same _

/-- Only listeners of other stores are left. -/
theorem registers_of_deserted {other : Text} {entry : Nat × Listener Callback}
    (registers : (world.deserted name).Registers other entry) :
    world.Registers other entry ∧ other ≠ name := by
  obtain ⟨known, there, member⟩ := registers
  obtain ⟨before, found, ⟨_, rfl⟩ | ⟨different, rfl⟩⟩ := store?_updateStore_cases there
  · cases member
  · exact ⟨⟨_, found, member⟩, different⟩

/-! ### Listeners that nobody else calls -/

theorem bypasses_of_sinkOf? {callback : Callback} {recipient : Nat} {sink : Sink}
    (tells : world.sinkOf? callback = some sink) (there : world.HasSink sink)
    (other : sink ≠ .recipient recipient) : world.Bypasses (· = recipient) callback := by
  cases callback with
  | recipient index =>
    cases tells
    exact ⟨there, fun same => other (congrArg Sink.recipient same)⟩
  | live query =>
    obtain ⟨found, present, rfl⟩ := Option.map_eq_some_iff.mp tells
    exact ⟨found, present, fun index same equal =>
      other (same.trans (congrArg Sink.recipient equal))⟩

/-- Only live queries deliver into streams. -/
theorem exists_query_of_stream {callback : Callback} {stream : Nat}
    (tells : world.sinkOf? callback = some (.stream stream)) :
    ∃ (query : Nat) (found : LiveQuery), callback = .live query ∧
      world.queries[query]? = some found ∧ found.sink = .stream stream := by
  cases callback with
  | recipient index => cases tells
  | live query =>
    obtain ⟨found, present, sink⟩ := Option.map_eq_some_iff.mp tells
    exact ⟨query, found, rfl, present, sink⟩

namespace Routed

variable (routed : world.Routed) {entry : Nat × Listener Callback}

include routed

/-- If the store of a listener is deserted, nobody tells whom the listener tells. -/
theorem elsewhere (registers : world.Registers name entry) {sink : Sink}
    (tells : world.sinkOf? entry.2.callback = some sink) :
    (∀ {other another}, (world.deserted name).Registers other another →
      ∃ told, world.sinkOf? another.2.callback = some told ∧ world.HasSink told ∧ told ≠ sink) ∧
    ∀ {label query}, (label, some query) ∈ world.feedNames →
      ∃ told, world.sinkOf? (.live query) = some told ∧ world.HasSink told ∧ told ≠ sink := by
  refine ⟨fun left => ?_, fun watches => ?_⟩
  · obtain ⟨before, different⟩ := registers_of_deserted left
    obtain ⟨told, tellsToo, there⟩ := routed.listeners before
    refine ⟨told, tellsToo, there, ?_⟩
    rintro rfl
    exact different (routed.apart before registers tellsToo tells).1
  · obtain ⟨told, tellsToo, there⟩ := routed.watchers watches
    refine ⟨told, tellsToo, there, ?_⟩
    rintro rfl
    exact routed.unwatched registers watches tells tellsToo

/-- Its recipient is set apart then. -/
theorem secludes (numbered : world.Numbered) (registers : world.Registers name entry)
    {recipient : Nat} (tells : world.sinkOf? entry.2.callback = some (.recipient recipient)) :
    (world.deserted name).Secludes (· = recipient) := by
  obtain ⟨stores, same⟩ := exists_deserted name world
  obtain ⟨others, watchers⟩ := routed.elsewhere registers tells
  obtain ⟨_, told, there⟩ := routed.listeners registers
  obtain rfl := Option.some.inj (told.symm.trans tells)
  rw [same] at others ⊢
  refine ⟨?_, numbered.sinks, fun known member => ?_, fun watches => ?_, numbered.told⟩
  · rintro _ rfl
    exact there
  · obtain ⟨sink, tellsToo, thereToo, other⟩ := others ⟨_, known, member⟩
    exact bypasses_of_sinkOf? tellsToo thereToo other
  · obtain ⟨sink, tellsToo, thereToo, other⟩ := watchers watches
    exact bypasses_of_sinkOf? tellsToo thereToo other

/-- And so is its stream. -/
theorem isolates (registers : world.Registers name entry) {stream : Nat}
    (tells : world.sinkOf? entry.2.callback = some (.stream stream)) :
    (world.deserted name).Isolates stream := by
  obtain ⟨stores, same⟩ := exists_deserted name world
  obtain ⟨others, watchers⟩ := routed.elsewhere registers tells
  rw [same] at others ⊢
  refine ⟨?_, fun left => ?_, fun watches => ?_⟩
  · obtain ⟨query, found, _, present, sink⟩ := exists_query_of_stream tells
    obtain ⟨known, there, rfl⟩ := routed.fed present sink
    exact ⟨known, found, there, present⟩
  · obtain ⟨sink, tellsToo, _, other⟩ := others left
    exact ⟨sink, tellsToo, other⟩
  · obtain ⟨sink, tellsToo, _, other⟩ := watchers watches
    exact ⟨sink, tellsToo, other⟩

end Routed

/-! ### Single calls -/

/-- A sink is handed some failures, in order, and nothing else. -/
def IsHanded (world after : World) (failures : List Failure) : Sink → Prop
  | .recipient index => after.toldTo index = world.toldTo index ++ failures.map .failure
  | .stream index =>
    after.streams[index]? = (world.streams[index]?).map (LiveStream.pushed (failures.map .error))

/-- Whom a listener tells is handed some failures, and nothing else. -/
def Hears (entry : Nat × Listener Callback) (failures : List Failure) (world after : World) :
    Prop :=
  ∃ sink, world.sinkOf? entry.2.callback = some sink ∧ world.IsHanded after failures sink

theorem IsHanded.refl (world : World) (sink : Sink) : world.IsHanded world [] sink := by
  cases sink with
  | recipient index => exact (List.append_nil _).symm
  | stream index => exact Option.map_id_apply.symm

theorem IsHanded.trans {between : World} {failures more : List Failure} {sink : Sink}
    (handed : world.IsHanded between failures sink) (further : between.IsHanded after more sink) :
    world.IsHanded after (failures ++ more) sink := by
  cases sink with
  | recipient index =>
    rw [IsHanded] at handed further ⊢
    rw [further, handed, List.map_append, List.append_assoc]
  | stream index =>
    rw [IsHanded] at handed further ⊢
    rw [further, handed, Option.map_map]
    refine congrArg (fun change => (world.streams[index]?).map change) (funext fun found => ?_)
    simp [LiveStream.pushed, List.foldl_append]

/-- A recipient that is set apart hears a failure that its own listener is told. -/
theorem Secludes.toldTo_callFailure {recipient : Nat} (secludes : world.Secludes (· = recipient))
    {callback : Callback} (tells : world.sinkOf? callback = some (.recipient recipient))
    (active : ∀ query, callback = .live query → world.IsActive query) (depth : Nat)
    (failure : Failure) :
    (world.callFailure (performTo depth) callback .report failure).2.toldTo recipient =
      world.toldTo recipient ++ [.failure failure] := by
  cases callback with
  | recipient index =>
    cases tells
    exact (secludes.relays_hear (keptBy_sparing _ depth) .report (.error failure)).told
  | live query =>
    obtain ⟨found, present, sink⟩ := Option.map_eq_some_iff.mp tells
    obtain ⟨other, known, isActive⟩ := active query rfl
    obtain rfl := Option.some.inj (present.symm.trans known)
    have relays :=
      secludes.relays_receiveFailure (keptBy_sparing _ depth) present sink .report failure
    rw [if_pos isActive] at relays
    exact relays.told

/-- A recipient that is set apart hears nothing of what others are told. -/
theorem Secludes.toldTo_callFailure_of_ne {recipient : Nat}
    (secludes : world.Secludes (· = recipient)) {callback : Callback}
    (bypasses : world.Bypasses (· = recipient) callback) (depth : Nat) (failure : Failure) :
    (world.callFailure (performTo depth) callback .report failure).2.toldTo recipient =
      world.toldTo recipient := by
  have spares : SparesApart _ _ _ := (telling_sparing (· = recipient)).callFailure
    (keptBy_sparing _ depth) secludes (bypasses.owes .report (.error failure))
  exact spares.relays.told.trans (List.append_nil _)

/-- A live query that delivers into a stream puts a failure that it is told into its queue. -/
theorem streams_callFailure {query stream : Nat} {found : LiveQuery}
    (present : world.queries[query]? = some found) (sink : found.sink = .stream stream)
    (active : found.handle.active = true) (performer : Performer) (failure : Failure) :
    (world.callFailure performer (.live query) .report failure).2.streams[stream]? =
      (world.streams[stream]?).map (LiveStream.pushed [.error failure]) := by
  have still : (world.notify (.storeFailed found.handle.path failure)).queries[query]? =
    some found := present
  rw [callFailure, receiveFailure, present]
  dsimp only
  rw [deliver, still]
  dsimp only
  rw [if_pos active, handOver, sink]
  exact List.getElem?_modify_eq ..

/-! ### Turns -/

/-- Listeners are told a failure one after the other. Each is called once, nothing is raised, and
while one is called it alone hears the failure, and none of the others of its store hears
anything. -/
inductive InTurn (performer : Performer) (store : Store Callback) (failure : Failure) :
    List (Nat × Listener Callback) → World → World → Prop
  | done (world : World) : InTurn performer store failure [] world world
  | next {entry : Nat × Listener Callback} {rest : List (Nat × Listener Callback)}
      {world between after : World}
      (called : world.callFailure performer entry.2.callback .report failure = (.ok (), between))
      (hears : ∀ other ∈ store.listeners,
        Hears other (if other.1 = entry.1 then [failure] else []) world between)
      (others : InTurn performer store failure rest between after) :
      InTurn performer store failure (entry :: rest) world after

/-- A failure was reported on a path: the listeners at the location of the path were told it in
turn, and of all listeners of the store these heard it once, and the others heard nothing. -/
structure Reported (store : Store Callback) (path : Text) (failure : Failure)
    (world after : World) : Prop where
  turns : InTurn (performTo world.weight) store failure (store.listenersAt (Segments.ofPath path))
    world after
  hears : ∀ entry ∈ store.listeners, Hears entry
    (if entry.2.reference.segments = Segments.ofPath path then [failure] else []) world after

/-- Each of the listeners, when its turn to be told a failure comes, raises nothing and leaves the
store alone. -/
def AreQuiet (performer : Performer) (name : Text) (failure : Failure) :
    List (Nat × Listener Callback) → World → Prop
  | [], _ => True
  | entry :: rest, world =>
    let call := callFailure performer entry.2.callback .report failure
    (call world).1 = .ok () ∧ world.LeavesAlone name call ∧
      AreQuiet performer name failure rest (call world).2

/-- Ids tell the listeners of a store apart. -/
theorem Arranged.nodup_ids (arranged : world.Arranged) (there : world.store? name = some store) :
    (store.listeners.map Prod.fst).Nodup :=
  List.pairwise_map.mpr ((arranged.ordered there).imp fun before => Nat.ne_of_lt before.id)

theorem Arranged.eq_of_id (arranged : world.Arranged) (there : world.store? name = some store)
    {entry other : Nat × Listener Callback} (member : entry ∈ store.listeners)
    (registered : other ∈ store.listeners) (same : other.1 = entry.1) : other = entry :=
  List.inj_on_of_nodup_map (arranged.nodup_ids there) registered member same

/-- Of those that are told in turn each hears the failure once, and the others of the store hear
nothing. -/
theorem InTurn.hears {depth : Nat} {failure : Failure} {entries : List (Nat × Listener Callback)}
    (turns : InTurn (performTo depth) store failure entries world after)
    (single : (entries.map Prod.fst).Nodup) {other : Nat × Listener Callback}
    (registered : other ∈ store.listeners) {sink : Sink}
    (tells : world.sinkOf? other.2.callback = some sink) :
    world.IsHanded after (if other.1 ∈ entries.map Prod.fst then [failure] else []) sink := by
  induction turns with
  | done world => exact .refl world sink
  | @next entry rest world between after called hears _ inductionHypothesis =>
    obtain ⟨absent, restSingle⟩ := List.nodup_cons.mp single
    obtain ⟨_, same, handed⟩ := hears other registered
    obtain rfl := Option.some.inj (same.symm.trans tells)
    have run := Runs.callFailure (runs_performTo depth) entry.2.callback failure world
    rw [called] at run
    have whole := handed.trans (inductionHypothesis restSingle (run.leads.sinkOf? tells))
    by_cases own : other.1 = entry.1
    · rw [if_pos own, if_neg (own ▸ absent), List.append_nil] at whole
      rwa [if_pos (own ▸ List.mem_cons_self)]
    · rw [if_neg own, List.nil_append] at whole
      simpa only [List.map_cons, List.mem_cons, or_iff_right own] using whole

namespace Runs

variable {mode : BuildMode} {stores : List (Text × Store Callback)}
  (unheard : ∀ entry ∈ stores, entry.2.listeners = []) (run : (ofStores mode stores).Runs world)

include unheard run

/-- Live queries that have a listener are active. -/
theorem isActive_of_mem (there : world.store? name = some store)
    {entry : Nat × Listener Callback} (member : entry ∈ store.listeners) {query : Nat}
    (callback : entry.2.callback = .live query) : world.IsActive query := by
  obtain ⟨id, reference, _⟩ := entry
  obtain rfl := callback
  obtain ⟨_, found, present, active, _⟩ := run.owns_listener unheard ⟨store, there, member⟩
  exact ⟨found, present, active⟩

/-- A listener that leaves the store alone while it is told a failure hears that, and nothing
else. -/
theorem hears_self (there : world.store? name = some store)
    {entry : Nat × Listener Callback} (member : entry ∈ store.listeners) {depth : Nat}
    {failure : Failure} (alone : world.LeavesAlone name
      (World.callFailure (performTo depth) entry.2.callback .report failure)) :
    Hears entry [failure] world
      (world.callFailure (performTo depth) entry.2.callback .report failure).2 := by
  have routed := run.routed unheard
  have numbered := spanning_numbered.of_runs run (numbered_ofStores unheard)
  obtain ⟨sink, tells, _⟩ := routed.listeners ⟨store, there, member⟩
  refine ⟨sink, tells, ?_⟩
  cases sink with
  | recipient recipient =>
    -- Where the store is deserted, nobody else tells the recipient, and the call is the same.
    have secludes := routed.secludes numbered.secludes ⟨store, there, member⟩ tells
    obtain ⟨stores, storesAfter, same, acted⟩ := alone.exists_deserted
    rw [same] at secludes
    have heard := secludes.toldTo_callFailure tells
      (fun query callback => run.isActive_of_mem unheard there member callback) depth failure
    rw [acted] at heard
    exact heard
  | stream stream =>
    obtain ⟨query, found, callback, present, delivers⟩ := exists_query_of_stream tells
    obtain ⟨known, thereToo, active⟩ := run.isActive_of_mem unheard there member callback
    obtain rfl := Option.some.inj (present.symm.trans thereToo)
    rw [callback]
    exact streams_callFailure present delivers active _ failure

/-- While a listener that leaves the store alone is told a failure, the others of the store hear
nothing. -/
theorem hears_other (there : world.store? name = some store)
    {entry other : Nat × Listener Callback} (member : entry ∈ store.listeners)
    (registered : other ∈ store.listeners) (different : other.1 ≠ entry.1) {depth : Nat}
    {failure : Failure} (alone : world.LeavesAlone name
      (World.callFailure (performTo depth) entry.2.callback .report failure)) :
    Hears other [] world
      (world.callFailure (performTo depth) entry.2.callback .report failure).2 := by
  have routed := run.routed unheard
  have numbered := spanning_numbered.of_runs run (numbered_ofStores unheard)
  obtain ⟨stores, storesAfter, same, acted⟩ := alone.exists_deserted
  obtain ⟨sink, tells, _⟩ := routed.listeners ⟨store, there, registered⟩
  obtain ⟨told, own, inside⟩ := routed.listeners ⟨store, there, member⟩
  have apart : told ≠ sink := by
    rintro rfl
    exact different (routed.apart ⟨store, there, registered⟩ ⟨store, there, member⟩ tells own).2
  refine ⟨sink, tells, ?_⟩
  cases sink with
  | recipient recipient =>
    have secludes :=
      routed.secludes numbered.secludes ⟨store, there, registered⟩ tells
    rw [same] at secludes
    have silent := secludes.toldTo_callFailure_of_ne (bypasses_of_sinkOf? own inside apart) depth
      failure
    rw [acted] at silent
    exact silent.trans (List.append_nil _).symm
  | stream stream =>
    have isolates := routed.isolates ⟨store, there, registered⟩ tells
    rw [same] at isolates
    have avoids : Avoids (.stream stream) { world with stores := stores } entry.2.callback :=
      ⟨told, own, apart⟩
    have leaves : LeavesQueue _ _ _ := (releasing_isolating stream).callFailure
      (keptBy_isolating stream depth) isolates (avoids.owes .report (.error failure))
    rw [acted] at leaves
    obtain ⟨query, found, callback, present, delivers⟩ := exists_query_of_stream tells
    obtain ⟨known, filled, feeds⟩ := routed.fed present delivers
    obtain ⟨after, queue, _, untouched⟩ := leaves.queue filled
    -- Its listener is still registered, so its live query is still active.
    have further := run.further
      (.callFailure (runs_performTo depth) entry.2.callback failure world)
    have active := further.isActive_of_mem unheard (alone.kept.trans there) registered callback
    obtain rfl := untouched.resolve_right (not_not_intro (feeds ▸ active))
    exact (queue.trans filled.symm).trans Option.map_id_apply.symm

/-- Quiet listeners are told a failure in turn. -/
theorem inTurn (there : world.store? name = some store)
    {entries : List (Nat × Listener Callback)} (registered : entries ⊆ store.listeners)
    {depth : Nat} {failure : Failure}
    (quiet : AreQuiet (performTo depth) name failure entries world) :
    ∃ after, world.reportPass (performTo depth) failure entries = (.ok (), after) ∧
      InTurn (performTo depth) store failure entries world after := by
  induction entries generalizing world with
  | nil => exact ⟨world, rfl, .done world⟩
  | cons entry rest inductionHypothesis =>
    obtain ⟨member, others⟩ := List.cons_subset.mp registered
    obtain ⟨returns, alone, quietThen⟩ := quiet
    have further := run.further
      (.callFailure (runs_performTo depth) entry.2.callback failure world)
    obtain ⟨after, passed, turns⟩ :=
      inductionHypothesis further (alone.kept.trans there) others quietThen
    have called : world.callFailure (performTo depth) entry.2.callback .report failure =
        (.ok (), (world.callFailure (performTo depth) entry.2.callback .report failure).2) :=
      Prod.ext returns rfl
    refine ⟨after, ?_, .next called (fun other known => ?_) turns⟩
    · obtain ⟨id, listener⟩ := entry
      rw [reportPass, called]
      exact passed
    · by_cases own : other.1 = entry.1
      · obtain rfl := (run.arranged unheard).1.eq_of_id there member known own
        rw [if_pos rfl]
        exact run.hears_self unheard there member alone
      · rw [if_neg own]
        exact run.hears_other unheard there member known own alone

/-- A report of a failure on a path, if the listeners at its location are quiet, comes to its end
and calls them, and no other listener of the store. -/
theorem exists_reported (there : world.store? name = some store) (path : Text)
    {failure : Failure} (quiet : AreQuiet (performTo world.weight) name failure
      (store.listenersAt (Segments.ofPath path)) world) :
    ∃ after, world.perform (.report name (.text path) failure) = (.ok .done, after) ∧
      Reported store path failure world after := by
  have chosen : (store.listenersAt (Segments.ofPath path)).Sublist store.listeners :=
    List.filter_sublist
  obtain ⟨after, passed, turns⟩ := run.inTurn unheard there chosen.subset quiet
  obtain ⟨arranged, _⟩ := run.arranged unheard
  refine ⟨after, ?_, ⟨turns, fun entry member => ?_⟩⟩
  · have known : world.store name = .ok store := by rw [World.store, there]
    have reported : world.perform (.report name (.text path) failure) =
        world.reportFailure (performTo world.weight) name (.text path) failure := rfl
    rw [reported, reportFailure, known, Value.toName_text]
    dsimp only
    rw [passed]
    rfl
  · obtain ⟨sink, tells, _⟩ := (run.routed unheard).listeners ⟨store, there, member⟩
    have single := (arranged.nodup_ids there).sublist (chosen.map Prod.fst)
    have among : entry.1 ∈ (store.listenersAt (Segments.ofPath path)).map Prod.fst ↔
        entry.2.reference.segments = Segments.ofPath path := by
      refine ⟨fun known => ?_, fun located => ?_⟩
      · obtain ⟨other, taken, same⟩ := List.mem_map.mp known
        obtain ⟨registered, located⟩ := List.mem_filter.mp taken
        obtain rfl := arranged.eq_of_id there member registered same
        exact of_decide_eq_true located
      · exact List.mem_map_of_mem (List.mem_filter.mpr ⟨member, decide_eq_true located⟩)
    have handed := turns.hears single member tells
    simp only [among] at handed
    exact ⟨sink, tells, handed⟩

end Runs

/-! ### Paths and locations -/

/-- Paths and clean locations stand for each other, whatever is reached from the root is clean and
so is located by its path, and a report of a failure on a path, to listeners that do not touch the
store and raise nothing, calls each listener at the location of the path once, in the order of
registration, and no other of the store. -/
theorem locations_correspond :
    (∀ path : Text, (Segments.ofPath path).IsClean ∧
      Segments.ofPath (Segments.ofPath path).path = Segments.ofPath path) ∧
    (∀ segments : Segments, segments.IsClean → Segments.ofPath segments.path = segments) ∧
    (∀ calls reference, Reference.root.callAll calls = .ok reference →
      reference.segments.IsClean) ∧
    (∀ calls others reference other, Reference.root.callAll calls = .ok reference →
      Reference.root.callAll others = .ok other → reference.path = other.path →
        reference.segments = other.segments) ∧
    ∀ mode stores, (∀ entry ∈ stores, entry.2.listeners = []) → ∀ world,
      (ofStores mode stores).Runs world → ∀ name store, world.store? name = some store →
        (store.listeners.map Prod.fst).Pairwise (· < ·) ∧
        ∀ path failure, AreQuiet (performTo world.weight) name failure
          (store.listenersAt (Segments.ofPath path)) world →
            ∃ after, world.perform (.report name (.text path) failure) = (.ok .done, after) ∧
              Reported store path failure world after := by
  refine ⟨fun path => ?_, fun _ clean => clean.ofPath_path, fun _ _ => Reference.isClean_of_root,
    fun _ _ _ _ called calledToo same => ?_, fun mode stores unheard world run name store there =>
      ⟨?_, fun path failure quiet => run.exists_reported unheard there path quiet⟩⟩
  · have clean := Segments.isClean_ofPath path
    exact ⟨clean, clean.ofPath_path⟩
  · exact (Reference.isClean_of_root called).path_inj (Reference.isClean_of_root calledToo) same
  · obtain ⟨arranged, _⟩ := run.arranged unheard
    exact List.pairwise_map.mpr ((arranged.ordered there).imp fun before => before.id)

/-- Two stores, the first with four listeners: on all people one that writes into the second store
when it is told a second time, a live query whose listener raises then, and a live query with a
stream; and one on all towns. -/
def fourListening : World :=
  let literal (name : Text) : Value := .map [("type", .text "literal"), ("value", .text name)]
  let people : Target := .query "store" (.list [literal "people"])
  let empty := ofStores .permissive [("store", .empty), ("log", .empty)]
  let first := (empty.perform (.listen "writer" "store" [.collection (.text "people")]
    [.act 2 (.write "log" (.text "entries/first") (.map []))])).2
  let second := (first.perform (.subscribe "all" people [.raise 2 (.foreign .running "no more")])).2
  let third := (second.perform (.openStream "stream" people)).2
  (third.perform (.listen "towns" "store" [.collection (.text "towns")] [])).2

/-- A failure that is reported on people, with stray slashes, is heard by the three listeners there,
though one writes elsewhere and one raises to its live query; who listens on towns hears nothing. -/
theorem locations_correspond_fourListening :
    let failure : Failure := .foreign .running "no more"
    let limited : Reference := ⟨["people"], [], [], some 1⟩
    Segments.ofPath (Segments.path ["people", "ada"]) = ["people", "ada"] ∧
      (Segments.IsClean limited.segments ∧
        limited.segments = (Reference.plain ["people"]).segments) ∧
        ∃ store after, fourListening.store? "store" = some store ∧
          fourListening.perform (.report "store" (.text "/people//") failure) = (.ok .done, after) ∧
            Reported store "/people//" failure fourListening after ∧
              after.deliveriesOf 0 = 2 ∧ after.deliveriesOf 1 = 2 ∧ after.deliveriesOf 2 = 1 ∧
                (after.store? "log").map Store.paths = some [("entries/first" : Text)] := by
  have unheard : ∀ entry ∈ [(("store" : Text), (Store.empty : Store Callback)), ("log", .empty)],
      entry.2.listeners = [] := by
    simp [Store.empty, Store.ofDocuments]
  have run : (ofStores .permissive [("store", .empty), ("log", .empty)]).Runs fourListening :=
    ((runs_performTo _ _ _).further (runs_performTo _ _ _)).further
      ((runs_performTo _ _ _).further (runs_performTo _ _ _))
  have there : fourListening.store? "store" = some ⟨[], [(0, ⟨.plain ["people"], .recipient 0⟩),
      (1, ⟨.plain ["people"], .live 0⟩), (2, ⟨.plain ["people"], .live 1⟩),
      (3, ⟨.plain ["towns"], .recipient 2⟩)], 4, false⟩ := rfl
  have clean : Segments.IsClean ["people", "ada"] := by
    simp only [Segments.IsClean]
    decide
  obtain ⟨_, found, reached, located, reports⟩ := locations_correspond
  obtain ⟨_, reported⟩ := reports _ _ unheard _ run _ _ there
  have people : Reference.root.callAll [.collection (.text "people")] =
      .ok (.plain ["people"]) := rfl
  have limited : Reference.root.callAll [.collection (.text "people"), .limit (.int 1)] =
      .ok ⟨["people"], [], [], some 1⟩ := rfl
  obtain ⟨after, performed, heard⟩ := reported "/people//" (.foreign .running "no more")
    ⟨rfl, ⟨rfl, fun _ => rfl⟩, rfl, ⟨rfl, fun _ => rfl⟩, rfl, ⟨rfl, fun _ => rfl⟩, trivial⟩
  refine ⟨found _ clean, ⟨reached _ _ limited, located _ _ _ _ limited people rfl⟩, _, after, there,
    performed, heard, ?_⟩
  obtain rfl := congrArg Prod.snd performed
  exact ⟨rfl, rfl, rfl, rfl⟩

end World

end DocQuery
