/-
This file proves that a write calls each listener it concerns exactly once, in order, and no other.

A listener is calm if its live query delivers to a stream, or to a recipient whose reactions raise or
only ask. A delivery to a calm listener adds one to the updates of its live query and hands one thing
over, and changes nothing else but remarks. So while a pass over calm listeners goes on, all that
decides whom it calls stays as it was when the pass began: the store, the listeners, and which live
queries are active. What a pass does is a round of calls, and rounds can be put together.

That the listeners of a store are just those of the live queries that somebody holds, in the order in
which these were started, holds after any run, whatever listeners did in it.
-/

import DocQuery.Proofs.Live.Concern
import DocQuery.Proofs.Live.Projecting

namespace DocQuery

/-! ### Calm listeners -/

/-- An action that only asks. -/
def Action.IsAsking : Action → Prop
  | .describe _ | .inspect _ | .inspectStream _ => True
  | _ => False

/-- A reaction that raises or only asks. -/
def Reaction.IsCalm : Reaction → Prop
  | .raise _ _ => True
  | .act _ action => action.IsAsking

/-- A live query after so many further updates. -/
def LiveQuery.updated (times : Nat) (found : LiveQuery) : LiveQuery :=
  { found with handle := { found.handle with updates := found.handle.updates + times } }

/-- A stream after further deliveries. -/
def LiveStream.pushed (deliveries : List (Except Failure QueryResult)) (found : LiveStream) :
    LiveStream :=
  { found with queue := deliveries.foldl (fun queue delivery => queue.push delivery) found.queue }

/-- The recipient of a sink, if it is one. -/
def Sink.recipient? : Sink → Option Nat
  | .recipient index => some index
  | .stream _ => none

namespace World

/-- A live query whose listener neither touches a store nor cancels anything. -/
def IsCalm (query : Nat) (world : World) : Prop :=
  ∀ found recipient, world.queries[query]? = some found → found.sink = .recipient recipient →
    ∀ reaction ∈ world.reactionsOf recipient, reaction.IsCalm

/-! ### Rounds of calls -/

/-- Where live queries deliver to. -/
def sinksOf (world : World) (queries : List Nat) : List Sink :=
  queries.filterMap fun query => (world.queries[query]?).map LiveQuery.sink

theorem sinksOf_append (world : World) (queries others : List Nat) :
    world.sinksOf (queries ++ others) = world.sinksOf queries ++ world.sinksOf others :=
  List.filterMap_append

theorem sinksOf_singleton {world : World} {query : Nat} {found : LiveQuery}
    (present : world.queries[query]? = some found) : world.sinksOf [query] = [found.sink] := by
  rw [sinksOf, List.filterMap_cons, present]
  rfl

/-- Between two states live queries are called one after the other, and nothing else happens: each
call counts as an update and hands one thing over, to a recipient or into the queue of a stream. -/
structure Round (called : List Nat) (world after : World) : Prop where
  stores : after.stores = world.stores
  recipients : after.recipients.length = world.recipients.length
  reactions : ∀ recipient, after.reactionsOf recipient = world.reactionsOf recipient
  queries : ∀ query, after.queries[query]? =
    (world.queries[query]?).map (LiveQuery.updated (called.count query))
  events : ∃ events, after.events = world.events ++ events ∧
    events.map Event.recipient = (world.sinksOf called).filterMap Sink.recipient?
  deliveries : ∀ recipient, after.deliveriesOf recipient = world.deliveriesOf recipient +
    (world.sinksOf called).count (.recipient recipient)
  queues : ∀ stream, ∃ deliveries : List (Except Failure QueryResult),
    deliveries.length = (world.sinksOf called).count (.stream stream) ∧
      after.streams[stream]? = (world.streams[stream]?).map (LiveStream.pushed deliveries)

namespace Round

variable {called : List Nat} {world after : World}

/-- Remarks are no calls. -/
theorem remark (world : World) (notices : List Notice) (cutShort : Bool) :
    Round [] world { world with notices := notices, cutShort := cutShort } where
  stores := rfl
  recipients := rfl
  reactions _ := rfl
  queries query := by cases found : world.queries[query]? <;> rfl
  events := ⟨[], (List.append_nil _).symm, rfl⟩
  deliveries _ := rfl
  queues stream := ⟨[], rfl, by cases found : world.streams[stream]? <;> rfl⟩

theorem refl (world : World) : Round [] world world := remark world world.notices world.cutShort

/-- Nobody's sink changes. -/
theorem sinksOf (round : Round called world after) (queries : List Nat) :
    after.sinksOf queries = world.sinksOf queries := by
  refine List.filterMap_congr fun query _ => ?_
  rw [round.queries, Option.map_map]
  rfl

theorem isCalm (round : Round called world after) {query : Nat} (calm : world.IsCalm query) :
    after.IsCalm query := by
  intro found recipient present sink
  rw [round.queries] at present
  obtain ⟨before, known, rfl⟩ := Option.map_eq_some_iff.mp present
  rw [round.reactions]
  exact calm before recipient known sink

theorem isActive (round : Round called world after) (query : Nat) :
    after.IsActive query ↔ world.IsActive query := by
  rw [IsActive, IsActive, round.queries]
  cases world.queries[query]? with
  | none => simp
  | some found => simp [LiveQuery.updated, Subscription.active]

theorem trans {further : List Nat} {last : World} (round : Round called world after)
    (more : Round further after last) : Round (called ++ further) world last where
  stores := more.stores.trans round.stores
  recipients := more.recipients.trans round.recipients
  reactions recipient := (more.reactions recipient).trans (round.reactions recipient)
  queries query := by
    rw [more.queries, round.queries, Option.map_map, List.count_append]
    refine congrArg (fun change => (world.queries[query]?).map change) (funext fun found => ?_)
    simp [LiveQuery.updated, Nat.add_assoc]
  events := by
    obtain ⟨events, told, recipients⟩ := round.events
    obtain ⟨others, toldMore, recipientsMore⟩ := more.events
    refine ⟨events ++ others, by rw [toldMore, told, List.append_assoc], ?_⟩
    rw [List.map_append, recipients, recipientsMore, round.sinksOf, sinksOf_append,
      List.filterMap_append]
  deliveries recipient := by
    rw [more.deliveries, round.deliveries, round.sinksOf, sinksOf_append, List.count_append,
      Nat.add_assoc]
  queues stream := by
    obtain ⟨deliveries, length, there⟩ := round.queues stream
    obtain ⟨others, lengthMore, thereMore⟩ := more.queues stream
    refine ⟨deliveries ++ others, ?_, ?_⟩
    · rw [List.length_append, sinksOf_append, List.count_append, length, lengthMore, round.sinksOf]
    · rw [thereMore, there, Option.map_map]
      refine congrArg (fun change => (world.streams[stream]?).map change) (funext fun found => ?_)
      simp [LiveStream.pushed, List.foldl_append]

end Round

/-- Whoever a live query delivers to is called once if the live query is among those called, and
otherwise not at all. -/
structure OneEach (called : List Nat) (world after : World) : Prop where
  recipients : ∀ {query found recipient}, world.queries[query]? = some found →
    found.sink = .recipient recipient → after.deliveriesOf recipient =
      world.deliveriesOf recipient + if query ∈ called then 1 else 0
  streams : ∀ {query found stream}, world.queries[query]? = some found →
    found.sink = .stream stream → ∃ deliveries : List (Except Failure QueryResult),
      deliveries.length = (if query ∈ called then 1 else 0) ∧
        after.streams[stream]? = (world.streams[stream]?).map (LiveStream.pushed deliveries)

/-- Sinks are not shared, so each comes as often as its live query. -/
theorem Traced.count_sinksOf {world : World} (traced : world.Traced) {query : Nat}
    {found : LiveQuery} (present : world.queries[query]? = some found) {called : List Nat}
    (single : called.Nodup) :
    (world.sinksOf called).count found.sink = if query ∈ called then 1 else 0 := by
  rw [sinksOf, List.count_filterMap, ← single.count]
  refine List.countP_congr fun other _ => ?_
  rw [beq_iff_eq, beq_iff_eq]
  refine ⟨fun same => ?_, fun same => by rw [same, present, Option.map_some]⟩
  obtain ⟨another, there, equal⟩ := Option.map_eq_some_iff.mp same
  exact traced.apart _ _ _ _ there present equal

/-- A round in which nobody is called twice calls each listener once. -/
theorem Round.oneEach {called : List Nat} {world after : World} (round : Round called world after)
    (single : called.Nodup) (traced : world.Traced) : OneEach called world after where
  recipients present sink := by
    rw [round.deliveries, ← sink, traced.count_sinksOf present single]
  streams {query found stream} present sink := by
    obtain ⟨deliveries, length, there⟩ := round.queues stream
    rw [← sink, traced.count_sinksOf present single] at length
    exact ⟨deliveries, length, there⟩

/-! ### Single calls -/

variable {world : World}

/-- A calm recipient raises or comes to an end, and does nothing else. -/
theorem exists_react_of_calm (depth recipient : Nat) {reactions : List Reaction}
    (calm : ∀ reaction ∈ reactions, reaction.IsCalm) (world : World) :
    ∃ outcome cutShort, react (performTo depth) recipient reactions world =
      (outcome, { world with cutShort := cutShort }) := by
  induction reactions generalizing world with
  | nil => exact ⟨.ok (), world.cutShort, rfl⟩
  | cons reaction rest inductionHypothesis =>
    obtain ⟨first, restCalm⟩ := List.forall_mem_cons.mp calm
    have shown : ∃ outcome cutShort, world.showReaction (performTo depth) reaction =
        (outcome, { world with cutShort := cutShort }) := by
      cases reaction with
      | raise position failure => exact ⟨.error failure, world.cutShort, rfl⟩
      | act position action =>
        rw [Reaction.IsCalm] at first
        cases depth with
        | zero => exact ⟨_, true, rfl⟩
        | succ depth =>
          cases action with
          | describe name => exact ⟨_, world.cutShort, rfl⟩
          | inspect label =>
            rw [showReaction, performTo, performWith]
            split <;> exact ⟨_, world.cutShort, rfl⟩
          | inspectStream label =>
            rw [showReaction, performTo, performWith]
            split <;> exact ⟨_, world.cutShort, rfl⟩
          | _ => simp only [Action.IsAsking] at first
    rw [react]
    split
    · obtain ⟨outcome, cutShort, same⟩ := shown
      rw [same]
      cases outcome with
      | error failure => exact ⟨.error failure, cutShort, rfl⟩
      | ok _ => exact inductionHypothesis restCalm _
    · exact inductionHypothesis restCalm world

/-- What counting an update changes among live queries. -/
theorem queries_count (query other : Nat) (world : World) :
    (world.updateHandle query Subscription.count).queries[other]? =
      (world.queries[other]?).map (LiveQuery.updated ([query].count other)) := by
  rw [queries_updateHandle]
  refine congrArg (fun change => (world.queries[other]?).map change) (funext fun found => ?_)
  by_cases same : query = other
  · subst same
    simp [LiveQuery.updated, Subscription.count]
  · simp [LiveQuery.updated, same]

/-- A delivery to a stream goes into its queue. -/
theorem round_updateQueue {query stream : Nat} {found : LiveQuery}
    (present : world.queries[query]? = some found) (sink : found.sink = .stream stream)
    (delivery : Except Failure QueryResult) :
    Round [query] world
      ((world.updateHandle query Subscription.count).updateQueue stream (Stream.push delivery)) := by
  have sinks : world.sinksOf [query] = [.stream stream] := by
    rw [sinksOf_singleton present, sink]
  refine ⟨rfl, rfl, fun _ => rfl, fun other => queries_count query other world,
    ⟨[], (List.append_nil _).symm, by rw [sinks]; rfl⟩, fun recipient => ?_, fun other => ?_⟩
  · rw [sinks]
    rfl
  · rw [sinks, updateQueue, List.getElem?_modify]
    by_cases same : stream = other
    · subst same
      refine ⟨[delivery], by simp, ?_⟩
      refine congrArg (fun change => (world.streams[stream]?).map change) (funext fun known => ?_)
      rw [if_pos rfl]
      rfl
    · refine ⟨[], by simp [same], ?_⟩
      refine congrArg (fun change => (world.streams[other]?).map change) (funext fun known => ?_)
      rw [if_neg same]
      rfl

/-- A recipient is told once. -/
theorem round_tell {query recipient : Nat} {found : LiveQuery}
    (present : world.queries[query]? = some found) (sink : found.sink = .recipient recipient)
    (inside : recipient < world.recipients.length) (occasion : Occasion) (update : Update) :
    Round [query] world
      ((world.updateHandle query Subscription.count).tell recipient occasion update) := by
  have sinks : world.sinksOf [query] = [.recipient recipient] := by
    rw [sinksOf_singleton present, sink]
  have there : (world.updateHandle query Subscription.count).recipients[recipient]? =
      some world.recipients[recipient] := List.getElem?_eq_getElem inside
  rw [tell_eq there]
  refine ⟨rfl, List.length_modify .., fun other =>
    reactionsOf_countDelivery recipient (world.updateHandle query Subscription.count) other,
    fun other => queries_count query other world, ⟨_, rfl, by rw [sinks]; rfl⟩, fun other => ?_,
    fun other => ?_⟩
  · refine (deliveriesOf_countDelivery recipient (world.updateHandle query Subscription.count)
      other).trans (congrArg (world.deliveriesOf other + ·) ?_)
    change (if recipient = other ∧ other < world.recipients.length then 1 else 0) = _
    rw [sinks]
    by_cases same : recipient = other
    · subst same
      simp [inside]
    · simp [same]
  · rw [sinks]
    exact ⟨[], rfl, Option.map_id_apply.symm⟩

/-- A live query is called once if it is active, and otherwise not at all. -/
theorem round_deliver (depth : Nat) {query : Nat} {found : LiveQuery}
    (present : world.queries[query]? = some found) (there : world.HasSink found.sink)
    (calm : world.IsCalm query) (occasion : Occasion) (delivery : Except Failure QueryResult) :
    Round (if found.handle.active then [query] else []) world
      (world.deliver (performTo depth) query occasion delivery) := by
  rw [deliver, present]
  dsimp only
  split
  · rw [handOver]
    split
    · next stream sink => exact round_updateQueue present sink delivery
    · next recipient sink =>
      rw [sink] at there
      have told := round_tell present sink there occasion (.ofResult delivery)
      have calmly : ∀ reaction ∈ (world.updateHandle query Subscription.count).reactionsOf recipient,
          reaction.IsCalm := calm found recipient present sink
      obtain ⟨outcome, cutShort, reacted⟩ := exists_react_of_calm depth recipient calmly
        ((world.updateHandle query Subscription.count).tell recipient occasion (.ofResult delivery))
      have heard : (world.updateHandle query Subscription.count).hear (performTo depth) recipient
          occasion (.ofResult delivery) = (outcome, { (world.updateHandle query
            Subscription.count).tell recipient occasion (.ofResult delivery) with
              cutShort := cutShort }) := by
        rw [hear, show (Update.ofResult delivery).examine = .ok () by cases delivery <;> rfl]
        exact reacted
      rw [heard]
      cases outcome with
      | ok _ => exact told.trans (.remark _ _ cutShort)
      | error failure => exact told.trans (.remark _ _ cutShort)
  · exact .refl world

/-! ### Passes -/

/-- A listener of a live query on names that delivers somewhere and is calm. -/
structure Awaits (world : World) (entry : Nat × Listener Callback) : Prop where
  named : entry.2.reference.IsNamed
  live : ∃ (query : Nat) (found : LiveQuery), entry.2.callback = .live query ∧
    world.queries[query]? = some found ∧ world.HasSink found.sink ∧ world.IsCalm query

namespace Round

variable {called : List Nat} {after : World}

theorem hasSink (round : Round called world after) {sink : Sink} (there : world.HasSink sink) :
    after.HasSink sink := by
  cases sink with
  | recipient index => exact Nat.lt_of_lt_of_eq there round.recipients.symm
  | stream index =>
    obtain ⟨deliveries, _, same⟩ := round.queues index
    rw [List.getElem?_eq_getElem there] at same
    exact (List.getElem?_eq_some_iff.mp same).1

theorem called? (round : Round called world after) (entry : Nat × Listener Callback) :
    after.called? entry = world.called? entry := by
  refine Option.ext fun query => ?_
  rw [called?_eq_some, called?_eq_some, round.isActive]

theorem awaits (round : Round called world after) {entry : Nat × Listener Callback}
    (awaits : world.Awaits entry) : after.Awaits entry := by
  obtain ⟨named, query, found, callback, present, there, calm⟩ := awaits
  refine ⟨named, query, LiveQuery.updated (called.count query) found, callback, ?_,
    round.hasSink there, round.isCalm calm⟩
  rw [round.queries, present, Option.map_some]

end Round

/-- A listener that awaits calls is called once if its live query is active, and nothing comes
through. -/
theorem exists_refresh_of_awaits (depth : Nat) (store : Store Callback)
    {entry : Nat × Listener Callback} (awaits : world.Awaits entry) :
    ∃ after, world.refresh (performTo depth) store entry.2 = (.ok (), after) ∧
      Round (world.called? entry).toList world after := by
  obtain ⟨named, query, found, callback, present, there, calm⟩ := awaits
  have called : (world.called? entry).toList = if found.handle.active then [query] else [] := by
    rw [World.called?, callback]
    simp only [present, Option.bind_some]
    split <;> rfl
  rw [called, refresh]
  cases answered : store.read entry.2.reference with
  | ok snapshot =>
    dsimp only
    rw [callback, callSnapshot, receive_of_read answered present]
    exact ⟨_, rfl, round_deliver depth present there calm _ _⟩
  | error failure =>
    dsimp only
    rw [if_pos (Query.isStore_of_read named answered), callback, callFailure, receiveFailure, present]
    -- The notice of the failure comes before the delivery.
    have noticed := Round.remark world
      (world.notices ++ [.storeFailed found.handle.path failure]) world.cutShort
    have still : (world.notify (.storeFailed found.handle.path failure)).queries[query]? =
        some found := present
    exact ⟨_, rfl, noticed.trans (round_deliver depth still there calm _ _)⟩

/-- A pass over listeners that await calls is a round: nothing comes through, and those of them are
called whose live queries are active. -/
theorem exists_writePass_of_awaits (depth : Nat) {name : Text} {store : Store Callback}
    (there : world.store? name = some store) {entries : List (Nat × Listener Callback)}
    (registered : ∀ entry ∈ entries, entry ∈ store.listeners)
    (awaits : ∀ entry ∈ entries, world.Awaits entry) :
    ∃ after, world.writePass (performTo depth) name entries = (.ok (), after) ∧
      Round (entries.filterMap world.called?) world after := by
  induction entries generalizing world with
  | nil => exact ⟨world, rfl, .refl world⟩
  | cons entry rest inductionHypothesis =>
    obtain ⟨first, others⟩ := List.forall_mem_cons.mp awaits
    obtain ⟨known, othersKnown⟩ := List.forall_mem_cons.mp registered
    obtain ⟨told, refreshed, round⟩ := exists_refresh_of_awaits depth store first
    have still : told.store? name = some store := by
      rwa [store?, round.stores]
    obtain ⟨after, passed, more⟩ := inductionHypothesis still othersKnown fun other member =>
      round.awaits (others other member)
    refine ⟨after, ?_, ?_⟩
    · obtain ⟨id, listener⟩ := entry
      rw [writePass, there]
      dsimp only
      rw [if_pos (isRegistered_of_mem known), refreshed]
      exact passed
    · have whole := round.trans more
      rw [show told.called? = world.called? from funext round.called?] at whole
      rw [List.filterMap_cons]
      cases called : world.called? entry with
      | none => rwa [called] at whole
      | some query => rwa [called] at whole

/-! ### Runs -/

/-- After any run, a write that is accepted and the removal of a document that is there call, once
each and in the order of their starts, the listeners of just those live queries that they concern; a
write that is refused and the removal of a missing document call nobody. -/
theorem Runs.round_of_write {mode : BuildMode} {stores : List (Text × Store Callback)}
    (unheard : ∀ entry ∈ stores, entry.2.listeners = []) (run : (ofStores mode stores).Runs world)
    {name : Text} {store : Store Callback} (there : world.store? name = some store)
    (isOpen : store.closed = false)
    (calm : ∀ entry ∈ store.listeners, entry.2.reference.IsNamed ∧
      ∃ query, entry.2.callback = .live query ∧ world.IsCalm query)
    {action : Action} (writes : action.IsWriteTo name) :
    (∀ segments change, action.Changes name store segments change →
      ∃ after called, world.perform action = (.ok .done, after) ∧
        (∀ query, query ∈ called ↔ world.IsConcerned name segments query) ∧
          called.Pairwise (· < ·) ∧ Round called (world.updateStore name change) after ∧
            OneEach called (world.updateStore name change) after) ∧
      ((¬ ∃ segments change, action.Changes name store segments change) →
        ∃ outcome, world.perform action = (outcome, world)) := by
  obtain ⟨arranged, _⟩ := run.arranged unheard
  have traced := run.leads.traced (traced_ofStores mode stores)
  refine ⟨fun segments change changes => ?_, fun unchanged =>
    exists_performWith_of_unchanged there writes unchanged _⟩
  have changed : (world.updateStore name change).store? name = some (change store) := by
    rw [store?_updateStore, if_pos rfl, there, Option.map_some]
  obtain ⟨stores, same⟩ := exists_updateStore name change world
  have registered : ∀ entry ∈ store.concerned segments, entry ∈ (change store).listeners := by
    intro entry member
    rw [changes.touches.listeners]
    exact (List.mem_filter.mp member).1
  have awaits : ∀ entry ∈ store.concerned segments,
      (world.updateStore name change).Awaits entry := by
    intro entry member
    have known := (List.mem_filter.mp member).1
    obtain ⟨named, query, callback, calmly⟩ := calm entry known
    obtain ⟨id, reference, _⟩ := entry
    obtain rfl := callback
    obtain ⟨found, present, _⟩ := arranged.reads ⟨store, there, known⟩
    rw [same]
    exact ⟨named, query, found, rfl, present, traced.there query found present, calmly⟩
  obtain ⟨after, passed, round⟩ := exists_writePass_of_awaits (world.weight + action.weight) changed
    registered awaits
  have ordered := run.pairwise_called unheard there segments
  have sameCalled : (world.updateStore name change).called? = world.called? := by
    rw [same]
    rfl
  rw [sameCalled] at round
  refine ⟨after, _, ?_, run.mem_called_iff unheard there isOpen changes.isDocument, ordered, round, round.oneEach (ordered.imp Nat.ne_of_lt)
      ((leads_updateStore name change world).traced traced)⟩
  show world.performWith (performTo (world.weight + action.weight)) action = _
  rw [changes.performWith there, passed]
  rfl

/-- Three live queries on an empty store: on all people, with a listener that raises when it is told
of a write, on one town, and on one person. -/
def threeWatching : World :=
  let literal (name : Text) : Value := .map [("type", .text "literal"), ("value", .text name)]
  let empty := ofStores .permissive [("store", .empty)]
  let first := (empty.perform (.subscribe "all" (.query "store" (.list [literal "people"]))
    [.raise 2 (.foreign .running "no more")])).2
  let second := (first.perform (.subscribe "town"
    (.query "store" (.list [literal "towns", literal "london"])) [])).2
  (second.perform (.subscribe "ada"
    (.query "store" (.list [literal "people", literal "ada"])) [])).2

/-- A person who is written is told to the listeners on all people and on this person, once each,
though the first raises. The removal of a missing person is told to nobody. -/
theorem round_of_write_threeWatching :
    (∃ (after : World) (called : List Nat), threeWatching.perform (.write "store" (.text "people/ada") (.map [])) =
        (.ok .done, after) ∧
          (∀ query, query ∈ called ↔ threeWatching.IsConcerned "store" ["people", "ada"] query) ∧
            after.deliveriesOf 0 = 2 ∧ after.deliveriesOf 1 = 1 ∧ after.deliveriesOf 2 = 2) ∧
      ∃ outcome, threeWatching.perform (.remove "store" (.text "people/eve")) =
        (outcome, threeWatching) := by
  have unheard : ∀ entry ∈ [(("store" : Text), (Store.empty : Store Callback))],
      entry.2.listeners = [] := fun entry member => by rw [List.mem_singleton.mp member]; rfl
  have run : (ofStores .permissive [("store", .empty)]).Runs threeWatching :=
    (runs_performTo _ _ _).further ((runs_performTo _ _ _).further (runs_performTo _ _ _))
  have there : threeWatching.store? "store" = some ⟨[],
      [(0, ⟨Reference.plain ["people"], .live 0⟩),
        (1, ⟨Reference.plain ["towns", "london"], .live 1⟩),
        (2, ⟨Reference.plain ["people", "ada"], .live 2⟩)], 3, false⟩ := rfl
  have named (segments : Segments) : (Reference.plain segments).IsNamed := ⟨nofun, nofun⟩
  have calm : ∀ query, threeWatching.IsCalm query := by
    intro query found recipient _ _ reaction member
    match recipient with
    | 0 =>
      rw [List.mem_singleton.mp member]
      trivial
    | 1 | 2 | _ + 3 => cases member
  have listening : ∀ entry ∈ [(0, ⟨Reference.plain ["people"], .live 0⟩),
        (1, ⟨Reference.plain ["towns", "london"], .live 1⟩),
        (2, (⟨Reference.plain ["people", "ada"], .live 2⟩ : Listener Callback))],
      entry.2.reference.IsNamed ∧
        ∃ query, entry.2.callback = .live query ∧ threeWatching.IsCalm query := by
    simp [named, calm]
  obtain ⟨written, _⟩ := run.round_of_write unheard there rfl listening
    (show Action.IsWriteTo "store" (.write "store" (.text "people/ada") (.map [])) from rfl)
  obtain ⟨_, refused⟩ := run.round_of_write unheard there rfl listening
    (show Action.IsWriteTo "store" (.remove "store" (.text "people/eve")) from rfl)
  obtain ⟨after, called, performed, concerned, _⟩ := written ["people", "ada"] _ (.write rfl)
  obtain rfl := congrArg Prod.snd performed
  refine ⟨⟨_, called, performed, concerned, rfl, rfl, rfl⟩, refused ?_⟩
  rintro ⟨segments, change, changes⟩
  cases changes with
  | remove located holds =>
    have eve : Segments.ofDocumentPath (.text "people/eve") = .ok ["people", "eve"] := rfl
    cases eve.symm.trans located
    cases holds

end World

end DocQuery
