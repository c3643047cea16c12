/-
This file says once what is kept by everything that can go on around live queries.

A run is made of actions of every kind, starts of live queries that were built elsewhere, calls from
sources outside the stores, and readers that take from streams, where listeners act inside every
delivery as long as that is a run itself. What is to be kept is given by terms: which states are good,
what may be told to whom, and how a good state has to stand to a later one. If single operations keep
to the terms, and if whatever is read for a listener that is registered may be told to it from then
on, then deliveries and passes keep to them, whatever is done inside, since what is done inside does.
If the steps of starts keep to them too, then so does every run.

A pass goes through listeners that were registered when it began. By the time of its turn a listener
may be gone and the state another one, so what may be told to it is asked of all later states.

So the induction is on the run, with the runs inside its deliveries among its parts.
-/

import DocQuery.Proofs.Live.Standing

namespace DocQuery

/-- What a recipient is told of a read. -/
def Update.ofRead : Except Failure Snapshot → Update
  | .ok content => .snapshot content
  | .error cause => .failure cause

namespace World

/-! ### Runs -/

/-- How a state can go on: by actions, by calls from outside the stores, and by readers. -/
inductive Runs : World → World → Prop
  | stay (world : World) : Runs world world
  | further {first second third : World} : Runs first second → Runs second third →
      Runs first third
  | act {performer : Performer}
      (plays : ∀ action inside, Runs inside (performer action inside).2)
      (action : Action) (world : World) : Runs world (world.performWith performer action).2
  /-- A live query that was built elsewhere is started with a new recipient. -/
  | subscribe {performer : Performer}
      (plays : ∀ action inside, Runs inside (performer action inside).2)
      (label : Text) (reactions : List Reaction) (aim : Aim) (world : World) :
      Runs world ((world.addRecipient label reactions).2.subscribeTo performer label aim
        world.recipients.length).2
  /-- A live query that was built elsewhere is started with a new stream. -/
  | stream {performer : Performer}
      (plays : ∀ action inside, Runs inside (performer action inside).2)
      (label : Text) (aim : Aim) (world : World) :
      Runs world (world.streamFrom performer label aim).2
  /-- A source outside the stores calls a callback. -/
  | call {performer : Performer}
      (plays : ∀ action inside, Runs inside (performer action inside).2)
      (callback : Callback) (snapshot : Snapshot) (world : World) :
      Runs world (world.callSnapshot performer callback .report snapshot).2
  | callFailure {performer : Performer}
      (plays : ∀ action inside, Runs inside (performer action inside).2)
      (callback : Callback) (failure : Failure) (world : World) :
      Runs world (world.callFailure performer callback .report failure).2
  /-- A target is made ready, to be asked once. -/
  | ready (target : Target) (world : World) : Runs world (world.aim target).2
  | close (stream : Nat) (world : World) : Runs world (world.closeStream stream)
  /-- Readers take from the queues of streams, or wait for them. -/
  | take {world : World} {streams : List LiveStream}
      (same : streams.length = world.streams.length)
      (fewer : ∀ (index : Nat) (after : LiveStream), streams[index]? = some after →
        ∃ before, world.streams[index]? = some before ∧ after.query = before.query ∧
          after.queue.items ⊆ before.queue.items) :
      Runs world { world with streams := streams }
  /-- What was told is laid aside, notices are given, or a script is cut short. -/
  | remark {world : World} {events : List Event} (fewer : events ⊆ world.events)
      (notices : List Notice) (cutShort : Bool) :
      Runs world { world with events := events, notices := notices, cutShort := cutShort }

/-- The live query that an aim gets with a sink. -/
def queryFor (aim : Aim) (sink : Sink) : LiveQuery :=
  ⟨.opened aim.type aim.path, aim.projection, some aim.source, sink⟩

/-! ### Terms -/

/-- What is to be kept: which states are good, which actions listeners may carry out inside
deliveries, which callbacks may be given to stores and feeds, what may be told on which occasion to
whom, and how a good state stands to a later one. -/
structure Terms where
  good : World → Prop
  allowed : Action → Prop
  callable : World → Callback → Prop
  owed : World → Sink → Occasion → Update → Prop
  relation : World → World → Prop

namespace Terms

/-- What comes of a read may be told to those whom a callback tells. -/
def Owes (terms : Terms) (callback : Callback) (occasion : Occasion)
    (read : Except Failure Snapshot) (world : World) : Prop :=
  match callback with
  | .recipient index => terms.owed world (.recipient index) occasion (.ofRead read)
  | .live query => ∀ found, world.queries[query]? = some found →
      terms.owed world found.sink occasion
        (.ofResult (QueryResult.ofRead found.handle.type found.handle.path found.projection read))

/-- Reactions that raise or carry out what is allowed. -/
def Allows (terms : Terms) (reactions : List Reaction) : Prop :=
  ∀ position action, .act position action ∈ reactions → terms.allowed action

/-- A performer that keeps to the terms in what it is allowed to carry out. -/
def KeptBy (terms : Terms) (performer : Performer) : Prop :=
  ∀ action world, terms.allowed action → terms.good world →
    terms.relation world (performer action world).2

/-- Operations that only tell keep to the terms, if they tell what may be told. -/
structure Telling (terms : Terms) : Prop where
  refl {world : World} (good : terms.good world) : terms.relation world world
  trans {first second third : World} : terms.relation first second →
    terms.relation second third → terms.relation first third
  good {world later : World} : terms.relation world later → terms.good later
  scripts {world : World} (good : terms.good world) :
    ∀ recipient ∈ world.recipients, terms.Allows recipient.reactions
  countDelivery {index : Nat} {occasion : Occasion} {update : Update} {world : World}
    (good : terms.good world) (owed : terms.owed world (.recipient index) occasion update) :
    terms.relation world (world.countDelivery index)
  tell {index : Nat} {occasion : Occasion} {update : Update} {world : World}
    (good : terms.good world) (owed : terms.owed world (.recipient index) occasion update) :
    terms.relation world (world.tell index occasion update)
  count (query : Nat) {world : World} (good : terms.good world) :
    terms.relation world (world.updateHandle query Subscription.count)
  push {index : Nat} {occasion : Occasion} {delivery : Except Failure QueryResult} {world : World}
    (good : terms.good world)
    (owed : terms.owed world (.stream index) occasion (.ofResult delivery)) :
    terms.relation world (world.updateQueue index (Stream.push delivery))
  notifyAll (notices : List Notice) {world : World} (good : terms.good world) :
    terms.relation world (world.notifyAll notices)
  /-- What may be told may still be told when it has been counted or noticed. -/
  counted {query : Nat} {sink : Sink} {occasion : Occasion} {update : Update} {world : World}
    (owed : terms.owed world sink occasion update) :
    terms.owed (world.updateHandle query Subscription.count) sink occasion update
  noticed {notice : Notice} {sink : Sink} {occasion : Occasion} {update : Update} {world : World}
    (owed : terms.owed world sink occasion update) :
    terms.owed (world.notify notice) sink occasion update

/-- All operations that call nobody keep to the terms. -/
structure Acting (terms : Terms) : Prop extends Telling terms where
  /-- Listeners that come with an allowed action react as is allowed. -/
  listening {label name : Text} {calls : List NavigationCall} {reactions : List Reaction}
    (allowed : terms.allowed (.listen label name calls reactions)) : terms.Allows reactions
  subscribing {label : Text} {target : Target} {reactions : List Reaction}
    (allowed : terms.allowed (.subscribe label target reactions)) : terms.Allows reactions
  /-- A failure that is reported may be told to a listener from its registration on. -/
  report {world later : World} {name : Text} {store : Store Callback}
    {entry : Nat × Listener Callback} (good : terms.good world)
    (there : world.store? name = some store) (member : entry ∈ store.listeners)
    (relation : terms.relation world later) (failure : Failure) :
    terms.Owes entry.2.callback .report (.error failure) later
  /-- What a feed hands out may be told to whom watches it from then on. -/
  announce {world later : World} {label : Text} {query : Nat} (good : terms.good world)
    (watches : (label, some query) ∈ world.feedNames) (relation : terms.relation world later)
    (read : Except Failure Snapshot) : terms.Owes (.live query) .report read later
  /-- What is read for a listener may be told to it from its registration on. -/
  read {world later : World} {name : Text} {store : Store Callback}
    {entry : Nat × Listener Callback} (good : terms.good world)
    (there : world.store? name = some store) (member : entry ∈ store.listeners)
    (relation : terms.relation world later) (documents : List StoredDocument) :
    terms.Owes entry.2.callback .standing (Query.read documents entry.2.reference) later
  write (name : Text) {path data : Value} {segments : Segments} {entries : Entries} {world : World}
    (accepted : Store.acceptWrite path data = .ok (segments, entries)) (good : terms.good world) :
    terms.relation world (world.updateStore name (Store.write segments entries))
  remove (name : Text) {path : Value} {segments : Segments} {world : World}
    (located : Segments.ofDocumentPath path = .ok segments) (good : terms.good world) :
    terms.relation world (world.updateStore name (Store.remove segments))
  close (name : Text) {world : World} (good : terms.good world) :
    terms.relation world (world.updateStore name Store.close)
  unlisten (label : Text) {world : World} (good : terms.good world) :
    terms.relation world (world.unlisten label).2
  cancelQuery (query : Nat) {world : World} (good : terms.good world) :
    terms.relation world (world.cancelQuery query)
  closeStream (stream : Nat) {world : World} (good : terms.good world) :
    terms.relation world (world.closeStream stream)
  bindFeed (feed : Feed) {watcher : Option Nat} {world : World}
    (callable : ∀ query, watcher = some query → terms.callable world (.live query))
    (good : terms.good world) : terms.relation world (world.bindFeed feed watcher)
  cutShort {world : World} (good : terms.good world) :
    terms.relation world { world with cutShort := true }

/-- Whatever calls nobody keeps to the terms, and so does whatever is started. -/
structure Running (terms : Terms) : Prop extends Acting terms where
  listen {performer : Performer} (kept : terms.KeptBy performer) {label name : Text}
    {calls : List NavigationCall} {reactions : List Reaction}
    (allowed : terms.allowed (.listen label name calls reactions)) {world : World}
    (good : terms.good world) :
    terms.relation world (world.listen performer label name calls reactions).2
  subscribe {performer : Performer} (kept : terms.KeptBy performer) (label : Text)
    {reactions : List Reaction} (allowed : terms.Allows reactions) (aim : Aim) {world : World}
    (good : terms.good world) :
    terms.relation world ((world.addRecipient label reactions).2.subscribeTo performer label aim
      world.recipients.length).2
  stream {performer : Performer} (kept : terms.KeptBy performer) (label : Text) (aim : Aim)
    {world : World} (good : terms.good world) :
    terms.relation world (world.streamFrom performer label aim).2

/-- Everything keeps to the terms that can go on in a run, and everything is allowed. -/
structure Spanning (terms : Terms) : Prop extends Running terms where
  everything (action : Action) : terms.allowed action
  /-- A source outside the stores may tell everybody anything. -/
  everybody (callback : Callback) (read : Except Failure Snapshot) {world : World}
    (good : terms.good world) : terms.Owes callback .report read world
  take {world : World} {streams : List LiveStream}
    (same : streams.length = world.streams.length)
    (fewer : ∀ (index : Nat) (after : LiveStream), streams[index]? = some after →
      ∃ before, world.streams[index]? = some before ∧ after.query = before.query ∧
        after.queue.items ⊆ before.queue.items) (good : terms.good world) :
    terms.relation world { world with streams := streams }
  remark {world : World} {events : List Event} (fewer : events ⊆ world.events)
    (notices : List Notice) (cutShort : Bool) (good : terms.good world) :
    terms.relation world { world with events := events, notices := notices, cutShort := cutShort }

/-- Whatever calls nobody keeps to the terms, and so does each single step of a start. A live query is
added together with its sink, and then it gets its listener. -/
structure Starting (terms : Terms) : Prop extends Acting terms where
  register {name : Text} {reference : Reference} {callback : Callback} {world : World}
    (reads : ∀ query, callback = .live query → ∃ found, world.queries[query]? = some found ∧
      found.source = some (.store name reference)) (callable : terms.callable world callback)
    (good : terms.good world) :
    terms.relation world (world.updateStore name (Store.register ⟨reference, callback⟩))
  addRecipient (label : Text) {reactions : List Reaction} (allowed : terms.Allows reactions)
    {world : World} (good : terms.good world) :
    terms.relation world (world.addRecipient label reactions).2
  newListener {label name : Text} {calls : List NavigationCall} {reactions : List Reaction}
    (allowed : terms.allowed (.listen label name calls reactions)) {world : World}
    (good : terms.good world) :
    terms.callable (world.addRecipient label reactions).2 (.recipient world.recipients.length)
  newRecipient (label : Text) {reactions : List Reaction} (allowed : terms.Allows reactions)
    (aim : Aim) {world : World} (good : terms.good world) :
    let added := ((world.addRecipient label reactions).2.addQuery
      (queryFor aim (.recipient world.recipients.length))).2
    terms.relation world added ∧ terms.callable added (.live world.queries.length)
  newStream (aim : Aim) {world : World} (good : terms.good world) :
    let added := (world.addStream.2.addQuery (queryFor aim (.stream world.streams.length))).2
    terms.relation world added ∧ terms.callable added (.live world.queries.length)
  attach (query : Nat) (release : Release) {world : World} (good : terms.good world) :
    terms.relation world (world.attach query release)
  names (listenerNames : List (Text × Text × Nat)) (queryNames streamNames : List (Text × Nat))
    {world : World} (good : terms.good world) : terms.relation world { world with
      listenerNames := listenerNames, queryNames := queryNames, streamNames := streamNames }

variable {terms : Terms} {performer : Performer}

namespace Telling

variable (telling : terms.Telling) (kept : terms.KeptBy performer)

include telling kept

/-! ### Deliveries -/

theorem showReaction {reaction : Reaction}
    (allowed : ∀ position action, reaction = .act position action → terms.allowed action)
    {world : World} (good : terms.good world) :
    terms.relation world (world.showReaction performer reaction).2 := by
  cases reaction with
  | raise position failure => exact telling.refl good
  | act position action =>
    exact kept action world (allowed position action rfl) good

theorem react (recipient : Nat) {reactions : List Reaction} (allowed : terms.Allows reactions)
    {world : World} (good : terms.good world) :
    terms.relation world (World.react performer recipient reactions world).2 := by
  induction reactions generalizing world with
  | nil => exact telling.refl good
  | cons reaction rest inductionHypothesis =>
    have restAllowed : terms.Allows rest := fun position action member =>
      allowed position action (List.mem_cons_of_mem _ member)
    have shown := telling.showReaction kept (fun position action same =>
      allowed position action (same ▸ List.mem_cons_self)) good
    rw [World.react]
    split
    · split
      · next raised =>
        rwa [raised] at shown
      · next performed =>
        rw [performed] at shown
        exact telling.trans shown (inductionHypothesis restAllowed (telling.good shown))
    · exact inductionHypothesis restAllowed good

omit kept in
theorem allows_reactionsOf (recipient : Nat) {world : World} (good : terms.good world) :
    terms.Allows (world.reactionsOf recipient) := by
  rw [reactionsOf]
  split
  · exact fun _ _ none => absurd none List.not_mem_nil
  · next found present => exact telling.scripts good found (List.mem_of_getElem? present)

theorem hear {recipient : Nat} {occasion : Occasion} {update : Update} {world : World}
    (good : terms.good world) (owed : terms.owed world (.recipient recipient) occasion update) :
    terms.relation world (world.hear performer recipient occasion update).2 := by
  rw [World.hear]
  split
  · exact telling.countDelivery good owed
  · have told := telling.tell good owed
    have allowed := telling.allows_reactionsOf recipient good
    exact telling.trans told (telling.react kept recipient allowed (telling.good told))

theorem deliver {query : Nat} {occasion : Occasion} {delivery : Except Failure QueryResult}
    {world : World} (good : terms.good world)
    (owed : ∀ found, world.queries[query]? = some found →
      terms.owed world found.sink occasion (.ofResult delivery)) :
    terms.relation world (world.deliver performer query occasion delivery) := by
  rw [World.deliver]
  split
  · exact telling.refl good
  · next found present =>
    have owedThen : terms.owed (world.updateHandle query Subscription.count) found.sink occasion
        (.ofResult delivery) := telling.counted (owed found present)
    have counted := telling.count query good
    split
    · refine telling.trans counted ?_
      rw [handOver]
      split
      · next stream sink =>
        rw [sink] at owedThen
        exact telling.push (telling.good counted) owedThen
      · next recipient sink =>
        rw [sink] at owedThen
        have heard := telling.hear kept (telling.good counted) owedThen
        split
        · next calm =>
          rwa [calm] at heard
        · next raised =>
          rw [raised] at heard
          exact telling.trans heard (telling.notifyAll [_] (telling.good heard))
    · exact telling.refl good

theorem receive {query : Nat} {occasion : Occasion} {snapshot : Snapshot} {world : World}
    (good : terms.good world) (owes : terms.Owes (.live query) occasion (.ok snapshot) world) :
    terms.relation world (world.receive performer query occasion snapshot).2 := by
  rw [World.receive]
  split
  · exact telling.refl good
  · next found present =>
    -- What is delivered is what comes of the snapshot for the live query that is there.
    have owed {delivery : Except Failure QueryResult}
        (made : QueryResult.ofSnapshot found.handle.type found.handle.path found.projection
          snapshot = delivery) (other : LiveQuery) (there : world.queries[query]? = some other) :
        terms.owed world other.sink occasion (.ofResult delivery) := by
      obtain rfl := Option.some.inj (present.symm.trans there)
      exact made ▸ owes found present
    split
    · next result made => exact telling.deliver kept good (owed made)
    · next failure made =>
      split
      · exact telling.deliver kept good (owed made)
      · exact telling.refl good

theorem receiveFailure {query : Nat} {occasion : Occasion} {failure : Failure} {world : World}
    (good : terms.good world) (owes : terms.Owes (.live query) occasion (.error failure) world) :
    terms.relation world (world.receiveFailure performer query occasion failure) := by
  rw [World.receiveFailure]
  split
  · exact telling.refl good
  · next watching _ =>
    have noticed := telling.notifyAll [.storeFailed watching.handle.path failure] good
    refine telling.trans noticed (telling.deliver kept (telling.good noticed) ?_)
    exact fun found present => telling.noticed (owes found present)

theorem callSnapshot {callback : Callback} {occasion : Occasion} {snapshot : Snapshot}
    {world : World} (good : terms.good world)
    (owes : terms.Owes callback occasion (.ok snapshot) world) :
    terms.relation world (world.callSnapshot performer callback occasion snapshot).2 := by
  cases callback with
  | recipient index => exact telling.hear kept good owes
  | live query => exact telling.receive kept good owes

theorem callFailure {callback : Callback} {occasion : Occasion} {failure : Failure}
    {world : World} (good : terms.good world)
    (owes : terms.Owes callback occasion (.error failure) world) :
    terms.relation world (world.callFailure performer callback occasion failure).2 := by
  cases callback with
  | recipient index => exact telling.hear kept good owes
  | live query => exact telling.receiveFailure kept good owes

theorem refresh {store : Store Callback} {listener : Listener Callback} {world : World}
    (good : terms.good world)
    (owes : terms.Owes listener.callback .standing (store.read listener.reference) world) :
    terms.relation world (world.refresh performer store listener).2 := by
  rw [World.refresh]
  split
  · next snapshot answered => exact telling.callSnapshot kept good (answered ▸ owes)
  · next failure refused =>
    split
    · exact telling.callFailure kept good (refused ▸ owes)
    · exact telling.refl good

theorem receiveGive {query : Nat} (give : Give) {world : World} (good : terms.good world)
    (owes : ∀ read, terms.Owes (.live query) .report read world) :
    terms.relation world (world.receiveGive performer query give).2 := by
  cases give with
  | snapshot content => exact telling.receive kept good (owes (.ok content))
  | failure cause => exact telling.receiveFailure kept good (owes (.error cause))
  | unusable fault => exact telling.refl good

theorem receiveGives {query : Nat} {gives : List Give} {world : World} (good : terms.good world)
    (owes : ∀ later, terms.relation world later →
      ∀ read, terms.Owes (.live query) .report read later) :
    terms.relation world (world.receiveGives performer query gives).2 := by
  induction gives generalizing world with
  | nil => exact telling.refl good
  | cons give rest inductionHypothesis =>
    have received := telling.receiveGive kept give good (owes world (telling.refl good))
    rw [World.receiveGives]
    split
    · next raised =>
      rwa [raised] at received
    · next taken =>
      rw [taken] at received
      refine telling.trans received (inductionHypothesis (telling.good received) ?_)
      exact fun later going => owes later (telling.trans received going)

/-! ### Passes -/

/-- A pass keeps to the terms if its listeners may be told what is read for them, in all states that
it can come to. -/
theorem writePass (name : Text) {entries : List (Nat × Listener Callback)} {world : World}
    (good : terms.good world)
    (owes : ∀ later, terms.relation world later → ∀ entry ∈ entries, ∀ documents,
      terms.Owes entry.2.callback .standing (Query.read documents entry.2.reference) later) :
    terms.relation world (world.writePass performer name entries).2 := by
  induction entries generalizing world with
  | nil => exact telling.refl good
  | cons entry rest inductionHypothesis =>
    obtain ⟨id, listener⟩ := entry
    rw [World.writePass]
    split
    · exact telling.refl good
    · next store _ =>
      split
      · have refreshed := telling.refresh kept good
          (owes world (telling.refl good) _ List.mem_cons_self store.documents)
        split
        · next raised =>
          rwa [raised] at refreshed
        · next told =>
          rw [told] at refreshed
          refine telling.trans refreshed (inductionHypothesis (telling.good refreshed) ?_)
          exact fun later going other member =>
            owes later (telling.trans refreshed going) other (List.mem_cons_of_mem _ member)
      · exact inductionHypothesis good fun later going other member =>
          owes later going other (List.mem_cons_of_mem _ member)

theorem reportPass (failure : Failure) {entries : List (Nat × Listener Callback)} {world : World}
    (good : terms.good world)
    (owes : ∀ later, terms.relation world later → ∀ entry ∈ entries,
      terms.Owes entry.2.callback .report (.error failure) later) :
    terms.relation world (world.reportPass performer failure entries).2 := by
  induction entries generalizing world with
  | nil => exact telling.refl good
  | cons entry rest inductionHypothesis =>
    obtain ⟨id, listener⟩ := entry
    have called := telling.callFailure kept good
      (owes world (telling.refl good) _ List.mem_cons_self)
    rw [World.reportPass]
    split
    · next raised =>
      rwa [raised] at called
    · next told =>
      rw [told] at called
      refine telling.trans called (inductionHypothesis (telling.good called) ?_)
      exact fun later going other member =>
        owes later (telling.trans called going) other (List.mem_cons_of_mem _ member)

end Telling

namespace Acting

variable (acting : terms.Acting) (kept : terms.KeptBy performer)

include acting kept

/-! ### Writes and reports -/

/-- A change of a store and the pass that follows it, through listeners that were registered. -/
theorem changePass {name : Text} {change : Store Callback → Store Callback}
    {store : Store Callback} {entries : List (Nat × Listener Callback)} {world : World}
    (good : terms.good world) (there : world.store? name = some store)
    (registered : entries ⊆ store.listeners)
    (changed : terms.relation world (world.updateStore name change)) :
    terms.relation world ((world.updateStore name change).writePass performer name entries).2 := by
  refine acting.trans changed (acting.writePass kept name (acting.good changed) ?_)
  exact fun later going entry member documents =>
    acting.read good there (registered member) (acting.trans changed going) documents

theorem writeDocument (name : Text) (path data : Value) {world : World}
    (good : terms.good world) :
    terms.relation world (world.writeDocument performer name path data).2 := by
  rw [World.writeDocument]
  split
  · exact acting.refl good
  · exact acting.refl good
  · next store segments entries known accepted =>
    exact acting.changePass kept good (store?_of_store known) List.filter_sublist.subset
      (acting.write name accepted good)

theorem removeDocument (name : Text) (path : Value) {world : World} (good : terms.good world) :
    terms.relation world (world.removeDocument performer name path).2 := by
  rw [World.removeDocument]
  split
  · exact acting.refl good
  · exact acting.refl good
  · next store segments known located =>
    split
    · exact acting.changePass kept good (store?_of_store known) List.filter_sublist.subset
        (acting.remove name located good)
    · exact acting.refl good

theorem reportFailure (name : Text) (path : Value) (failure : Failure) {world : World}
    (good : terms.good world) :
    terms.relation world (world.reportFailure performer name path failure).2 := by
  rw [World.reportFailure]
  split
  · exact acting.refl good
  · exact acting.refl good
  · next store _ known _ =>
    refine acting.reportPass kept failure good fun later going entry member => ?_
    exact acting.report good (store?_of_store known) (List.mem_filter.mp member).1 going failure

omit kept in
theorem aim (target : Target) {world : World} (good : terms.good world) :
    terms.relation world (world.aim target).2 := by
  cases target with
  | feed feed => exact acting.bindFeed feed nofun good
  | query name value =>
    rw [World.aim]
    split
    · exact acting.refl good
    · exact acting.refl good
    · exact acting.notifyAll _ good

end Acting

namespace Starting

variable (starting : terms.Starting) (kept : terms.KeptBy performer)

include starting

/-! ### Starts -/

/-- What is read for a new listener may be told to it. -/
theorem owes_registered {name : Text} {reference : Reference} {callback : Callback}
    {store : Store Callback} {world : World} (there : world.store? name = some store)
    (registered : terms.relation world
      (world.updateStore name (Store.register ⟨reference, callback⟩)))
    (documents : List StoredDocument) :
    terms.Owes callback .standing (Query.read documents reference)
      (world.updateStore name (Store.register ⟨reference, callback⟩)) := by
  have found : (world.updateStore name (Store.register ⟨reference, callback⟩)).store? name =
      some (store.register ⟨reference, callback⟩) := by
    rw [store?_updateStore, if_pos rfl, there]
    rfl
  have after := starting.good registered
  exact starting.read after found (List.mem_append_right _ (List.mem_singleton_self _))
    (starting.refl after) documents

include kept

theorem installRecipient {recipient : Nat} (name : Text) (reference : Reference) {world : World}
    (callable : terms.callable world (.recipient recipient)) (good : terms.good world) :
    terms.relation world (world.installRecipient performer recipient name reference).2 := by
  rw [World.installRecipient]
  split
  · exact starting.refl good
  · next store known =>
    split
    · exact starting.refl good
    · next snapshot accepted =>
      have registered : terms.relation world
          (world.updateStore name (Store.register ⟨reference, .recipient recipient⟩)) :=
        starting.register nofun callable good
      have owes := starting.owes_registered (store?_of_store known) registered store.documents
      rw [← Store.read, Store.read_of_acceptListener accepted] at owes
      have heard := starting.hear kept (starting.good registered) owes
      split
      · next raised =>
        rw [Update.ofRead, raised] at heard
        exact starting.trans registered heard
      · next calm =>
        rw [Update.ofRead, calm] at heard
        exact starting.trans registered heard

theorem listen {label name : Text} {calls : List NavigationCall} {reactions : List Reaction}
    (allowed : terms.allowed (.listen label name calls reactions)) {world : World}
    (good : terms.good world) :
    terms.relation world (world.listen performer label name calls reactions).2 := by
  rw [World.listen]
  split
  · exact starting.refl good
  · exact starting.refl good
  · next reference _ _ =>
    have added := starting.addRecipient label (starting.listening allowed) good
    have installed := starting.installRecipient kept name reference
      (starting.newListener allowed good) (starting.good added)
    have number : (world.addRecipient label reactions).1 = world.recipients.length := rfl
    dsimp only
    rw [number]
    split
    · next failed =>
      rw [failed] at installed
      exact starting.trans added installed
    · next done =>
      rw [done] at installed
      have both := starting.trans added installed
      exact starting.trans both (starting.names _ _ _ (starting.good both))

/-- A live query that is there is installed where it reads. -/
theorem install {query : Nat} {source : Source} {world : World}
    (reads : ∃ found, world.queries[query]? = some found ∧ found.source = some source)
    (callable : terms.callable world (.live query)) (good : terms.good world) :
    terms.relation world (world.install performer query source).2 := by
  cases source with
  | store name reference =>
    rw [World.install, installOnStore]
    split
    · exact starting.refl good
    · next store known =>
      split
      · exact starting.refl good
      · next snapshot accepted =>
        have registered : terms.relation world
            (world.updateStore name (Store.register ⟨reference, .live query⟩)) :=
          starting.register (fun other same => Callback.live.inj same ▸ reads) callable good
        have owes := starting.owes_registered (store?_of_store known) registered
          store.documents
        rw [← Store.read, Store.read_of_acceptListener accepted] at owes
        have received := starting.receive kept (starting.good registered) owes
        split
        · next raised =>
          rw [raised] at received
          exact starting.trans registered received
        · next taken =>
          rw [taken] at received
          exact starting.trans registered received
  | feed feed =>
    have bound : terms.relation world (world.bindFeed feed (some query)) :=
      starting.bindFeed feed (fun other same => Option.some.inj same ▸ callable) good
    have received : terms.relation (world.bindFeed feed (some query))
        ((world.bindFeed feed (some query)).receiveGives performer query feed.first).2 :=
      starting.receiveGives kept (starting.good bound) fun later going =>
        starting.announce (starting.good bound) List.mem_cons_self going
    rw [World.install]
    split
    · next raised =>
      rw [raised] at received
      exact starting.trans bound received
    · next taken =>
      rw [taken] at received
      exact starting.trans bound received

/-- What is left of a start once its live query has been added. -/
theorem startQuery (aim : Aim) (sink : Sink) {world : World}
    (good : terms.good (world.addQuery (queryFor aim sink)).2)
    (callable : terms.callable (world.addQuery (queryFor aim sink)).2
      (.live world.queries.length)) :
    terms.relation (world.addQuery (queryFor aim sink)).2
      (world.startQuery performer aim sink).2 := by
  have present : (world.addQuery (queryFor aim sink)).2.queries[world.queries.length]? =
      some (queryFor aim sink) := by
    rw [addQuery, List.getElem?_append_right (Nat.le_refl _), Nat.sub_self]
    rfl
  have installed := starting.install kept ⟨_, present, rfl⟩ callable good
  have number : (world.addQuery (queryFor aim sink)).1 = world.queries.length := rfl
  rw [World.startQuery, ← queryFor, number]
  split
  · next failed =>
    rwa [failed] at installed
  · next done =>
    rw [done] at installed
    exact starting.trans installed (starting.attach _ _ (starting.good installed))

theorem subscribeTo (label : Text) (aim : Aim) (recipient : Nat) {world : World}
    (good : terms.good (world.addQuery (queryFor aim (.recipient recipient))).2)
    (callable : terms.callable (world.addQuery (queryFor aim (.recipient recipient))).2
      (.live world.queries.length)) :
    terms.relation (world.addQuery (queryFor aim (.recipient recipient))).2
      (world.subscribeTo performer label aim recipient).2 := by
  have started := starting.startQuery kept aim (.recipient recipient) good callable
  rw [World.subscribeTo]
  split
  · next failed =>
    rwa [failed] at started
  · next done =>
    rw [done] at started
    exact starting.trans started (starting.names _ _ _ (starting.good started))

theorem streamFrom (label : Text) (aim : Aim) {world : World}
    (good : terms.good
      (world.addStream.2.addQuery (queryFor aim (.stream world.streams.length))).2)
    (callable : terms.callable
      (world.addStream.2.addQuery (queryFor aim (.stream world.streams.length))).2
      (.live world.queries.length)) :
    terms.relation (world.addStream.2.addQuery (queryFor aim (.stream world.streams.length))).2
      (world.streamFrom performer label aim).2 := by
  have started := starting.startQuery kept aim (.stream world.streams.length) good callable
  rw [World.streamFrom]
  have number : world.addStream.1 = world.streams.length := rfl
  rw [number]
  split
  · next failed =>
    rwa [failed] at started
  · next done =>
    rw [done] at started
    exact starting.trans started (starting.names _ _ _ (starting.good started))

omit kept in
theorem running : terms.Running where
  toActing := starting.toActing
  listen kept _ _ _ _ allowed _ good := starting.listen kept allowed good
  subscribe kept label _ allowed aim _ good := by
    obtain ⟨added, callable⟩ := starting.newRecipient label allowed aim good
    exact starting.trans added
      (starting.subscribeTo kept label aim _ (starting.good added) callable)
  stream kept label aim _ good := by
    obtain ⟨added, callable⟩ := starting.newStream aim good
    exact starting.trans added (starting.streamFrom kept label aim (starting.good added) callable)

end Starting

namespace Running

variable (running : terms.Running)

include running

/-! ### Actions and runs -/

theorem performWith (kept : terms.KeptBy performer) {action : Action}
    (allowed : terms.allowed action) {world : World} (good : terms.good world) :
    terms.relation world (world.performWith performer action).2 := by
  cases action with
  | write name path data => exact running.writeDocument kept name path data good
  | remove name path => exact running.removeDocument kept name path good
  | report name path failure => exact running.reportFailure kept name path failure good
  | closeStore name => exact running.close name good
  | describe name => exact running.refl good
  | listen label name calls reactions => exact running.listen kept allowed good
  | unlisten label => exact running.unlisten label good
  | subscribe label target reactions =>
    have readied := running.aim target good
    rw [World.performWith]
    split
    · next failed =>
      rwa [failed] at readied
    · next aim after ready =>
      rw [ready] at readied
      exact running.trans readied
        (running.subscribe kept label (running.subscribing allowed) aim (running.good readied))
  | openStream label target =>
    have readied := running.aim target good
    rw [World.performWith]
    split
    · next failed =>
      rwa [failed] at readied
    · next aim after ready =>
      rw [ready] at readied
      exact running.trans readied (running.stream kept label aim (running.good readied))
  | cancel label =>
    rw [World.performWith]
    split
    · exact running.refl good
    · exact running.cancelQuery _ good
  | leave label =>
    rw [World.performWith]
    split
    · exact running.refl good
    · exact running.cancelQuery _ good
  | inspect label =>
    rw [World.performWith]
    split <;> exact running.refl good
  | announce label give =>
    rw [World.performWith]
    split
    · exact running.refl good
    · exact running.refl good
    · next query bound =>
      obtain ⟨before, after, same, _⟩ := List.lookup_eq_some_iff.mp bound
      have watches : (label, some query) ∈ world.feedNames :=
        same ▸ List.mem_append_right _ List.mem_cons_self
      exact running.receiveGive kept give good
        (running.announce good watches (running.refl good))
  | closeStream label =>
    rw [World.performWith]
    split
    · exact running.refl good
    · exact running.closeStream _ good
  | inspectStream label =>
    rw [World.performWith]
    split <;> exact running.refl good

/-- To carry out actions, up to any depth, keeps to the terms. -/
theorem keptBy_performTo (depth : Nat) : terms.KeptBy (performTo depth) := by
  induction depth with
  | zero => exact fun _ _ _ good => running.cutShort good
  | succ depth inductionHypothesis =>
    exact fun action world allowed good => running.performWith inductionHypothesis allowed good

end Running

/-- A run that begins in a good state keeps to the terms. -/
theorem Spanning.of_runs (spanning : terms.Spanning) {first last : World} (run : first.Runs last)
    (good : terms.good first) : terms.relation first last := by
  induction run with
  | stay world => exact spanning.refl good
  | further _ _ firstHypothesis secondHypothesis =>
    have before := firstHypothesis good
    exact spanning.trans before (secondHypothesis (spanning.good before))
  | act _ action world inductionHypothesis =>
    exact spanning.performWith (fun action inside _ => inductionHypothesis action inside)
      (spanning.everything action) good
  | subscribe _ label reactions aim world inductionHypothesis =>
    exact spanning.subscribe (fun action inside _ => inductionHypothesis action inside) label
      (fun _ action _ => spanning.everything action) aim good
  | stream _ label aim world inductionHypothesis =>
    exact spanning.stream (fun action inside _ => inductionHypothesis action inside) label aim good
  | call _ callback snapshot world inductionHypothesis =>
    exact spanning.callSnapshot (fun action inside _ => inductionHypothesis action inside) good
      (spanning.everybody _ _ good)
  | callFailure _ callback failure world inductionHypothesis =>
    exact spanning.callFailure (fun action inside _ => inductionHypothesis action inside) good
      (spanning.everybody _ _ good)
  | ready target world => exact spanning.aim target good
  | close stream world => exact spanning.closeStream stream good
  | take same fewer => exact spanning.take same fewer good
  | remark fewer notices cutShort => exact spanning.remark fewer notices cutShort good

end Terms

end World

end DocQuery
