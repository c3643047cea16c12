/-
This file says what it would be to answer live queries by asking them once.

A live query that is told how its reference stands could ask its query once, in the state of that
very moment, and hand on what comes of it. `World.answer` does this. Writing, removing and starting
are then said again with every such delivery made by asking, for a performer that may do the same
inside. This is a second account of what happens, in which the answers are right by definition; this
file proves that a step of the first account is the same step of the second.

What listeners do inside a delivery may be carried out by different performers in the two
accounts. All that is needed of them is that they do the same whenever a live action is carried
out in a sound state.
-/

import DocQuery.Proofs.Live.Starting

namespace DocQuery

/-- Performers that carry out live actions in the same way, in sound states. -/
def Agree (performer asking : Performer) : Prop :=
  ∀ action, action.IsLive → ∀ world : World, world.Sound →
    performer action world = asking action world

/-- A live query on a reference as it starts. -/
def LiveQuery.opened (type : QueryType) (projection : Projection) (name : Text)
    (reference : Reference) (recipient : Nat) : LiveQuery :=
  ⟨.opened type reference.path, projection, some (.store name reference), .recipient recipient⟩

namespace World

/-! ### Answers by asking -/

/-- Delivers to a live query what asking its query once gives now. That reading is refused is
noticed. -/
def answer (performer : Performer) (query : Nat) (name : Text) (reference : Reference)
    (world : World) : World :=
  match world.queries[query]? with
  | none => world
  | some found =>
    let noticed :=
      match world.fetch (found.aim name reference) with
      | .ok _ => world
      | .error failure => world.notify (.storeFailed found.handle.path failure)
    noticed.deliver performer query .standing (world.askOnce (found.aim name reference))

/-- Answers the live queries among listeners, one after the other, but for those that were removed
while it went on. -/
def answerAll (performer : Performer) (name : Text) :
    List (Nat × Listener Callback) → World → World
  | [], world => world
  | (id, ⟨reference, .live query⟩) :: rest, world =>
    if world.isRegistered name id then
      answerAll performer name rest (world.answer performer query name reference)
    else answerAll performer name rest world
  | (_, ⟨_, .recipient _⟩) :: rest, world => answerAll performer name rest world

/-- Writes a document and answers the live queries it concerns. -/
def writeAsking (performer : Performer) (name : Text) (path data : Value) (world : World) :
    Except Failure Response × World :=
  match world.store name, Store.acceptWrite path data with
  | .error failure, _ => (.error failure, world)
  | .ok _, .error failure => (.error failure, world)
  | .ok store, .ok (segments, entries) =>
    (.ok .done, (world.updateStore name (Store.write segments entries)).answerAll performer name
      (store.concerned segments))

/-- Removes a document, if it is there, and answers the live queries it concerned. -/
def removeAsking (performer : Performer) (name : Text) (path : Value) (world : World) :
    Except Failure Response × World :=
  match world.store name, Segments.ofDocumentPath path with
  | .error failure, _ => (.error failure, world)
  | .ok _, .error failure => (.error failure, world)
  | .ok store, .ok segments =>
    if store.holds segments then
      (.ok .done, (world.updateStore name (Store.remove segments)).answerAll performer name
        (store.concerned segments))
    else (.ok .done, world)

/-- Installs the listener of a live query and answers it. If the store is closed, or the reference
cannot be read, that is raised: then nothing is delivered, and no listener is left. -/
def installAsking (performer : Performer) (query : Nat) (found : LiveQuery) (name : Text)
    (reference : Reference) (world : World) : Except Failure Release × World :=
  match world.store name with
  | .error failure => (.error failure, world)
  | .ok store =>
    if store.closed then (.error (.store .closed (some reference.path)), world)
    else
      match world.fetch (found.aim name reference) with
      | .error failure => (.error failure, world)
      | .ok _ =>
        (.ok (.listener name store.nextListener),
          (world.updateStore name (Store.register ⟨reference, .live query⟩)).answer performer query
            name reference)

/-- Starts a live query of any type on any reference, with a new recipient. -/
def subscribeAsking (performer : Performer) (type : QueryType) (projection : Projection)
    (name label : Text) (reference : Reference) (reactions : List Reaction) (world : World) :
    Except Failure Response × World :=
  let query : LiveQuery := .opened type projection name reference world.recipients.length
  let added := (world.addRecipient label reactions).2.addQuery query
  match added.2.installAsking performer added.1 query name reference with
  | (.error failure, after) => (.error failure, after)
  | (.ok release, after) => (.ok .done, (after.attach added.1 release).bindQuery label added.1)

/-- All that asking a query on names can fail with is a missing document or a refusal of the store. -/
theorem isDeliverable_of_askOnce {world : World} {name : Text} {store : Store Callback}
    (there : world.store? name = some store) {reference : Reference} (named : reference.IsNamed)
    (query : LiveQuery) {failure : Failure}
    (failed : world.askOnce (query.aim name reference) = .error failure) :
    failure.isDeliverable = true := by
  rw [askOnce_of_store there] at failed
  cases answered : store.read reference with
  | ok snapshot =>
    rw [answered] at failed
    exact QueryResult.isDeliverable_of_ofSnapshot answered failed
  | error refusal =>
    rw [answered] at failed
    cases failed
    have refused := Query.isStore_of_read named answered
    rw [Failure.isStore] at refused
    rw [Failure.isDeliverable, refused, Bool.true_or]

/-! ### Performers that agree -/

variable {performer asking : Performer} {world : World}

theorem react_congr (faithful : Faithful performer) (agree : Agree performer asking)
    (recipient : Nat) {reactions : List Reaction}
    (live : ∀ reaction ∈ reactions, reaction.IsLive) (sound : world.Sound) :
    react performer recipient reactions world = react asking recipient reactions world := by
  induction reactions generalizing world with
  | nil => rfl
  | cons reaction rest inductionHypothesis =>
    obtain ⟨first, restLive⟩ := List.forall_mem_cons.mp live
    have shown : world.showReaction performer reaction = world.showReaction asking reaction := by
      cases reaction with
      | raise position failure => rfl
      | act position action =>
        rw [Reaction.IsLive] at first
        rw [showReaction, showReaction, agree action first world sound]
    have kept : (world.showReaction performer reaction).2.Sound := by
      cases reaction with
      | raise position failure => exact sound
      | act position action =>
        rw [Reaction.IsLive] at first
        exact (faithful action first world sound).sound
    rw [react, react, ← shown]
    split
    · split
      · rfl
      · next performed =>
        rw [performed] at kept
        exact inductionHypothesis restLive kept
    · exact inductionHypothesis restLive sound

theorem hear_congr (faithful : Faithful performer) (agree : Agree performer asking)
    (recipient : Nat) (occasion : Occasion) (update : Update) (sound : world.Sound) :
    world.hear performer recipient occasion update =
      world.hear asking recipient occasion update := by
  rw [hear, hear]
  split
  · rfl
  · exact react_congr faithful agree recipient (reactionsOf_isLive sound recipient)
      (sound.tell recipient occasion update)

theorem deliver_congr (faithful : Faithful performer) (agree : Agree performer asking)
    (query : Nat) (occasion : Occasion) (delivery : Except Failure QueryResult)
    (sound : world.Sound) :
    world.deliver performer query occasion delivery =
      world.deliver asking query occasion delivery := by
  rw [deliver, deliver]
  split
  · rfl
  · next found _ =>
    split
    · rw [handOver, handOver]
      cases found.sink with
      | stream stream => rfl
      | recipient recipient =>
        dsimp only
        rw [hear_congr faithful agree recipient occasion _ (sound.carries_count query).sound]
    · rfl

theorem receiveFailure_congr (faithful : Faithful performer) (agree : Agree performer asking)
    (query : Nat) (occasion : Occasion) (failure : Failure) (sound : world.Sound) :
    world.receiveFailure performer query occasion failure =
      world.receiveFailure asking query occasion failure := by
  rw [receiveFailure, receiveFailure]
  split
  · rfl
  · exact deliver_congr faithful agree query occasion _ (sound.carries_remark _ _).sound

theorem answer_congr (faithful : Faithful performer) (agree : Agree performer asking)
    (query : Nat) (name : Text) (reference : Reference) (sound : world.Sound) :
    world.answer performer query name reference = world.answer asking query name reference := by
  rw [answer, answer]
  split
  · rfl
  · next found _ =>
    dsimp only
    cases world.fetch (found.aim name reference) with
    | ok snapshot => exact deliver_congr faithful agree query .standing _ sound
    | error failure =>
      exact deliver_congr faithful agree query .standing _ (sound.carries_remark _ _).sound

/-! ### Steps are steps by asking -/

/-- A listener that is told how its reference stands is answered. -/
theorem Sound.refresh_eq_answer (sound : world.Sound) (performer : Performer) {name : Text}
    {store : Store Callback} (there : world.store? name = some store) {id : Nat}
    {reference : Reference} {query : Nat}
    (member : (id, (⟨reference, .live query⟩ : Listener Callback)) ∈ store.listeners) :
    world.refresh performer store ⟨reference, .live query⟩ =
      (.ok (), world.answer performer query name reference) := by
  obtain ⟨found, present, named, reads⟩ := sound.exists_query ⟨store, there, member⟩
  have fetched : world.fetch (found.aim name reference) = store.read reference := by
    simp only [fetch, LiveQuery.aim, World.store, there]
    rfl
  rw [refresh, answer, present]
  dsimp only
  rw [fetched, askOnce_of_store there]
  cases answered : store.read reference with
  | ok snapshot =>
    dsimp only
    rw [callSnapshot, receive_of_read answered present, reads.path]
    rfl
  | error failure =>
    have refused := Query.isStore_of_read named answered
    dsimp only
    rw [if_pos refused, callFailure, receiveFailure, present]
    rfl

/-- A pass over listeners of an earlier state answers those that are still there. -/
theorem writePass_eq_answerAll (faithful : Faithful performer) (agree : Agree performer asking)
    {origin : World} (originSound : origin.Sound) {name : Text} {first : Store Callback}
    (there : origin.store? name = some first) {entries : List (Nat × Listener Callback)}
    (subset : ∀ entry ∈ entries, entry ∈ first.listeners) (sound : world.Sound)
    (evolves : origin.Evolves world) :
    world.writePass performer name entries = (.ok (), world.answerAll asking name entries) := by
  induction entries generalizing world with
  | nil => rfl
  | cons entry rest inductionHypothesis =>
    obtain ⟨id, reference, callback⟩ := entry
    obtain ⟨old, restOld⟩ := List.forall_mem_cons.mp subset
    obtain ⟨taken, _, query, _, same, _⟩ := originSound.attended there old
    cases same
    obtain ⟨store, known, _, earlier⟩ := evolves.stores there
    have asked : world.isRegistered name id = store.isRegistered id := by
      rw [World.isRegistered, known]
    rw [writePass, answerAll, known, asked]
    dsimp only
    by_cases registered : store.isRegistered id = true
    · rw [if_pos registered, if_pos registered]
      obtain ⟨other, member⟩ := mem_of_isRegistered registered
      -- Ids are not used twice, so this is the listener that the pass began with.
      obtain rfl := originSound.unique there (earlier _ member taken) old
      obtain ⟨after, refreshed, carries, _⟩ := sound.exists_refresh faithful known member
      have answered := sound.refresh_eq_answer performer known member
      rw [answer_congr faithful agree query name reference sound, refreshed] at answered
      cases answered
      rw [refreshed]
      exact inductionHypothesis restOld carries.sound (evolves.trans originSound carries.evolves)
    · rw [if_neg registered, if_neg registered]
      exact inductionHypothesis restOld sound evolves

/-- The pass that follows a change of documents answers the listeners it concerns. -/
theorem Sound.changePass_eq_answerAll (sound : world.Sound) (faithful : Faithful performer)
    (agree : Agree performer asking) {name : Text} {store : Store Callback}
    (there : world.store? name = some store) {segments : Segments}
    {change : Store Callback → Store Callback} (touches : Touches segments change) :
    (world.updateStore name change).writePass performer name (store.concerned segments) =
      (.ok (), (world.updateStore name change).answerAll asking name
        (store.concerned segments)) := by
  have changed : (world.updateStore name change).store? name = some (change store) := by
    rw [store?_updateStore, if_pos rfl, there, Option.map_some]
  have changedSound := sound.updateStore touches.shrinks name
  have subset : ∀ entry ∈ store.concerned segments, entry ∈ (change store).listeners := by
    intro entry member
    rw [touches.listeners]
    exact (List.mem_filter.mp member).1
  exact writePass_eq_answerAll faithful agree changedSound changed subset changedSound (.refl _)

theorem Sound.writeDocument_eq (sound : world.Sound) (faithful : Faithful performer)
    (agree : Agree performer asking) (name : Text) (path data : Value) :
    world.writeDocument performer name path data = world.writeAsking asking name path data := by
  unfold writeDocument writeAsking World.store
  cases there : world.store? name with
  | none => rfl
  | some store =>
    cases Store.acceptWrite path data with
    | error failure => rfl
    | ok accepted =>
      obtain ⟨segments, entries⟩ := accepted
      dsimp only
      rw [sound.changePass_eq_answerAll faithful agree there (touches_write segments entries)]
      rfl

theorem Sound.removeDocument_eq (sound : world.Sound) (faithful : Faithful performer)
    (agree : Agree performer asking) (name : Text) (path : Value) :
    world.removeDocument performer name path = world.removeAsking asking name path := by
  unfold removeDocument removeAsking World.store
  cases there : world.store? name with
  | none => rfl
  | some store =>
    cases Segments.ofDocumentPath path with
    | error failure => rfl
    | ok segments =>
      dsimp only
      split
      · rw [sound.changePass_eq_answerAll faithful agree there (touches_remove segments)]
        rfl
      · rfl

theorem reportPass_congr (faithful : Faithful performer) (agree : Agree performer asking)
    (failure : Failure) {entries : List (Nat × Listener Callback)}
    (live : ∀ entry ∈ entries, ∃ query, entry.2.callback = .live query) (sound : world.Sound) :
    world.reportPass performer failure entries = world.reportPass asking failure entries := by
  induction entries generalizing world with
  | nil => rfl
  | cons entry rest inductionHypothesis =>
    obtain ⟨id, listener⟩ := entry
    obtain ⟨query, callback⟩ := live (id, listener) List.mem_cons_self
    have restLive : ∀ entry ∈ rest, ∃ query, entry.2.callback = .live query :=
      fun entry member => live entry (List.mem_cons_of_mem _ member)
    have called : listener.callback = .live query := callback
    rw [reportPass, reportPass, called]
    dsimp only [callFailure]
    have told : world.Carries (world.receiveFailure performer query .report failure) := by
      refine sound.carries_receiveFailure faithful fun standing => ?_
      cases standing
    rw [← receiveFailure_congr faithful agree query .report failure sound]
    exact inductionHypothesis restLive told.sound

theorem Sound.reportFailure_eq (sound : world.Sound) (faithful : Faithful performer)
    (agree : Agree performer asking) (name : Text) (path : Value) (failure : Failure) :
    world.reportFailure performer name path failure =
      world.reportFailure asking name path failure := by
  unfold reportFailure World.store
  cases there : world.store? name with
  | none => rfl
  | some store =>
    cases path.toName with
    | error refused => rfl
    | ok given =>
      have live : ∀ entry ∈ store.listenersAt (Segments.ofPath given),
          ∃ query, entry.2.callback = .live query := by
        intro entry member
        obtain ⟨_, _, query, _, callback, _, _⟩ :=
          sound.attended there (List.mem_filter.mp member).1
        exact ⟨query, callback⟩
      dsimp only
      rw [reportPass_congr faithful agree failure live sound]

/-- A listener is installed as if its first delivery were made by asking. -/
theorem Sound.installOnStore_eq (sound : world.Sound) (faithful : Faithful performer)
    (agree : Agree performer asking) {name : Text} {reference : Reference}
    (named : reference.IsNamed) {query : Nat} {found : LiveQuery}
    (present : world.queries[query]? = some found) (reads : found.Reads name reference) :
    world.installOnStore performer query name reference =
      world.installAsking asking query found name reference := by
  unfold installOnStore installAsking World.store
  cases there : world.store? name with
  | none => rfl
  | some store =>
    have fetched : world.fetch (found.aim name reference) = store.read reference := by
      simp only [fetch, LiveQuery.aim, World.store, there]
      rfl
    dsimp only
    rw [fetched, Store.acceptListener]
    by_cases closed : store.closed = true
    · rw [if_pos closed, if_pos closed]
    · rw [if_neg closed, if_neg closed]
      cases answered : store.read reference with
      | error failure => rfl
      | ok snapshot =>
        have registered := (sound.carries_register named present reads).sound
        have known : (world.updateStore name (Store.register ⟨reference, .live query⟩)).store? name =
            some (store.register ⟨reference, .live query⟩) := by
          rw [store?_updateStore, if_pos rfl, there, Option.map_some]
        have member : (store.nextListener, ⟨reference, .live query⟩) ∈
            (store.register ⟨reference, .live query⟩).listeners :=
          List.mem_append_right _ (List.mem_singleton_self _)
        -- What was read before the registration is what a read after it gives.
        have same : (store.register ⟨reference, .live query⟩).read reference = .ok snapshot :=
          answered
        have first := registered.refresh_eq_answer performer known member
        rw [refresh, same, answer_congr faithful agree query name reference registered] at first
        dsimp only [callSnapshot] at first ⊢
        rw [first]

/-- Starting a live query is adding it, installing its listener, and giving it its release. -/
theorem subscribeTo_store (performer : Performer) (label : Text) (type : QueryType)
    (projection : Projection) (name : Text) (reference : Reference) (recipient : Nat)
    (world : World) :
    world.subscribeTo performer label ⟨type, reference.path, projection, .store name reference⟩
        recipient =
      match (world.addQuery (.opened type projection name reference recipient)).2.installOnStore
        performer world.queries.length name reference with
      | (.error failure, after) => (.error failure, after)
      | (.ok release, after) =>
        (.ok .done,
          (after.attach world.queries.length release).bindQuery label world.queries.length) := by
  simp only [subscribeTo, startQuery, install, LiveQuery.opened, addQuery]
  generalize installOnStore performer _ name reference _ = installed
  obtain ⟨failure | release, after⟩ := installed <;> rfl

theorem Sound.subscribeTo_eq (sound : world.Sound) (faithful : Faithful performer)
    (agree : Agree performer asking) (type : QueryType) (projection : Projection)
    (name label : Text) {reference : Reference} (named : reference.IsNamed)
    {reactions : List Reaction} (live : AreLive reactions) :
    (world.addRecipient label reactions).2.subscribeTo performer label
        ⟨type, reference.path, projection, .store name reference⟩ world.recipients.length =
      world.subscribeAsking asking type projection name label reference reactions := by
  have added := sound.carries_addRecipient label live
  have begun : (world.addRecipient label reactions).2.Carries ((world.addRecipient label
      reactions).2.addQuery (.opened type projection name reference world.recipients.length)).2 :=
    added.sound.carries_addQuery rfl (lt_length_addRecipient world label reactions)
      sound.sink_ne_newRecipient rfl
  have installed := begun.sound.installOnStore_eq faithful agree named
    (getElem?_concat_eq_some.mpr (.inr ⟨rfl, rfl⟩)) ⟨rfl, rfl⟩
  rw [subscribeTo_store, installed]
  rfl

end World

end DocQuery
