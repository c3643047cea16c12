/-
This file proves that passes carry freshness on, and that a pass after a write restores it.

A pass after a write reads the store anew for each listener. So a listener is fresh once the
pass has come to it, and whatever is done later in the pass carries that on to its end. Listeners
that were removed before their turn belong to queries that are no longer active, and those that
were added meanwhile were told how things stood when they were added.
-/

import DocQuery.Proofs.Live.Delivery

namespace DocQuery

namespace World

variable {performer : Performer} {world : World}

/-! ### Snapshots and failures -/

/-- What was read for a live query is delivered as what asking once makes of it. -/
theorem receive_of_read {documents : List StoredDocument} {reference : Reference}
    {snapshot : Snapshot} (answered : Query.read documents reference = .ok snapshot) {query : Nat}
    {found : LiveQuery} (present : world.queries[query]? = some found) (occasion : Occasion) :
    world.receive performer query occasion snapshot =
      (.ok (), world.deliver performer query occasion
        (QueryResult.ofSnapshot found.handle.type found.handle.path found.projection snapshot)) := by
  rw [receive, present]
  dsimp only
  cases made : QueryResult.ofSnapshot found.handle.type found.handle.path found.projection
      snapshot with
  | ok result => rfl
  | error failure =>
    have deliverable := QueryResult.isDeliverable_of_ofSnapshot answered made
    dsimp only
    rw [if_pos deliverable]

theorem Sound.carries_receiveFailure (sound : world.Sound) (faithful : Faithful performer)
    {query : Nat} {occasion : Occasion} {failure : Failure}
    (right : occasion = .standing → world.Answers query (.error failure)) :
    world.Carries (world.receiveFailure performer query occasion failure) := by
  unfold receiveFailure
  split
  · exact .refl sound
  · next found present =>
    have noticed := sound.carries_remark
      (world.notices ++ [.storeFailed found.handle.path failure]) world.cutShort
    exact noticed.trans sound (noticed.sound.carries_deliver faithful right)

/-- Reading for an attending live query gives what asking it once gives. -/
theorem Sound.answers_of_read (sound : world.Sound) {name : Text} {store : Store Callback}
    (there : world.store? name = some store) {id : Nat} {reference : Reference} {query : Nat}
    (attends : world.Attends name id reference query) {found : LiveQuery}
    (present : world.queries[query]? = some found) :
    world.Answers query (QueryResult.ofRead found.handle.type reference.path found.projection
      (store.read reference)) := by
  have reads {otherName : Text} {otherId : Nat} {other : Reference}
      (otherAttends : world.Attends otherName otherId other query) :
      found.Reads otherName other := by
    obtain ⟨same, known, _, reads⟩ := sound.exists_query otherAttends
    obtain rfl := Option.some.inj (present.symm.trans known)
    exact reads
  intro otherName otherId other asked otherAttends known
  obtain rfl := Option.some.inj (present.symm.trans known)
  have same := (reads attends).source.symm.trans (reads otherAttends).source
  cases same
  rw [askOnce_of_store there]

/-- Telling a listener how its reference stands makes its live query fresh. -/
theorem Sound.exists_refresh (sound : world.Sound) (faithful : Faithful performer) {name : Text}
    {store : Store Callback} (there : world.store? name = some store) {id : Nat}
    {reference : Reference} {query : Nat}
    (member : (id, (⟨reference, .live query⟩ : Listener Callback)) ∈ store.listeners) :
    ∃ after, world.refresh performer store ⟨reference, .live query⟩ = (.ok (), after) ∧
      world.Carries after ∧ (after.IsActive query → after.Fresh name reference query) := by
  have attends : world.Attends name id reference query := ⟨store, there, member⟩
  obtain ⟨found, present, named, reads⟩ := sound.exists_query attends
  have answers : world.Answers query (QueryResult.ofRead found.handle.type reference.path
      found.projection (store.read reference)) := sound.answers_of_read there attends present
  unfold refresh
  dsimp only
  cases answered : store.read reference with
  | ok snapshot =>
    rw [answered] at answers
    dsimp only
    rw [callSnapshot, receive_of_read answered present, reads.path]
    exact ⟨_, rfl, sound.carries_deliver faithful fun _ => answers,
      sound.fresh_deliver faithful answers attends⟩
  | error failure =>
    rw [answered] at answers
    have refused := Query.isStore_of_read named answered
    dsimp only
    rw [if_pos refused, callFailure, receiveFailure, present]
    have noticed := sound.carries_remark
      (world.notices ++ [.storeFailed found.handle.path failure]) world.cutShort
    exact ⟨_, rfl, noticed.trans sound (noticed.sound.carries_deliver faithful fun _ => answers),
      noticed.sound.fresh_deliver faithful answers attends⟩

/-! ### The pass after a write -/

theorem mem_of_isRegistered {store : Store Callback} {id : Nat}
    (registered : store.isRegistered id = true) :
    ∃ listener, (id, listener) ∈ store.listeners := by
  obtain ⟨⟨other, listener⟩, member, same⟩ := List.any_eq_true.mp registered
  have equal : other = id := eq_of_beq same
  exact ⟨listener, equal ▸ member⟩

theorem isRegistered_of_mem {store : Store Callback} {id : Nat} {listener : Listener Callback}
    (member : (id, listener) ∈ store.listeners) : store.isRegistered id = true :=
  List.any_eq_true.mpr ⟨(id, listener), member, beq_self_eq_true id⟩

/-- A pass over listeners of an earlier state ends well, and makes the live queries of all of them
fresh that are still active at its end. -/
theorem exists_writePass (faithful : Faithful performer) {origin : World}
    (originSound : origin.Sound) {name : Text} {first : Store Callback}
    (there : origin.store? name = some first) {entries : List (Nat × Listener Callback)}
    (subset : ∀ entry ∈ entries, entry ∈ first.listeners) (sound : world.Sound)
    (evolves : origin.Evolves world) :
    ∃ after, world.writePass performer name entries = (.ok (), after) ∧ world.Carries after ∧
      ∀ {id reference query}, (id, (⟨reference, .live query⟩ : Listener Callback)) ∈ entries →
        after.IsActive query → after.Fresh name reference query := by
  induction entries generalizing world with
  | nil => exact ⟨world, rfl, .refl sound, nofun⟩
  | cons entry rest inductionHypothesis =>
    obtain ⟨id, listener⟩ := entry
    have old : (id, listener) ∈ first.listeners := subset _ List.mem_cons_self
    have restOld : ∀ entry ∈ rest, entry ∈ first.listeners :=
      fun entry member => subset entry (List.mem_cons_of_mem _ member)
    obtain ⟨taken, _, query, _, callback, _⟩ := originSound.attended there old
    obtain ⟨reference, _⟩ := listener
    cases callback
    obtain ⟨store, known, _, earlier⟩ := evolves.stores there
    rw [writePass, known]
    dsimp only
    by_cases registered : store.isRegistered id = true
    · rw [if_pos registered]
      obtain ⟨other, member⟩ := mem_of_isRegistered registered
      -- Ids are not used twice, so this is the listener that the pass began with.
      obtain rfl := originSound.unique there (earlier _ member taken) old
      obtain ⟨told, refreshed, carries, fresh⟩ := sound.exists_refresh faithful known member
      rw [refreshed]
      obtain ⟨after, passed, went, restFresh⟩ := inductionHypothesis restOld carries.sound
        (evolves.trans originSound carries.evolves)
      refine ⟨after, passed, carries.trans sound went, fun {otherId asked owner} entry active => ?_⟩
      rcases List.mem_cons.mp entry with same | later
      · cases same
        have attends : world.Attends name id reference query := ⟨store, known, member⟩
        obtain ⟨activeTold, attendsTold⟩ :=
          carries.evolves.between sound went.evolves attends active
        exact went.fresh attendsTold active (fresh activeTold)
      · exact restFresh later active
    · rw [if_neg registered]
      obtain ⟨after, passed, went, restFresh⟩ := inductionHypothesis restOld sound evolves
      refine ⟨after, passed, went, fun {otherId asked owner} entry active => ?_⟩
      rcases List.mem_cons.mp entry with same | later
      · cases same
        -- An active live query would still have its listener.
        obtain ⟨_, _, same, member⟩ :=
          evolves.between originSound went.evolves ⟨first, there, old⟩ active
        obtain rfl := Option.some.inj (known.symm.trans same)
        exact absurd (isRegistered_of_mem member) registered
      · exact restFresh later active

/-- A change of a store's documents that concerns only listeners that cover a location. -/
structure Touches (segments : Segments) (change : Store Callback → Store Callback) : Prop where
  listeners : ∀ store, (change store).listeners = store.listeners
  nextListener : ∀ store, (change store).nextListener = store.nextListener
  elsewhere : ∀ {listener : Listener Callback}, listener.covers segments = false → ∀ store,
    (change store).read listener.reference = store.read listener.reference

theorem touches_write (segments : Segments) (data : Entries) :
    Touches segments (Store.write segments data) :=
  ⟨fun _ => rfl, fun _ => rfl,
    fun uncovered store => Query.read_put uncovered data store.documents⟩

theorem touches_remove (segments : Segments) : Touches segments (Store.remove segments) :=
  ⟨fun _ => rfl, fun _ => rfl, fun uncovered store => Query.read_takeOut uncovered store.documents⟩

theorem Touches.shrinks {segments : Segments} {change : Store Callback → Store Callback}
    (touches : Touches segments change) : Shrinks change :=
  ⟨fun store entry member => by rwa [touches.listeners] at member, touches.nextListener⟩

/-- A change of documents with the pass that follows it carries freshness on. -/
theorem Sound.exists_changePass (sound : world.Sound) (faithful : Faithful performer)
    {name : Text} {store : Store Callback} (there : world.store? name = some store)
    {segments : Segments} {change : Store Callback → Store Callback}
    (touches : Touches segments change) :
    ∃ after, (world.updateStore name change).writePass performer name (store.concerned segments) =
      (.ok (), after) ∧ world.Carries after := by
  have changed : (world.updateStore name change).store? name = some (change store) := by
    rw [store?_updateStore, if_pos rfl, there, Option.map_some]
  have changedSound := sound.updateStore touches.shrinks name
  have evolves : world.Evolves (world.updateStore name change) := by
    refine .updateStore touches.shrinks name fun attends _ other found => ?_
    obtain ⟨_, same, member⟩ := attends
    obtain rfl := Option.some.inj (found.symm.trans same)
    rwa [touches.listeners]
  have subset : ∀ entry ∈ store.concerned segments, entry ∈ (change store).listeners := by
    intro entry member
    rw [touches.listeners]
    exact (List.mem_filter.mp member).1
  obtain ⟨stores, same⟩ := exists_updateStore name change world
  obtain ⟨after, passed, went, told⟩ :=
    exists_writePass faithful changedSound changed subset changedSound (.refl _)
  refine ⟨after, passed, went.sound, evolves.trans sound went.evolves,
    fun {other id reference query} attends active fresh => ?_, fun member => ?_⟩
  · obtain ⟨_, attendsChanged⟩ := evolves.between sound went.evolves attends active
    have unheard (recipient : Nat) : (world.updateStore name change).lastStanding recipient =
        world.lastStanding recipient := by
      rw [same]
      rfl
    -- Covered listeners are told by the pass. What all others read is as it was.
    by_cases elsewhere : other = name
    · subst elsewhere
      obtain ⟨_, found, member⟩ := attends
      obtain rfl := Option.some.inj (there.symm.trans found)
      by_cases covers : (⟨reference, .live query⟩ : Listener Callback).covers segments = true
      · exact told (List.mem_filter.mpr ⟨member, covers⟩) active
      · have untouched := touches.elsewhere (Bool.not_eq_true _ ▸ covers) store
        refine went.fresh attendsChanged active (fresh.of_evolves evolves unheard ?_)
        rw [documentsAt, documentsAt, changed, there]
        exact congrArg some untouched
    · refine went.fresh attendsChanged active (fresh.of_evolves evolves unheard ?_)
      rw [documentsAt, documentsAt, store?_updateStore, if_neg elsewhere]
  · rcases went.bound member with known | served
    · rw [same] at known
      exact .inl known
    · exact .inr served

/-! ### The pass that reports a failure -/

theorem exists_reportPass (faithful : Faithful performer) (failure : Failure)
    {entries : List (Nat × Listener Callback)}
    (live : ∀ entry ∈ entries, ∃ query, entry.2.callback = .live query) (sound : world.Sound) :
    ∃ after, world.reportPass performer failure entries = (.ok (), after) ∧
      world.Carries after := by
  induction entries generalizing world with
  | nil => exact ⟨world, rfl, .refl sound⟩
  | cons entry rest inductionHypothesis =>
    obtain ⟨id, listener⟩ := entry
    obtain ⟨query, callback⟩ := live (id, listener) List.mem_cons_self
    have restLive : ∀ entry ∈ rest, ∃ query, entry.2.callback = .live query :=
      fun entry member => live entry (List.mem_cons_of_mem _ member)
    have called : listener.callback = .live query := callback
    rw [reportPass, called]
    have told : world.Carries (world.receiveFailure performer query .report failure) :=
      sound.carries_receiveFailure faithful nofun
    obtain ⟨after, passed, went⟩ := inductionHypothesis restLive told.sound
    exact ⟨after, passed, told.trans sound went⟩

end World

end DocQuery
