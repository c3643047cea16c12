/-
This file says what the single operations on a state of live queries carry on.

Each operation touches one part of the state. Adding a recipient, a live query or a listener, counting a
delivery, handing out a release and reporting a failure are quiet: nobody is told how a reference
stands, and no document changes. Telling somebody how a reference stands is right if it is told what
asking once gives. Only a change of documents loses freshness, and only of those it concerns.
-/

import DocQuery.Proofs.Live.Standing

namespace DocQuery

theorem areLive_of_mem {reactions : List Reaction} (live : AreLive reactions)
    {reaction : Reaction} (member : reaction ∈ reactions) : reaction.IsLive := by
  induction reactions with
  | nil => cases member
  | cons first rest inductionHypothesis =>
    rw [AreLive] at live
    rcases List.mem_cons.mp member with rfl | later
    · exact live.1
    · exact inductionHypothesis live.2 later

namespace World

variable {world : World}

/-! ### Remarks -/

/-- Notices, and the mark of a script that went too deep, touch nothing else. -/
theorem Sound.carries_remark (sound : world.Sound) (notices : List Notice) (cutShort : Bool) :
    world.Carries { world with notices := notices, cutShort := cutShort } := by
  have kept : ({ world with notices := notices, cutShort := cutShort } : World).Sound :=
    ⟨sound.attended, sound.unique, sound.releases, sound.sinks, sound.apart,
      sound.scripts⟩
  exact .of_quiet kept (.of_stores_eq rfl fun present => ⟨_, present, .refl _⟩) (fun _ => rfl)
    (fun _ => rfl) rfl

/-! ### Recipients and live queries -/

theorem Sound.carries_addRecipient (sound : world.Sound) (name : Text)
    {reactions : List Reaction} (live : AreLive reactions) :
    world.Carries (world.addRecipient name reactions).2 := by
  have kept : (world.addRecipient name reactions).2.Sound := by
    refine ⟨sound.attended, sound.unique, sound.releases, fun present => ?_,
      sound.apart, fun recipient member => ?_⟩
    · obtain ⟨recipient, sink, there⟩ := sound.sinks present
      refine ⟨recipient, sink, ?_⟩
      rw [addRecipient, List.length_append]
      exact Nat.lt_add_right _ there
    · rcases List.mem_append.mp member with known | new
      · exact sound.scripts recipient known
      · rw [List.mem_singleton.mp new]
        exact live
  exact .of_quiet kept (.of_stores_eq rfl fun present => ⟨_, present, .refl _⟩) (fun _ => rfl)
    (fun _ => rfl) rfl

theorem getElem?_concat_eq_some {α : Type} {items : List α} {item found : α} {index : Nat} :
    (items ++ [item])[index]? = some found ↔
      items[index]? = some found ∨ index = items.length ∧ item = found := by
  rcases Nat.lt_trichotomy index items.length with inside | same | outside
  · rw [List.getElem?_append_left inside]
    simp [Nat.ne_of_lt inside]
  · subst same
    simp
  · rw [List.getElem?_eq_none (by simp; omega), List.getElem?_eq_none (Nat.le_of_lt outside)]
    simp [Nat.ne_of_gt outside]

/-- A new live query delivers to a recipient that no other one delivers to. -/
theorem Sound.carries_addQuery (sound : world.Sound) {query : LiveQuery} {recipient : Nat}
    (sink : query.sink = .recipient recipient) (there : recipient < world.recipients.length)
    (unused : ∀ {other : Nat} {found : LiveQuery}, world.queries[other]? = some found →
      found.sink ≠ .recipient recipient)
    (unreleased : query.handle.release = none) :
    world.Carries (world.addQuery query).2 := by
  have grown {index : Nat} {found : LiveQuery} (present : world.queries[index]? = some found) :
      (world.addQuery query).2.queries[index]? = some found :=
    getElem?_concat_eq_some.mpr (.inl present)
  have known {index : Nat} {found : LiveQuery}
      (present : (world.addQuery query).2.queries[index]? = some found) :
      world.queries[index]? = some found ∨ index = world.queries.length ∧ query = found :=
    getElem?_concat_eq_some.mp present
  have kept : (world.addQuery query).2.Sound := by
    refine ⟨fun found member => ?_, sound.unique, fun present released => ?_,
      fun present => ?_, fun present other same => ?_, sound.scripts⟩
    · obtain ⟨taken, named, owner, asked, callback, present, reads⟩ := sound.attended found member
      exact ⟨taken, named, owner, asked, callback, grown present, reads⟩
    · rcases known present with before | ⟨_, rfl⟩
      · exact sound.releases before released
      · rw [unreleased] at released
        cases released
    · rcases known present with before | ⟨_, rfl⟩
      · exact sound.sinks before
      · exact ⟨recipient, sink, there⟩
    · rcases known present with before | ⟨index, rfl⟩
      · rcases known other with otherBefore | ⟨_, rfl⟩
        · exact sound.apart before otherBefore same
        · exact absurd (same.trans sink) (unused before)
      · rcases known other with otherBefore | ⟨otherIndex, rfl⟩
        · exact absurd (same.symm.trans sink) (unused otherBefore)
        · rw [index, otherIndex]
  exact .of_quiet kept (.of_stores_eq rfl fun present => ⟨_, grown present, .refl _⟩)
    (fun _ => rfl) (fun _ => rfl) rfl

/-! ### Handles -/

theorem queries_updateHandle (query other : Nat)
    (change : Subscription Release → Subscription Release) (world : World) :
    (world.updateHandle query change).queries[other]? = (world.queries[other]?).map fun found =>
      if query = other then { found with handle := change found.handle } else found :=
  List.getElem?_modify ..

/-- A change of a handle that a live query can go through: it stays on its path, is not made
active, and has no release but for its own listener. -/
structure Suits (query : Nat) (change : Subscription Release → Subscription Release)
    (world : World) (found : LiveQuery) : Prop where
  type : (change found.handle).type = found.handle.type
  path : (change found.handle).path = found.handle.path
  active : (change found.handle).active = true → found.handle.active = true
  owns : ∀ {name id}, (change found.handle).release = some (.listener name id) →
    world.Owns query name id

theorem Sound.carries_updateHandle (sound : world.Sound) {query : Nat}
    {change : Subscription Release → Subscription Release}
    (suits : ∀ {found}, world.queries[query]? = some found → world.Suits query change found) :
    world.Carries (world.updateHandle query change) := by
  have known {index : Nat} {found : LiveQuery}
      (present : (world.updateHandle query change).queries[index]? = some found) :
      ∃ before, world.queries[index]? = some before ∧ found.Continues before ∧
        ∀ {name id}, found.handle.release = some (.listener name id) →
          world.Owns index name id := by
    rw [queries_updateHandle] at present
    obtain ⟨before, there, rfl⟩ := Option.map_eq_some_iff.mp present
    refine ⟨before, there, ?_⟩
    by_cases same : query = index
    · subst same
      rw [if_pos rfl]
      have fits := suits there
      exact ⟨⟨fits.type, fits.path, rfl, rfl, rfl, fits.active⟩, fits.owns⟩
    · rw [if_neg same]
      exact ⟨.refl before, sound.releases there⟩
  have grown {index : Nat} {found : LiveQuery} (present : world.queries[index]? = some found) :
      ∃ after, (world.updateHandle query change).queries[index]? = some after ∧
        after.Continues found := by
    obtain ⟨after, there⟩ : ∃ after,
        (world.updateHandle query change).queries[index]? = some after := by
      rw [queries_updateHandle, present]
      exact ⟨_, rfl⟩
    obtain ⟨before, same, continues, _⟩ := known there
    obtain rfl := Option.some.inj (present.symm.trans same)
    exact ⟨after, there, continues⟩
  have kept : (world.updateHandle query change).Sound := by
    refine ⟨fun found member => ?_, sound.unique, fun present released => ?_,
      fun present => ?_, fun present other same => ?_, sound.scripts⟩
    · obtain ⟨taken, named, owner, asked, callback, present, reads⟩ := sound.attended found member
      obtain ⟨after, there, continues⟩ := grown present
      exact ⟨taken, named, owner, after, callback, there, reads.later continues⟩
    · obtain ⟨_, _, _, owns⟩ := known present
      exact owns released
    · obtain ⟨before, there, continues, _⟩ := known present
      obtain ⟨recipient, sink, inside⟩ := sound.sinks there
      exact ⟨recipient, continues.sink.trans sink, inside⟩
    · obtain ⟨before, there, continues, _⟩ := known present
      obtain ⟨otherBefore, otherThere, otherContinues, _⟩ := known other
      exact sound.apart there otherThere (continues.sink.symm.trans (same.trans otherContinues.sink))
  exact .of_quiet kept (.of_stores_eq rfl grown) (fun _ => rfl) (fun _ => rfl) rfl

/-- Counting a delivery is such a change. -/
theorem Sound.carries_count (sound : world.Sound) (query : Nat) :
    world.Carries (world.updateHandle query Subscription.count) :=
  sound.carries_updateHandle fun present => ⟨rfl, rfl, id, sound.releases present⟩

/-! ### Listeners and documents -/

/-- What is found in a state after a store was changed. -/
theorem store?_updateStore_cases {name other : Text} {change : Store Callback → Store Callback}
    {after : Store Callback} (there : (world.updateStore name change).store? other = some after) :
    ∃ store, world.store? other = some store ∧
      (other = name ∧ after = change store ∨ other ≠ name ∧ after = store) := by
  rw [store?_updateStore] at there
  by_cases same : other = name
  · rw [if_pos same] at there
    obtain ⟨store, found, rfl⟩ := Option.map_eq_some_iff.mp there
    exact ⟨store, found, .inl ⟨same, rfl⟩⟩
  · rw [if_neg same] at there
    exact ⟨after, there, .inr ⟨same, rfl⟩⟩

theorem queries_updateStore (name : Text) (change : Store Callback → Store Callback)
    (world : World) : (world.updateStore name change).queries = world.queries := by
  obtain ⟨stores, same⟩ := exists_updateStore name change world
  rw [same]

theorem queries_carryOutAny (release : Option Release) (world : World) :
    (world.carryOutAny release).queries = world.queries := by
  cases release with
  | none => rfl
  | some release =>
    cases release with
    | listener name id =>
      exact queries_updateStore name (Store.unregister id) world
    | feed path => rfl
    | watch index => rfl

/-- A live query that was cancelled is not active. -/
theorem not_isActive_cancelQuery (query : Nat) (world : World) :
    ¬ (world.cancelQuery query).IsActive query := by
  rintro ⟨found, present, active⟩
  rw [cancelQuery] at present
  split at present
  · next none =>
    rw [none] at present
    cases present
  · next before known =>
    rw [queries_carryOutAny, queries_updateHandle, known, Option.map_some, if_pos rfl] at present
    cases present
    exact absurd (before.handle.active_cancel.symm.trans active) Bool.false_ne_true

/-- A change of a store that adds no listener. -/
structure Shrinks (change : Store Callback → Store Callback) : Prop where
  listeners : ∀ store, ∀ entry ∈ (change store).listeners, entry ∈ store.listeners
  nextListener : ∀ store, (change store).nextListener = store.nextListener

/-- A listener that is there after such a change was there before. -/
theorem Shrinks.attends {change : Store Callback → Store Callback} (shrinks : Shrinks change)
    {name other : Text} {id : Nat} {reference : Reference} {query : Nat}
    (attends : (world.updateStore name change).Attends other id reference query) :
    world.Attends other id reference query := by
  obtain ⟨after, there, member⟩ := attends
  obtain ⟨store, found, ⟨_, rfl⟩ | ⟨_, rfl⟩⟩ := store?_updateStore_cases there
  · exact ⟨store, found, shrinks.listeners store _ member⟩
  · exact ⟨after, found, member⟩

theorem Sound.updateStore (sound : world.Sound) {change : Store Callback → Store Callback}
    (shrinks : Shrinks change) (name : Text) : (world.updateStore name change).Sound := by
  have known {other : Text} {after : Store Callback}
      (there : (world.updateStore name change).store? other = some after) :
      ∃ store, world.store? other = some store ∧ after.nextListener = store.nextListener ∧
        ∀ entry ∈ after.listeners, entry ∈ store.listeners := by
    obtain ⟨store, found, ⟨_, rfl⟩ | ⟨_, rfl⟩⟩ := store?_updateStore_cases there
    · exact ⟨store, found, shrinks.nextListener store, shrinks.listeners store⟩
    · exact ⟨after, found, rfl, fun _ member => member⟩
  obtain ⟨stores, same⟩ := exists_updateStore name change world
  refine ⟨fun there member => ?_, fun there member other => ?_, fun present released => ?_,
    ?_, ?_, ?_⟩
  · obtain ⟨store, found, next, subset⟩ := known there
    rw [next, same]
    exact sound.attended found (subset _ member)
  · obtain ⟨store, found, _, subset⟩ := known there
    exact sound.unique found (subset _ member) (subset _ other)
  · intro after there
    obtain ⟨store, found, next, subset⟩ := known there
    rw [same] at present
    obtain ⟨taken, single⟩ := sound.releases present released store found
    exact ⟨next ▸ taken, fun listener member => single listener (subset _ member)⟩
  · rw [same]
    exact sound.sinks
  · rw [same]
    exact sound.apart
  · rw [same]
    exact sound.scripts

theorem Evolves.updateStore {change : Store Callback → Store Callback} (shrinks : Shrinks change)
    (name : Text)
    (kept : ∀ {id reference query}, world.Attends name id reference query →
      world.IsActive query → ∀ {store}, world.store? name = some store →
        (id, ⟨reference, .live query⟩) ∈ (change store).listeners) :
    world.Evolves (world.updateStore name change) := by
  obtain ⟨stores, same⟩ := exists_updateStore name change world
  have isActive {query : Nat} (active : (world.updateStore name change).IsActive query) :
      world.IsActive query := by rwa [same] at active
  refine ⟨fun present => ?_, fun {other store} found => ?_,
    fun {other id reference query} attends active => ?_⟩
  · rw [same]
    exact ⟨_, present, .refl _⟩
  · rw [store?_updateStore, found]
    by_cases equal : other = name
    · rw [if_pos equal]
      exact ⟨_, rfl, Nat.le_of_eq (shrinks.nextListener store).symm,
        fun entry member _ => shrinks.listeners store entry member⟩
    · rw [if_neg equal]
      exact ⟨store, rfl, Nat.le_refl _, fun _ member _ => member⟩
  · obtain ⟨store, found, member⟩ := attends
    by_cases equal : other = name
    · subst equal
      refine ⟨change store, ?_, kept ⟨store, found, member⟩ (isActive active) found⟩
      rw [store?_updateStore, if_pos rfl, found, Option.map_some]
    · refine ⟨store, ?_, member⟩
      rw [store?_updateStore, if_neg equal, found]

theorem shrinks_unregister (id : Nat) : Shrinks (Store.unregister id) :=
  ⟨fun _ _ member => (List.mem_filter.mp member).1, fun _ => rfl⟩

theorem shrinks_write (segments : Segments) (entries : Entries) :
    Shrinks (Store.write segments entries) :=
  ⟨fun _ _ => id, fun _ => rfl⟩

theorem shrinks_remove (segments : Segments) : Shrinks (Store.remove segments) :=
  ⟨fun _ _ => id, fun _ => rfl⟩

theorem shrinks_close : Shrinks Store.close :=
  ⟨fun _ _ member => absurd member List.not_mem_nil, fun _ => rfl⟩

/-- A change of a store that touches its listeners only leaves all documents. -/
theorem documentsAt_updateStore {change : Store Callback → Store Callback}
    (documents : ∀ store, (change store).documents = store.documents) (name other : Text)
    (world : World) : (world.updateStore name change).documentsAt other = world.documentsAt other := by
  rw [documentsAt, documentsAt, store?_updateStore]
  split
  · rw [Option.map_map]
    exact congrArg (Option.map · (world.store? other)) (funext documents)
  · rfl

/-- Such a change is quiet. -/
theorem Carries.updateStore {name : Text} {change : Store Callback → Store Callback}
    (sound : (world.updateStore name change).Sound)
    (evolves : world.Evolves (world.updateStore name change))
    (documents : ∀ store, (change store).documents = store.documents) :
    world.Carries (world.updateStore name change) := by
  obtain ⟨stores, same⟩ := exists_updateStore name change world
  refine .of_quiet sound evolves (fun _ => ?_)
    (fun other => documentsAt_updateStore documents name other world) ?_
  · rw [same]
    rfl
  · rw [same]

/-- Removing the listener of a query that is not active is quiet. -/
theorem Sound.carries_unregister (sound : world.Sound) {query : Nat} {name : Text} {id : Nat}
    (owned : world.Owns query name id) (inactive : ¬ world.IsActive query) :
    world.Carries (world.updateStore name (Store.unregister id)) := by
  refine .updateStore (sound.updateStore (shrinks_unregister id) name)
    (.updateStore (shrinks_unregister id) name fun {other reference owner} attends active => ?_)
    fun _ => rfl
  intro store found
  obtain ⟨known, there, member⟩ := attends
  obtain rfl := Option.some.inj (found.symm.trans there)
  refine List.mem_filter.mpr ⟨member, decide_eq_true fun same => inactive ?_⟩
  have equal : other = id := same
  subst equal
  cases (owned store found).2 _ member
  exact active

/-- A listener of a state in which one was registered is an earlier one or the new one. -/
theorem register_cases {name other : Text} {listener : Listener Callback} {after : Store Callback}
    (there : (world.updateStore name (Store.register listener)).store? other = some after) :
    ∃ store, world.store? other = some store ∧ store.nextListener ≤ after.nextListener ∧
      ∀ entry ∈ after.listeners, entry ∈ store.listeners ∨
        other = name ∧ entry = (store.nextListener, listener) ∧
          after.nextListener = store.nextListener + 1 := by
  obtain ⟨store, before, ⟨same, rfl⟩ | ⟨_, rfl⟩⟩ := store?_updateStore_cases there
  · refine ⟨store, before, Nat.le_succ _, fun entry member => ?_⟩
    refine (List.mem_append.mp member).imp_right fun new => ?_
    exact ⟨same, List.mem_singleton.mp new, rfl⟩
  · exact ⟨after, before, Nat.le_refl _, fun _ member => .inl member⟩

theorem Sound.register (sound : world.Sound) {name : Text} {reference : Reference}
    (named : reference.IsNamed) {query : Nat} {found : LiveQuery}
    (present : world.queries[query]? = some found) (reads : found.Reads name reference) :
    (world.updateStore name (Store.register ⟨reference, .live query⟩)).Sound := by
  -- The id of the new listener is above all ids in use, so it is nobody else's.
  have unused {other : Text} {store : Store Callback} {listener : Listener Callback}
      (before : world.store? other = some store) :
      (store.nextListener, listener) ∉ store.listeners :=
    fun old => Nat.lt_irrefl _ (sound.attended before old).1
  obtain ⟨stores, same⟩ := exists_updateStore name (Store.register ⟨reference, .live query⟩) world
  refine ⟨fun there member => ?_, fun there member other => ?_, fun asked released => ?_, ?_, ?_, ?_⟩
  · obtain ⟨store, before, grown, cases⟩ := register_cases there
    rw [same]
    rcases cases _ member with old | ⟨rfl, new, next⟩
    · obtain ⟨taken, rest⟩ := sound.attended before old
      exact ⟨Nat.lt_of_lt_of_le taken grown, rest⟩
    · cases new
      exact ⟨next ▸ Nat.lt_succ_self _, named, query, found, rfl, present, reads⟩
  · obtain ⟨store, before, _, cases⟩ := register_cases there
    rcases cases _ member with old | ⟨_, new, _⟩
    · rcases cases _ other with otherOld | ⟨_, otherNew, _⟩
      · exact sound.unique before old otherOld
      · cases otherNew
        exact absurd old (unused before)
    · cases new
      rcases cases _ other with otherOld | ⟨_, otherNew, _⟩
      · exact absurd otherOld (unused before)
      · cases otherNew
        rfl
  · rw [same] at asked
    intro after there
    obtain ⟨store, before, grown, cases⟩ := register_cases there
    obtain ⟨taken, single⟩ := sound.releases asked released store before
    refine ⟨Nat.lt_of_lt_of_le taken grown, fun listener member => ?_⟩
    rcases cases _ member with old | ⟨_, new, _⟩
    · exact single listener old
    · cases new
      exact absurd taken (Nat.lt_irrefl _)
  · rw [same]
    exact sound.sinks
  · rw [same]
    exact sound.apart
  · rw [same]
    exact sound.scripts

theorem Evolves.register (name : Text) (listener : Listener Callback) (world : World) :
    world.Evolves (world.updateStore name (Store.register listener)) := by
  obtain ⟨stores, same⟩ := exists_updateStore name (Store.register listener) world
  refine ⟨fun present => ?_, fun {other store} before => ?_,
    fun {other id asked owner} attends _ => ?_⟩
  · rw [same]
    exact ⟨_, present, .refl _⟩
  · obtain ⟨after, there⟩ :
        ∃ after, (world.updateStore name (Store.register listener)).store? other = some after := by
      rw [store?_updateStore, before]
      split <;> exact ⟨_, rfl⟩
    obtain ⟨earlier, found, grown, cases⟩ := register_cases there
    obtain rfl := Option.some.inj (before.symm.trans found)
    refine ⟨after, there, grown, fun entry member taken => ?_⟩
    rcases cases entry member with old | ⟨_, rfl, _⟩
    · exact old
    · exact absurd taken (Nat.lt_irrefl _)
  · obtain ⟨store, before, member⟩ := attends
    by_cases equal : other = name
    · refine ⟨store.register listener, ?_, List.mem_append_left _ member⟩
      rw [store?_updateStore, if_pos equal, before, Option.map_some]
    · exact ⟨store, by rw [store?_updateStore, if_neg equal, before], member⟩

/-- Registering the listener of a live query is quiet. -/
theorem Sound.carries_register (sound : world.Sound) {name : Text} {reference : Reference}
    (named : reference.IsNamed) {query : Nat} {found : LiveQuery}
    (present : world.queries[query]? = some found) (reads : found.Reads name reference) :
    world.Carries (world.updateStore name (Store.register ⟨reference, .live query⟩)) :=
  .updateStore (sound.register named present reads) (.register name _ world) fun _ => rfl

/-! ### Releases -/

/-- A release that a live query may carry out: a listener of its own, which is no longer wanted. -/
theorem Sound.carries_carryOut (sound : world.Sound) (query : Nat) {release : Option Release}
    (owned : ∀ {name id}, release = some (.listener name id) → world.Owns query name id)
    (inactive : release ≠ none → ¬ world.IsActive query) :
    world.Carries (world.carryOutAny release) := by
  cases release with
  | none => exact .refl sound
  | some release =>
    cases release with
    | listener name id => exact sound.carries_unregister (owned rfl) (inactive (by simp))
    | feed path =>
      have kept : ({ world with released := world.released ++ [path] } : World).Sound :=
        ⟨sound.attended, sound.unique, sound.releases, sound.sinks, sound.apart,
          sound.scripts⟩
      exact .of_quiet kept (.of_stores_eq rfl fun present => ⟨_, present, .refl _⟩) (fun _ => rfl)
        (fun _ => rfl) rfl
    | watch index => exact .refl sound

theorem not_isActive_updateHandle {query : Nat}
    {change : Subscription Release → Subscription Release}
    (inactive : ∀ {found}, world.queries[query]? = some found →
      (change found.handle).active = false) :
    ¬ (world.updateHandle query change).IsActive query := by
  rintro ⟨found, present, active⟩
  rw [queries_updateHandle] at present
  obtain ⟨before, there, rfl⟩ := Option.map_eq_some_iff.mp present
  rw [if_pos rfl] at active
  rw [inactive there] at active
  cases active

/-- A change of a handle is known by what it makes of the handle that is there. -/
theorem updateHandle_of_eq {query : Nat} {found : LiveQuery}
    (present : world.queries[query]? = some found)
    {change other : Subscription Release → Subscription Release}
    (same : change found.handle = other found.handle) :
    world.updateHandle query change = world.updateHandle query other := by
  refine congrArg (fun queries => { world with queries := queries })
    (List.ext_getElem? fun index => ?_)
  rw [List.getElem?_modify, List.getElem?_modify]
  by_cases here : query = index
  · subst here
    simp [present, same]
  · simp [here]

theorem updateHandle_id (query : Nat) (world : World) : world.updateHandle query id = world :=
  congrArg (fun queries => { world with queries := queries }) (List.modify_id query world.queries)

/-- Cancelling changes nothing, or it closes the handle and carries out its release. -/
theorem cancelQuery_cases (query : Nat) (world : World) :
    world.cancelQuery query = world ∨ ∃ found, world.queries[query]? = some found ∧
      world.cancelQuery query = (world.updateHandle query fun handle =>
        { handle with release := none, cancelled := true }).carryOutAny found.handle.release := by
  cases present : world.queries[query]? with
  | none => exact .inl (by rw [cancelQuery, present])
  | some found =>
    have cancelled : world.cancelQuery query =
        (world.updateHandle query fun _ => found.handle.cancel.2).carryOutAny
          found.handle.cancel.1 := by
      rw [cancelQuery, present]
    rw [cancelled, Subscription.cancel]
    by_cases already : found.handle.cancelled = true
    · rw [if_pos already]
      left
      calc world.updateHandle query (fun _ => found.handle)
          = world.updateHandle query id := updateHandle_of_eq present rfl
        _ = world := updateHandle_id query world
    · rw [if_neg already]
      exact .inr ⟨found, rfl, congrArg (carryOutAny _) (updateHandle_of_eq present rfl)⟩

/-- An active live query takes a release; one that is cancelled has it carried out at once. -/
theorem attach_cases (query : Nat) (release : Release) (world : World) :
    world.attach query release = world ∨
    world.attach query release =
      world.updateHandle query (fun handle => { handle with release := some release }) ∨
    (∀ {found}, world.queries[query]? = some found → found.handle.active = false) ∧
      world.attach query release =
        (world.updateHandle query fun handle => { handle with release := none }).carryOutAny
          (some release) := by
  cases present : world.queries[query]? with
  | none => exact .inl (by rw [attach, present])
  | some found =>
    have attached : world.attach query release =
        (world.updateHandle query fun _ => (found.handle.attach release).2).carryOutAny
          (found.handle.attach release).1 := by
      rw [attach, present]
    rw [attached, Subscription.attach]
    by_cases already : found.handle.cancelled = true
    · rw [if_pos already]
      refine .inr (.inr ⟨?_, congrArg (carryOutAny _) (updateHandle_of_eq present rfl)⟩)
      intro other known
      obtain rfl := Option.some.inj known
      rw [Subscription.active, already]
      rfl
    · rw [if_neg already]
      right; left
      show world.updateHandle query (fun _ => { found.handle with release := some release }) = _
      exact updateHandle_of_eq present rfl

/-- Cancelling a live query carries out its release and leaves the others as they are. -/
theorem Sound.carries_cancelQuery (sound : world.Sound) (query : Nat) :
    world.Carries (world.cancelQuery query) := by
  obtain same | ⟨found, present, same⟩ := cancelQuery_cases query world <;> rw [same]
  · exact .refl sound
  · have handled : world.Carries (world.updateHandle query fun handle =>
        { handle with release := none, cancelled := true }) :=
      sound.carries_updateHandle fun _ =>
        ⟨rfl, rfl, fun active => (by cases active), fun released => by cases released⟩
    exact handled.trans sound (handled.sound.carries_carryOut query (sound.releases present)
      fun _ => not_isActive_updateHandle fun _ => rfl)

/-- A live query takes the release of its listener, or carries it out at once. -/
theorem Sound.carries_attach (sound : world.Sound) {query : Nat} {name : Text} {id : Nat}
    (owned : world.Owns query name id) :
    world.Carries (world.attach query (.listener name id)) := by
  obtain same | same | ⟨inactive, same⟩ := attach_cases query (.listener name id) world <;>
    rw [same]
  · exact .refl sound
  · refine sound.carries_updateHandle fun _ => ⟨rfl, rfl, fun active => active, fun released => ?_⟩
    cases released
    exact owned
  · have handled : world.Carries (world.updateHandle query fun handle =>
        { handle with release := none }) :=
      sound.carries_updateHandle fun _ =>
        ⟨rfl, rfl, fun active => active, fun released => by cases released⟩
    refine handled.trans sound (handled.sound.carries_carryOut query ?_
      fun _ => not_isActive_updateHandle inactive)
    intro other known same
    cases same
    exact owned

/-! ### Telling -/

theorem tell_eq {recipient : Nat} {known : Recipient}
    (there : world.recipients[recipient]? = some known) (occasion : Occasion) (update : Update) :
    world.tell recipient occasion update =
      { world.countDelivery recipient with
        events := world.events ++
          [⟨recipient, known.name, known.deliveries + 1, occasion, update⟩] } := by
  rw [tell, there]

/-- A delivery that is counted is one more for its recipient, and for nobody else. -/
theorem deliveriesOf_countDelivery (recipient : Nat) (world : World) (other : Nat) :
    (world.countDelivery recipient).deliveriesOf other = world.deliveriesOf other +
      if recipient = other ∧ other < world.recipients.length then 1 else 0 := by
  rw [deliveriesOf, deliveriesOf, countDelivery, List.getElem?_modify]
  by_cases inside : other < world.recipients.length
  · rw [List.getElem?_eq_getElem inside]
    by_cases same : recipient = other
    · simp [same, inside]
    · simp [same]
  · rw [List.getElem?_eq_none (Nat.le_of_not_lt inside)]
    simp [inside]

theorem reactionsOf_countDelivery (recipient : Nat) (world : World) (other : Nat) :
    (world.countDelivery recipient).reactionsOf other = world.reactionsOf other := by
  rw [reactionsOf, reactionsOf, countDelivery, List.getElem?_modify]
  cases world.recipients[other]? with
  | none => rfl
  | some known => by_cases same : recipient = other <;> simp [same]

theorem lastStanding_tell {recipient : Nat} (there : recipient < world.recipients.length)
    (occasion : Occasion) (update : Update) (other : Nat) :
    (world.tell recipient occasion update).lastStanding other =
      if recipient = other ∧ occasion = .standing then some update
      else world.lastStanding other := by
  rw [tell_eq (List.getElem?_eq_getElem there), lastStanding, List.filter_append,
    List.getLast?_append]
  by_cases counts : recipient = other ∧ occasion = .standing
  · obtain ⟨rfl, rfl⟩ := counts
    simp
  · rw [if_neg counts]
    have skipped : (recipient == other && occasion == .standing) = false := by
      rw [← Bool.not_eq_true, Bool.and_eq_true, beq_iff_eq, beq_iff_eq]
      exact counts
    simp [skipped, lastStanding]

theorem Sound.tell (sound : world.Sound) (recipient : Nat) (occasion : Occasion)
    (update : Update) : (world.tell recipient occasion update).Sound := by
  rw [World.tell]
  split
  · exact sound
  · refine ⟨sound.attended, sound.unique, sound.releases, fun present => ?_,
      sound.apart, fun known member => ?_⟩
    · obtain ⟨sink, same, there⟩ := sound.sinks present
      refine ⟨sink, same, ?_⟩
      rw [countDelivery, List.length_modify]
      exact there
    · obtain ⟨index, there⟩ := List.getElem?_of_mem member
      rw [countDelivery, List.getElem?_modify] at there
      obtain ⟨before, found, rfl⟩ := Option.map_eq_some_iff.mp there
      have live := sound.scripts before (List.mem_of_getElem? found)
      split <;> exact live

/-- What a telling of how things stand has to be: what asking once now gives. -/
def Tells (recipient : Nat) (update : Update) (world : World) : Prop :=
  ∀ {name id reference query} {found : LiveQuery}, world.Attends name id reference query →
    world.queries[query]? = some found → found.sink = .recipient recipient →
      update = .ofResult (world.askOnce (found.aim name reference))

/-- Telling carries freshness on, if what is told about how things stand is right. -/
theorem Sound.carries_tell (sound : world.Sound) {recipient : Nat} {occasion : Occasion}
    {update : Update} (right : occasion = .standing → world.Tells recipient update) :
    world.Carries (world.tell recipient occasion update) := by
  have kept := sound.tell recipient occasion update
  cases there : world.recipients[recipient]? with
  | none =>
    rw [World.tell, there]
    exact .refl sound
  | some known =>
    have inside := (List.getElem?_eq_some_iff.mp there).1
    have told := lastStanding_tell inside occasion update
    rw [tell_eq there] at kept told ⊢
    have evolves : world.Evolves { world.countDelivery recipient with
        events := world.events ++
          [⟨recipient, known.name, known.deliveries + 1, occasion, update⟩] } :=
      .of_stores_eq rfl fun present => ⟨_, present, .refl _⟩
    refine ⟨kept, evolves, fun attends _ fresh => ?_, .inl⟩
    obtain ⟨found, sink, present, same, last⟩ := fresh
    refine ⟨found, sink, present, same, ?_⟩
    rw [told]
    split
    · next counts =>
      obtain ⟨rfl, rfl⟩ := counts
      rw [right rfl attends present same]
      rfl
    · exact last

/-! ### Names -/

/-- A live query that is served can be bound to a name. -/
theorem Sound.carries_bindQuery (sound : world.Sound) {name : Text} {query : Nat}
    (served : world.Served query) : world.Carries (world.bindQuery name query) := by
  have kept : (world.bindQuery name query).Sound :=
    ⟨sound.attended, sound.unique, sound.releases, sound.sinks, sound.apart,
      sound.scripts⟩
  refine ⟨kept, .of_stores_eq rfl fun present => ⟨_, present, .refl _⟩, fun _ _ fresh => fresh,
    fun member => ?_⟩
  rcases List.mem_cons.mp member with new | known
  · cases new
    exact .inr served
  · exact .inl known

end World

end DocQuery
