/-
This file says how live queries and the listeners of stores stay arranged.

A listener of a live query is registered by its start, and unregistered by its release, which is
handed out when the query is cancelled. So a live query that somebody holds has its listener as long
as it is active and its store is open; the listeners of a store stand in the order in which their
live queries were started; and nobody else's release unregisters them. All this holds after any run,
whatever listeners do.

Inside a start there is an exception. The listener is registered before the first delivery, and the
live query is bound only after it, so in between it is active with a listener and nobody holds it.
Such a query is loose. What goes on inside the delivery makes no further query loose, and the end of
the start binds this one.
-/

import DocQuery.Proofs.Live.Lasting
import DocQuery.Proofs.Live.Passes

namespace DocQuery

/-- One listener stands before another: its id is smaller, and so is the number of its live query. -/
structure ComesBefore (first second : Nat × Listener Callback) : Prop where
  id : first.1 < second.1
  query : ∀ {one other}, first.2.callback = .live one → second.2.callback = .live other →
    one < other

namespace World

/-! ### Live queries and their holders -/

/-- Somebody holds a live query: it is bound to a name, or its stream is. -/
def IsHeld (query : Nat) (world : World) : Prop :=
  (∃ label, (label, query) ∈ world.queryNames) ∨
    ∃ label index stream, (label, index) ∈ world.streamNames ∧
      world.streams[index]? = some stream ∧ stream.query = query

/-- There is no closed store of a name. -/
def IsOpen (name : Text) (world : World) : Prop :=
  ∀ store, world.store? name = some store → store.closed = false

/-- A live query that has its listener, if it is active and reads in an open store. -/
def Listens (query : Nat) (world : World) : Prop :=
  ∃ found, world.queries[query]? = some found ∧ (found.handle.active = true →
    ∀ {name reference store}, found.source = some (.store name reference) →
      world.store? name = some store → world.IsOpen name →
        ∃ id, world.Attends name id reference query)

/-- An active live query that has a listener, and that nobody holds. -/
structure IsLoose (query : Nat) (world : World) : Prop where
  active : world.IsActive query
  listens : ∃ name id reference, world.Attends name id reference query
  unheld : ¬ world.IsHeld query

/-- An id is taken in a store, and stands for fitting callbacks only. -/
def IsFor (fits : Callback → Prop) (name : Text) (id : Nat) (world : World) : Prop :=
  ∀ store, world.store? name = some store → id < store.nextListener ∧
    ∀ listener, (id, listener) ∈ store.listeners → fits listener.callback

/-- The callback of a listener that was installed on a reference itself. -/
def IsRecipient (callback : Callback) : Prop := ∃ recipient, callback = .recipient recipient

/-- Listeners stand in the order in which they were registered, those of live queries where these
read, and releases and names of listeners are for nobody else's. -/
structure Arranged (world : World) : Prop where
  taken : ∀ {name store entry}, world.store? name = some store → entry ∈ store.listeners →
    entry.1 < store.nextListener
  ordered : ∀ {name store}, world.store? name = some store → store.listeners.Pairwise ComesBefore
  reads : ∀ {name id reference query}, world.Attends name id reference query →
    ∃ found, world.queries[query]? = some found ∧ found.source = some (.store name reference)
  releases : ∀ {query : Nat} {found : LiveQuery} {name id}, world.queries[query]? = some found →
    found.handle.release = some (.listener name id) → world.IsFor (· = .live query) name id
  installed : ∀ {label name id}, (label, name, id) ∈ world.listenerNames →
    world.IsFor IsRecipient name id
  streams : ∀ {label index}, (label, index) ∈ world.streamNames → index < world.streams.length

/-- What a state keeps of an earlier one, up to live queries that nobody holds. -/
structure Retains (world later : World) : Prop where
  queries : ∀ {query : Nat} {found : LiveQuery}, world.queries[query]? = some found →
    ∃ after, later.queries[query]? = some after ∧ after.Continues found
  stores : ∀ {name after}, later.store? name = some after → ∃ store,
    world.store? name = some store ∧ store.nextListener ≤ after.nextListener ∧
      (store.closed = true → after.closed = true) ∧
        ∀ entry ∈ after.listeners, entry ∈ store.listeners ∨ store.nextListener ≤ entry.1
  present : ∀ {name store}, world.store? name = some store →
    ∃ after, later.store? name = some after
  listeners : ∀ {name id reference query}, world.Attends name id reference query →
    later.IsActive query → later.IsOpen name → later.Attends name id reference query
  streams : ∀ {index : Nat} {stream : LiveStream}, world.streams[index]? = some stream →
    ∃ after, later.streams[index]? = some after ∧ after.query = stream.query
  held : ∀ {query}, world.IsHeld query → later.IsHeld query
  given : ∀ {query}, later.IsHeld query → world.IsHeld query ∨ later.Listens query
  arranged : later.Arranged

/-- A state settles to a later one: what is there stays arranged, and no live query is loose that
was not loose before. -/
structure Settles (world later : World) : Prop extends world.Retains later where
  loose : ∀ {query}, later.IsLoose query → world.IsLoose query

/-- A state that is arranged settles to a later one. -/
def Settling (world later : World) : Prop := world.Arranged → world.Settles later

namespace Retains

variable {first second third : World}

theorem refl {world : World} (arranged : world.Arranged) : world.Retains world :=
  ⟨fun present => ⟨_, present, .refl _⟩,
    fun there => ⟨_, there, Nat.le_refl _, id, fun _ => .inl⟩, fun there => ⟨_, there⟩,
    fun attends _ _ => attends,
    fun present => ⟨_, present, rfl⟩, id, .inl, arranged⟩

theorem isActive (retains : first.Retains second) {query : Nat} {found : LiveQuery}
    (present : first.queries[query]? = some found) (active : second.IsActive query) :
    first.IsActive query := by
  obtain ⟨after, later, continues⟩ := retains.queries present
  obtain ⟨other, same, activeAfter⟩ := active
  obtain rfl := Option.some.inj (later.symm.trans same)
  exact ⟨found, present, continues.active activeAfter⟩

/-- A store that is open later is open before. -/
theorem isOpen (retains : first.Retains second) {name : Text} (isOpen : second.IsOpen name) :
    first.IsOpen name := by
  intro store known
  obtain ⟨after, there⟩ := retains.present known
  obtain ⟨before, found, _, closes, _⟩ := retains.stores there
  obtain rfl := Option.some.inj (known.symm.trans found)
  rw [isOpen after there] at closes
  rw [← Bool.not_eq_true]
  exact fun closed => nomatch closes closed

theorem listens (retains : first.Retains second) {query : Nat} (listens : first.Listens query) :
    second.Listens query := by
  obtain ⟨found, present, listener⟩ := listens
  obtain ⟨after, later, continues⟩ := retains.queries present
  refine ⟨after, later, fun active name reference store source there isOpen => ?_⟩
  obtain ⟨before, known, _⟩ := retains.stores there
  obtain ⟨id, attends⟩ := listener (continues.active active) (continues.source.symm.trans source)
    known (retains.isOpen isOpen)
  exact ⟨id, retains.listeners attends ⟨after, later, active⟩ isOpen⟩

theorem isFor (retains : first.Retains second) {fits : Callback → Prop} {name : Text} {id : Nat}
    (owned : first.IsFor fits name id) : second.IsFor fits name id := by
  intro after there
  obtain ⟨store, known, more, _, listeners⟩ := retains.stores there
  obtain ⟨taken, single⟩ := owned store known
  refine ⟨Nat.lt_of_lt_of_le taken more, fun listener member => ?_⟩
  rcases listeners _ member with old | new
  · exact single listener old
  · exact absurd taken (Nat.not_lt.mpr new)

theorem trans (arranged : first.Arranged) (retains : first.Retains second)
    (further : second.Retains third) : first.Retains third where
  queries present := by
    obtain ⟨after, later, continues⟩ := retains.queries present
    obtain ⟨last, there, continuing⟩ := further.queries later
    exact ⟨last, there, continuing.trans continues⟩
  stores there := by
    obtain ⟨middle, known, more, closes, new⟩ := further.stores there
    obtain ⟨store, found, fewer, closed, old⟩ := retains.stores known
    refine ⟨store, found, Nat.le_trans fewer more, closes ∘ closed, fun entry member => ?_⟩
    rcases new entry member with earlier | later
    · exact old entry earlier
    · exact .inr (Nat.le_trans fewer later)
  listeners attends active isOpen := by
    obtain ⟨found, known, _⟩ := arranged.reads attends
    obtain ⟨after, later, _⟩ := retains.queries known
    exact further.listeners
      (retains.listeners attends (further.isActive later active) (further.isOpen isOpen)) active
        isOpen
  present known := by
    obtain ⟨middle, there⟩ := retains.present known
    exact further.present there
  streams known := by
    obtain ⟨middle, known, same⟩ := retains.streams known
    obtain ⟨last, there, equal⟩ := further.streams known
    exact ⟨last, there, equal.trans same⟩
  held := further.held ∘ retains.held
  given held := by
    rcases further.given held with between | listens
    · exact (retains.given between).imp_right further.listens
    · exact .inr listens
  arranged := further.arranged

end Retains

theorem Settles.refl {world : World} (arranged : world.Arranged) : world.Settles world :=
  ⟨.refl arranged, id⟩

theorem Settles.trans {first second third : World} (settles : first.Settles second)
    (arranged : first.Arranged) (further : second.Settles third) : first.Settles third :=
  ⟨settles.toRetains.trans arranged further.toRetains, settles.loose ∘ further.loose⟩

theorem Settling.trans {first second third : World} (settling : Settling first second)
    (further : Settling second third) : Settling first third := by
  intro arranged
  have settles := settling arranged
  exact settles.trans arranged (further settles.arranged)

/-! ### Operations on live queries -/

variable {world later : World}

/-- What leaves stores and names as they are, and takes no live query or stream away, settles. -/
theorem Arranged.settles_of_stores_eq (arranged : world.Arranged)
    (stores : later.stores = world.stores)
    (installed : ∀ {label name id}, (label, name, id) ∈ later.listenerNames →
      world.IsFor IsRecipient name id)
    (queryNames : later.queryNames = world.queryNames)
    (streamNames : later.streamNames = world.streamNames)
    (queries : ∀ {query : Nat} {found : LiveQuery}, world.queries[query]? = some found →
      ∃ after, later.queries[query]? = some after ∧ after.Continues found)
    (releases : ∀ {query : Nat} {found : LiveQuery} {name id}, later.queries[query]? = some found →
      found.handle.release = some (.listener name id) → world.IsFor (· = .live query) name id)
    (streams : ∀ {index : Nat} {stream : LiveStream}, world.streams[index]? = some stream →
      ∃ after, later.streams[index]? = some after ∧ after.query = stream.query) :
    world.Settles later := by
  have store (name : Text) : later.store? name = world.store? name := by
    rw [store?, store?, stores]
  have attendsBefore {name : Text} {id : Nat} {reference : Reference} {query : Nat}
      (attends : later.Attends name id reference query) : world.Attends name id reference query := by
    obtain ⟨found, there, member⟩ := attends
    exact ⟨found, store name ▸ there, member⟩
  have isFor {fits : Callback → Prop} {name : Text} {id : Nat} (known : world.IsFor fits name id) :
      later.IsFor fits name id := fun found there => known found (store name ▸ there)
  have held (query : Nat) : later.IsHeld query ↔ world.IsHeld query := by
    rw [IsHeld, IsHeld, queryNames, streamNames]
    refine or_congr_right ⟨?_, ?_⟩
    · rintro ⟨label, index, after, named, there, same⟩
      obtain ⟨stream, known⟩ : ∃ stream, world.streams[index]? = some stream :=
        ⟨_, List.getElem?_eq_getElem (arranged.streams named)⟩
      obtain ⟨other, present, equal⟩ := streams known
      obtain rfl := Option.some.inj (there.symm.trans present)
      exact ⟨label, index, stream, named, known, equal.symm.trans same⟩
    · rintro ⟨label, index, stream, named, known, same⟩
      obtain ⟨after, present, equal⟩ := streams known
      exact ⟨label, index, after, named, present, equal.trans same⟩
  have arrangedLater : later.Arranged := by
    refine ⟨fun there => arranged.taken (store _ ▸ there), fun there =>
      arranged.ordered (store _ ▸ there), fun attends => ?_, fun present released =>
        isFor (releases present released), fun named => isFor (installed named), fun named => ?_⟩
    · obtain ⟨found, known, source⟩ := arranged.reads (attendsBefore attends)
      obtain ⟨after, there, continues⟩ := queries known
      exact ⟨after, there, continues.source.trans source⟩
    · rw [streamNames] at named
      obtain ⟨after, there, _⟩ := streams (List.getElem?_eq_getElem (arranged.streams named))
      exact (List.getElem?_eq_some_iff.mp there).1
  have retains : world.Retains later := by
    refine ⟨queries, fun {name after} there => ⟨after, store name ▸ there, Nat.le_refl _, id,
      fun _ => .inl⟩, fun {name found} there => ⟨found, (store name).trans there⟩,
        fun {name id reference query} attends _ _ => ?_, streams, fun {query} => (held query).mpr,
          fun {query} known => .inl ((held query).mp known), arrangedLater⟩
    obtain ⟨found, there, member⟩ := attends
    exact ⟨found, (store name).trans there, member⟩
  refine ⟨retains, fun {query} loose => ?_⟩
  obtain ⟨name, id, reference, attends⟩ := loose.listens
  obtain ⟨found, known, _⟩ := arranged.reads (attendsBefore attends)
  exact ⟨retains.isActive known loose.active, ⟨name, id, reference, attendsBefore attends⟩,
    fun isHeld => loose.unheld ((held query).mpr isHeld)⟩

/-- What leaves live queries, too, as they are. -/
theorem Arranged.settles_of_queries_eq (arranged : world.Arranged)
    (stores : later.stores = world.stores) (listenerNames : later.listenerNames = world.listenerNames)
    (queryNames : later.queryNames = world.queryNames)
    (streamNames : later.streamNames = world.streamNames) (queries : later.queries = world.queries)
    (streams : ∀ {index : Nat} {stream : LiveStream}, world.streams[index]? = some stream →
      ∃ after, later.streams[index]? = some after ∧ after.query = stream.query) :
    world.Settles later :=
  arranged.settles_of_stores_eq stores (fun named => arranged.installed (listenerNames ▸ named))
    queryNames streamNames
    (fun {_ found} present => ⟨found, by rwa [queries], .refl _⟩)
    (fun present => by
      rw [queries] at present
      exact arranged.releases present) streams

theorem Arranged.settles_updateHandle (arranged : world.Arranged) {query : Nat}
    {change : Subscription Release → Subscription Release}
    (suits : ∀ {found}, world.queries[query]? = some found → world.Suits query change found) :
    world.Settles (world.updateHandle query change) := by
  refine arranged.settles_of_stores_eq rfl arranged.installed rfl rfl (fun {index found} present => ?_)
    (fun {index found name id} present released => ?_) fun there => ⟨_, there, rfl⟩
  · rw [queries_updateHandle, present]
    refine ⟨_, rfl, ?_⟩
    dsimp only
    by_cases same : query = index
    · subst same
      rw [if_pos rfl]
      have fits := suits present
      exact ⟨fits.type, fits.path, rfl, rfl, rfl, fits.active⟩
    · rw [if_neg same]
      exact .refl found
  · rw [queries_updateHandle] at present
    obtain ⟨before, there, rfl⟩ := Option.map_eq_some_iff.mp present
    by_cases same : query = index
    · subst same
      rw [if_pos rfl] at released
      exact (suits there).owns released
    · rw [if_neg same] at released
      exact arranged.releases there released

/-- A live query that is added has no listener yet. -/
theorem Arranged.settles_addQuery (arranged : world.Arranged) {query : LiveQuery}
    (unreleased : query.handle.release = none) : world.Settles (world.addQuery query).2 := by
  refine arranged.settles_of_stores_eq rfl arranged.installed rfl rfl (fun {index found} present =>
    ⟨found, getElem?_concat_eq_some.mpr (.inl present), .refl found⟩)
    (fun {index found name id} present released => ?_) fun there => ⟨_, there, rfl⟩
  rcases getElem?_concat_eq_some.mp present with before | ⟨_, rfl⟩
  · exact arranged.releases before released
  · rw [unreleased] at released
    cases released

/-! ### Operations on stores -/

/-- A change of a store that adds no listener, and takes none from an active live query unless the
store is closed. -/
structure Spares (name : Text) (change : Store Callback → Store Callback) (world : World) : Prop where
  listeners : ∀ store, (change store).listeners.Sublist store.listeners
  nextListener : ∀ store, (change store).nextListener = store.nextListener
  closes : ∀ store, store.closed = true → (change store).closed = true
  kept : ∀ {store id reference query}, world.store? name = some store →
    (id, ⟨reference, .live query⟩) ∈ store.listeners → world.IsActive query →
      (change store).closed = false → (id, ⟨reference, .live query⟩) ∈ (change store).listeners

theorem Spares.settles {name : Text} {change : Store Callback → Store Callback}
    (spares : world.Spares name change) (arranged : world.Arranged) :
    world.Settles (world.updateStore name change) := by
  have before {other : Text} {after : Store Callback}
      (there : (world.updateStore name change).store? other = some after) : ∃ store,
        world.store? other = some store ∧ after.nextListener = store.nextListener ∧
          (store.closed = true → after.closed = true) ∧
            after.listeners.Sublist store.listeners := by
    obtain ⟨store, found, ⟨_, rfl⟩ | ⟨_, rfl⟩⟩ := store?_updateStore_cases there
    · exact ⟨store, found, spares.nextListener store, spares.closes store, spares.listeners store⟩
    · exact ⟨after, found, rfl, id, .refl _⟩
  have attendsBefore {other : Text} {id : Nat} {reference : Reference} {query : Nat}
      (attends : (world.updateStore name change).Attends other id reference query) :
      world.Attends other id reference query := by
    obtain ⟨after, there, member⟩ := attends
    obtain ⟨store, found, _, _, sublist⟩ := before there
    exact ⟨store, found, sublist.subset member⟩
  have isFor {fits : Callback → Prop} {other : Text} {id : Nat} (known : world.IsFor fits other id) :
      (world.updateStore name change).IsFor fits other id := by
    intro after there
    obtain ⟨store, found, next, _, sublist⟩ := before there
    obtain ⟨taken, single⟩ := known store found
    exact ⟨next ▸ taken, fun listener member => single listener (sublist.subset member)⟩
  obtain ⟨stores, same⟩ := exists_updateStore name change world
  have arrangedLater : (world.updateStore name change).Arranged := by
    refine ⟨fun there member => ?_, fun there => ?_, fun attends => ?_, fun known released => ?_,
      fun named => ?_, fun named => ?_⟩
    · obtain ⟨store, found, next, _, sublist⟩ := before there
      rw [next]
      exact arranged.taken found (sublist.subset member)
    · obtain ⟨store, found, _, _, sublist⟩ := before there
      exact (arranged.ordered found).sublist sublist
    · rw [same]
      exact arranged.reads (attendsBefore attends)
    · rw [same] at known
      exact isFor (arranged.releases known released)
    · rw [same] at named
      exact isFor (arranged.installed named)
    · rw [same] at named ⊢
      exact arranged.streams named
  have held (query : Nat) : (world.updateStore name change).IsHeld query ↔ world.IsHeld query := by
    rw [same]
    exact Iff.rfl
  have isActive {query : Nat} (active : (world.updateStore name change).IsActive query) :
      world.IsActive query := by rwa [same] at active
  refine ⟨⟨fun {query found} known => ⟨found, by rwa [same], .refl found⟩, fun there => ?_,
    fun {other store} there => ?_, fun {other id reference query} attends active isOpen => ?_,
    fun {index stream} known => ⟨stream, by rwa [same], rfl⟩, fun {query} => (held query).mpr,
    fun {query} known => .inl ((held query).mp known), arrangedLater⟩, fun {query} loose => ?_⟩
  · obtain ⟨store, found, next, closes, sublist⟩ := before there
    exact ⟨store, found, Nat.le_of_eq next.symm, closes, fun _ member =>
      .inl (sublist.subset member)⟩
  · rw [store?_updateStore, there]
    split <;> exact ⟨_, rfl⟩
  · obtain ⟨store, there, member⟩ := attends
    have known : (world.updateStore name change).store? other =
        if other = name then some (change store) else some store := by
      rw [store?_updateStore, there]
      rfl
    by_cases equal : other = name
    · subst equal
      rw [if_pos rfl] at known
      exact ⟨_, known, spares.kept there member (isActive active) (isOpen _ known)⟩
    · rw [if_neg equal] at known
      exact ⟨_, known, member⟩
  · obtain ⟨other, id, reference, attends⟩ := loose.listens
    exact ⟨isActive loose.active, ⟨other, id, reference, attendsBefore attends⟩,
      fun isHeld => loose.unheld ((held query).mpr isHeld)⟩

/-- A change of documents spares all listeners. -/
theorem Touches.spares {segments : Segments} {change : Store Callback → Store Callback}
    (touches : Touches segments change) (closed : ∀ store, (change store).closed = store.closed)
    (name : Text) (world : World) : world.Spares name change := by
  refine ⟨fun store => ?_, touches.nextListener, fun store => (closed store).trans,
    fun {store id reference query} _ member _ _ => ?_⟩
  · rw [touches.listeners]
  · rw [touches.listeners]
    exact member

theorem spares_close (name : Text) (world : World) : world.Spares name Store.close :=
  ⟨fun _ => List.nil_sublist _, fun _ => rfl, fun _ _ => rfl, fun _ _ _ isOpen => nomatch isOpen⟩

/-- To take away a listener that is for no active live query spares the others. -/
theorem spares_unregister {name : Text} {id : Nat} {fits : Callback → Prop}
    (owned : world.IsFor fits name id)
    (inactive : ∀ {query}, fits (.live query) → ¬ world.IsActive query) :
    world.Spares name (Store.unregister id) := by
  refine ⟨fun store => List.filter_sublist, fun _ => rfl, fun _ => (·),
    fun {store other reference query} there member active _ => ?_⟩
  refine List.mem_filter.mpr ⟨member, decide_eq_true fun same => ?_⟩
  have equal : other = id := same
  subst equal
  exact inactive ((owned store there).2 _ member) active

/-! ### Releases -/

/-- A release that a live query may carry out: a listener of its own, which is no longer wanted. -/
theorem Arranged.settles_carryOutAny (arranged : world.Arranged) (query : Nat)
    {release : Option Release}
    (owned : ∀ {name id}, release = some (.listener name id) →
      world.IsFor (· = .live query) name id)
    (inactive : ¬ world.IsActive query) : world.Settles (world.carryOutAny release) := by
  cases release with
  | none => exact .refl arranged
  | some release =>
    cases release with
    | listener name id =>
      refine (spares_unregister (owned rfl) fun {other} same => ?_).settles arranged
      rw [Callback.live.inj same]
      exact inactive
    | feed path => exact arranged.settles_of_queries_eq rfl rfl rfl rfl rfl fun there => ⟨_, there, rfl⟩
    | watch index => exact .refl arranged

theorem settling_cancelQuery (query : Nat) (world : World) :
    Settling world (world.cancelQuery query) := by
  intro arranged
  obtain same | ⟨found, present, same⟩ := cancelQuery_cases query world <;> rw [same]
  · exact .refl arranged
  · have handled : world.Settles (world.updateHandle query fun handle =>
        { handle with release := none, cancelled := true }) :=
      arranged.settles_updateHandle fun _ => ⟨rfl, rfl, nofun, nofun⟩
    exact handled.trans arranged (handled.arranged.settles_carryOutAny query
      (fun released => handled.isFor (arranged.releases present released))
      (not_isActive_updateHandle fun _ => rfl))

/-- A live query takes the release of its listener, or carries it out at once. -/
theorem Arranged.settles_attach (arranged : world.Arranged) {query : Nat} {release : Release}
    (owned : ∀ {name id}, release = .listener name id → world.IsFor (· = .live query) name id) :
    world.Settles (world.attach query release) := by
  obtain same | same | ⟨inactive, same⟩ := attach_cases query release world <;> rw [same]
  · exact .refl arranged
  · exact arranged.settles_updateHandle fun _ =>
      ⟨rfl, rfl, id, fun known => owned (Option.some.inj known)⟩
  · have handled : world.Settles (world.updateHandle query fun handle =>
        { handle with release := none }) :=
      arranged.settles_updateHandle fun _ => ⟨rfl, rfl, id, nofun⟩
    exact handled.trans arranged (handled.arranged.settles_carryOutAny query
      (fun known => handled.isFor (owned (Option.some.inj known)))
      (not_isActive_updateHandle inactive))

theorem settling_updateQueue (stream : Nat)
    (change : Stream (Except Failure QueryResult) → Stream (Except Failure QueryResult))
    (world : World) : Settling world (world.updateQueue stream change) := by
  intro arranged
  refine arranged.settles_of_queries_eq rfl rfl rfl rfl rfl fun {index found} there => ?_
  rw [updateQueue, List.getElem?_modify, there]
  exact ⟨_, rfl, by dsimp only; split <;> rfl⟩

theorem settling_closeStream (stream : Nat) (world : World) :
    Settling world (world.closeStream stream) := by
  intro arranged
  rw [closeStream]
  split
  · exact .refl arranged
  · split
    · exact .refl arranged
    · exact (settling_cancelQuery _ world).trans (settling_updateQueue _ _ _) arranged

/-! ### Single operations -/

theorem settling_countDelivery (index : Nat) (world : World) :
    Settling world (world.countDelivery index) := fun arranged =>
  arranged.settles_of_queries_eq rfl rfl rfl rfl rfl fun there => ⟨_, there, rfl⟩

theorem settling_addRecipient (label : Text) (reactions : List Reaction) (world : World) :
    Settling world (world.addRecipient label reactions).2 := fun arranged =>
  arranged.settles_of_queries_eq rfl rfl rfl rfl rfl fun there => ⟨_, there, rfl⟩

theorem settling_addStream (world : World) : Settling world world.addStream.2 := fun arranged =>
  arranged.settles_of_queries_eq rfl rfl rfl rfl rfl fun there =>
    ⟨_, getElem?_concat_eq_some.mpr (.inl there), rfl⟩

/-- Every operation that calls nobody, or only tells, settles. -/
theorem lasting_settling : Lasting Settling where
  refl _ := .refl
  trans := .trans
  countDelivery := settling_countDelivery
  tell {index occasion update world} _ := by
    rw [tell]
    split
    · exact .refl
    · exact fun arranged =>
        arranged.settles_of_queries_eq rfl rfl rfl rfl rfl fun there => ⟨_, there, rfl⟩
  count query world arranged := arranged.settles_updateHandle fun present =>
    ⟨rfl, rfl, id, arranged.releases present⟩
  push _ := settling_updateQueue _ _ _
  take {world streams} same fewer arranged := by
    refine arranged.settles_of_queries_eq rfl rfl rfl rfl rfl fun {index stream} there => ?_
    have inside := (List.getElem?_eq_some_iff.mp there).1
    obtain ⟨after, present⟩ : ∃ after, streams[index]? = some after :=
      ⟨_, List.getElem?_eq_getElem (same ▸ inside)⟩
    obtain ⟨before, known, equal, _⟩ := fewer index after present
    obtain rfl := Option.some.inj (there.symm.trans known)
    exact ⟨after, present, equal⟩
  remark _ _ _ arranged :=
    arranged.settles_of_queries_eq rfl rfl rfl rfl rfl fun there => ⟨_, there, rfl⟩
  write name segments data world arranged :=
    ((touches_write segments data).spares (fun _ => rfl) name world).settles arranged
  remove name segments world arranged :=
    ((touches_remove segments).spares (fun _ => rfl) name world).settles arranged
  close name world arranged := (spares_close name world).settles arranged
  unlisten label world arranged := by
    rw [unlisten]
    split
    · exact .refl arranged
    · next name id named =>
      obtain ⟨before, after, same, _⟩ := List.lookup_eq_some_iff.mp named
      have installed := arranged.installed (same ▸ List.mem_append_right _ List.mem_cons_self)
      refine (spares_unregister installed fun {query} fits => ?_).settles arranged
      obtain ⟨recipient, same⟩ := fits
      cases same
  cancelQuery := settling_cancelQuery
  closeStream := settling_closeStream
  bindFeed _ _ _ arranged :=
    arranged.settles_of_queries_eq rfl rfl rfl rfl rfl fun there => ⟨_, there, rfl⟩

end World

end DocQuery
