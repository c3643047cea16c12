/-
This file says what the state of live queries keeps while anything goes on.

A live query is fresh if the last thing it was told about how its reference stands is what asking
once would now give. A write makes queries stale until the pass that follows it has come to them,
and in between listeners write, subscribe and cancel. So freshness is no invariant of states. It is
carried from one state to a later one: whoever was fresh is fresh again at the end. Two
states are related so if tables only grow, entries of active queries stay where they are, and
freshness is not lost. The relation is transitive, which is all that nesting needs.
-/

import DocQuery.Live.Perform
import DocQuery.Proofs.Store.Reads

namespace DocQuery

/-! ### Scripts -/

/-- A refinement whose field, if it has one, is a name. -/
def Refinement.IsNamed : Refinement → Prop
  | .filter field _ _ => field.IsName
  | .limit _ => True
  | .order field _ => field.IsName

/-- A component all of whose refinements are on names. -/
def Component.IsNamed : Component → Prop
  | .collectionExpression refinements => ∀ refinement ∈ refinements, refinement.IsNamed
  | _ => True

/-- A query on a store whose fields are names. -/
def Target.IsNamed : Target → Prop
  | .query _ value =>
    ∀ components, decodeQuery Json.nestingLimit value = .ok components →
      ∀ component ∈ components, component.IsNamed
  | .feed _ => False

mutual
/-- An action that writes, reports, starts a live query, cancels one, or only asks. -/
def Action.IsLive : Action → Prop
  | .write _ _ _ | .remove _ _ | .report _ _ _ => True
  | .subscribe _ target reactions => target.IsNamed ∧ AreLive reactions
  | .cancel _ | .leave _ => True
  | .describe _ | .inspect _ | .inspectStream _ => True
  | _ => False
/-- Reactions that raise or carry out live actions. -/
def AreLive : List Reaction → Prop
  | [] => True
  | reaction :: rest => reaction.IsLive ∧ AreLive rest
/-- A reaction that raises or carries out a live action. -/
def Reaction.IsLive : Reaction → Prop
  | .raise _ _ => True
  | .act _ action => action.IsLive
end

/-! ### Going on -/

/-- A live query that was started on a reference into a store. -/
structure LiveQuery.Reads (query : LiveQuery) (name : Text) (reference : Reference) : Prop where
  source : query.source = some (.store name reference)
  path : query.handle.path = .text reference.path

/-- The query that asks once what a live query on a reference goes on asking. -/
def LiveQuery.aim (query : LiveQuery) (name : Text) (reference : Reference) : Aim :=
  ⟨query.handle.type, reference.path, query.projection, .store name reference⟩

/-- A live query at a later time. -/
structure LiveQuery.Continues (later earlier : LiveQuery) : Prop where
  type : later.handle.type = earlier.handle.type
  path : later.handle.path = earlier.handle.path
  projection : later.projection = earlier.projection
  source : later.source = earlier.source
  sink : later.sink = earlier.sink
  active : later.handle.active = true → earlier.handle.active = true

namespace LiveQuery

theorem Continues.refl (query : LiveQuery) : query.Continues query :=
  ⟨rfl, rfl, rfl, rfl, rfl, id⟩

theorem Continues.trans {first second third : LiveQuery} (further : third.Continues second)
    (continues : second.Continues first) : third.Continues first :=
  ⟨further.type.trans continues.type, further.path.trans continues.path,
    further.projection.trans continues.projection, further.source.trans continues.source,
    further.sink.trans continues.sink, fun active => continues.active (further.active active)⟩

theorem Reads.later {later earlier : LiveQuery} {name : Text} {reference : Reference}
    (reads : earlier.Reads name reference) (continues : later.Continues earlier) :
    later.Reads name reference :=
  ⟨continues.source.trans reads.source, continues.path.trans reads.path⟩

theorem Continues.aim {later earlier : LiveQuery} (continues : later.Continues earlier)
    (name : Text) (reference : Reference) :
    later.aim name reference = earlier.aim name reference := by
  unfold LiveQuery.aim
  rw [continues.type, continues.projection]

end LiveQuery

/-- A listener that is accepted is told what its reference answers. -/
theorem Store.read_of_acceptListener {κ : Type} {store : Store κ} {reference : Reference}
    {snapshot : Snapshot} (accepted : store.acceptListener reference = .ok snapshot) :
    store.read reference = .ok snapshot := by
  rw [acceptListener] at accepted
  split at accepted
  · cases accepted
  · exact accepted

namespace World

/-! ### Stores of a state -/

theorem lookup_replaceStore (name other : Text) (store : Store Callback)
    (stores : List (Text × Store Callback)) :
    (replaceStore name store stores).lookup other =
      if other = name then (stores.lookup other).map fun _ => store else stores.lookup other := by
  induction stores with
  | nil => simp [replaceStore]
  | cons entry rest inductionHypothesis =>
    obtain ⟨found, old⟩ := entry
    rw [replaceStore]
    by_cases same : found = name
    · rw [if_pos same, List.lookup_cons, List.lookup_cons, same]
      by_cases asked : other = name
      · rw [if_pos asked, asked, beq_self_eq_true]
        rfl
      · rw [if_neg asked, beq_false_of_ne asked]
    · rw [if_neg same, List.lookup_cons, List.lookup_cons, inductionHypothesis]
      by_cases asked : other = found
      · simp only [asked, beq_self_eq_true, if_neg same]
      · rw [beq_false_of_ne asked]

theorem store?_of_store {world : World} {name : Text} {store : Store Callback}
    (known : world.store name = .ok store) : world.store? name = some store := by
  rw [World.store] at known
  split at known
  · next found there =>
    cases known
    exact there
  · cases known

/-- Changing the store of a name changes what is found under that name, and nothing else. -/
theorem store?_updateStore (name other : Text) (change : Store Callback → Store Callback)
    (world : World) :
    (world.updateStore name change).store? other =
      if other = name then (world.store? other).map change else world.store? other := by
  unfold updateStore
  cases found : world.store? name with
  | none =>
    by_cases same : other = name
    · rw [if_pos same, same, found]
      rfl
    · rw [if_neg same]
  | some store =>
    show (replaceStore name (change store) world.stores).lookup other = _
    rw [lookup_replaceStore]
    by_cases same : other = name
    · subst same
      have there : world.stores.lookup other = some store := found
      rw [if_pos rfl, if_pos rfl, there, found]
      rfl
    · rw [if_neg same, if_neg same]
      rfl

/-- Changing a store changes nothing but stores. -/
theorem exists_updateStore (name : Text) (change : Store Callback → Store Callback)
    (world : World) : ∃ stores, world.updateStore name change = { world with stores := stores } := by
  unfold updateStore
  split
  · exact ⟨_, rfl⟩
  · exact ⟨world.stores, rfl⟩

/-- Where no store has listeners at the start, none is found. -/
theorem listeners_ofStores {mode : BuildMode} {stores : List (Text × Store Callback)}
    (unheard : ∀ entry ∈ stores, entry.2.listeners = []) {name : Text} {store : Store Callback}
    (there : (ofStores mode stores).store? name = some store) : store.listeners = [] := by
  have found : stores.lookup name = some store := there
  obtain ⟨before, after, same, _⟩ := List.lookup_eq_some_iff.mp found
  exact unheard (name, store) (same ▸ List.mem_append_right _ List.mem_cons_self)

/-- The documents of a store. -/
def documentsAt (name : Text) (world : World) : Option (List StoredDocument) :=
  (world.store? name).map Store.documents

/-- Asking once depends on the documents of one store. -/
theorem askOnce_congr {world later : World} {query : LiveQuery} {name : Text}
    {reference : Reference}
    (same : (later.documentsAt name).map (fun documents => Query.read documents reference) =
      (world.documentsAt name).map fun documents => Query.read documents reference) :
    later.askOnce (query.aim name reference) = world.askOnce (query.aim name reference) := by
  have fetched : later.fetch (query.aim name reference) =
      world.fetch (query.aim name reference) := by
    rw [documentsAt, documentsAt, Option.map_map, Option.map_map] at same
    simp only [fetch, LiveQuery.aim, store]
    cases found : world.store? name with
    | none =>
      rw [found, Option.map_none, Option.map_eq_none_iff] at same
      rw [same]
    | some store =>
      rw [found, Option.map_some] at same
      obtain ⟨other, known, equal⟩ := Option.map_eq_some_iff.mp same
      rw [known]
      exact equal
  rw [askOnce, askOnce, fetched]

theorem askOnce_of_store {world : World} {name : Text} {store : Store Callback}
    (found : world.store? name = some store) (query : LiveQuery) (reference : Reference) :
    world.askOnce (query.aim name reference) =
      QueryResult.ofRead query.handle.type reference.path query.projection
        (store.read reference) := by
  simp only [askOnce, fetch, LiveQuery.aim, World.store, found]
  rfl

/-! ### Live queries and their listeners -/

/-- A live query whose handle is active. -/
def IsActive (query : Nat) (world : World) : Prop :=
  ∃ found, world.queries[query]? = some found ∧ found.handle.active = true

/-- A listener of a live query is registered with a store. -/
def Attends (name : Text) (id : Nat) (reference : Reference) (query : Nat) (world : World) :
    Prop :=
  ∃ store, world.store? name = some store ∧
    (id, (⟨reference, .live query⟩ : Listener Callback)) ∈ store.listeners

/-- What a recipient was last told about how its reference stands. -/
def lastStanding (recipient : Nat) (world : World) : Option Update :=
  ((world.events.filter fun event =>
    event.recipient == recipient && event.occasion == .standing).getLast?).map Event.update

/-- A live query was last told what asking once would now give. -/
def Fresh (name : Text) (reference : Reference) (query : Nat) (world : World) : Prop :=
  ∃ found recipient, world.queries[query]? = some found ∧ found.sink = .recipient recipient ∧
    world.lastStanding recipient = some (.ofResult (world.askOnce (found.aim name reference)))

/-- A live query that, if it is active, has a listener and is fresh. -/
def Served (query : Nat) (world : World) : Prop :=
  ∃ found, world.queries[query]? = some found ∧ (found.handle.active = true →
    ∃ name id reference, world.Attends name id reference query ∧ world.Fresh name reference query)

/-- The id of a listener is taken, and nobody but a live query can have it. -/
def Owns (query : Nat) (name : Text) (id : Nat) (world : World) : Prop :=
  ∀ store, world.store? name = some store → id < store.nextListener ∧
    ∀ listener, (id, listener) ∈ store.listeners → listener.callback = .live query

/-- What holds between any two steps: every listener is that of one live query on its own
reference, ids are never used twice, releases name listeners of their own query, and no two live
queries share a recipient. -/
structure Sound (world : World) : Prop where
  attended : ∀ {name store id listener}, world.store? name = some store →
    (id, listener) ∈ store.listeners → id < store.nextListener ∧ listener.reference.IsNamed ∧
      ∃ query found, listener.callback = .live query ∧ world.queries[query]? = some found ∧
        found.Reads name listener.reference
  unique : ∀ {name store id listener other}, world.store? name = some store →
    (id, listener) ∈ store.listeners → (id, other) ∈ store.listeners → listener = other
  releases : ∀ {query : Nat} {found : LiveQuery} {name id}, world.queries[query]? = some found →
    found.handle.release = some (.listener name id) → world.Owns query name id
  sinks : ∀ {query : Nat} {found : LiveQuery}, world.queries[query]? = some found →
    ∃ recipient, found.sink = .recipient recipient ∧ recipient < world.recipients.length
  apart : ∀ {query other : Nat} {found otherFound : LiveQuery}, world.queries[query]? = some found →
    world.queries[other]? = some otherFound → found.sink = otherFound.sink → query = other
  scripts : ∀ recipient ∈ world.recipients, AreLive recipient.reactions

/-- How a state relates to a later one: tables only grow, an id that is taken is not given to
anybody else, and active live queries keep their listeners. -/
structure Evolves (earlier later : World) : Prop where
  queries : ∀ {query : Nat} {found : LiveQuery}, earlier.queries[query]? = some found →
    ∃ after, later.queries[query]? = some after ∧ after.Continues found
  stores : ∀ {name store}, earlier.store? name = some store →
    ∃ after, later.store? name = some after ∧ store.nextListener ≤ after.nextListener ∧
      ∀ entry ∈ after.listeners, entry.1 < store.nextListener → entry ∈ store.listeners
  kept : ∀ {name id reference query}, earlier.Attends name id reference query →
    later.IsActive query → later.Attends name id reference query

/-- A state goes on to a later one without losing freshness: who was fresh is fresh, and what is
newly bound is served. -/
structure Carries (earlier later : World) : Prop where
  sound : later.Sound
  evolves : earlier.Evolves later
  fresh : ∀ {name id reference query}, earlier.Attends name id reference query →
    later.IsActive query → earlier.Fresh name reference query → later.Fresh name reference query
  bound : ∀ {name query}, (name, query) ∈ later.queryNames →
    (name, query) ∈ earlier.queryNames ∨ later.Served query

theorem Sound.exists_query {world : World} (sound : world.Sound) {name : Text} {id : Nat}
    {reference : Reference} {query : Nat} (attends : world.Attends name id reference query) :
    ∃ found, world.queries[query]? = some found ∧ reference.IsNamed ∧
      found.Reads name reference := by
  obtain ⟨store, there, member⟩ := attends
  obtain ⟨_, named, other, found, same, present, reads⟩ := sound.attended there member
  cases same
  exact ⟨found, present, named, reads⟩

namespace Evolves

variable {first second third : World}

theorem refl (world : World) : world.Evolves world :=
  ⟨fun present => ⟨_, present, .refl _⟩,
    fun found => ⟨_, found, Nat.le_refl _, fun _ member _ => member⟩, fun attends _ => attends⟩

theorem isActive (evolves : first.Evolves second) {query : Nat} {found : LiveQuery}
    (present : first.queries[query]? = some found) (active : second.IsActive query) :
    first.IsActive query := by
  obtain ⟨after, later, continues⟩ := evolves.queries present
  obtain ⟨other, same, activeAfter⟩ := active
  obtain rfl := Option.some.inj (later.symm.trans same)
  exact ⟨found, present, continues.active activeAfter⟩

/-- A listener of a live query that is active later is there all the time in between. -/
theorem between (evolves : first.Evolves second) (sound : first.Sound)
    (further : second.Evolves third) {name : Text} {id : Nat} {reference : Reference} {query : Nat}
    (attends : first.Attends name id reference query) (active : third.IsActive query) :
    second.IsActive query ∧ second.Attends name id reference query := by
  obtain ⟨found, present, _⟩ := sound.exists_query attends
  obtain ⟨after, later, _⟩ := evolves.queries present
  have activeBetween := further.isActive later active
  exact ⟨activeBetween, evolves.kept attends activeBetween⟩

theorem trans (evolves : first.Evolves second) (sound : first.Sound)
    (further : second.Evolves third) : first.Evolves third where
  queries present := by
    obtain ⟨after, later, continues⟩ := evolves.queries present
    obtain ⟨last, there, continuing⟩ := further.queries later
    exact ⟨last, there, continuing.trans continues⟩
  stores found := by
    obtain ⟨after, there, grown, old⟩ := evolves.stores found
    obtain ⟨last, known, further, older⟩ := further.stores there
    refine ⟨last, known, Nat.le_trans grown further, fun entry member taken => ?_⟩
    exact old entry (older entry member (Nat.lt_of_lt_of_le taken grown)) taken
  kept attends active := by
    obtain ⟨_, attendsBetween⟩ := evolves.between sound further attends active
    exact further.kept attendsBetween active

/-- Stores that are as they were keep all listeners. -/
theorem of_stores_eq (stores : second.stores = first.stores)
    (queries : ∀ {query : Nat} {found : LiveQuery}, first.queries[query]? = some found →
      ∃ after, second.queries[query]? = some after ∧ after.Continues found) :
    first.Evolves second where
  queries := queries
  stores found := ⟨_, by rwa [store?, stores], Nat.le_refl _, fun _ member _ => member⟩
  kept attends _ := by
    obtain ⟨store, found, member⟩ := attends
    exact ⟨store, by rwa [store?, stores], member⟩

/-- An id that was taken belongs to nobody else later. -/
theorem owns (evolves : first.Evolves second) {query : Nat} {name : Text} {id : Nat}
    {store : Store Callback} (found : first.store? name = some store)
    (owned : first.Owns query name id) : second.Owns query name id := by
  intro after there
  obtain ⟨other, known, grown, old⟩ := evolves.stores found
  obtain rfl := Option.some.inj (known.symm.trans there)
  obtain ⟨taken, single⟩ := owned store found
  exact ⟨Nat.lt_of_lt_of_le taken grown, fun listener member =>
    single listener (old (id, listener) member taken)⟩

end Evolves

/-- Freshness lasts while nothing that the reference reads changes, and nothing is told. -/
theorem Fresh.of_evolves {earlier later : World} {name : Text} {reference : Reference}
    {query : Nat} (fresh : earlier.Fresh name reference query) (evolves : earlier.Evolves later)
    (told : ∀ recipient, later.lastStanding recipient = earlier.lastStanding recipient)
    (same : (later.documentsAt name).map (fun documents => Query.read documents reference) =
      (earlier.documentsAt name).map fun documents => Query.read documents reference) :
    later.Fresh name reference query := by
  obtain ⟨found, recipient, present, sink, last⟩ := fresh
  obtain ⟨after, there, continues⟩ := evolves.queries present
  refine ⟨after, recipient, there, continues.sink.trans sink, ?_⟩
  rw [told, last, continues.aim, askOnce_congr same]

namespace Carries

variable {first second third : World}

/-- What is served stays so. -/
theorem served (carries : first.Carries second) {query : Nat} (served : first.Served query) :
    second.Served query := by
  obtain ⟨found, present, attended⟩ := served
  obtain ⟨after, later, continues⟩ := carries.evolves.queries present
  refine ⟨after, later, fun active => ?_⟩
  have isActive : second.IsActive query := ⟨after, later, active⟩
  obtain ⟨name, id, reference, attends, fresh⟩ := attended (continues.active active)
  exact ⟨name, id, reference, carries.evolves.kept attends isActive,
    carries.fresh attends isActive fresh⟩

theorem refl {world : World} (sound : world.Sound) : world.Carries world :=
  ⟨sound, .refl world, fun _ _ fresh => fresh, .inl⟩

theorem trans (carries : first.Carries second) (sound : first.Sound)
    (further : second.Carries third) : first.Carries third where
  sound := further.sound
  evolves := carries.evolves.trans sound further.evolves
  fresh attends active fresh := by
    obtain ⟨activeBetween, attendsBetween⟩ :=
      carries.evolves.between sound further.evolves attends active
    exact further.fresh attendsBetween active (carries.fresh attends activeBetween fresh)
  bound member := by
    rcases further.bound member with known | served
    · exact (carries.bound known).imp_right further.served
    · exact .inr served

/-- A state in which nothing is told and no document has changed has lost nothing. -/
theorem of_quiet (sound : second.Sound) (evolves : first.Evolves second)
    (told : ∀ recipient, second.lastStanding recipient = first.lastStanding recipient)
    (documents : ∀ name, second.documentsAt name = first.documentsAt name)
    (names : second.queryNames = first.queryNames) : first.Carries second where
  sound := sound
  evolves := evolves
  fresh _ _ fresh := fresh.of_evolves evolves told (by rw [documents])
  bound member := .inl (by rwa [names] at member)

end Carries

end World

end DocQuery
