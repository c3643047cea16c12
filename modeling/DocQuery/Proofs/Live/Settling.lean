/-
This file proves that starts and installations settle, and so do runs.

A store is read before a listener is registered, and what was read can always be taken in. So a start
either fails before it has registered anything, or its live query gets its listener, its release and
its holder. In between the live query is loose. Whatever is done inside its first delivery settles,
so at the end it is the only one that may have become loose, and then it is held.
-/

import DocQuery.Proofs.Live.Arrangement
import DocQuery.Proofs.Live.Leading
import DocQuery.Proofs.Live.Openings

namespace DocQuery

namespace World

variable {world after : World} {performer : Performer}

/-! ### Listeners that are registered -/

/-- A listener that may be registered with a store: if it is that of a live query, then that of the
newest which reads there. -/
structure Admits (name : Text) (listener : Listener Callback) (world : World) : Prop where
  reads : ∀ {query}, listener.callback = .live query → ∃ found,
    world.queries[query]? = some found ∧ found.source = some (.store name listener.reference)
  newest : ∀ {query id reference other}, listener.callback = .live query →
    world.Attends name id reference other → other < query

theorem Arranged.retains_register (arranged : world.Arranged) {name : Text}
    {listener : Listener Callback} (admits : world.Admits name listener) :
    world.Retains (world.updateStore name (Store.register listener)) := by
  have before {other : Text} {store : Store Callback}
      (there : (world.updateStore name (Store.register listener)).store? other = some store) :
      ∃ found, world.store? other = some found ∧ found.nextListener ≤ store.nextListener ∧
        store.closed = found.closed ∧ (store = found ∨
          other = name ∧ store = found.register listener) := by
    obtain ⟨found, known, ⟨same, rfl⟩ | ⟨_, rfl⟩⟩ := store?_updateStore_cases there
    · exact ⟨found, known, Nat.le_succ _, rfl, .inr ⟨same, rfl⟩⟩
    · exact ⟨store, known, Nat.le_refl _, rfl, .inl rfl⟩
  have isFor {fits : Callback → Prop} {other : Text} {id : Nat} (known : world.IsFor fits other id) :
      (world.updateStore name (Store.register listener)).IsFor fits other id := by
    intro store there
    obtain ⟨found, present, more, _, rfl | ⟨_, rfl⟩⟩ := before there
    · exact known store present
    · obtain ⟨taken, single⟩ := known found present
      refine ⟨Nat.lt_of_lt_of_le taken more, fun one member => ?_⟩
      rcases List.mem_append.mp member with old | new
      · exact single one old
      · cases List.mem_singleton.mp new
        exact absurd taken (Nat.lt_irrefl _)
  obtain ⟨stores, same⟩ := exists_updateStore name (Store.register listener) world
  have arrangedLater : (world.updateStore name (Store.register listener)).Arranged := by
    refine ⟨fun there member => ?_, fun there => ?_, fun attends => ?_, fun known released => ?_,
      fun named => ?_, fun named => ?_⟩
    · obtain ⟨found, present, more, _, rfl | ⟨_, rfl⟩⟩ := before there
      · exact arranged.taken present member
      · rcases List.mem_append.mp member with old | new
        · exact Nat.lt_of_lt_of_le (arranged.taken present old) more
        · rw [List.mem_singleton.mp new]
          exact Nat.lt_succ_self _
    · obtain ⟨found, present, _, _, rfl | ⟨rfl, rfl⟩⟩ := before there
      · exact arranged.ordered present
      · refine List.pairwise_append.mpr ⟨arranged.ordered present, List.pairwise_singleton _ _,
          fun ⟨id, old⟩ member new last => ?_⟩
        rw [List.mem_singleton.mp last]
        obtain ⟨reference, callback⟩ := old
        refine ⟨arranged.taken present member, fun {one other} first second => ?_⟩
        obtain rfl : callback = .live one := first
        exact admits.newest second ⟨found, present, member⟩
    · obtain ⟨store, there, member⟩ := attends
      rw [same]
      obtain ⟨found, present, _, _, rfl | ⟨rfl, rfl⟩⟩ := before there
      · exact arranged.reads ⟨store, present, member⟩
      · rcases List.mem_append.mp member with old | new
        · exact arranged.reads ⟨found, present, old⟩
        · cases List.mem_singleton.mp new
          exact admits.reads rfl
    · rw [same] at known
      exact isFor (arranged.releases known released)
    · rw [same] at named
      exact isFor (arranged.installed named)
    · rw [same] at named ⊢
      exact arranged.streams named
  have held (query : Nat) : (world.updateStore name (Store.register listener)).IsHeld query ↔
      world.IsHeld query := by
    rw [same]
    exact Iff.rfl
  refine ⟨fun {query found} known => ⟨found, by rwa [same], .refl found⟩, fun there => ?_,
    fun {other store} there => ?_, fun {other id reference query} attends _ _ => ?_,
    fun {index stream} known => ⟨stream, by rwa [same], rfl⟩, fun {query} => (held query).mpr,
    fun {query} known => .inl ((held query).mp known), arrangedLater⟩
  · obtain ⟨found, present, more, closed, rfl | ⟨_, rfl⟩⟩ := before there
    · exact ⟨_, present, more, id, fun _ => .inl⟩
    · refine ⟨found, present, more, closed.trans, fun entry member => ?_⟩
      refine (List.mem_append.mp member).imp_right fun new => ?_
      exact Nat.le_of_eq (congrArg Prod.fst (List.mem_singleton.mp new)).symm
  · rw [store?_updateStore, there]
    split <;> exact ⟨_, rfl⟩
  · obtain ⟨store, there, member⟩ := attends
    by_cases equal : other = name
    · refine ⟨store.register listener, ?_, List.mem_append_left _ member⟩
      rw [store?_updateStore, if_pos equal, there, Option.map_some]
    · exact ⟨store, by rw [store?_updateStore, if_neg equal, there], member⟩

/-- No live query gets loose by the registration of another one's listener. -/
theorem loose_of_register {name : Text} {listener : Listener Callback} {query : Nat}
    (loose : (world.updateStore name (Store.register listener)).IsLoose query) :
    world.IsLoose query ∨ listener.callback = .live query := by
  obtain ⟨other, id, reference, store, there, member⟩ := loose.listens
  obtain ⟨stores, same⟩ := exists_updateStore name (Store.register listener) world
  have active : world.IsActive query := by
    have later := loose.active
    rwa [same] at later
  have unheld : ¬ world.IsHeld query := by
    have later := loose.unheld
    rwa [same] at later
  obtain ⟨found, present, _, cases⟩ := register_cases there
  rcases cases _ member with old | ⟨_, new, _⟩
  · exact .inl ⟨active, ⟨other, id, reference, found, present, old⟩, unheld⟩
  · cases new
    exact .inr rfl

theorem isFor_register (arranged : world.Arranged) {name : Text} {store : Store Callback}
    (there : world.store? name = some store) (listener : Listener Callback) :
    (world.updateStore name (Store.register listener)).IsFor (· = listener.callback) name
      store.nextListener := by
  intro found known
  rw [store?_updateStore, if_pos rfl, there] at known
  cases known
  refine ⟨Nat.lt_succ_self _, fun other member => ?_⟩
  rcases List.mem_append.mp member with old | new
  · exact absurd (arranged.taken there old) (Nat.lt_irrefl _)
  · cases List.mem_singleton.mp new
    rfl

/-! ### Starts -/

/-- A live query is started between two states: it has its listener, and it is the only one that may
have become loose. -/
structure Starts (query : Nat) (world after : World) : Prop extends world.Retains after where
  listens : after.Listens query
  loose : ∀ {other}, after.IsLoose other → world.IsLoose other ∨ other = query

theorem Starts.further {query : Nat} {later : World} (starts : Starts query world after)
    (arranged : world.Arranged) (settles : after.Settles later) : Starts query world later where
  toRetains := starts.toRetains.trans arranged settles.toRetains
  listens := settles.listens starts.listens
  loose loose := starts.loose (settles.loose loose)

theorem Settles.starts {query : Nat} {middle : World} (settles : world.Settles middle)
    (arranged : world.Arranged) (starts : Starts query middle after) :
    Starts query world after where
  toRetains := settles.toRetains.trans arranged starts.toRetains
  listens := starts.listens
  loose loose := (starts.loose loose).imp_left settles.loose

/-- The listener of a live query is registered, and what was read for it is taken in. -/
theorem Arranged.starts_register (arranged : world.Arranged) (kept : KeptBy Settling performer)
    {query : Nat} {name : Text} {reference : Reference} {store : Store Callback}
    (admits : world.Admits name ⟨reference, .live query⟩) (there : world.store? name = some store)
    (snapshot : Snapshot) :
    Starts query world ((world.updateStore name (Store.register ⟨reference, .live query⟩)).receive
        performer query .standing snapshot).2 ∧
      ((world.updateStore name (Store.register ⟨reference, .live query⟩)).receive performer query
        .standing snapshot).2.IsFor (· = .live query) name store.nextListener := by
  have retains := arranged.retains_register admits
  obtain ⟨found, present, source⟩ := admits.reads rfl
  have known : (world.updateStore name (Store.register ⟨reference, .live query⟩)).store? name =
      some (store.register ⟨reference, .live query⟩) := by
    rw [store?_updateStore, if_pos rfl, there, Option.map_some]
  have presentLater : (world.updateStore name
      (Store.register ⟨reference, .live query⟩)).queries[query]? = some found := by
    obtain ⟨stores, same⟩ :=
      exists_updateStore name (Store.register ⟨reference, .live query⟩) world
    rwa [same]
  have starts : Starts query world
      (world.updateStore name (Store.register ⟨reference, .live query⟩)) := by
    refine ⟨retains, ⟨found, presentLater, fun _ other asked _ same _ _ => ?_⟩, fun loose =>
      (loose_of_register loose).imp_right fun same => (Callback.live.inj same).symm⟩
    cases source.symm.trans same
    exact ⟨store.nextListener, _, known, List.mem_append_right _ List.mem_cons_self⟩
  have settles := lasting_settling.receive kept query .standing snapshot _ retains.arranged
  exact ⟨starts.further arranged settles,
    settles.isFor (isFor_register arranged there ⟨reference, .live query⟩)⟩

/-- The newest live query may have a listener where it reads. -/
theorem Arranged.admits (arranged : world.Arranged) {aim : Aim} {name : Text} {reference : Reference}
    (source : aim.source = .store name reference) (sink : Sink) :
    (world.addQuery (queryFor aim sink)).2.Admits name
      ⟨reference, .live world.queries.length⟩ := by
  refine ⟨fun same => ?_, fun {query id other owner} same attends => ?_⟩
  · cases same
    exact ⟨_, getElem?_addQuery _ world, congrArg some source⟩
  · cases same
    obtain ⟨found, known, _⟩ := arranged.reads attends
    exact (List.getElem?_eq_some_iff.mp known).1

/-- A start fails and settles, or its live query is started. -/
theorem Arranged.startQuery (arranged : world.Arranged) (kept : KeptBy Settling performer) (aim : Aim)
    (sink : Sink) {outcome : Except Failure Nat}
    (went : world.startQuery performer aim sink = (outcome, after)) :
    (∃ failure, outcome = .error failure ∧ world.Settles after) ∨
      outcome = .ok world.queries.length ∧ Starts world.queries.length world after := by
  have added : world.Settles (world.addQuery (queryFor aim sink)).2 := arranged.settles_addQuery rfl
  have taken {feed : Feed} {taking : Except Failure Unit} {middle : World}
      (received : ((world.addQuery (queryFor aim sink)).2.bindFeed feed
        (some world.queries.length)).receiveGives performer world.queries.length feed.first =
          (taking, middle)) : (world.addQuery (queryFor aim sink)).2.Settles middle := by
    have settling := (lasting_settling.bindFeed feed (some world.queries.length) _).trans
      (lasting_settling.receiveGives kept world.queries.length feed.first
        ((world.addQuery (queryFor aim sink)).2.bindFeed feed (some world.queries.length)))
    rw [received] at settling
    exact settling added.arranged
  have opens := opens_startQuery performer aim sink world
  rw [went] at opens
  cases opens with
  | refused _ _ => exact .inl ⟨_, rfl, added⟩
  | @installed _ _ _ snapshot source there accepted =>
    obtain ⟨starts, owned⟩ :=
      added.arranged.starts_register kept (arranged.admits source sink) there snapshot
    refine .inr ⟨rfl, added.starts arranged (starts.further added.arranged
      (starts.arranged.settles_attach fun same => ?_))⟩
    cases same
    exact owned
  | broken source received => exact .inl ⟨_, rfl, added.trans arranged (taken received)⟩
  | @watching feed middle source received =>
    have settles := taken received
    have attached : middle.Settles (middle.attach world.queries.length (.feed feed.path)) :=
      settles.arranged.settles_attach nofun
    obtain ⟨found, known, continues⟩ := settles.queries (getElem?_addQuery _ world)
    -- It reads from a feed, so it needs no listener.
    have starts : Starts world.queries.length (world.addQuery (queryFor aim sink)).2 middle := by
      refine ⟨settles.toRetains, ⟨found, known, fun _ name reference store same => ?_⟩, fun loose =>
        .inl (settles.loose loose)⟩
      cases (congrArg some source).symm.trans (continues.source.symm.trans same)
    exact .inr ⟨rfl, added.starts arranged (starts.further added.arranged attached)⟩

/-! ### Names -/

/-- A live query that is started gets a holder, and nobody else does. -/
theorem Starts.named {query : Nat} (starts : Starts query world after) (arranged : world.Arranged)
    {queryNames streamNames : List (Text × Nat)} (queriesGrown : after.queryNames ⊆ queryNames)
    (streamsGrown : after.streamNames ⊆ streamNames)
    (inside : ∀ {label index}, (label, index) ∈ streamNames → index < after.streams.length)
    (held : IsHeld query { after with queryNames := queryNames, streamNames := streamNames })
    (given : ∀ {other}, IsHeld other { after with
      queryNames := queryNames, streamNames := streamNames } → after.IsHeld other ∨ other = query) :
    world.Settles { after with queryNames := queryNames, streamNames := streamNames } := by
  have before := starts.arranged
  have heldBefore {other : Nat} (known : after.IsHeld other) :
      IsHeld other { after with queryNames := queryNames, streamNames := streamNames } := by
    rcases known with ⟨label, named⟩ | ⟨label, index, stream, named, rest⟩
    · exact .inl ⟨label, queriesGrown named⟩
    · exact .inr ⟨label, index, stream, streamsGrown named, rest⟩
  have bound : after.Retains { after with queryNames := queryNames, streamNames := streamNames } :=
    ⟨fun present => ⟨_, present, .refl _⟩, fun there => ⟨_, there, Nat.le_refl _, id, fun _ => .inl⟩,
      fun there => ⟨_, there⟩, fun attends _ _ => attends, fun present => ⟨_, present, rfl⟩, heldBefore,
      fun {other} known => (given known).imp_right fun same => by
        rw [same]
        exact starts.listens,
      ⟨before.taken, before.ordered, before.reads, before.releases, before.installed, inside⟩⟩
  refine ⟨starts.toRetains.trans arranged bound, fun {other} loose => ?_⟩
  have looseBefore : after.IsLoose other :=
    ⟨loose.active, loose.listens, fun known => loose.unheld (heldBefore known)⟩
  refine (starts.loose looseBefore).resolve_right fun same => ?_
  exact loose.unheld (same ▸ held)

theorem settling_subscribe (kept : KeptBy Settling performer) (label : Text)
    (reactions : List Reaction) (aim : Aim) (world : World) :
    Settling world ((world.addRecipient label reactions).2.subscribeTo performer label aim
      world.recipients.length).2 := by
  refine (settling_addRecipient label reactions world).trans fun arranged => ?_
  rw [subscribeTo]
  generalize went : (world.addRecipient label reactions).2.startQuery performer aim
    (.recipient world.recipients.length) = result
  obtain ⟨outcome, after⟩ := result
  rcases arranged.startQuery kept aim _ went with ⟨failure, rfl, settles⟩ | ⟨rfl, starts⟩
  · exact settles
  · refine starts.named arranged (List.subset_cons_self _ _) (List.Subset.refl _)
      starts.arranged.streams (.inl ⟨label, List.mem_cons_self⟩) fun held => ?_
    rcases held with ⟨other, named⟩ | streamed
    · rcases List.mem_cons.mp named with same | known
      · cases same
        exact .inr rfl
      · exact .inl (.inl ⟨other, known⟩)
    · exact .inl (.inr streamed)

theorem settling_stream (kept : KeptBy Settling performer) (label : Text) (aim : Aim)
    (world : World) : Settling world (world.streamFrom performer label aim).2 := by
  refine (settling_addStream world).trans fun arranged => ?_
  rw [streamFrom, show world.addStream.1 = world.streams.length from rfl]
  have present : world.addStream.2.streams[world.streams.length]? =
      some ⟨.empty, world.queries.length⟩ := getElem?_concat_eq_some.mpr (.inr ⟨rfl, rfl⟩)
  generalize went : world.addStream.2.startQuery performer aim (.stream world.streams.length) = result
  obtain ⟨outcome, after⟩ := result
  rcases arranged.startQuery kept aim _ went with ⟨failure, rfl, settles⟩ | ⟨rfl, starts⟩
  · exact settles
  · obtain ⟨stream, known, owner⟩ := starts.streams present
    refine starts.named arranged (List.Subset.refl _) (List.subset_cons_self _ _) (fun named => ?_)
      (.inr ⟨label, _, stream, List.mem_cons_self, known, owner⟩) fun held => ?_
    · rcases List.mem_cons.mp named with same | before
      · cases same
        exact (List.getElem?_eq_some_iff.mp known).1
      · exact starts.arranged.streams before
    · rcases held with named | ⟨other, index, found, named, there, same⟩
      · exact .inl (.inl named)
      · rcases List.mem_cons.mp named with new | before
        · cases new
          obtain rfl := Option.some.inj (known.symm.trans there)
          exact .inr (same.symm.trans owner)
        · exact .inl (.inr ⟨other, index, found, before, there, same⟩)

/-! ### Listeners on references -/

theorem settling_listen (kept : KeptBy Settling performer) (label name : Text)
    (calls : List NavigationCall) (reactions : List Reaction) (world : World) :
    Settling world (world.listen performer label name calls reactions).2 := by
  intro arranged
  have added := settling_addRecipient label reactions world arranged
  obtain same | same | ⟨store, reference, snapshot, there, heard, rfl, went⟩ :=
    listen_cases performer label name calls reactions world
  · rw [same]
    exact .refl arranged
  · rw [same]
    exact added
  · have admits : (world.addRecipient label reactions).2.Admits name
        ⟨reference, .recipient world.recipients.length⟩ := ⟨nofun, nofun⟩
    have retains := added.arranged.retains_register admits
    have registered : (world.addRecipient label reactions).2.Settles
        ((world.addRecipient label reactions).2.updateStore name (Store.register
          ⟨reference, .recipient world.recipients.length⟩)) :=
      ⟨retains, fun loose => (loose_of_register loose).resolve_right nofun⟩
    have owned := isFor_register added.arranged there ⟨reference, .recipient world.recipients.length⟩
    have hearing : Settling _
        (((world.addRecipient label reactions).2.updateStore name (Store.register
          ⟨reference, .recipient world.recipients.length⟩)).hear performer
            world.recipients.length .standing (.snapshot snapshot)).2 :=
      lasting_settling.hear kept nofun
    have settles := hearing retains.arranged
    have installed := settles.isFor owned
    have told := added.trans arranged (registered.trans added.arranged settles)
    rcases went with same | same <;> rw [same]
    · exact told
    · refine told.trans arranged (settles.arranged.settles_of_stores_eq rfl (fun named => ?_) rfl rfl
        (fun present => ⟨_, present, .refl _⟩) settles.arranged.releases fun there => ⟨_, there, rfl⟩)
      rcases List.mem_cons.mp named with new | known
      · cases new
        intro found there
        obtain ⟨taken, single⟩ := installed found there
        exact ⟨taken, fun listener member => ⟨_, single listener member⟩⟩
      · exact settles.arranged.installed known

/-! ### Runs -/

/-- Everything settles. -/
theorem enduring_settling : Enduring Settling where
  toLasting := lasting_settling
  listen := settling_listen
  subscribe := settling_subscribe
  stream := settling_stream

theorem arranged_ofStores {mode : BuildMode} {stores : List (Text × Store Callback)}
    (unheard : ∀ entry ∈ stores, entry.2.listeners = []) : (ofStores mode stores).Arranged := by
  refine ⟨fun there member => ?_, fun there => ?_, fun attends => ?_, nofun, nofun, nofun⟩
  · rw [listeners_ofStores unheard there] at member
    cases member
  · rw [listeners_ofStores unheard there]
    exact .nil
  · obtain ⟨store, there, member⟩ := attends
    rw [listeners_ofStores unheard there] at member
    cases member

/-- After any run, live queries and listeners are arranged, whoever is held has a listener as long as
it is active and its store is open, and nobody is loose. -/
theorem Runs.arranged {mode : BuildMode} {stores : List (Text × Store Callback)}
    (unheard : ∀ entry ∈ stores, entry.2.listeners = []) (run : (ofStores mode stores).Runs world) :
    world.Arranged ∧ (∀ query, world.IsHeld query → world.Listens query) ∧
      ∀ query, ¬ world.IsLoose query := by
  have settles := enduring_settling.of_runs run (arranged_ofStores unheard)
  refine ⟨settles.arranged, fun query held => (settles.given held).resolve_left ?_, fun query loose =>
    ?_⟩
  · rintro (⟨_, named⟩ | ⟨_, _, _, named, _⟩) <;> cases named
  · obtain ⟨_, present, _⟩ := (settles.loose loose).active
    cases present

end World

end DocQuery
