/-
This file proves that a store has as many listeners as there are active handles on it.

A listener of a live query does not stray after any run, so its query is active and holds its
release; and it is not loose, so somebody holds the query. The other way round, whoever is held and
active has a listener where it reads, as long as the store is open. Listeners stand in the order in
which their live queries were started, so no live query has two, and the count of one side is that
of the other.

A store has other listeners only where they were installed on references themselves. A run through
handles does not install any, and neither do its listeners.
-/

import DocQuery.Proofs.Live.Projecting
import DocQuery.Proofs.Live.Releasing
import DocQuery.Proofs.Live.Running
import DocQuery.Proofs.Live.Tying

namespace DocQuery

/-! ### Actions through handles -/

mutual
/-- An action that installs no listener on a reference itself, and whose listeners do not either. -/
def Action.UsesHandles : Action → Prop
  | .listen _ _ _ _ => False
  | .subscribe _ _ reactions => UseHandles reactions
  | _ => True
/-- Reactions that raise or use handles. -/
def UseHandles : List Reaction → Prop
  | [] => True
  | reaction :: rest => reaction.UsesHandles ∧ UseHandles rest
/-- A reaction that raises or uses handles. -/
def Reaction.UsesHandles : Reaction → Prop
  | .raise _ _ => True
  | .act _ action => action.UsesHandles
end

theorem UseHandles.act {reactions : List Reaction} (use : UseHandles reactions) {position : Nat}
    {action : Action} (member : .act position action ∈ reactions) : action.UsesHandles := by
  induction reactions with
  | nil => cases member
  | cons reaction rest inductionHypothesis =>
    rw [UseHandles] at use
    rcases List.mem_cons.mp member with same | later
    · have uses := use.1
      rwa [← same, Reaction.UsesHandles] at uses
    · exact inductionHypothesis use.2 later

/-- Whether a live query is active and reads in a store. -/
def LiveQuery.isActiveOn (name : Text) (query : LiveQuery) : Bool :=
  query.handle.active &&
    match query.source with
    | some (.store other _) => other == name
    | _ => false

theorem LiveQuery.isActiveOn_iff {name : Text} {query : LiveQuery} :
    query.isActiveOn name = true ↔
      query.handle.active = true ∧ ∃ reference, query.source = some (.store name reference) := by
  rw [isActiveOn, Bool.and_eq_true]
  refine and_congr_right fun _ => ?_
  match query.source with
  | none => simp
  | some (.feed feed) => simp
  | some (.store other reference) => simp

namespace World

/-! ### Runs through handles -/

/-- How a state can go on through handles alone: by actions that use them, by readers, and by what
tells nobody. A listener may do anything that uses handles, and raise anything. -/
inductive Proceeds : World → World → Prop
  | stay (world : World) : Proceeds world world
  | further {first second third : World} : Proceeds first second → Proceeds second third →
      Proceeds first third
  | act {performer : Performer}
      (plays : ∀ action (inside : World), inside.Runs (performer action inside).2)
      (proceeds : ∀ (action : Action) inside, action.UsesHandles →
        Proceeds inside (performer action inside).2)
      {action : Action} (uses : action.UsesHandles) (world : World) :
      Proceeds world (world.performWith performer action).2
  /-- A live query that was built elsewhere is started with a new recipient. -/
  | subscribe {performer : Performer}
      (plays : ∀ action (inside : World), inside.Runs (performer action inside).2)
      (proceeds : ∀ (action : Action) inside, action.UsesHandles →
        Proceeds inside (performer action inside).2)
      (label : Text) {reactions : List Reaction} (use : UseHandles reactions) (aim : Aim)
      (world : World) :
      Proceeds world ((world.addRecipient label reactions).2.subscribeTo performer label aim
        world.recipients.length).2
  /-- A live query that was built elsewhere is started with a new stream. -/
  | stream {performer : Performer}
      (plays : ∀ action (inside : World), inside.Runs (performer action inside).2)
      (proceeds : ∀ (action : Action) inside, action.UsesHandles →
        Proceeds inside (performer action inside).2)
      (label : Text) (aim : Aim) (world : World) :
      Proceeds world (world.streamFrom performer label aim).2
  | close (stream : Nat) (world : World) : Proceeds world (world.closeStream stream)
  | take {world : World} {streams : List LiveStream}
      (same : streams.length = world.streams.length)
      (fewer : ∀ (index : Nat) (after : LiveStream), streams[index]? = some after →
        ∃ before, world.streams[index]? = some before ∧ after.query = before.query ∧
          after.queue.items ⊆ before.queue.items) :
      Proceeds world { world with streams := streams }
  | remark {world : World} {events : List Event} (fewer : events ⊆ world.events)
      (notices : List Notice) (cutShort : Bool) :
      Proceeds world { world with events := events, notices := notices, cutShort := cutShort }

theorem Proceeds.runs {first last : World} (proceeds : first.Proceeds last) : first.Runs last := by
  induction proceeds with
  | stay world => exact .stay world
  | further _ _ firstHypothesis secondHypothesis => exact firstHypothesis.further secondHypothesis
  | act plays _ _ world => exact .act plays _ world
  | subscribe plays _ label _ aim world => exact .subscribe plays label _ aim world
  | stream plays _ label aim world => exact .stream plays label aim world
  | close stream world => exact .close stream world
  | take same fewer => exact .take same fewer
  | remark fewer notices cutShort => exact .remark fewer notices cutShort

/-- To carry out an action that uses handles, up to any depth, is such a run. -/
theorem proceeds_performTo (depth : Nat) {action : Action} (uses : action.UsesHandles)
    (world : World) : world.Proceeds (performTo depth action world).2 := by
  induction depth generalizing action world with
  | zero => exact .remark (List.Subset.refl _) world.notices true
  | succ depth inductionHypothesis =>
    exact .act (runs_performTo depth) (fun _ inside used => inductionHypothesis used inside) uses
      world

theorem proceeds_performAll {actions : List Action}
    (uses : ∀ action ∈ actions, action.UsesHandles) (world : World) :
    world.Proceeds (world.performAll actions) := by
  induction actions generalizing world with
  | nil => exact .stay world
  | cons action rest inductionHypothesis =>
    have restUses : ∀ other ∈ rest, other.UsesHandles :=
      fun other member => uses other (List.mem_cons_of_mem _ member)
    exact (proceeds_performTo _ (uses action List.mem_cons_self) world).further
      (inductionHypothesis restUses _)

/-! ### Listeners of live queries only -/

/-- All listeners are those of live queries, and nobody would install another one. -/
structure Handled (world : World) : Prop where
  scripts : ∀ recipient ∈ world.recipients, ∀ position action,
    .act position action ∈ recipient.reactions → action.UsesHandles
  listeners : ∀ {name store entry}, world.store? name = some store → entry ∈ store.listeners →
    ∃ query, entry.2.callback = .live query

variable {world later : World}

namespace Handled

/-- What gives nobody other reactions, and adds no listener. -/
theorem of_kept (handled : world.Handled)
    (recipients : ∀ recipient ∈ later.recipients, ∃ before ∈ world.recipients,
      recipient.reactions = before.reactions)
    (listeners : ∀ {name store entry}, later.store? name = some store → entry ∈ store.listeners →
      ∃ before, world.store? name = some before ∧ entry ∈ before.listeners) : later.Handled := by
  refine ⟨fun recipient member position action acts => ?_, fun there member => ?_⟩
  · obtain ⟨before, known, same⟩ := recipients recipient member
    exact handled.scripts before known position action (same ▸ acts)
  · obtain ⟨before, known, old⟩ := listeners there member
    exact handled.listeners known old

theorem of_same (handled : world.Handled) (recipients : later.recipients = world.recipients)
    (stores : later.stores = world.stores) : later.Handled := by
  refine handled.of_kept (fun recipient member => ⟨recipient, recipients ▸ member, rfl⟩)
    fun {_ store _} there member => ⟨store, ?_, member⟩
  rwa [store?, stores] at there

theorem countDelivery (handled : world.Handled) (index : Nat) :
    (world.countDelivery index).Handled := by
  refine handled.of_kept (fun recipient member => ?_) fun there member => ⟨_, there, member⟩
  obtain ⟨place, found⟩ := List.getElem?_of_mem member
  rw [World.countDelivery, List.getElem?_modify] at found
  obtain ⟨before, known, rfl⟩ := Option.map_eq_some_iff.mp found
  refine ⟨before, List.mem_of_getElem? known, ?_⟩
  split <;> rfl

theorem tell (handled : world.Handled) (index : Nat) (occasion : Occasion) (update : Update) :
    (world.tell index occasion update).Handled := by
  rw [World.tell]
  split
  · exact handled
  · exact (handled.countDelivery index).of_same rfl rfl

theorem updateStore (handled : world.Handled) {change : Store Callback → Store Callback}
    (shrinks : Shrinks change) (name : Text) : (world.updateStore name change).Handled := by
  obtain ⟨stores, same⟩ := exists_updateStore name change world
  refine handled.of_kept (fun recipient member => ⟨recipient, by rwa [same] at member, rfl⟩)
    fun there member => ?_
  obtain ⟨store, found, ⟨_, rfl⟩ | ⟨_, rfl⟩⟩ := store?_updateStore_cases there
  · exact ⟨store, found, shrinks.listeners store _ member⟩
  · exact ⟨_, found, member⟩

theorem register (handled : world.Handled) (name : Text) (reference : Reference) (query : Nat) :
    (world.updateStore name (Store.register ⟨reference, .live query⟩)).Handled := by
  obtain ⟨stores, same⟩ := exists_updateStore name (Store.register ⟨reference, .live query⟩) world
  refine ⟨?_, fun there member => ?_⟩
  · rw [same]
    exact handled.scripts
  · obtain ⟨store, before, _, cases⟩ := register_cases there
    rcases cases _ member with old | ⟨_, rfl, _⟩
    · exact handled.listeners before old
    · exact ⟨query, rfl⟩

theorem addRecipient (handled : world.Handled) (label : Text) {reactions : List Reaction}
    (use : ∀ position action, .act position action ∈ reactions → action.UsesHandles) :
    (world.addRecipient label reactions).2.Handled := by
  refine ⟨fun recipient member => ?_, handled.listeners⟩
  rcases List.mem_append.mp member with old | new
  · exact handled.scripts recipient old
  · rw [List.mem_singleton.mp new]
    exact use

end Handled

/-- The terms of a run through handles. -/
def handling : Terms where
  good := Handled
  allowed := Action.UsesHandles
  callable _ callback := ∃ query, callback = .live query
  owed _ _ _ _ := True
  relation _ later := later.Handled

theorem owes_handling (callback : Callback) (occasion : Occasion) (read : Except Failure Snapshot)
    (world : World) : handling.Owes callback occasion read world := by
  cases callback with
  | recipient index => trivial
  | live query => exact fun _ _ => trivial

theorem releasing_handling : handling.Releasing where
  refl := id
  trans _ := id
  good := id
  scripts handled := handled.scripts
  countDelivery {index _ _ _} handled _ := handled.countDelivery index
  tell handled _ := handled.tell _ _ _
  count _ _ handled := handled.of_same rfl rfl
  push handled _ := handled.of_same rfl rfl
  notifyAll _ _ handled := handled.of_same rfl rfl
  counted _ := trivial
  noticed _ := trivial
  shrink shrinks name _ handled := handled.updateStore shrinks name
  steer _ _ _ _ handled := handled.of_same rfl rfl
  release _ _ handled := handled.of_same rfl rfl
  finish _ _ handled := handled.of_same rfl rfl

theorem starting_handling : handling.Starting where
  toTelling := releasing_handling.toTelling
  listening allowed := allowed.elim
  subscribing {label target reactions} allowed _ _ member := by
    have uses : Action.UsesHandles (.subscribe label target reactions) := allowed
    rw [Action.UsesHandles] at uses
    exact uses.act member
  report _ _ _ _ _ := owes_handling _ .report _ _
  announce _ _ _ read := owes_handling _ .report read _
  read _ _ _ _ _ := owes_handling _ .standing _ _
  write name _ _ _ _ _ _ handled := handled.updateStore (shrinks_write _ _) name
  remove name _ _ _ _ handled := handled.updateStore (shrinks_remove _) name
  close name _ handled := handled.updateStore shrinks_close name
  unlisten label _ := releasing_handling.unlisten label
  cancelQuery query _ := releasing_handling.cancelQuery query
  closeStream stream _ := releasing_handling.closeStream stream
  bindFeed _ _ _ _ handled := handled.of_same rfl rfl
  cutShort handled := handled.of_same rfl rfl
  register _ callable handled := by
    obtain ⟨query, rfl⟩ := callable
    exact handled.register _ _ query
  addRecipient label _ use _ handled := handled.addRecipient label use
  newListener allowed := allowed.elim
  newRecipient label _ use _ _ handled :=
    ⟨(handled.addRecipient label use).of_same rfl rfl, _, rfl⟩
  newStream _ _ handled := ⟨handled.of_same rfl rfl, _, rfl⟩
  attach query release _ := releasing_handling.attach query release
  names _ _ _ _ handled := handled.of_same rfl rfl

/-- A run through handles installs no listener on a reference itself. -/
theorem Proceeds.handled (proceeds : world.Proceeds later) (handled : world.Handled) :
    later.Handled := by
  induction proceeds with
  | stay world => exact handled
  | further _ _ firstHypothesis secondHypothesis =>
    exact secondHypothesis (firstHypothesis handled)
  | act _ _ uses world inductionHypothesis =>
    exact starting_handling.running.performWith
      (fun _ inside used before => inductionHypothesis _ inside used before) uses handled
  | subscribe _ _ label use aim world inductionHypothesis =>
    exact starting_handling.running.subscribe
      (fun _ inside used before => inductionHypothesis _ inside used before) label
        (fun _ _ member => use.act member) aim handled
  | stream _ _ label aim world inductionHypothesis =>
    exact starting_handling.running.stream
      (fun _ inside used before => inductionHypothesis _ inside used before) label aim handled
  | close stream world => exact releasing_handling.closeStream stream handled
  | take same fewer => exact handled.of_same rfl rfl
  | remark fewer notices cutShort => exact handled.of_same rfl rfl

/-! ### Handles and listeners -/

/-- Whether somebody holds a live query. -/
def isHeld (query : Nat) (world : World) : Bool :=
  (world.queryNames.any fun entry => entry.2 == query) ||
    world.streamNames.any fun entry =>
      world.streams[entry.2]?.any fun stream => stream.query == query

/-- The live queries whose handles were returned and are active, of those that read in a store. -/
def handlesOn (name : Text) (world : World) : List Nat :=
  (List.range world.queries.length).filter fun query =>
    world.isHeld query && world.queries[query]?.any (LiveQuery.isActiveOn name)

/-- The live query that a listener is for. -/
def listenerOf (entry : Nat × Listener Callback) : Option Nat :=
  match entry.2.callback with
  | .live query => some query
  | .recipient _ => none

theorem isHeld_iff (query : Nat) (world : World) :
    world.isHeld query = true ↔ world.IsHeld query := by
  rw [isHeld, IsHeld, Bool.or_eq_true, List.any_eq_true, List.any_eq_true]
  refine or_congr ⟨?_, ?_⟩ ⟨?_, ?_⟩
  · rintro ⟨⟨label, other⟩, member, same⟩
    exact ⟨label, beq_iff_eq.mp same ▸ member⟩
  · rintro ⟨label, member⟩
    exact ⟨(label, query), member, beq_self_eq_true query⟩
  · rintro ⟨⟨label, index⟩, member, some⟩
    obtain ⟨stream, there, same⟩ := (Option.any_eq_true _ _).mp some
    exact ⟨label, index, stream, member, there, beq_iff_eq.mp same⟩
  · rintro ⟨label, index, stream, member, there, same⟩
    refine ⟨(label, index), member, ?_⟩
    rw [there, Option.any_some, same, beq_self_eq_true]

theorem mem_handlesOn_iff {name : Text} {query : Nat} :
    query ∈ world.handlesOn name ↔ world.IsHeld query ∧ ∃ found,
      world.queries[query]? = some found ∧ found.handle.active = true ∧
        ∃ reference, found.source = some (.store name reference) := by
  rw [handlesOn, List.mem_filter, List.mem_range, Bool.and_eq_true, isHeld_iff, Option.any_eq_true]
  refine ⟨fun ⟨_, held, found, present, on⟩ => ⟨held, found, present, ?_⟩,
    fun ⟨held, found, present, on⟩ => ⟨?_, held, found, present, ?_⟩⟩
  · exact LiveQuery.isActiveOn_iff.mp on
  · exact (List.getElem?_eq_some_iff.mp present).1
  · exact LiveQuery.isActiveOn_iff.mpr on

theorem listenerOf_eq_some_iff {entry : Nat × Listener Callback} {query : Nat} :
    listenerOf entry = some query ↔ entry.2.callback = .live query := by
  rw [listenerOf]
  split
  · next same => rw [same, Option.some.injEq, Callback.live.injEq]
  · next same => rw [same]; simp

/-- The listeners of live queries stand in the order in which their live queries were started. -/
theorem Arranged.pairwise_listenerOf (arranged : world.Arranged) {name : Text}
    {store : Store Callback} (there : world.store? name = some store) :
    (store.listeners.filterMap listenerOf).Pairwise (· < ·) := by
  refine List.pairwise_filterMap.mpr
    ((arranged.ordered there).imp fun before one first other second => ?_)
  exact before.query (listenerOf_eq_some_iff.mp first) (listenerOf_eq_some_iff.mp second)

/-- After any run, whoever has a listener in a store is held and active, and has its release. -/
theorem Runs.owns_listener {mode : BuildMode} {stores : List (Text × Store Callback)}
    (unheard : ∀ entry ∈ stores, entry.2.listeners = []) (run : (ofStores mode stores).Runs world)
    {name : Text} {id : Nat} {reference : Reference} {query : Nat}
    (attends : world.Attends name id reference query) :
    query ∈ world.handlesOn name ∧ ∃ found, world.queries[query]? = some found ∧
      found.handle.active = true ∧ found.handle.release = some (.listener name id) := by
  obtain ⟨arranged, _, tight⟩ := run.arranged unheard
  obtain ⟨found, present, source⟩ := arranged.reads attends
  have tied : found.handle.active = true ∧ found.handle.release = some (.listener name id) := by
    by_contra untied
    refine run.not_strays unheard ⟨attends, fun {other} known active released => untied ?_⟩
    obtain rfl := Option.some.inj (present.symm.trans known)
    exact ⟨active, released⟩
  have held : world.IsHeld query := by
    by_contra unheld
    exact tight query ⟨⟨found, present, tied.1⟩, ⟨name, id, reference, attends⟩, unheld⟩
  exact ⟨mem_handlesOn_iff.mpr ⟨held, found, present, tied.1, reference, source⟩, found, present,
    tied⟩

/-- After any run, the live queries that have a listener in an open store are those that are held
and active on it. -/
theorem Runs.perm_handlesOn {mode : BuildMode} {stores : List (Text × Store Callback)}
    (unheard : ∀ entry ∈ stores, entry.2.listeners = []) (run : (ofStores mode stores).Runs world)
    {name : Text} {store : Store Callback} (there : world.store? name = some store)
    (isOpen : store.closed = false) :
    (store.listeners.filterMap listenerOf).Perm (world.handlesOn name) := by
  obtain ⟨arranged, listening, _⟩ := run.arranged unheard
  have distinct : (store.listeners.filterMap listenerOf).Nodup :=
    (arranged.pairwise_listenerOf there).imp Nat.ne_of_lt
  have handlesDistinct : (world.handlesOn name).Nodup := List.nodup_range.filter _
  refine (List.perm_ext_iff_of_nodup distinct handlesDistinct).mpr fun query => ?_
  rw [List.mem_filterMap]
  refine ⟨fun ⟨⟨id, reference, callback⟩, member, same⟩ => ?_, fun handled => ?_⟩
  · obtain rfl : callback = .live query := listenerOf_eq_some_iff.mp same
    exact (run.owns_listener unheard ⟨store, there, member⟩).1
  · obtain ⟨held, found, present, active, reference, source⟩ := mem_handlesOn_iff.mp handled
    obtain ⟨same, known, listens⟩ := listening query held
    obtain rfl := Option.some.inj (present.symm.trans known)
    have opened : world.IsOpen name := by
      intro other found
      obtain rfl := Option.some.inj (there.symm.trans found)
      exact isOpen
    obtain ⟨id, after, also, member⟩ := listens active source there opened
    obtain rfl := Option.some.inj (there.symm.trans also)
    exact ⟨_, member, listenerOf_eq_some_iff.mpr rfl⟩

/-- What is told of how a store stands. -/
theorem store?_of_standing {name : Text} {standing : StoreStanding}
    (stood : world.standing name = .ok standing) : ∃ store, world.store? name = some store ∧
      standing.listeners = store.listeners.length ∧ standing.closed = store.closed := by
  rw [World.standing] at stood
  cases known : world.store name with
  | error failure =>
    rw [known] at stood
    cases stood
  | ok store =>
    rw [known] at stood
    cases stood
    exact ⟨store, store?_of_store known, rfl, rfl⟩

theorem Handled.length_listenerOf (handled : world.Handled) {name : Text} {store : Store Callback}
    (there : world.store? name = some store) :
    (store.listeners.filterMap listenerOf).length = store.listeners.length := by
  refine List.filterMap_length_eq_length.mpr fun entry member => ?_
  obtain ⟨query, callback⟩ := handled.listeners there member
  rw [listenerOf_eq_some_iff.mpr callback]
  rfl

/-! ### Starts that fail -/

/-- A start on a store that fails leaves all stores as they are. -/
theorem stores_startQuery_of_error {performer : Performer} {aim : Aim} {sink : Sink} {name : Text}
    {reference : Reference} (source : aim.source = .store name reference) {failure : Failure}
    (failed : (world.startQuery performer aim sink).1 = .error failure) :
    (world.startQuery performer aim sink).2.stores = world.stores := by
  have opens := opens_startQuery performer aim sink world
  generalize world.startQuery performer aim sink = result at opens failed
  cases opens with
  | refused _ _ => rfl
  | installed _ _ _ => cases failed
  | broken other _ => cases source.symm.trans other
  | watching other _ => cases source.symm.trans other

/-- A query on a store reads there, and to make it ready changes no store. -/
theorem aim_query (name : Text) (value : Value) (world : World) :
    (world.aim (.query name value)).2.stores = world.stores ∧
      ∀ aim, (world.aim (.query name value)).1 = .ok aim →
        ∃ reference, aim.source = .store name reference := by
  rw [World.aim]
  split
  · refine ⟨rfl, fun aim built => ?_⟩
    cases built
  · refine ⟨rfl, fun aim built => ?_⟩
    cases built
  · next components _ _ _ =>
    refine ⟨rfl, fun aim built => ?_⟩
    dsimp only at built
    generalize (Reference.build world.mode components).outcome = outcome at built
    cases outcome with
    | error failure => cases built
    | ok found =>
      cases built
      exact ⟨_, rfl⟩

/-- A subscription to a store that raises leaves no listener behind. -/
theorem stores_subscribe_of_error (performer : Performer) (label name : Text) (value : Value)
    (reactions : List Reaction) {failure : Failure}
    (failed : (world.performWith performer (.subscribe label (.query name value) reactions)).1 =
      .error failure) :
    (world.performWith performer (.subscribe label (.query name value) reactions)).2.stores =
      world.stores := by
  obtain ⟨stores, reads⟩ := aim_query name value world
  rw [performWith] at failed ⊢
  generalize world.aim (.query name value) = readied at failed stores reads
  obtain ⟨refused | aim, after⟩ := readied
  · exact stores
  · obtain ⟨reference, source⟩ := reads aim rfl
    dsimp only at failed ⊢
    rw [subscribeTo] at failed ⊢
    have unchanged := @stores_startQuery_of_error (after.addRecipient label reactions).2 performer aim
      (.recipient (after.addRecipient label reactions).1) name reference source
    generalize (after.addRecipient label reactions).2.startQuery performer aim
      (.recipient (after.addRecipient label reactions).1) = started at failed unchanged
    obtain ⟨raised | query, last⟩ := started
    · exact (unchanged rfl).trans stores
    · cases failed

/-- Nor does a stream. -/
theorem stores_openStream_of_error (performer : Performer) (label name : Text) (value : Value)
    {failure : Failure}
    (failed : (world.performWith performer (.openStream label (.query name value))).1 =
      .error failure) :
    (world.performWith performer (.openStream label (.query name value))).2.stores =
      world.stores := by
  obtain ⟨stores, reads⟩ := aim_query name value world
  rw [performWith] at failed ⊢
  generalize world.aim (.query name value) = readied at failed stores reads
  obtain ⟨refused | aim, after⟩ := readied
  · exact stores
  · obtain ⟨reference, source⟩ := reads aim rfl
    dsimp only at failed ⊢
    rw [streamFrom] at failed ⊢
    have unchanged := @stores_startQuery_of_error after.addStream.2 performer aim
      (.stream after.addStream.1) name reference source
    generalize after.addStream.2.startQuery performer aim (.stream after.addStream.1) = started
      at failed unchanged
    obtain ⟨raised | query, last⟩ := started
    · exact (unchanged rfl).trans stores
    · cases failed

/-! ### The account -/

/-- A state in which handles and listeners are accounted for. -/
structure Accounted (world : World) : Prop where
  /-- An open store has as many listeners as there are active handles on it. -/
  count : ∀ name standing, world.standing name = .ok standing → standing.closed = false →
    standing.listeners = (world.handlesOn name).length
  /-- Every listener is that of an active handle, which would unregister it. -/
  owned : ∀ name store entry, world.store? name = some store → entry ∈ store.listeners →
    ∃ query found, entry.2.callback = .live query ∧ query ∈ world.handlesOn name ∧
      world.queries[query]? = some found ∧ found.handle.release = some (.listener name entry.1)
  /-- A handle that was cancelled has no listener in any store. -/
  cancelled : ∀ (query : Nat) found, world.queries[query]? = some found →
    found.handle.active = false → ∀ name id reference, ¬ world.Attends name id reference query
  /-- A subscription or a stream that fails leaves no listener behind. -/
  refused : ∀ performer label name value failure,
    (∀ reactions, (world.performWith performer (.subscribe label (.query name value) reactions)).1 =
        .error failure →
      (world.performWith performer (.subscribe label (.query name value) reactions)).2.stores =
        world.stores) ∧
    ((world.performWith performer (.openStream label (.query name value))).1 = .error failure →
      (world.performWith performer (.openStream label (.query name value))).2.stores = world.stores)

/-- After any run through handles, handles and listeners are accounted for. -/
theorem Proceeds.accounted {mode : BuildMode} {stores : List (Text × Store Callback)}
    (unheard : ∀ entry ∈ stores, entry.2.listeners = [])
    (proceeds : (ofStores mode stores).Proceeds world) : world.Accounted := by
  have run := proceeds.runs
  have handled : world.Handled := proceeds.handled ⟨nofun, fun there member => by
    rw [listeners_ofStores unheard there] at member
    cases member⟩
  refine ⟨fun name standing stood isOpen => ?_, fun name store entry there member => ?_,
    fun query found present inactive name id reference attends => ?_,
    fun performer label name value failure => ⟨fun reactions failed => ?_, fun failed => ?_⟩⟩
  · obtain ⟨store, there, listeners, closed⟩ := store?_of_standing stood
    rw [listeners, ← handled.length_listenerOf there]
    exact (run.perm_handlesOn unheard there (closed.symm.trans isOpen)).length_eq
  · obtain ⟨query, callback⟩ := handled.listeners there member
    obtain ⟨id, reference, other⟩ := entry
    obtain rfl : other = .live query := callback
    obtain ⟨handle, found, present, _, released⟩ :=
      run.owns_listener unheard ⟨store, there, member⟩
    exact ⟨query, found, rfl, handle, present, released⟩
  · obtain ⟨_, same, known, active, _⟩ := run.owns_listener unheard attends
    obtain rfl := Option.some.inj (present.symm.trans known)
    rw [inactive] at active
    cases active
  · exact stores_subscribe_of_error performer label name value reactions failed
  · exact stores_openStream_of_error performer label name value failed

/-- Live queries on one person and on all people, the second with a listener that starts another one
when it is first told something, and at the next time cancels the first one and raises. Then a
stream, a live query that is refused, a write, and the end of the stream. -/
def busyDay : List Action :=
  let literal (name : Text) : Value := .map [("type", .text "literal"), ("value", .text name)]
  let people : Target := .query "store" (.list [literal "people"])
  [.subscribe "quiet" (.query "store" (.list [literal "people", literal "ada"])) [],
    .subscribe "busy" people
      [.act 1 (.subscribe "inner" people []), .act 2 (.cancel "quiet"),
        .raise 2 (.foreign .running "no more")],
    .openStream "updates" people,
    .subscribe "refused" (.query "store" (.list [])) [.act 1 (.cancel "busy")],
    .write "store" (.text "people/ada") (.map [("age", .int 37)]),
    .closeStream "updates"]

/-- At the end the second live query and the one that its listener started are active, and each has
a listener; the first one, which was cancelled inside a delivery, has none. -/
theorem accounted_busyDay :
    let world := onePerson.performAll busyDay
    onePerson.Proceeds world ∧ world.handlesOn "store" = [1, 2] ∧
      (∃ standing, world.standing "store" = .ok standing ∧ standing.closed = false ∧
        standing.listeners = 2) ∧
      ∃ found, world.queries[0]? = some found ∧ found.handle.active = false ∧
        ∀ id reference, ¬ world.Attends "store" id reference 0 := by
  have unheard : ∀ entry ∈ [(("store" : Text), (Store.ofDocuments
      [⟨["people", "ada"], [("age", .int 36), ("name", .text "Ada")]⟩] : Store Callback))],
      entry.2.listeners = [] := by
    simp [Store.ofDocuments]
  have uses : ∀ action ∈ busyDay, action.UsesHandles := by
    simp [busyDay, Action.UsesHandles, UseHandles, Reaction.UsesHandles]
  have proceeds := proceeds_performAll uses onePerson
  have accounted := proceeds.accounted unheard
  have active : (onePerson.performAll busyDay).handlesOn "store" = [1, 2] := rfl
  refine ⟨proceeds, active, ⟨_, rfl, rfl, ?_⟩, _, rfl, rfl, ?_⟩
  · rw [accounted.count "store" _ rfl rfl, active]
    rfl
  · exact accounted.cancelled 0 _ rfl rfl "store"

end World

end DocQuery
