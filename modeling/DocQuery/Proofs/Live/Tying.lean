/-
This file proves that whoever has a listener has the release of it, and whoever lets go of a
listener unregisters it.

A listener of a live query is tied if its query is active and holds the release that unregisters it.
What is tied stays tied until the query is cancelled, and then the listener is gone. A listener
strays only inside the start of its query: it is registered before the first delivery, and the
release is attached after it. If the query was cancelled in between, the release is carried out at
once; else the listener is tied from then on. So the end of a start leaves no listener that strays,
and neither does anything else that goes on, whatever listeners do.

`Arranged.ties_startQuery` needs to know that nobody else registers a listener for its live query
while its first delivery goes on. So `Ties.attends` is carried along: no live query that was there
gets a listener.
-/

import DocQuery.Proofs.Live.Settling

namespace DocQuery

namespace World

/-! ### Listeners that stray -/

/-- A listener whose live query is not active, or would not unregister it. -/
structure Strays (name : Text) (id : Nat) (reference : Reference) (query : Nat) (world : World) :
    Prop where
  attends : world.Attends name id reference query
  untied : ∀ {found}, world.queries[query]? = some found → found.handle.active = true →
    found.handle.release ≠ some (.listener name id)

/-- From a state to a later one no live query that was there gets a listener, and no listener strays
that did not stray before. -/
structure Ties (world later : World) : Prop where
  grown : world.queries.length ≤ later.queries.length
  attends : ∀ {name id reference query}, query < world.queries.length →
    later.Attends name id reference query → world.Attends name id reference query
  strays : ∀ {name id reference query}, later.Strays name id reference query →
    world.Strays name id reference query

/-- From a state that is arranged, things settle and ties are kept. -/
def Tying (world later : World) : Prop := world.Arranged → world.Settles later ∧ world.Ties later

variable {world later : World} {performer : Performer}

namespace Ties

theorem refl (world : World) : world.Ties world := ⟨Nat.le_refl _, fun _ => id, id⟩

theorem trans {first second third : World} (ties : first.Ties second)
    (further : second.Ties third) : first.Ties third where
  grown := Nat.le_trans ties.grown further.grown
  attends inside := ties.attends inside ∘ further.attends (Nat.lt_of_lt_of_le inside ties.grown)
  strays := ties.strays ∘ further.strays

/-- What adds no listener, and leaves handles with their releases as active as they are. -/
theorem of_handles
    (attends : ∀ {name id reference query}, later.Attends name id reference query →
      world.Attends name id reference query)
    (grown : world.queries.length ≤ later.queries.length)
    (handles : ∀ {query : Nat} {found : LiveQuery}, world.queries[query]? = some found →
      ∃ after, later.queries[query]? = some after ∧
        after.handle.active = found.handle.active ∧ after.handle.release = found.handle.release) :
    world.Ties later := by
  refine ⟨grown, fun _ => attends, fun strays => ⟨attends strays.attends, ?_⟩⟩
  intro found present active released
  obtain ⟨after, there, same, release⟩ := handles present
  exact strays.untied there (same.trans active) (release.trans released)

/-- What leaves stores and live queries as they are. -/
theorem of_same (stores : later.stores = world.stores) (queries : later.queries = world.queries) :
    world.Ties later := by
  refine of_handles (fun attends => ?_) (Nat.le_of_eq (congrArg List.length queries.symm))
    fun {_ found} present => ⟨found, by rwa [queries], rfl, rfl⟩
  obtain ⟨store, there, member⟩ := attends
  rw [store?, stores] at there
  exact ⟨store, there, member⟩

theorem updateStore {name : Text} {change : Store Callback → Store Callback}
    (attends : ∀ {other id reference query},
      (world.updateStore name change).Attends other id reference query →
        world.Attends other id reference query) : world.Ties (world.updateStore name change) := by
  have queries := queries_updateStore name change world
  exact of_handles attends (Nat.le_of_eq (congrArg List.length queries.symm))
    fun {_ found} present => ⟨found, by rwa [queries], rfl, rfl⟩

theorem addQuery (query : LiveQuery) (world : World) : world.Ties (world.addQuery query).2 := by
  refine of_handles id ?_ fun {_ found} present =>
    ⟨found, getElem?_concat_eq_some.mpr (.inl present), rfl, rfl⟩
  rw [World.addQuery, List.length_append]
  exact Nat.le_add_right _ _

end Ties

/-! ### Releases -/

theorem Attends.of_carryOutAny {release : Option Release} {name : Text} {id : Nat}
    {reference : Reference} {query : Nat}
    (attends : (world.carryOutAny release).Attends name id reference query) :
    world.Attends name id reference query := by
  cases release with
  | none => exact attends
  | some release =>
    cases release with
    | listener other index => exact (shrinks_unregister index).attends attends
    | feed path => exact attends
    | watch index => exact attends

/-- A release that was carried out leaves nothing of its listener. -/
theorem not_attends_carryOutAny {name : Text} {id : Nat} {reference : Reference} {query : Nat} :
    ¬ (world.carryOutAny (some (.listener name id))).Attends name id reference query := by
  rintro ⟨after, there, member⟩
  obtain ⟨store, _, ⟨_, rfl⟩ | ⟨different, _⟩⟩ := store?_updateStore_cases there
  · exact of_decide_eq_true (List.mem_filter.mp member).2 rfl
  · exact different rfl

/-- A query that is cancelled takes its listener along, if that was tied. -/
theorem ties_cancelQuery (query : Nat) (world : World) : world.Ties (world.cancelQuery query) := by
  obtain same | ⟨found, present, same⟩ := cancelQuery_cases query world <;> rw [same]
  · exact .refl world
  · have length : world.queries.length = (world.updateHandle query fun handle =>
        { handle with release := none, cancelled := true }).queries.length :=
      (List.length_modify ..).symm
    refine ⟨?_, fun _ attends => attends.of_carryOutAny, fun {name id reference other} strays =>
      ⟨strays.attends.of_carryOutAny, fun {before} known active released => ?_⟩⟩
    · rw [queries_carryOutAny]
      exact Nat.le_of_eq length
    · by_cases equal : query = other
      · subst equal
        obtain rfl := Option.some.inj (present.symm.trans known)
        rw [released] at strays
        exact not_attends_carryOutAny strays.attends
      · have there : ((world.updateHandle query fun handle => { handle with
            release := none, cancelled := true }).carryOutAny
              found.handle.release).queries[other]? = some before := by
          rw [queries_carryOutAny, queries_updateHandle, known, Option.map_some, if_neg equal]
        exact strays.untied there active released

/-- Once a live query has taken the release of all the listeners that it has, none of them strays.
-/
theorem Strays.of_attach {query : Nat} {release : Release} {before : LiveQuery}
    (present : world.queries[query]? = some before)
    (only : ∀ {name id reference}, world.Attends name id reference query →
      release = .listener name id) {name : Text} {id : Nat} {reference : Reference} {other : Nat}
    (strays : (world.attach query release).Strays name id reference other) :
    other ≠ query ∧ world.Strays name id reference other := by
  rw [attach, present] at strays
  dsimp only at strays
  have attends : world.Attends name id reference other := strays.attends.of_carryOutAny
  have apart : other ≠ query := by
    rintro rfl
    have same := only attends
    subst same
    rw [Subscription.attach] at strays
    by_cases cancelled : before.handle.cancelled = true
    · rw [if_pos cancelled] at strays
      exact not_attends_carryOutAny strays.attends
    · rw [if_neg cancelled] at strays
      have there : ((world.updateHandle other fun _ => { before.handle with
          release := some (.listener name id) }).carryOutAny none).queries[other]? =
            some { before with handle := { before.handle with
              release := some (.listener name id) } } := by
        rw [queries_carryOutAny, queries_updateHandle, present, Option.map_some, if_pos rfl]
      refine strays.untied there ?_ rfl
      rw [Subscription.active, eq_false_of_ne_true cancelled]
      rfl
  refine ⟨apart, attends, fun {found} known active released => ?_⟩
  have there : ((world.updateHandle query fun _ =>
      (before.handle.attach release).2).carryOutAny
        (before.handle.attach release).1).queries[other]? = some found := by
    rw [queries_carryOutAny, queries_updateHandle, known, Option.map_some, if_neg apart.symm]
  exact strays.untied there active released

theorem attends_of_attach {query : Nat} {release : Release} {name : Text} {id : Nat}
    {reference : Reference} {other : Nat}
    (attends : (world.attach query release).Attends name id reference other) :
    world.Attends name id reference other := by
  rw [attach] at attends
  split at attends
  · exact attends
  · exact attends.of_carryOutAny

theorem length_queries_attach (query : Nat) (release : Release) (world : World) :
    (world.attach query release).queries.length = world.queries.length := by
  rw [attach]
  split
  · rfl
  · rw [queries_carryOutAny]
    exact List.length_modify ..

/-! ### Single operations -/

theorem ties_closeStream (stream : Nat) (world : World) : world.Ties (world.closeStream stream) := by
  rw [closeStream]
  split
  · exact .refl world
  · split
    · exact .refl world
    · exact (ties_cancelQuery _ world).trans (.of_same rfl rfl)

theorem ties_count (query : Nat) (world : World) :
    world.Ties (world.updateHandle query Subscription.count) := by
  refine .of_handles id (Nat.le_of_eq (List.length_modify ..).symm) fun {index found} present => ?_
  rw [queries_updateHandle, present]
  refine ⟨_, rfl, ?_⟩
  dsimp only
  split <;> exact ⟨rfl, rfl⟩

theorem ties_tell (index : Nat) (occasion : Occasion) (update : Update) (world : World) :
    world.Ties (world.tell index occasion update) := by
  rw [tell]
  split
  · exact .refl world
  · exact .of_same rfl rfl

theorem ties_unlisten (label : Text) (world : World) : world.Ties (world.unlisten label).2 := by
  rw [unlisten]
  split
  · exact .refl world
  · exact .updateStore (shrinks_unregister _).attends

/-- Every operation that calls nobody, or only tells, keeps ties. -/
theorem lasting_tying : Lasting Tying where
  refl world arranged := ⟨.refl arranged, .refl world⟩
  trans tying further arranged := by
    obtain ⟨settles, ties⟩ := tying arranged
    obtain ⟨settling, tied⟩ := further settles.arranged
    exact ⟨settles.trans arranged settling, ties.trans tied⟩
  countDelivery index world arranged :=
    ⟨lasting_settling.countDelivery index world arranged, .of_same rfl rfl⟩
  tell makes arranged := ⟨lasting_settling.tell makes arranged, ties_tell _ _ _ _⟩
  count query world arranged := ⟨lasting_settling.count query world arranged,
    ties_count query world⟩
  push makes arranged := ⟨lasting_settling.push makes arranged, .of_same rfl rfl⟩
  take same fewer arranged := ⟨lasting_settling.take same fewer arranged, .of_same rfl rfl⟩
  remark fewer notices cutShort arranged :=
    ⟨lasting_settling.remark fewer notices cutShort arranged, .of_same rfl rfl⟩
  write name segments data world arranged :=
    ⟨lasting_settling.write name segments data world arranged,
      .updateStore (shrinks_write segments data).attends⟩
  remove name segments world arranged := ⟨lasting_settling.remove name segments world arranged,
    .updateStore (shrinks_remove segments).attends⟩
  close name world arranged :=
    ⟨lasting_settling.close name world arranged, .updateStore shrinks_close.attends⟩
  unlisten label world arranged :=
    ⟨lasting_settling.unlisten label world arranged, ties_unlisten label world⟩
  cancelQuery query world arranged :=
    ⟨lasting_settling.cancelQuery query world arranged, ties_cancelQuery query world⟩
  closeStream stream world arranged :=
    ⟨lasting_settling.closeStream stream world arranged, ties_closeStream stream world⟩
  bindFeed feed watcher world arranged :=
    ⟨lasting_settling.bindFeed feed watcher world arranged, .of_same rfl rfl⟩

theorem KeptBy.settling (kept : KeptBy Tying performer) : KeptBy Settling performer :=
  fun action world arranged => (kept action world arranged).1

/-! ### Starts -/

/-- A listener that is there once one was registered is an earlier one or the new one. -/
theorem Attends.of_register {name other : Text} {listener : Listener Callback} {id : Nat}
    {reference : Reference} {query : Nat}
    (attends : (world.updateStore name (Store.register listener)).Attends other id reference query) :
    world.Attends other id reference query ∨
      other = name ∧ listener = ⟨reference, .live query⟩ ∧
        ∀ store, world.store? name = some store → id = store.nextListener := by
  obtain ⟨after, there, member⟩ := attends
  obtain ⟨store, before, _, cases⟩ := register_cases there
  rcases cases _ member with old | ⟨rfl, new, _⟩
  · exact .inl ⟨store, before, old⟩
  · cases new
    exact .inr ⟨rfl, rfl, fun found known => by
      rw [Option.some.inj (known.symm.trans before)]⟩

/-- To register a listener makes only that listener stray. -/
theorem Strays.of_register {name other : Text} {listener : Listener Callback} {id : Nat}
    {reference : Reference} {query : Nat}
    (strays : (world.updateStore name (Store.register listener)).Strays other id reference query) :
    world.Strays other id reference query ∨ listener.callback = .live query := by
  refine strays.attends.of_register.imp (fun attends => ⟨attends, ?_⟩) fun new => ?_
  · intro found present active released
    rw [← queries_updateStore name (Store.register listener)] at present
    exact strays.untied present active released
  · rw [new.2.1]

/-- Nobody was registered for a live query that is new. -/
theorem Arranged.not_attends_new (arranged : world.Arranged) {name : Text} {id : Nat}
    {reference : Reference} : ¬ world.Attends name id reference world.queries.length := by
  intro attends
  obtain ⟨found, known, _⟩ := arranged.reads attends
  exact Nat.lt_irrefl _ (List.getElem?_eq_some_iff.mp known).1

/-- What is left of a start when the release of the new live query is attached. -/
theorem ties_attach_new {middle : World} {release : Release}
    (inside : world.queries.length < middle.queries.length)
    (only : ∀ {name id reference}, middle.Attends name id reference world.queries.length →
      release = .listener name id)
    (attends : ∀ {name id reference query}, query < world.queries.length →
      middle.Attends name id reference query → world.Attends name id reference query)
    (strays : ∀ {name id reference query}, query ≠ world.queries.length →
      middle.Strays name id reference query → world.Strays name id reference query) :
    world.Ties (middle.attach world.queries.length release) := by
  refine ⟨?_, fun below attending => attends below (attends_of_attach attending),
    fun straying => ?_⟩
  · rw [length_queries_attach]
    exact Nat.le_of_lt inside
  · obtain ⟨apart, before⟩ := straying.of_attach (List.getElem?_eq_getElem inside) only
    exact strays apart before

/-- A start keeps ties: the only listener that strayed inside it gets tied, or it is unregistered.
-/
theorem Arranged.ties_startQuery (arranged : world.Arranged) (kept : KeptBy Tying performer)
    (aim : Aim) (sink : Sink) : world.Ties (world.startQuery performer aim sink).2 := by
  have added : world.Settles (world.addQuery (queryFor aim sink)).2 := arranged.settles_addQuery rfl
  have adding : world.Ties (world.addQuery (queryFor aim sink)).2 := .addQuery _ world
  have length : (world.addQuery (queryFor aim sink)).2.queries.length = world.queries.length + 1 :=
    List.length_append
  have unheard {name : Text} {id : Nat} {reference : Reference} :
      ¬ (world.addQuery (queryFor aim sink)).2.Attends name id reference world.queries.length :=
    arranged.not_attends_new
  have taken (feed : Feed) : (world.addQuery (queryFor aim sink)).2.Ties
      (((world.addQuery (queryFor aim sink)).2.bindFeed feed
        (some world.queries.length)).receiveGives performer world.queries.length feed.first).2 :=
    ((lasting_tying.trans (lasting_tying.bindFeed feed _ _)
      (lasting_tying.receiveGives kept _ feed.first _)) added.arranged).2
  have opens := opens_startQuery performer aim sink world
  generalize world.startQuery performer aim sink = result at opens
  cases opens with
  | refused _ _ => exact adding
  | @installed name reference store snapshot source there accepted =>
    have admits := arranged.admits source sink
    have receives := (lasting_tying.receive kept world.queries.length .standing snapshot _
      (added.arranged.retains_register admits).arranged).2
    have equal : ((world.addQuery (queryFor aim sink)).2.updateStore name
        (Store.register ⟨reference, .live world.queries.length⟩)).queries.length =
          world.queries.length + 1 := by
      rw [queries_updateStore, length]
    have inside := Nat.lt_of_lt_of_le (Nat.lt_of_lt_of_eq (Nat.lt_succ_self _) equal.symm)
      receives.grown
    -- the newest listener is the only one of the new live query
    refine ties_attach_new inside (fun attends => ?_)
      (fun below attends => ?_) fun apart strays => ?_
    · rcases (receives.attends (by omega) attends).of_register with old | ⟨rfl, _, newest⟩
      · exact absurd old unheard
      · rw [newest store there]
    · rcases (receives.attends (by omega) attends).of_register with old | ⟨_, new, _⟩
      · exact old
      · cases new
        exact absurd below (Nat.lt_irrefl _)
    · rcases (receives.strays strays).of_register with old | new
      · exact adding.strays old
      · exact absurd (Callback.live.inj new).symm apart
  | @broken feed failure after source went =>
    have ties := taken feed
    rw [went] at ties
    exact adding.trans ties
  | @watching feed after source went =>
    have ties := taken feed
    rw [went] at ties
    have inside := Nat.lt_of_lt_of_le (Nat.lt_of_lt_of_eq (Nat.lt_succ_self _) length.symm)
      ties.grown
    exact ties_attach_new inside (fun attends => absurd (ties.attends (by omega) attends) unheard)
      (fun below attends => ties.attends (by omega) attends)
      fun _ strays => adding.strays (ties.strays strays)

theorem tying_subscribe (kept : KeptBy Tying performer) (label : Text)
    (reactions : List Reaction) (aim : Aim) (world : World) :
    Tying world ((world.addRecipient label reactions).2.subscribeTo performer label aim
      world.recipients.length).2 := by
  intro arranged
  have added := settling_addRecipient label reactions world arranged
  refine ⟨settling_subscribe kept.settling label reactions aim world arranged, ?_⟩
  have adding : world.Ties (world.addRecipient label reactions).2 := .of_same rfl rfl
  have started := adding.trans
    (added.arranged.ties_startQuery kept aim (.recipient world.recipients.length))
  rw [subscribeTo]
  split
  · next failed =>
    rwa [failed] at started
  · next done =>
    rw [done] at started
    exact started.trans (.of_same rfl rfl)

theorem tying_stream (kept : KeptBy Tying performer) (label : Text) (aim : Aim) (world : World) :
    Tying world (world.streamFrom performer label aim).2 := by
  intro arranged
  have added := settling_addStream world arranged
  refine ⟨settling_stream kept.settling label aim world arranged, ?_⟩
  have adding : world.Ties world.addStream.2 := .of_same rfl rfl
  have started := adding.trans
    (added.arranged.ties_startQuery kept aim (.stream world.streams.length))
  rw [streamFrom, show world.addStream.1 = world.streams.length from rfl]
  split
  · next failed =>
    rwa [failed] at started
  · next done =>
    rw [done] at started
    exact started.trans (.of_same rfl rfl)

theorem tying_listen (kept : KeptBy Tying performer) (label name : Text)
    (calls : List NavigationCall) (reactions : List Reaction) (world : World) :
    Tying world (world.listen performer label name calls reactions).2 := by
  intro arranged
  refine ⟨settling_listen kept.settling label name calls reactions world arranged, ?_⟩
  have adding : world.Ties (world.addRecipient label reactions).2 := .of_same rfl rfl
  obtain same | same | ⟨store, reference, snapshot, there, heard, rfl, went⟩ :=
    listen_cases performer label name calls reactions world
  · rw [same]
    exact .refl world
  · rw [same]
    exact adding
  · have added := settling_addRecipient label reactions world arranged
    have admits : (world.addRecipient label reactions).2.Admits name
        ⟨reference, .recipient world.recipients.length⟩ := ⟨nofun, nofun⟩
    have retains := added.arranged.retains_register admits
    have registering : (world.addRecipient label reactions).2.Ties
        ((world.addRecipient label reactions).2.updateStore name (Store.register
          ⟨reference, .recipient world.recipients.length⟩)) :=
      .updateStore fun attends => attends.of_register.resolve_right fun new => nomatch new.2.1
    have hearing : Tying _ (((world.addRecipient label reactions).2.updateStore name (Store.register
        ⟨reference, .recipient world.recipients.length⟩)).hear performer world.recipients.length
          .standing (.snapshot snapshot)).2 := lasting_tying.hear kept nofun
    have told := (adding.trans registering).trans (hearing retains.arranged).2
    rcases went with same | same <;> rw [same]
    · exact told
    · exact told.trans (.of_same rfl rfl)

/-- Everything keeps ties. -/
theorem enduring_tying : Enduring Tying where
  toLasting := lasting_tying
  listen := tying_listen
  subscribe := tying_subscribe
  stream := tying_stream

/-- After any run no listener strays. -/
theorem Runs.not_strays {mode : BuildMode} {stores : List (Text × Store Callback)}
    (unheard : ∀ entry ∈ stores, entry.2.listeners = []) (run : (ofStores mode stores).Runs world)
    {name : Text} {id : Nat} {reference : Reference} {query : Nat} :
    ¬ world.Strays name id reference query := by
  intro strays
  have ties := (enduring_tying.of_runs run (arranged_ofStores unheard)).2
  obtain ⟨store, there, member⟩ := (ties.strays strays).attends
  rw [listeners_ofStores unheard there] at member
  cases member

end World

end DocQuery
