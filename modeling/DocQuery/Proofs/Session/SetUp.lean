/-
This file says what a live query comes to that cannot be set up.

A query text is parsed and decoded, the project is looked up, its connection is got, the reference is
built, and the listener is accepted by the store. The connection may have to be waited for, and
anything can happen meanwhile. Whichever stage fails first, the recipient of the live query is told
of that failure once, and of nothing else, however long the session goes on: it was set apart from
the beginning, since nothing was told to call it. The caller gets the same failure, unless the
recipient raises something itself: then the caller gets that instead. If no stage fails, the live
query is started, or waits for its connection still, or was cancelled while it waited.
-/

import DocQuery.Proofs.Session.Steps

namespace DocQuery

/-! ### Complaints -/

namespace World

/-- What a listener raises at its first delivery, if anything: it shows the reactions to it in
order, and the first that raises ends it. -/
def complaint (performer : Performer) : List Reaction → World → Option Failure
  | [], _ => none
  | reaction :: rest, world =>
    if reaction.position = 1 then
      match world.showReaction performer reaction with
      | (.error raised, _) => some raised
      | (.ok _, after) => complaint performer rest after
    else complaint performer rest world

variable {apart : Nat → Prop} {world : World} {performer : Performer}

/-- The first that is told to a recipient. -/
theorem tell_of_untold {recipient : Nat} {name : Text} {reactions : List Reaction}
    (present : world.recipients[recipient]? = some ⟨name, 0, reactions⟩)
    (untold : world.events.filter (·.recipient = recipient) = []) (update : Update) :
    (world.tell recipient .report update).events.filter (·.recipient = recipient) =
        [⟨recipient, name, 1, .report, update⟩] ∧
      (world.tell recipient .report update).deliveriesOf recipient = 1 := by
  have told : world.tell recipient .report update =
      { world.countDelivery recipient with
        events := world.events ++ [⟨recipient, name, 1, .report, update⟩] } := by
    rw [tell, present]
  rw [told]
  refine ⟨?_, ?_⟩
  · rw [List.filter_append, untold, List.nil_append]
    exact List.filter_cons_of_pos (decide_eq_true rfl)
  · rw [deliveriesOf, countDelivery, List.getElem?_modify, present]
    simp

/-- A failure can be looked at, so a recipient reacts to it. -/
theorem hear_of_present {recipient count : Nat} {name : Text} {reactions : List Reaction}
    (present : world.recipients[recipient]? = some ⟨name, count, reactions⟩) {failure : Failure} :
    world.hear performer recipient .report (.failure failure) =
      (world.tell recipient .report (.failure failure)).react performer recipient reactions := by
  rw [hear, reactionsOf, present]
  rfl

/-- Whoever is set apart has no second delivery while it reacts to the first. -/
theorem react_of_secludes (kept : (sparing apart).KeptBy performer) {recipient : Nat}
    (set : apart recipient) (reactions : List Reaction) (secludes : world.Secludes apart)
    (first : world.deliveriesOf recipient = 1) :
    (world.react performer recipient reactions).1 =
      (complaint performer reactions world).elim (.ok ()) .error := by
  induction reactions generalizing world with
  | nil => rfl
  | cons reaction rest inductionHypothesis =>
    rw [react, first, complaint]
    split
    · have shown : world.SparesApart apart (world.showReaction performer reaction).2 :=
        (telling_sparing apart).showReaction kept (fun _ _ _ => trivial) secludes
      generalize world.showReaction performer reaction = result at shown
      obtain ⟨raised | _, after⟩ := result
      · rfl
      · refine inductionHypothesis shown.secludes ?_
        rw [deliveriesOf, shown.same recipient set]
        exact first
    · exact inductionHypothesis secludes first

theorem bypasses_tell {callback : Callback} (bypasses : world.Bypasses apart callback)
    (recipient : Nat) (occasion : Occasion) (update : Update) :
    (world.tell recipient occasion update).Bypasses apart callback := by
  rw [tell]
  split
  · exact bypasses
  · exact bypasses.mono (Nat.le_of_eq (List.length_modify ..).symm) fun present =>
      ⟨_, present, rfl⟩

/-- A live query that is not started was added, and has no listener. -/
theorem startQuery_of_error {performer : Performer} {store : Text} {components : List Component}
    {built : Built Reference} {sink : Sink} {failure : Failure} {after : World}
    (refused : world.startQuery performer (.ofBuilt store components built) sink =
      (.error failure, after)) :
    after = (world.addQuery (queryFor (.ofBuilt store components built) sink)).2 := by
  have opens := opens_startQuery performer (.ofBuilt store components built) sink world
  rw [refused] at opens
  cases opens with
  | refused => rfl
  | broken source => cases source

end World

/-- So does one on a hosted store. -/
theorem HostedWorld.exists_startQuery_of_error {type : QueryType} {projection : Projection}
    {sink : Sink} {reference : HostedReference} {failure : Failure} {hosted after : HostedWorld}
    (refused : hosted.startQuery type projection sink reference = (.error failure, after)) :
    ∃ client, after = { hosted with
      client := client
      world := (hosted.world.addQuery
        ⟨.opened type reference.path, projection, none, sink⟩).2 } := by
  rw [startQuery] at refused
  split at refused
  · next failed =>
    cases refused
    rw [startWatch] at failed
    split at failed <;> cases failed
    exact ⟨_, rfl⟩
  · cases refused

namespace Session

variable {σ : Type} {surroundings : Surroundings σ} {session : Session σ}

/-! ### Telling of a failure -/

/-- What the recipient of a live query raises that is told why it cannot be set up, if anything. -/
def objection (recipient : Nat) (reactions : List Reaction) (failure : Failure)
    (reached : Session σ) : Option Failure :=
  World.complaint (performer reached.world) reactions
    (reached.world.tell recipient .report (.failure failure))

/-- A session in which nothing was told to a recipient yet, and nothing would tell it but a request
of its own. -/
structure Expects (recipient task : Nat) (name : Text) (reactions : List Reaction)
    (session : Session σ) : Prop where
  secludes : session.Secludes (· = recipient) (· = task)
  present : session.world.recipients[recipient]? = some ⟨name, 0, reactions⟩
  untold : session.world.events.filter (·.recipient = recipient) = []

/-- A session in which a recipient was told of a failure, and of nothing else, and nothing would tell
it more but a request of its own. -/
structure Told (recipient task : Nat) (name : Text) (failure : Failure) (session : Session σ) :
    Prop where
  secludes : session.Secludes (· = recipient) (· = task)
  once : session.world.events.filter (·.recipient = recipient) =
    [⟨recipient, name, 1, .report, .failure failure⟩]
  counted : session.world.deliveriesOf recipient = 1

variable {recipient task : Nat} {name query : Text} {reactions : List Reaction} {failure : Failure}

namespace Expects

theorem of_spares (expects : session.Expects recipient task name reactions) {later : Session σ}
    (spares : session.SparesApart (· = recipient) later)
    (secludes : later.Secludes (· = recipient) (· = task)) :
    later.Expects recipient task name reactions :=
  ⟨secludes, (spares.world.same recipient rfl).trans expects.present,
    (spares.world.events recipient rfl).trans expects.untold⟩

theorem of_same (expects : session.Expects recipient task name reactions) {later : Session σ}
    (spares : session.SparesApart (· = recipient) later) (same : later.tasks = session.tasks) :
    later.Expects recipient task name reactions :=
  expects.of_spares spares (expects.secludes.of_same spares same)

/-- A recipient is told of a failure, and can keep it from the caller. -/
theorem refuse (expects : session.Expects recipient task name reactions) (failure : Failure) :
    (session.refuse recipient failure).2.Told recipient task name failure ∧
      (session.refuse recipient failure).1 =
        .error ((session.objection recipient reactions failure).getD failure).awaited := by
  obtain ⟨⟨shields, tasks⟩, present, untold⟩ := expects
  have told := World.tell_of_untold present untold (.failure failure)
  have secludes : (session.world.tell recipient .report (.failure failure)).Secludes _ :=
    shields.world.secludes_tell recipient .report (.failure failure)
  have kept : (World.sparing (· = recipient)).KeptBy (performer session.world) :=
    World.keptBy_sparing _ _
  have reacted : World.SparesApart _ _ _ :=
    (World.telling_sparing (· = recipient)).react kept recipient
      (fun _ _ _ => trivial : (World.sparing (· = recipient)).Allows reactions) secludes
  have outcome : _ = (session.objection recipient reactions failure).elim (Except.ok ()) .error :=
    World.react_of_secludes kept rfl reactions secludes told.2
  have bypasses {callback : Callback}
      (bypasses : session.world.Bypasses (· = recipient) callback) :=
    reacted.bypasses (World.bypasses_tell bypasses recipient .report (.failure failure))
  have same := tasks_refuse recipient failure session
  rw [Session.refuse, World.hear_of_present present] at same ⊢
  generalize World.react (performer session.world) recipient reactions
    (session.world.tell recipient .report (.failure failure)) = result at reacted outcome bypasses
  obtain ⟨answer, after⟩ := result
  have ended : (session.withWorld after).Told recipient task name failure := by
    refine ⟨⟨⟨reacted.secludes, fun known => (shields.watches known).imp_right bypasses,
      fun member => (shields.waiting member).imp_right bypasses⟩,
      fun known => (tasks known).imp_right fun other _ _ live => bypasses (other _ _ live)⟩,
      (reacted.events recipient rfl).trans told.1, ?_⟩
    have counted := told.2
    rwa [World.deliveriesOf, ← reacted.same recipient rfl] at counted
  cases objected : session.objection recipient reactions failure with
  | none =>
    rw [objected] at outcome
    cases outcome
    exact ⟨ended, rfl⟩
  | some raised =>
    rw [objected] at outcome
    cases outcome
    exact ⟨ended, rfl⟩

/-- Building tells nobody, and changes no request. -/
theorem build (expects : session.Expects recipient task name reactions) {connection : Connection}
    {components : List Component} {outcome : Except Failure BuiltOn} {after : Session σ}
    (ready : session.build connection components = (outcome, after)) :
    after.Expects recipient task name reactions ∧ after.tasks = session.tasks := by
  have spares := spares_build expects.secludes.shields connection components
  have same := tasks_build connection components session
  rw [ready] at spares same
  exact ⟨expects.of_same spares same, same⟩

/-- The request of the recipient is added, or comes to another stage. -/
theorem of_tasks (expects : session.Expects recipient task name reactions) {later : Session σ}
    (world : later.world = session.world) (secludes : later.Secludes (· = recipient) (· = task)) :
    later.Expects recipient task name reactions :=
  ⟨secludes, world ▸ expects.present, world ▸ expects.untold⟩

end Expects

theorem Told.of_tasks (told : session.Told recipient task name failure) {later : Session σ}
    (world : later.world = session.world) (secludes : later.Secludes (· = recipient) (· = task)) :
    later.Told recipient task name failure :=
  ⟨secludes, world ▸ told.once, world ▸ told.counted⟩

/-- A session of which nobody is told who is not there expects whoever is new. -/
theorem Secludes.expects (numbered : session.Numbered) (name : Text) (reactions : List Reaction) :
    (session.withWorld (session.world.addRecipient name reactions).2).Expects
      session.world.recipients.length session.tasks.length name reactions := by
  obtain ⟨⟨world, watches, waiting⟩, tasks⟩ := numbered
  have bypasses {callback : Callback}
      (bypasses : session.world.Bypasses (fun _ => False) callback) :=
    World.Secludes.bypasses_new world bypasses name reactions
  refine ⟨⟨⟨world.secludes_addRecipient name reactions,
      fun present => .inr (bypasses ((watches present).resolve_left id)),
      fun member => .inr (bypasses ((waiting member).resolve_left id))⟩,
    fun present => .inr fun _ _ live => bypasses ((tasks present).resolve_left id _ _ live)⟩,
    List.getElem?_concat_length .., List.filter_eq_nil_iff.mpr fun event member same => ?_⟩
  exact Nat.ne_of_lt (world.told member) (of_decide_eq_true same)

/-! ### Stages -/

/-- How a live query ends that cannot be set up, with a failure in a session that was there by then:
its recipient was told, and its caller gets what the recipient raised then, or else the failure. -/
structure Refuses (recipient task : Nat) (name query : Text) (reactions : List Reaction)
    (failure : Failure) (reached ended : Session σ) : Prop where
  told : ended.Told recipient task name failure
  answered : ended.tasks[task]? = some ⟨.live name recipient, query,
    .answered (.error ((reached.objection recipient reactions failure).getD failure).awaited)⟩

section

variable (surroundings : Surroundings σ) (name query : Text) (reactions : List Reaction)
  (later : List (Step σ)) (session : Session σ)

/-- The session with a new recipient, for which a live query is about to be asked. -/
def awaiting : Session σ := session.withWorld (session.world.addRecipient name reactions).2

/-- In the course of some steps after it was asked for, a live query has its turn, and the pool has
an answer for it by then. -/
structure Answered (components : List Component) (project : Text) (ending : Ending Connection)
    (reached : Session σ) : Prop where
  turn : ∃ before rest, later = before ++ .turn session.tasks.length :: rest ∧
    (session.live surroundings name query reactions).runAll surroundings before = reached
  answer : ∃ caller, reached.tasks[session.tasks.length]? =
      some ⟨.live name session.world.recipients.length, query, .waiting caller components project⟩ ∧
    reached.pool.callerEnding caller = some ending

/-- The stage at which a live query cannot be set up: with which failure, and which session is there
by then. What a coroutine cannot raise is replaced where it leaves the first one. -/
inductive Fails : Failure → Session σ → Prop
  | parsing {failure : Failure} {after : σ}
      (refused : surroundings.parse query session.outside = (.error failure, after)) :
      Fails failure.awaited { session.awaiting name reactions with outside := after }
  | decoding {parsed : Parsed} {failure : Failure} {after : σ}
      (text : surroundings.parse query session.outside = (.ok parsed, after))
      (refused : parsed.decode = .error failure) :
      Fails failure.awaited { session.awaiting name reactions with outside := after }
  | choosing {parsed : Parsed} {components : List Component} {failure : Failure} {after last : σ}
      (text : surroundings.parse query session.outside = (.ok parsed, after))
      (decoded : parsed.decode = .ok components)
      (refused : surroundings.project after = (.error failure, last)) :
      Fails failure.awaited { session.awaiting name reactions with outside := last }
  | connecting {components : List Component} {project : Text} {failure : Failure}
      {reached : Session σ} (answered : session.Answered surroundings name query reactions later
        components project (.failed failure) reached) : Fails failure reached
  | building {components : List Component} {project : Text} {connection : Connection}
      {failure : Failure} {reached after : Session σ}
      (answered : session.Answered surroundings name query reactions later components project
        (.connected connection) reached)
      (refused : reached.build connection components = (.error failure, after)) :
      Fails failure.awaited after
  /-- The live query is there by then, but has no listener. -/
  | installing {components : List Component} {project : Text} {connection : Connection}
      {built : BuiltOn} {failure : Failure} {reached after last : Session σ}
      (answered : session.Answered surroundings name query reactions later components project
        (.connected connection) reached)
      (ready : reached.build connection components = (.ok built, after))
      (refused : after.install name session.world.recipients.length components built =
        (.error failure, last)) : Fails failure last

/-- How a live query stands that nothing keeps from being set up. -/
inductive Proceeds (ended : Session σ) : Prop
  | waits {caller : Nat} {components : List Component} {project : Text}
      (expects : ended.Expects session.world.recipients.length session.tasks.length name reactions)
      (present : ended.tasks[session.tasks.length]? = some ⟨.live name
        session.world.recipients.length, query, .waiting caller components project⟩)
      (unanswered : ∀ components project ending reached, ¬ session.Answered surroundings name query
        reactions later components project ending reached)
  | cancelled {components : List Component} {project : Text} {reached : Session σ}
      (expects : ended.Expects session.world.recipients.length session.tasks.length name reactions)
      (present : ended.tasks[session.tasks.length]? = some ⟨.live name
        session.world.recipients.length, query, .cancelled⟩)
      (answered : session.Answered surroundings name query reactions later components project
        .cancelled reached)
  | started {components : List Component} {project : Text} {connection : Connection}
      {reached : Session σ}
      (present : ended.tasks[session.tasks.length]? = some ⟨.live name
        session.world.recipients.length, query, .answered (.ok .started)⟩)
      (answered : session.Answered surroundings name query reactions later components project
        (.connected connection) reached)

end

/-! ### Turns -/

/-- A session in which the request of a live query waits for its connection. -/
structure Awaits (recipient task : Nat) (name query : Text) (reactions : List Reaction)
    (caller : Nat) (components : List Component) (project : Text) (session : Session σ) :
    Prop where
  expects : session.Expects recipient task name reactions
  present : session.tasks[task]? =
    some ⟨.live name recipient, query, .waiting caller components project⟩

theorem getElem?_tasks_conclude {found : Task} (present : session.tasks[task]? = some found)
    (stage : Stage) :
    (session.conclude task stage).tasks[task]? = some { found with stage := stage } := by
  rw [conclude, List.getElem?_modify, present]
  simp

/-- A live query that is not started stays without a listener. -/
theorem exists_install_of_error {components : List Component} {built : BuiltOn}
    {after : Session σ}
    (refused : session.install name recipient components built = (.error failure, after)) :
    ∃ query client, query.sink = .recipient recipient ∧
      after = { session.withWorld (session.world.addQuery query).2 with client := client } := by
  cases built with
  | memory store built =>
    cases started : session.world.startQuery (performer session.world)
        (.ofBuilt store components built) (.recipient recipient) with
    | mk outcome reached =>
      rw [install, World.subscribeTo, started] at refused
      cases outcome with
      | ok query => cases refused
      | error other =>
        cases refused
        exact ⟨_, session.client, rfl, by rw [World.startQuery_of_error started]; rfl⟩
  | hosted built =>
    rw [install] at refused
    split at refused
    · next failed =>
      cases refused
      obtain ⟨client, rfl⟩ := HostedWorld.exists_startQuery_of_error failed
      exact ⟨_, client, rfl, rfl⟩
    · cases refused

namespace Awaits

variable {caller : Nat} {components : List Component} {project : Text}
  (awaits : session.Awaits recipient task name query reactions caller components project)

include awaits

/-- A live query is refused in its turn. -/
theorem refuses {reached : Session σ} (expects : reached.Expects recipient task name reactions)
    (same : reached.tasks = session.tasks) (failure : Failure) :
    Refuses recipient task name query reactions failure reached
      ((reached.refuse recipient failure).2.conclude task
        (.answered (reached.refuse recipient failure).1)) := by
  obtain ⟨told, raised⟩ := expects.refuse failure
  have present := awaits.present
  rw [← same, ← tasks_refuse recipient failure reached] at present
  refine ⟨told.of_tasks rfl (told.secludes.conclude _ _), ?_⟩
  rw [getElem?_tasks_conclude present, raised]

theorem turn_of_failed (answer : session.pool.callerEnding caller = some (.failed failure)) :
    Refuses recipient task name query reactions failure session
      (session.turn surroundings task) := by
  rw [turn, awaits.present]
  dsimp only
  rw [answer]
  exact awaits.refuses awaits.expects rfl failure

theorem turn_of_cancelled (answer : session.pool.callerEnding caller = some .cancelled) :
    (session.turn surroundings task).Expects recipient task name reactions ∧
      (session.turn surroundings task).tasks[task]? =
        some ⟨.live name recipient, query, .cancelled⟩ := by
  rw [turn, awaits.present]
  dsimp only
  rw [answer]
  exact ⟨awaits.expects.of_tasks rfl (awaits.expects.secludes.conclude _ _),
    getElem?_tasks_conclude awaits.present _⟩

variable {connection : Connection}
  (answer : session.pool.callerEnding caller = some (.connected connection))

include answer

theorem turn_of_connected : session.turn surroundings task =
    (session.finish surroundings ⟨.live name recipient, query, .waiting caller components project⟩
      components project connection).2.conclude task (.answered (session.finish surroundings
        ⟨.live name recipient, query, .waiting caller components project⟩ components project
          connection).1) := by
  rw [turn, awaits.present]
  dsimp only
  rw [answer]

theorem turn_of_unbuilt {after : Session σ}
    (refused : session.build connection components = (.error failure, after)) :
    Refuses recipient task name query reactions failure.awaited after
      (session.turn surroundings task) := by
  obtain ⟨expects, same⟩ := awaits.expects.build refused
  rw [awaits.turn_of_connected answer, finish, refused]
  exact awaits.refuses expects same failure.awaited

variable {built : BuiltOn} {after : Session σ}
  (ready : session.build connection components = (.ok built, after))

include ready

theorem turn_of_uninstalled {last : Session σ}
    (refused : after.install name recipient components built = (.error failure, last)) :
    Refuses recipient task name query reactions failure last (session.turn surroundings task) := by
  obtain ⟨expects, same⟩ := awaits.expects.build ready
  have kept := tasks_install name recipient components built after
  rw [refused] at kept
  obtain ⟨query, client, sink, added⟩ := exists_install_of_error refused
  have shields := expects.secludes.shields
  have inside := (List.getElem?_eq_some_iff.mp expects.present).1
  have further : after.SparesApart (· = recipient) last := by
    rw [added]
    exact spares_of_world shields (shields.world.spares_addQuery
      fun index other => Sink.recipient.inj (sink.symm.trans other) ▸ inside) rfl rfl
  rw [awaits.turn_of_connected answer, finish, ready]
  dsimp only
  rw [goOn]
  dsimp only
  rw [refused]
  exact awaits.refuses (expects.of_same further kept) (kept.trans same) failure

theorem turn_of_installed {last : Session σ}
    (installed : after.install name recipient components built = (.ok (), last)) :
    (session.turn surroundings task).tasks[task]? =
      some ⟨.live name recipient, query, .answered (.ok .started)⟩ := by
  have same := (awaits.expects.build ready).2
  have kept := tasks_install name recipient components built after
  rw [installed] at kept
  have present := awaits.present
  rw [← show last.tasks = session.tasks from kept.trans same] at present
  rw [awaits.turn_of_connected answer, finish, ready]
  dsimp only
  rw [goOn]
  dsimp only
  rw [installed]
  exact getElem?_tasks_conclude present _

end Awaits

/-! ### Courses -/

theorem Expects.runAll (expects : session.Expects recipient task name reactions) {found : Task}
    (present : session.tasks[task]? = some found)
    (ended : ∀ caller components project, found.stage ≠ .waiting caller components project)
    (steps : List (Step σ)) :
    (session.runAll surroundings steps).Expects recipient task name reactions := by
  obtain ⟨spares, kept⟩ := expects.secludes.runAll surroundings
    (by rintro _ rfl; exact ⟨_, present, ended⟩) steps
  exact expects.of_spares spares kept

/-- While a request does not wait, nothing more is told to its recipient. -/
theorem Refuses.runAll {reached ended : Session σ}
    (refuses : Refuses recipient task name query reactions failure reached ended)
    (steps : List (Step σ)) :
    Refuses recipient task name query reactions failure reached
      (ended.runAll surroundings steps) := by
  obtain ⟨⟨secludes, once, counted⟩, answered⟩ := refuses
  obtain ⟨spares, kept⟩ := secludes.runAll surroundings
    (by rintro _ rfl; exact ⟨_, answered, nofun⟩) steps
  refine ⟨⟨kept, (spares.world.events recipient rfl).trans once, ?_⟩,
    getElem?_tasks_runAll surroundings answered nofun steps⟩
  rw [World.deliveriesOf, spares.world.same recipient rfl]
  exact counted

namespace Awaits

variable {caller : Nat} {components : List Component} {project : Text}

/-- Every turn in which the pool has an answer is the end of waiting. -/
theorem exists_turn_of_answer
    (awaits : session.Awaits recipient task name query reactions caller components project)
    {ending : Ending Connection} (answer : session.pool.callerEnding caller = some ending) :
    ∃ stage, (session.turn surroundings task).tasks[task]? =
        some ⟨.live name recipient, query, stage⟩ ∧
      ∀ caller components project, stage ≠ .waiting caller components project := by
  cases ending with
  | cancelled => exact ⟨_, (awaits.turn_of_cancelled answer).2, nofun⟩
  | failed failure => exact ⟨_, (awaits.turn_of_failed answer).answered, nofun⟩
  | connected connection =>
    have present := awaits.present
    rw [← tasks_finish surroundings ⟨.live name recipient, query,
      .waiting caller components project⟩ components project connection session] at present
    rw [awaits.turn_of_connected answer]
    exact ⟨_, getElem?_tasks_conclude present _, nofun⟩

/-- Whatever happens, a request waits until a turn in which the pool has an answer. -/
theorem step
    (awaits : session.Awaits recipient task name query reactions caller components project)
    {step : Step σ} (unanswered : step = .turn task → session.pool.callerEnding caller = none) :
    (session.step surroundings step).Awaits recipient task name query reactions caller components
      project := by
  have idle (ours : step = .turn task) : session.turn surroundings task = session := by
    rw [turn, awaits.present]
    dsimp only
    rw [unanswered ours]
  by_cases ours : step = .turn task
  · rw [ours, Session.step, idle ours]
    exact awaits
  · obtain ⟨spares, secludes⟩ := awaits.expects.secludes.step surroundings
      fun index same other => absurd ((show index = task from same) ▸ other) ours
    obtain ⟨_, present, rfl | ⟨turned, _⟩⟩ :=
      exists_getElem?_tasks_step surroundings awaits.present step
    · exact ⟨awaits.expects.of_spares spares secludes, present⟩
    · exact absurd turned ours

/-- In the course of steps a request waits to the end, or to the first turn in which the pool has an
answer. -/
theorem course
    (awaits : session.Awaits recipient task name query reactions caller components project)
    (steps : List (Step σ)) :
    ((session.runAll surroundings steps).Awaits recipient task name query reactions caller
        components project ∧
      ∀ before rest, steps = before ++ .turn task :: rest →
        (session.runAll surroundings before).Awaits recipient task name query reactions caller
          components project ∧
        (session.runAll surroundings before).pool.callerEnding caller = none) ∨
    ∃ before rest ending, steps = before ++ .turn task :: rest ∧
      (session.runAll surroundings before).Awaits recipient task name query reactions caller
        components project ∧
      (session.runAll surroundings before).pool.callerEnding caller = some ending := by
  induction steps generalizing session with
  | nil => exact .inl ⟨awaits, fun before rest same => by cases before <;> cases same⟩
  | cons first rest inductionHypothesis =>
    by_cases answered : first = .turn task ∧ ∃ ending, session.pool.callerEnding caller = some ending
    · obtain ⟨rfl, ending, answer⟩ := answered
      exact .inr ⟨[], rest, ending, rfl, awaits, answer⟩
    · have unanswered (ours : first = .turn task) : session.pool.callerEnding caller = none :=
        Option.eq_none_iff_forall_ne_some.mpr fun ending answer => answered ⟨ours, ending, answer⟩
      rcases inductionHypothesis (awaits.step unanswered) with
        ⟨last, turns⟩ | ⟨before, others, ending, rfl, waits, answer⟩
      · refine .inl ⟨last, fun before others same => ?_⟩
        cases before with
        | nil =>
          cases same
          exact ⟨awaits, unanswered rfl⟩
        | cons other before =>
          cases same
          exact turns before others rfl
      · exact .inr ⟨first :: before, others, ending, rfl, waits, answer⟩

end Awaits

/-! ### Beginnings -/

namespace Secludes

variable (surroundings) (numbered : session.Numbered)

include numbered

/-- Nobody knows the recipient of a live query when it is asked for. -/
theorem expects_choose (name query : Text) (reactions : List Reaction) :
    ((session.awaiting name reactions).choose surroundings query).2.Expects
        session.world.recipients.length session.tasks.length name reactions ∧
      ((session.awaiting name reactions).choose surroundings query).2.tasks = session.tasks := by
  have expects := numbered.expects name reactions
  have spares := spares_choose surroundings expects.secludes.shields query
  obtain ⟨_, chosen⟩ := exists_choose surroundings query (session.awaiting name reactions)
  have same : ((session.awaiting name reactions).choose surroundings query).2.tasks =
      session.tasks := by
    rw [chosen]
    rfl
  exact ⟨expects.of_same spares same, same⟩

/-- A live query that does not get as far as the pool is refused at once. -/
theorem refuses_live {after : Session σ}
    (refused : (session.awaiting name reactions).choose surroundings query =
      (.error failure, after)) :
    Refuses session.world.recipients.length session.tasks.length name query reactions
      failure.awaited after (session.live surroundings name query reactions) := by
  obtain ⟨expects, same⟩ := numbered.expects_choose surroundings name query reactions
  rw [refused] at expects same
  obtain ⟨told, raised⟩ := expects.refuse failure.awaited
  have tasks : (after.refuse session.world.recipients.length failure.awaited).2.tasks =
      session.tasks := (tasks_refuse _ _ _).trans same
  have lived : session.live surroundings name query reactions =
      let rejected := after.refuse session.world.recipients.length failure.awaited
      { rejected.2 with tasks := rejected.2.tasks ++
        [⟨.live name session.world.recipients.length, query, .answered rejected.1⟩] } := by
    rw [Session.live, Session.start, ← awaiting, refused]
    rfl
  rw [lived]
  dsimp only
  rw [tasks, raised]
  have idle := told.secludes.shields
  refine ⟨told.of_tasks rfl (told.secludes.of_own (spares_of_world idle idle.world.refl rfl rfl)
    (by rw [tasks]) (by rw [tasks])), List.getElem?_concat_length ..⟩

theorem awaits_live {components : List Component} {project : Text} {after : Session σ}
    (chosen : (session.awaiting name reactions).choose surroundings query =
      (.ok (components, project), after)) :
    ∃ caller, (session.live surroundings name query reactions).Awaits
      session.world.recipients.length session.tasks.length name query reactions caller components
        project := by
  obtain ⟨expects, same⟩ := numbered.expects_choose surroundings name query reactions
  rw [chosen] at expects same
  have spares := spares_call surroundings expects.secludes.shields project
  have lived : session.live surroundings name query reactions =
      let called := after.call surroundings project
      { called.2 with tasks := called.2.tasks ++
        [⟨.live name session.world.recipients.length, query,
          .waiting called.1 components project⟩] } := by
    rw [Session.live, Session.start, ← awaiting, chosen]
    rfl
  obtain ⟨_, _, called⟩ := exists_call surroundings project after
  have tasks : (after.call surroundings project).2.tasks = session.tasks := by
    rw [called]
    exact same
  rw [lived]
  dsimp only
  rw [tasks]
  refine ⟨_, ⟨expects.of_spares ⟨spares.world, spares.shields⟩ (expects.secludes.of_own
    ⟨spares.world, spares.shields⟩ (by rw [same]) (by rw [same])),
    List.getElem?_concat_length ..⟩⟩

end Secludes

/-! ### Live queries that cannot be set up -/

variable {later : List (Step σ)}

/-- What keeps a live query from getting as far as the pool is a failure of one of the first stages.
-/
theorem fails_of_choose {after : Session σ}
    (refused : (session.awaiting name reactions).choose surroundings query =
      (.error failure, after)) :
    session.Fails surroundings name query reactions later failure.awaited after := by
  rw [choose, show (session.awaiting name reactions).outside = session.outside from rfl] at refused
  cases text : surroundings.parse query session.outside with
  | mk parsed after =>
    rw [text] at refused
    cases parsed with
    | error other =>
      cases refused
      exact .parsing text
    | ok parsed =>
      dsimp only at refused
      cases decoded : parsed.decode with
      | error other =>
        rw [decoded] at refused
        cases refused
        exact .decoding text decoded
      | ok components =>
        rw [decoded] at refused
        dsimp only at refused
        cases chosen : surroundings.project after with
        | mk project last =>
          rw [chosen] at refused
          cases project with
          | error other =>
            cases refused
            exact .choosing text decoded chosen
          | ok project => cases refused

/-- An answer that a live query has its turn with comes while it waits for it. -/
theorem Answered.exists_awaits (numbered : session.Numbered) {components : List Component}
    {project : Text} {ending : Ending Connection} {reached : Session σ}
    (answered : session.Answered surroundings name query reactions later components project ending
      reached) :
    ∃ caller, reached.Awaits session.world.recipients.length session.tasks.length name query
        reactions caller components project ∧
      reached.pool.callerEnding caller = some ending ∧
      ∃ rest, (session.live surroundings name query reactions).runAll surroundings later =
        (reached.turn surroundings session.tasks.length).runAll surroundings rest := by
  obtain ⟨⟨before, rest, rfl, rfl⟩, caller, present, answer⟩ := answered
  have split : (session.live surroundings name query reactions).runAll surroundings
      (before ++ .turn session.tasks.length :: rest) = _ := runAll_append surroundings ..
  refine ⟨caller, ?_, answer, rest, split⟩
  -- A request that was answered before does not wait any more.
  have past {task : Task} {reached : Session σ} {steps : List (Step σ)}
      (there : reached.tasks[session.tasks.length]? = some task)
      (ended : ∀ caller components project, task.stage ≠ .waiting caller components project)
      (waits : (reached.runAll surroundings steps).tasks[session.tasks.length]? = some
        ⟨.live name session.world.recipients.length, query,
          .waiting caller components project⟩) : False := by
    cases (getElem?_tasks_runAll surroundings there ended steps).symm.trans waits
    exact ended _ _ _ rfl
  rcases chosen : (session.awaiting name reactions).choose surroundings query with
    ⟨failure | ⟨components, project⟩, after⟩
  · exact (past (numbered.refuses_live surroundings chosen).answered nofun present).elim
  · obtain ⟨caller, awaits⟩ := numbered.awaits_live surroundings chosen
    rcases awaits.course before with ⟨last, _⟩ | ⟨first, others, ending, rfl, waits, answer⟩
    · cases last.present.symm.trans present
      exact last
    · obtain ⟨stage, turned, ended⟩ := waits.exists_turn_of_answer answer
      rw [runAll_append] at present
      exact (past turned ended present).elim

/-- A live query that cannot be set up is refused, once and for all. -/
theorem Fails.refuses (numbered : session.Numbered) {reached : Session σ}
    (fails : session.Fails surroundings name query reactions later failure reached) :
    Refuses session.world.recipients.length session.tasks.length name query reactions failure reached
      ((session.live surroundings name query reactions).runAll surroundings later) := by
  have same : (session.awaiting name reactions).outside = session.outside := rfl
  cases fails with
  | @parsing failure after refused =>
    have chosen : (session.awaiting name reactions).choose surroundings query =
        (.error failure, { session.awaiting name reactions with outside := after }) := by
      rw [choose, same, refused]
    exact (numbered.refuses_live surroundings chosen).runAll later
  | @decoding _ failure after text refused =>
    have chosen : (session.awaiting name reactions).choose surroundings query =
        (.error failure, { session.awaiting name reactions with outside := after }) := by
      rw [choose, same, text]
      dsimp only
      rw [refused]
    exact (numbered.refuses_live surroundings chosen).runAll later
  | @choosing _ _ failure _ last text decoded refused =>
    have chosen : (session.awaiting name reactions).choose surroundings query =
        (.error failure, { session.awaiting name reactions with outside := last }) := by
      rw [choose, same, text]
      dsimp only
      rw [decoded]
      dsimp only
      rw [refused]
      rfl
    exact (numbered.refuses_live surroundings chosen).runAll later
  | connecting answered =>
    obtain ⟨_, awaits, answer, rest, split⟩ := answered.exists_awaits numbered
    rw [split]
    exact (awaits.turn_of_failed answer).runAll rest
  | building answered refused =>
    obtain ⟨_, awaits, answer, rest, split⟩ := answered.exists_awaits numbered
    rw [split]
    exact (awaits.turn_of_unbuilt answer refused).runAll rest
  | installing answered ready refused =>
    obtain ⟨_, awaits, answer, rest, split⟩ := answered.exists_awaits numbered
    rw [split]
    exact (awaits.turn_of_uninstalled answer ready refused).runAll rest

/-- If no stage fails, the live query is started by the turn in which the pool has a connection. -/
theorem proceeds_of_not_fails (numbered : session.Numbered) (calm : ∀ failure reached,
      ¬ session.Fails surroundings name query reactions later failure reached) :
    session.Proceeds surroundings name query reactions later
      ((session.live surroundings name query reactions).runAll surroundings later) := by
  rcases chosen : (session.awaiting name reactions).choose surroundings query with
    ⟨failure | ⟨components, project⟩, after⟩
  · exact absurd (fails_of_choose chosen) (calm _ _)
  · obtain ⟨caller, awaits⟩ := numbered.awaits_live surroundings chosen
    rcases awaits.course later with ⟨last, turns⟩ | ⟨before, rest, ending, split, waits, answer⟩
    · refine .waits last.expects last.present ?_
      rintro _ _ _ _ ⟨⟨before, rest, split, rfl⟩, _, present, answer⟩
      obtain ⟨waits, unanswered⟩ := turns before rest split
      cases waits.present.symm.trans present
      cases unanswered.symm.trans answer
    · generalize known : (session.live surroundings name query reactions).runAll surroundings
        before = reached at waits answer
      have answered : session.Answered surroundings name query reactions later components project
          ending reached := ⟨⟨before, rest, split, known⟩, caller, waits.present, answer⟩
      have turned : (session.live surroundings name query reactions).runAll surroundings later =
          (reached.turn surroundings session.tasks.length).runAll surroundings rest := by
        rw [split, runAll_append, known]
        rfl
      rw [turned]
      cases ending with
      | cancelled =>
        obtain ⟨expects, present⟩ := waits.turn_of_cancelled answer
        exact .cancelled (expects.runAll present nofun rest)
          (getElem?_tasks_runAll surroundings present nofun rest) answered
      | failed failure => exact absurd (.connecting answered) (calm _ _)
      | connected connection =>
        rcases ready : reached.build connection components with ⟨failure | built, after⟩
        · exact absurd (.building answered ready) (calm _ _)
        · rcases installed : after.install name session.world.recipients.length components built
            with ⟨failure | _, last⟩
          · exact absurd (.installing answered ready installed) (calm _ _)
          · exact .started (getElem?_tasks_runAll surroundings
              (waits.turn_of_installed answer ready installed) nofun rest) answered

/-- In every session, with every query text and every recipient, and whatever happens before and
after: if a stage fails then the recipient is told of that failure once and of nothing else, and the
caller gets what the recipient raised then, or else the failure. If none fails, the live query is
started, unless it waits for its connection still or its caller was cancelled, and then the
recipient was told nothing. -/
theorem refuses_or_starts (surroundings : Surroundings σ) (outside : σ) (client : NativeClient)
    (mode : BuildMode) {stores : List (Text × Store Callback)}
    (unheard : ∀ entry ∈ stores, entry.2.listeners = []) (before later : List (Step σ))
    (name query : Text) (reactions : List Reaction) :
    let session := (opened outside client mode stores).runAll surroundings before
    let ended := (session.live surroundings name query reactions).runAll surroundings later
    (∀ failure reached, session.Fails surroundings name query reactions later failure reached →
      Refuses session.world.recipients.length session.tasks.length name query reactions failure
        reached ended) ∧
    ((∀ failure reached, ¬ session.Fails surroundings name query reactions later failure reached) →
      session.Proceeds surroundings name query reactions later ended) := by
  intro session ended
  have numbered : session.Numbered :=
    numbered_runAll surroundings outside client mode unheard before
  exact ⟨fun failure reached fails => fails.refuses numbered, proceeds_of_not_fails numbered⟩

/-- Surroundings in which a query text is the name of a collection, the project is always the same
one, and its connection has to be waited for. -/
def unhurried : Surroundings Unit where
  parse query _ := (.ok (.sequence [.inl (.literal query)]), ())
  project _ := (.ok "alpha", ())
  connect _ _ := (.pending, ())
  disconnect _ _ := (.ok (), ())
  fetched _ _ := (.nothing, ())

/-- A session on one person, whose connection was closed after the first live query. -/
def closedEarly : Session Unit :=
  (opened () .willing .permissive
    [("alpha", .ofDocuments [⟨["people", "ada"], [("age", .int 36)]⟩])]).runAll unhurried
      [.live "early" "people" [], .produce 0 (.made (.memory "alpha")), .turn 0, .close]

/-- A later live query waits for a new connection, and when that has come its listener would be
installed, but the store is closed. Its recipient looks at the store when it is told, and would
cancel the query if it were told again. -/
theorem refuses_or_starts_closedEarly :
    let ended := (closedEarly.live unhurried "late" "people"
      [.act 1 (.describe "alpha"), .act 2 (.cancel "late")]).runAll unhurried
        [.turn 1, .produce 1 (.made (.memory "alpha")), .turn 1]
    let failure := Failure.store .closed (some (.text "people"))
    ended.world.events.filter (·.recipient = 1) = [⟨1, "late", 1, .report, .failure failure⟩] ∧
      ended.tasks[1]? = some ⟨.live "late" 1, "people", .answered (.error failure)⟩ := by
  have unheard : ∀ entry ∈ [(("alpha" : Text), (Store.ofDocuments
      [⟨["people", "ada"], [("age", .int 36)]⟩] : Store Callback))], entry.2.listeners = [] := by
    simp [Store.ofDocuments]
  have refuses := (refuses_or_starts unhurried () .willing .permissive unheard
    [.live "early" "people" [], .produce 0 (.made (.memory "alpha")), .turn 0, .close]
    [.turn 1, .produce 1 (.made (.memory "alpha")), .turn 1] "late" "people"
      [.act 1 (.describe "alpha"), .act 2 (.cancel "late")]).1
        (.store .closed (some (.text "people"))) _
        (.installing ⟨⟨[.turn 1, .produce 1 (.made (.memory "alpha"))], [], rfl, rfl⟩, 1, rfl, rfl⟩
          rfl rfl)
  exact ⟨refuses.told.once, refuses.answered⟩

/-- A recipient that raises something itself keeps the failure from the caller, though it was told
of it: here the query text cannot be parsed. -/
theorem exists_replaced :
    let surroundings : Surroundings Unit :=
      { unhurried with parse := fun _ _ => (.error (.parse (.reported "unexpected token")), ()) }
    let session := opened () .willing .permissive []
    let reactions : List Reaction := [.raise 1 (.foreign .refused "listener")]
    let ended := session.live surroundings "watch" "bad" reactions
    ∃ failure reached, session.Fails surroundings "watch" "bad" reactions [] failure reached ∧
      ended.world.events = [⟨0, "watch", 1, .report, .failure failure⟩] ∧
      ended.tasks[0]? ≠ some ⟨.live "watch" 0, "bad", .answered (.error failure)⟩ :=
  ⟨_, _, .parsing rfl, rfl, by rintro ⟨⟩⟩

end Session

end DocQuery
