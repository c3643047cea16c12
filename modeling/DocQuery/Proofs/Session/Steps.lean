/-
This file says what sessions go through, and whom that spares.

Anything can happen around a session at any time: requests are made, have their turns and are
cancelled, creations of the pool come to something, the client of the hosted stores tells watches what
it likes, the loop calls callbacks, and whatever surrounds the session changes. A request that has
come to an end stays as it is, and one that waits changes in its own turn only.

A recipient that is set apart is told nothing by any of this but the turns of its own request. That
needs one thing more than around the hosted stores: no other request may be for it.
-/

import DocQuery.Proofs.Hosted.Steps
import DocQuery.Proofs.Pool.Obtaining
import DocQuery.Session

namespace DocQuery

/-- A purpose for which nobody is told who is set apart. -/
def Purpose.Bypasses (apart : Nat → Prop) (world : World) (purpose : Purpose) : Prop :=
  ∀ name recipient, purpose = .live name recipient → world.Bypasses apart (.recipient recipient)

theorem World.SparesApart.purpose {apart : Nat → Prop} {world later : World}
    (spares : world.SparesApart apart later) {purpose : Purpose}
    (bypasses : purpose.Bypasses apart world) : purpose.Bypasses apart later :=
  fun name recipient same => spares.bypasses (bypasses name recipient same)

namespace Session

variable {σ : Type} (surroundings : Surroundings σ)

/-! ### Steps -/

/-- A step of a caller, of what surrounds the session, or of the loop. -/
inductive Step (σ : Type)
  | prepare (query : Text)
  | ask (query : Text)
  | live (name query : Text) (reactions : List Reaction)
  | watch (name query : Text)
  /-- A request has its turn. -/
  | turn (task : Nat)
  | cancel (task : Nat)
  /-- Something comes of a creation that was waited for. -/
  | produce (creation : Nat) (production : Production)
  /-- A caller does something for which no query text is needed. -/
  | program (step : ProgramStep)
  /-- Readers that were woken have their turns. -/
  | readers
  /-- Something goes on around the hosted stores. -/
  | hosted (step : HostedWorld.Step)
  /-- What surrounds the session changes by itself. -/
  | change (happening : σ → σ)
  | close

def step (step : Step σ) (session : Session σ) : Session σ :=
  match step with
  | .prepare query => session.start surroundings .prepare query
  | .ask query => session.start surroundings .ask query
  | .live name query reactions => session.live surroundings name query reactions
  | .watch name query => session.start surroundings (.watch name) query
  | .turn task => session.turn surroundings task
  | .cancel task => session.cancel task
  | .produce creation production => session.produce creation production
  | .program step => { session with program := (session.program.step step).2 }
  | .readers => { session with program := session.program.settle }
  | .hosted step => session.withHosted (session.hosted.step step)
  | .change happening => { session with outside := happening session.outside }
  | .close => (session.close surroundings).2

/-- Takes steps one after the other. -/
def runAll (steps : List (Step σ)) (session : Session σ) : Session σ :=
  steps.foldl (fun reached step => reached.step surroundings step) session

theorem runAll_append (first second : List (Step σ)) (session : Session σ) :
    session.runAll surroundings (first ++ second) =
      (session.runAll surroundings first).runAll surroundings second :=
  List.foldl_append

/-- What goes on without the caller is put together from steps. -/
theorem exists_settle (session : Session σ) :
    ∃ steps, session.settle surroundings = session.runAll surroundings steps := by
  have turns (tasks : List Nat) (reached : Session σ) :
      reached.turnAll surroundings tasks = reached.runAll surroundings (tasks.map .turn) := by
    induction tasks generalizing reached with
    | nil => rfl
    | cons task rest inductionHypothesis => exact inductionHypothesis _
  refine ⟨(List.range session.tasks.length).map .turn ++
    [.hosted (.advance (session.turnAll surroundings
      (List.range session.tasks.length)).waiting.length), .readers], ?_⟩
  rw [runAll_append, ← turns, settle, HostedWorld.turn_eq_advance]
  rfl

/-! ### Parts of steps -/

variable {session : Session σ}

theorem exists_choose (query : Text) (session : Session σ) :
    ∃ outside, (session.choose surroundings query).2 = { session with outside := outside } := by
  rw [choose]
  split
  · exact ⟨_, rfl⟩
  · split <;> exact ⟨_, rfl⟩

theorem exists_produce (creation : Nat) (production : Production) (session : Session σ) :
    ∃ pool, session.produce creation production = { session with pool := pool } := by
  cases production <;> exact ⟨_, rfl⟩

theorem exists_call (project : Text) (session : Session σ) :
    ∃ outside pool, (session.call surroundings project).2 =
      { session with outside := outside, pool := pool } := by
  rw [call]
  dsimp only
  split
  · exact ⟨_, _, rfl⟩
  · next creation _ =>
    obtain ⟨pool, same⟩ := exists_produce creation
      (surroundings.connect project session.outside).1
      { session with
        outside := (surroundings.connect project session.outside).2
        pool := (session.pool.ask project).2 }
    exact ⟨_, pool, same⟩

theorem exists_cancel (task : Nat) (session : Session σ) :
    ∃ pool, session.cancel task = { session with pool := pool } := by
  rw [cancel]
  split <;> exact ⟨_, rfl⟩

/-- What is built is noticed, and the client of the hosted stores is called. -/
theorem exists_build (connection : Connection) (components : List Component) (session : Session σ) :
    ∃ notices client, (session.build connection components).2 =
      { session.withWorld (session.world.notifyAll notices) with client := client } := by
  cases connection with
  | memory store => exact ⟨_, session.client, rfl⟩
  | hosted handle => exact ⟨_, _, rfl⟩

/-! ### Requests -/

@[simp] theorem tasks_withWorld (world : World) (session : Session σ) :
    (session.withWorld world).tasks = session.tasks := rfl

@[simp] theorem tasks_withHosted (hosted : HostedWorld) (session : Session σ) :
    (session.withHosted hosted).tasks = session.tasks := rfl

@[simp] theorem tasks_build (connection : Connection) (components : List Component)
    (session : Session σ) : (session.build connection components).2.tasks = session.tasks := by
  obtain ⟨_, _, same⟩ := exists_build connection components session
  rw [same]
  rfl

@[simp] theorem tasks_refuse (recipient : Nat) (failure : Failure) (session : Session σ) :
    (session.refuse recipient failure).2.tasks = session.tasks := by
  rw [refuse]
  split <;> rfl

@[simp] theorem tasks_reject (purpose : Purpose) (failure : Failure) (session : Session σ) :
    (session.reject purpose failure).2.tasks = session.tasks := by
  cases purpose with
  | live name recipient => exact tasks_refuse recipient failure session
  | _ => rfl

@[simp] theorem tasks_install (name : Text) (recipient : Nat) (components : List Component)
    (built : BuiltOn) (session : Session σ) :
    (session.install name recipient components built).2.tasks = session.tasks := by
  cases built with
  | memory store built => rfl
  | hosted built =>
    rw [install]
    split <;> rfl

@[simp] theorem tasks_stream (name : Text) (components : List Component) (built : BuiltOn)
    (session : Session σ) : (session.stream name components built).2.tasks = session.tasks := by
  cases built with
  | memory store built => rfl
  | hosted built =>
    rw [stream]
    split <;> rfl

@[simp] theorem tasks_goOn (purpose : Purpose) (prepared : Prepared) (session : Session σ) :
    (session.goOn surroundings purpose prepared).2.tasks = session.tasks := by
  cases purpose with
  | prepare => rfl
  | ask =>
    have asked : (session.askOnce surroundings prepared.components prepared.built).2.tasks =
        session.tasks := by
      cases prepared.built <;> rfl
    exact asked
  | live name recipient =>
    have installed := tasks_install name recipient prepared.components prepared.built session
    rw [goOn]
    split
    · next failed =>
      rw [failed] at installed
      exact (tasks_refuse _ _ _).trans installed
    · next done =>
      rwa [done] at installed
  | watch name => exact tasks_stream name prepared.components prepared.built session

@[simp] theorem tasks_finish (task : Task) (components : List Component) (project : Text)
    (connection : Connection) (session : Session σ) :
    (session.finish surroundings task components project connection).2.tasks = session.tasks := by
  have built := tasks_build connection components session
  rw [finish]
  split
  · next failed =>
    rw [failed] at built
    exact (tasks_reject _ _ _).trans built
  · next done =>
    rw [done] at built
    exact (tasks_goOn surroundings _ _ _).trans built

/-- Making a request adds it, and changes no other. -/
theorem exists_tasks_start (purpose : Purpose) (query : Text) (session : Session σ) :
    ∃ stage, (session.start surroundings purpose query).tasks =
      session.tasks ++ [⟨purpose, query, stage⟩] := by
  obtain ⟨outside, same⟩ := exists_choose surroundings query session
  rw [start]
  split
  · next failed =>
    rw [failed] at same
    obtain rfl := same
    refine ⟨_, congrArg (· ++ [_]) ?_⟩
    rw [tasks_reject]
  · next components project after chosen =>
    rw [chosen] at same
    obtain rfl := same
    obtain ⟨_, _, called⟩ := exists_call surroundings project { session with outside := outside }
    refine ⟨_, congrArg (· ++ [_]) ?_⟩
    rw [called]

/-- A turn changes its own request only, and only if it waits. -/
theorem tasks_turn (task : Nat) (session : Session σ) :
    (session.turn surroundings task).tasks = session.tasks ∨
      (∃ purpose query caller components project,
        session.tasks[task]? = some ⟨purpose, query, .waiting caller components project⟩) ∧
      ∃ stage, (session.turn surroundings task).tasks =
        session.tasks.modify task fun found => { found with stage := stage } := by
  rw [turn]
  split
  · next purpose query caller components project present =>
    have waits : ∃ purpose query caller components project,
        session.tasks[task]? = some ⟨purpose, query, .waiting caller components project⟩ :=
      ⟨_, _, _, _, _, present⟩
    split
    · exact .inl rfl
    · exact .inr ⟨waits, .cancelled, rfl⟩
    · next failure _ =>
      refine .inr ⟨waits, .answered (session.reject purpose failure).1, ?_⟩
      rw [conclude, tasks_reject]
    · next connection _ =>
      refine .inr ⟨waits, .answered (session.finish surroundings
        ⟨purpose, query, .waiting caller components project⟩ components project connection).1, ?_⟩
      rw [conclude, tasks_finish]
  · exact .inl rfl

/-- Where only stages change, requests are there that were there before. -/
theorem exists_of_modify {tasks : List Task} {changed index : Nat} {stage : Stage} {task : Task}
    (present : (tasks.modify changed fun found => { found with stage := stage })[index]? =
      some task) : ∃ stage, tasks[index]? = some { task with stage := stage } := by
  rw [List.getElem?_modify] at present
  obtain ⟨before, known, rfl⟩ := Option.map_eq_some_iff.mp present
  refine ⟨before.stage, known.trans ?_⟩
  split <;> rfl

/-- A request keeps its purpose. Its stage changes in its own turn only, and only while it waits. -/
theorem exists_getElem?_tasks_step {index : Nat} {task : Task}
    (present : session.tasks[index]? = some task) (step : Step σ) :
    ∃ stage, (session.step surroundings step).tasks[index]? = some { task with stage := stage } ∧
      (stage = task.stage ∨ step = .turn index ∧
        ∃ caller components project, task.stage = .waiting caller components project) := by
  have same {later : Session σ} (kept : later.tasks = session.tasks) :
      ∃ stage, later.tasks[index]? = some { task with stage := stage } ∧
        (stage = task.stage ∨ step = .turn index ∧
          ∃ caller components project, task.stage = .waiting caller components project) :=
    ⟨task.stage, by rw [kept, present], .inl rfl⟩
  have added {later before : Session σ} {purpose : Purpose} {query : Text}
      (kept : before.tasks = session.tasks)
      (started : ∃ stage, later.tasks = before.tasks ++ [⟨purpose, query, stage⟩]) :
      ∃ stage, later.tasks[index]? = some { task with stage := stage } ∧
        (stage = task.stage ∨ step = .turn index ∧
          ∃ caller components project, task.stage = .waiting caller components project) := by
    obtain ⟨stage, extended⟩ := started
    refine ⟨task.stage, ?_, .inl rfl⟩
    rw [extended, kept, List.getElem?_append_left (List.getElem?_eq_some_iff.mp present).1, present]
  cases step with
  | prepare query => exact added rfl (exists_tasks_start surroundings .prepare query session)
  | ask query => exact added rfl (exists_tasks_start surroundings .ask query session)
  | live name query reactions => exact added rfl (exists_tasks_start surroundings _ query _)
  | watch name query => exact added rfl (exists_tasks_start surroundings (.watch name) query session)
  | turn other =>
    rcases tasks_turn surroundings other session with kept | ⟨waits, stage, changed⟩
    · exact same kept
    · rw [step, changed, List.getElem?_modify, present]
      by_cases own : other = index
      · obtain ⟨purpose, query, caller, components, project, known⟩ := waits
        rw [own, present] at known
        rw [own]
        refine ⟨stage, by simp, .inr ⟨rfl, caller, components, project, ?_⟩⟩
        rw [Option.some.inj known]
      · exact ⟨task.stage, by simp [own], .inl rfl⟩
  | cancel other =>
    obtain ⟨_, cancelled⟩ := exists_cancel other session
    exact same (by rw [step, cancelled])
  | produce creation production =>
    obtain ⟨_, produced⟩ := exists_produce creation production session
    exact same (by rw [step, produced])
  | program step => exact same rfl
  | readers => exact same rfl
  | hosted step => exact same rfl
  | change happening => exact same rfl
  | close => exact same rfl

/-- A request that does not wait stays as it is. -/
theorem getElem?_tasks_runAll {index : Nat} {task : Task}
    (present : session.tasks[index]? = some task)
    (ended : ∀ caller components project, task.stage ≠ .waiting caller components project)
    (steps : List (Step σ)) : (session.runAll surroundings steps).tasks[index]? = some task := by
  induction steps generalizing session with
  | nil => exact present
  | cons step rest inductionHypothesis =>
    obtain ⟨stage, there, rfl | ⟨_, caller, components, project, waits⟩⟩ :=
      exists_getElem?_tasks_step surroundings present step
    · exact inductionHypothesis there
    · exact absurd waits (ended caller components project)

/-! ### Sparing -/

/-- What is kept for those that are set apart: nothing is told to them, and around the hosted stores
nothing is left that would. -/
structure SparesApart (apart : Nat → Prop) (session later : Session σ) : Prop where
  world : session.world.SparesApart apart later.world
  shields : later.hosted.Shields apart

variable {apart own : Nat → Prop} {later : Session σ}

theorem SparesApart.trans {first second third : Session σ}
    (spares : first.SparesApart apart second) (further : second.SparesApart apart third) :
    first.SparesApart apart third :=
  ⟨spares.world.trans further.world, further.shields⟩

section

variable (shields : session.hosted.Shields apart)

include shields

/-- What changes the state of live queries only, and the client, the pool, requests and what is
outside. -/
theorem spares_of_world (spares : session.world.SparesApart apart later.world)
    (watches : later.watches = session.watches) (waiting : later.waiting = session.waiting) :
    session.SparesApart apart later := by
  have same : later.hosted.waiting = session.hosted.waiting := waiting
  exact ⟨spares, HostedWorld.Shields.of_world shields spares watches (same ▸ List.Subset.refl _)⟩

theorem spares_of_hosted {hosted : HostedWorld}
    (spares : session.hosted.SparesApart apart hosted) :
    session.SparesApart apart (session.withHosted hosted) := by
  have kept := spares.secludes shields
  exact ⟨spares.world, kept.world, kept.watches, kept.waiting⟩

theorem spares_choose (query : Text) :
    session.SparesApart apart (session.choose surroundings query).2 := by
  obtain ⟨_, same⟩ := exists_choose surroundings query session
  rw [same]
  exact spares_of_world shields shields.world.refl rfl rfl

theorem spares_call (project : Text) :
    session.SparesApart apart (session.call surroundings project).2 := by
  obtain ⟨_, _, same⟩ := exists_call surroundings project session
  rw [same]
  exact spares_of_world shields shields.world.refl rfl rfl

theorem spares_build (connection : Connection) (components : List Component) :
    session.SparesApart apart (session.build connection components).2 := by
  obtain ⟨notices, _, same⟩ := exists_build connection components session
  rw [same]
  exact spares_of_world shields
    ((World.telling_sparing apart).notifyAll notices shields.world) rfl rfl

theorem spares_askOnce (components : List Component) (built : BuiltOn) :
    session.SparesApart apart (session.askOnce surroundings components built).2 := by
  cases built <;> exact spares_of_world shields shields.world.refl rfl rfl

/-- Whoever asks for a live query is told by nobody else for it. -/
theorem spares_install {recipient : Nat}
    (bypasses : session.world.Bypasses apart (.recipient recipient)) (name : Text)
    (components : List Component) (built : BuiltOn) :
    session.SparesApart apart (session.install name recipient components built).2 := by
  have inside (index : Nat) (same : Sink.recipient recipient = .recipient index) :
      index < session.world.recipients.length ∧ ¬ apart index :=
    Sink.recipient.inj same ▸ bypasses
  cases built with
  | memory store built =>
    have added : session.world.SparesApart apart (session.world.addQuery
        (World.queryFor (.ofBuilt store components built) (.recipient recipient))).2 :=
      shields.world.spares_addQuery fun index same => (inside index same).1
    have started : World.SparesApart apart _ _ := (World.starting_sparing apart).subscribeTo
      (World.keptBy_sparing apart (session.world.weight + 1)) name
      (.ofBuilt store components built) recipient added.secludes
      (World.Secludes.bypasses_addQuery fun index same => (inside index same).2)
    exact spares_of_world shields (added.trans started) rfl rfl
  | hosted built =>
    have started := HostedWorld.spares_startQuery (.recipient recipient) shields.world
      (fun index same => (inside index same).1)
      (fun index same => (inside index same).2) (classify components) built.projection
      built.reference
    rw [install]
    split
    · next failed =>
      rw [failed] at started
      exact spares_of_hosted shields started
    · next query after done =>
      rw [done] at started
      have named : after.world.SparesApart apart (after.world.bindQuery name query) :=
        started.world.secludes.spares_rest rfl rfl rfl rfl fun there member => ⟨_, there, member⟩
      exact spares_of_hosted shields (started.trans (.of_world named after.client))

theorem spares_stream (name : Text) (components : List Component) (built : BuiltOn) :
    session.SparesApart apart (session.stream name components built).2 := by
  cases built with
  | memory store built =>
    obtain ⟨added, callable⟩ := (World.starting_sparing apart).newStream
      (.ofBuilt store components built) shields.world
    have started : World.SparesApart apart _ _ := (World.starting_sparing apart).streamFrom
      (World.keptBy_sparing apart (session.world.weight + 1)) name
      (.ofBuilt store components built) added.secludes callable
    exact spares_of_world shields (added.trans started) rfl rfl
  | hosted built =>
    have started := HostedWorld.spares_stream shields.world (classify components)
      built.projection built.reference
    rw [stream]
    split
    · next failed =>
      rw [failed] at started
      exact spares_of_hosted shields started
    · next query after done =>
      rw [done] at started
      have named : after.world.SparesApart apart
          (after.world.bindStream name session.world.streams.length) :=
        started.world.secludes.spares_rest rfl rfl rfl rfl fun there member => ⟨_, there, member⟩
      exact spares_of_hosted shields (started.trans (.of_world named after.client))

theorem spares_refuse {recipient : Nat} (other : ¬ apart recipient) (failure : Failure) :
    session.SparesApart apart (session.refuse recipient failure).2 := by
  have heard : session.world.SparesApart apart (session.world.hear (performer session.world)
      recipient .report (.failure failure)).2 :=
    (World.telling_sparing apart).hear (World.keptBy_sparing apart (session.world.weight + 1))
      shields.world fun _ same => Sink.recipient.inj same ▸ other
  rw [refuse]
  split
  · next raised =>
    rw [raised] at heard
    exact spares_of_world shields heard rfl rfl
  · next calm =>
    rw [calm] at heard
    exact spares_of_world shields heard rfl rfl

theorem spares_reject {purpose : Purpose} (bypasses : purpose.Bypasses apart session.world)
    (failure : Failure) : session.SparesApart apart (session.reject purpose failure).2 := by
  cases purpose with
  | live name recipient => exact spares_refuse shields (bypasses name recipient rfl).2 failure
  | _ => exact spares_of_world shields shields.world.refl rfl rfl

theorem spares_goOn {purpose : Purpose} (bypasses : purpose.Bypasses apart session.world)
    (prepared : Prepared) :
    session.SparesApart apart (session.goOn surroundings purpose prepared).2 := by
  cases purpose with
  | prepare => exact spares_of_world shields shields.world.refl rfl rfl
  | ask => exact spares_askOnce surroundings shields prepared.components prepared.built
  | live name recipient =>
    have other := bypasses name recipient rfl
    have installed := spares_install shields other name prepared.components prepared.built
    rw [goOn]
    split
    · next failed =>
      rw [failed] at installed
      exact installed.trans (spares_refuse installed.shields other.2 _)
    · next done =>
      rwa [done] at installed
  | watch name => exact spares_stream shields name prepared.components prepared.built

theorem spares_finish {task : Task} (bypasses : task.purpose.Bypasses apart session.world)
    (components : List Component) (project : Text) (connection : Connection) :
    session.SparesApart apart
      (session.finish surroundings task components project connection).2 := by
  have built := spares_build shields connection components
  rw [finish]
  split
  · next failed =>
    rw [failed] at built
    exact built.trans (spares_reject built.shields (built.world.purpose bypasses) _)
  · next done =>
    rw [done] at built
    exact built.trans (spares_goOn surroundings built.shields (built.world.purpose bypasses) _)

theorem spares_start {purpose : Purpose} (bypasses : purpose.Bypasses apart session.world)
    (query : Text) : session.SparesApart apart (session.start surroundings purpose query) := by
  have chosen := spares_choose surroundings shields query
  rw [start]
  split
  · next failed =>
    rw [failed] at chosen
    have rejected := spares_reject chosen.shields (chosen.world.purpose bypasses)
    exact chosen.trans ⟨(rejected _).world, (rejected _).shields⟩
  · next components project after done =>
    rw [done] at chosen
    have called := spares_call surroundings chosen.shields project
    exact chosen.trans ⟨called.world, called.shields⟩

theorem spares_turn (task : Nat)
    (bypasses : ∀ found, session.tasks[task]? = some found →
      found.purpose.Bypasses apart session.world) :
    session.SparesApart apart (session.turn surroundings task) := by
  have idle : session.SparesApart apart session := spares_of_world shields shields.world.refl rfl rfl
  rw [turn]
  split
  · next present =>
    have other := bypasses _ present
    split
    · exact idle
    · exact spares_of_world shields shields.world.refl rfl rfl
    · have rejected := spares_reject shields other
      exact ⟨(rejected _).world, (rejected _).shields⟩
    · have finished := spares_finish surroundings shields other
      exact ⟨(finished _ _ _).world, (finished _ _ _).shields⟩
  · exact idle

theorem spares_close : session.SparesApart apart (session.close surroundings).2 := by
  have shut : session.world.SparesApart apart
      (Pool.shutAll (disconnect surroundings) session.pool.connections
        (session.outside, session.world)).2.2.2 :=
    Pool.shutAll_keeps (fun state : σ × World => session.world.SparesApart apart state.2)
      (fun connection state kept => by
        cases connection with
        | memory store =>
          exact kept.trans (kept.secludes.spares_updateStore World.shrinks_close store)
        | hosted handle => exact kept) session.pool.connections shields.world.refl
  rw [← (Pool.entries_shut _ _ _).2] at shut
  exact spares_of_world shields shut rfl rfl

end

/-! ### Requests of one's own -/

/-- A session in which nothing tells those that are set apart but some requests. -/
structure Secludes (apart own : Nat → Prop) (session : Session σ) : Prop where
  shields : session.hosted.Shields apart
  tasks : ∀ {index : Nat} {task : Task}, session.tasks[index]? = some task →
    own index ∨ task.purpose.Bypasses apart session.world

namespace Secludes

variable (secludes : session.Secludes apart own)

include secludes

/-- What adds no request but such that bypass who is set apart. -/
theorem of_spares (spares : session.SparesApart apart later)
    (tasks : ∀ {index : Nat} {task : Task}, later.tasks[index]? = some task →
      (∃ stage, session.tasks[index]? = some { task with stage := stage }) ∨
        task.purpose.Bypasses apart later.world) : later.Secludes apart own := by
  refine ⟨spares.shields, fun present => ?_⟩
  rcases tasks present with ⟨_, known⟩ | bypasses
  · exact (secludes.tasks known).imp_right spares.world.purpose
  · exact .inr bypasses

theorem of_same (spares : session.SparesApart apart later) (same : later.tasks = session.tasks) :
    later.Secludes apart own :=
  secludes.of_spares spares fun {_ task} present => .inl ⟨task.stage, same ▸ present⟩

/-- What adds a request of their own. -/
theorem of_own {task : Task} (spares : session.SparesApart apart later)
    (extended : later.tasks = session.tasks ++ [task]) (ours : own session.tasks.length) :
    later.Secludes apart own := by
  refine ⟨spares.shields, fun present => ?_⟩
  rw [extended] at present
  rcases World.getElem?_concat_eq_some.mp present with old | ⟨rfl, _⟩
  · exact (secludes.tasks old).imp_right spares.world.purpose
  · exact .inl ours

/-- A request comes to a stage, which tells nobody. -/
theorem conclude (task : Nat) (stage : Stage) :
    (session.conclude task stage).Secludes apart own :=
  secludes.of_spares (spares_of_world secludes.shields secludes.shields.world.refl rfl rfl)
    fun present => .inl (exists_of_modify present)

theorem start {purpose : Purpose} (bypasses : purpose.Bypasses apart session.world) (query : Text) :
    session.SparesApart apart (session.start surroundings purpose query) ∧
      (session.start surroundings purpose query).Secludes apart own := by
  have spares := spares_start surroundings secludes.shields bypasses query
  obtain ⟨stage, extended⟩ := exists_tasks_start surroundings purpose query session
  refine ⟨spares, secludes.of_spares spares fun {index task} present => ?_⟩
  rw [extended] at present
  rcases World.getElem?_concat_eq_some.mp present with old | ⟨_, rfl⟩
  · exact .inl ⟨task.stage, old⟩
  · exact .inr (spares.world.purpose bypasses)

theorem live (name query : Text) (reactions : List Reaction) :
    session.SparesApart apart (session.live surroundings name query reactions) ∧
      (session.live surroundings name query reactions).Secludes apart own := by
  have added : session.SparesApart apart
      (session.withWorld (session.world.addRecipient name reactions).2) :=
    spares_of_world secludes.shields (secludes.shields.world.spares_addRecipient name reactions)
      rfl rfl
  have bypasses : Purpose.Bypasses apart (session.world.addRecipient name reactions).2
      (.live name session.world.recipients.length) := by
    rintro _ _ ⟨⟩
    exact secludes.shields.world.bypasses_addRecipient name reactions
  obtain ⟨spares, kept⟩ := (secludes.of_same added rfl).start surroundings bypasses query
  exact ⟨added.trans spares, kept⟩

/-- Nothing tells those that are set apart but the turns of requests of their own, if these do
anything. -/
theorem step {step : Step σ} (idle : ∀ index, own index → step = .turn index →
      session.turn surroundings index = session) :
    session.SparesApart apart (session.step surroundings step) ∧
      (session.step surroundings step).Secludes apart own := by
  have shields := secludes.shields
  have kept {later : Session σ} (spares : session.SparesApart apart later)
      (same : later.tasks = session.tasks) :
      session.SparesApart apart later ∧ later.Secludes apart own :=
    ⟨spares, secludes.of_same spares same⟩
  have unchanged {later : Session σ} (world : later.world = session.world)
      (watches : later.watches = session.watches) (waiting : later.waiting = session.waiting)
      (same : later.tasks = session.tasks) :
      session.SparesApart apart later ∧ later.Secludes apart own :=
    kept (spares_of_world shields (by rw [world]; exact shields.world.refl) watches waiting) same
  cases step with
  | prepare query => exact secludes.start surroundings (by rintro _ _ ⟨⟩) query
  | ask query => exact secludes.start surroundings (by rintro _ _ ⟨⟩) query
  | live name query reactions => exact secludes.live surroundings name query reactions
  | watch name query => exact secludes.start surroundings (by rintro _ _ ⟨⟩) query
  | turn task =>
    by_cases ours : own task
    · rw [Session.step, idle task ours rfl]
      exact unchanged rfl rfl rfl rfl
    · have spares := spares_turn surroundings shields task fun found present =>
        (secludes.tasks present).resolve_left ours
      rw [Session.step]
      rcases tasks_turn surroundings task session with same | ⟨_, stage, changed⟩
      · exact kept spares same
      · exact ⟨spares, secludes.of_spares spares fun present => .inl <|
          exists_of_modify (changed ▸ present)⟩
  | cancel task =>
    obtain ⟨_, same⟩ := exists_cancel task session
    rw [Session.step, same]
    exact unchanged rfl rfl rfl rfl
  | produce creation production =>
    obtain ⟨_, same⟩ := exists_produce creation production session
    rw [Session.step, same]
    exact unchanged rfl rfl rfl rfl
  | program step =>
    have taken := Program.composes_step (World.composes_sparing apart) step session.program
    exact kept (spares_of_world shields (taken shields.world) rfl rfl) rfl
  | readers =>
    have settled := Program.composes_settle (World.composes_sparing apart) session.program
    exact kept (spares_of_world shields (settled shields.world) rfl rfl) rfl
  | hosted step =>
    obtain ⟨spares, after, _⟩ := shields.step ⟨rfl, nofun⟩ step
    exact kept ⟨spares, after.world, after.watches, after.waiting⟩ rfl
  | change happening => exact unchanged rfl rfl rfl rfl
  | close => exact kept (spares_close surroundings shields) rfl

/-- Once the requests of their own have come to an end, nothing more is told to those that are set
apart. -/
theorem runAll (ended : ∀ index, own index → ∃ task, session.tasks[index]? = some task ∧
      ∀ caller components project, task.stage ≠ .waiting caller components project)
    (steps : List (Step σ)) :
    session.SparesApart apart (session.runAll surroundings steps) ∧
      (session.runAll surroundings steps).Secludes apart own := by
  induction steps generalizing session with
  | nil => exact ⟨⟨secludes.shields.world.refl, secludes.shields⟩, secludes⟩
  | cons step rest inductionHypothesis =>
    have idle (index : Nat) (ours : own index) :
        session.turn surroundings index = session := by
      obtain ⟨task, present, past⟩ := ended index ours
      rw [turn]
      split
      · next present' =>
        rw [present] at present'
        cases present'
        exact absurd rfl (past _ _ _)
      · rfl
    obtain ⟨spares, kept⟩ := secludes.step surroundings fun index ours _ => idle index ours
    obtain ⟨further, last⟩ := inductionHypothesis kept fun index ours => by
      obtain ⟨task, present, past⟩ := ended index ours
      exact ⟨task, getElem?_tasks_runAll surroundings present past [step], past⟩
    exact ⟨spares.trans further, last⟩

end Secludes

/-! ### Nobody set apart -/

/-- Whoever is called in a session is there. -/
abbrev Numbered (session : Session σ) : Prop := session.Secludes (fun _ => False) fun _ => False

theorem numbered_runAll (outside : σ) (client : NativeClient) (mode : BuildMode)
    {stores : List (Text × Store Callback)}
    (unheard : ∀ entry ∈ stores, entry.2.listeners = []) (steps : List (Step σ)) :
    ((opened outside client mode stores).runAll surroundings steps).Numbered := by
  have began : (opened outside client mode stores).Numbered :=
    ⟨⟨World.numbered_ofStores unheard,
        fun present => absurd (List.mem_of_getElem? present) List.not_mem_nil,
        fun none => absurd none List.not_mem_nil⟩,
      fun present => absurd (List.mem_of_getElem? present) List.not_mem_nil⟩
  exact (began.runAll surroundings (fun _ => False.elim) steps).2

end Session

end DocQuery
