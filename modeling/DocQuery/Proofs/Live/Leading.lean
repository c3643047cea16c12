/-
This file proves that everything that can go on around live queries leads on.

Single operations lead on, so deliveries and passes do, whatever listeners do inside them. A start
gives its live query a sink that was not there before, so it leads on from the state in front of
its sink. With that every run leads on, and everything that a caller can do is a run.
-/

import DocQuery.Proofs.Live.Lasting

namespace DocQuery

namespace World

/-! ### Single operations and deliveries -/

theorem leads_take {world : World} {streams : List LiveStream}
    (same : streams.length = world.streams.length)
    (fewer : ∀ (index : Nat) (after : LiveStream), streams[index]? = some after →
      ∃ before, world.streams[index]? = some before ∧ after.query = before.query ∧
        after.queue.items ⊆ before.queue.items) :
    world.Leads { world with streams := streams } := by
  refine .of_kept (fun query found present => ⟨found, present, rfl, rfl⟩) rfl
    (fun sink there => ?_) (List.Subset.refl _) fun index after present item waits => ?_
  · cases sink with
    | recipient index => exact there
    | stream index =>
      rw [HasSink, same]
      exact there
  · obtain ⟨before, known, _, subset⟩ := fewer index after present
    exact ⟨before, known, subset waits⟩

/-- Every operation that calls nobody, or only tells, leads on. -/
theorem lasting_leads : Lasting Leads where
  refl := Leads.refl
  trans := Leads.trans
  countDelivery := leads_countDelivery
  tell makes := leads_tell makes
  count query world := leads_updateHandle query _ world
  push makes := leads_updateQueue fun queue result waits => by
    rw [Stream.items_push] at waits
    split at waits
    · exact .inl waits
    · refine (List.mem_append.mp waits).imp_right fun new => ?_
      exact makes result (StreamItem.delivery.inj (List.mem_singleton.mp new)).symm
  take := leads_take
  remark fewer notices cutShort := .of_same rfl rfl rfl fewer
  write name segments data world := leads_updateStore name _ world
  remove name segments world := leads_updateStore name _ world
  close name world := leads_updateStore name _ world
  unlisten label world := by
    rw [unlisten]
    split
    · exact .refl world
    · exact leads_updateStore _ _ world
  cancelQuery := leads_cancelQuery
  closeStream := leads_closeStream
  bindFeed feed watcher world := .of_same rfl rfl rfl (List.Subset.refl _)

/-! ### Starting -/

/-- A live query with a new recipient leads on from before the recipient was added. -/
theorem leads_newRecipient (label : Text) (reactions : List Reaction) (aim : Aim)
    (world : World) :
    world.Leads ((world.addRecipient label reactions).2.addQuery
      (queryFor aim (.recipient world.recipients.length))).2 := by
  refine (leads_addRecipient label reactions world).addQuery rfl (Nat.lt_irrefl _) ?_
  rw [queryFor, HasSink, addRecipient, List.length_append]
  exact Nat.lt_succ_self _

theorem leads_newStream (aim : Aim) (world : World) :
    world.Leads (world.addStream.2.addQuery (queryFor aim (.stream world.streams.length))).2 := by
  refine (leads_addStream world).addQuery rfl (Nat.lt_irrefl _) ?_
  rw [queryFor, HasSink, addStream, List.length_append]
  exact Nat.lt_succ_self _

/-- So do the single steps of starts. -/
theorem stepwise_leads : Stepwise Leads where
  toLasting := lasting_leads
  register name _ world := leads_updateStore name _ world
  addRecipient := leads_addRecipient
  newRecipient := leads_newRecipient
  newStream := leads_newStream
  attach := leads_attach
  names _ _ _ _ := .of_same rfl rfl rfl (List.Subset.refl _)

/-- Every run leads on. -/
theorem Runs.leads {first last : World} (run : first.Runs last) : first.Leads last :=
  stepwise_leads.enduring.of_runs run

/-! ### Programs -/

/-- Carrying out an action, up to any depth, is a run. -/
theorem runs_performTo (depth : Nat) (action : Action) (world : World) :
    world.Runs (performTo depth action world).2 := by
  induction depth generalizing action world with
  | zero => exact .remark (List.Subset.refl _) world.notices true
  | succ depth inductionHypothesis => exact .act inductionHypothesis action world

/-- What holds from a state to any later one if it holds across the parts that the steps of a caller
are put together from. -/
structure Composes (relation : World → World → Prop) : Prop where
  stay (world : World) : relation world world
  further {first second third : World} : relation first second → relation second third →
    relation first third
  perform (action : Action) (world : World) : relation world (world.perform action).2
  /-- A target is made ready, to be asked once. -/
  ready (target : Target) (world : World) : relation world (world.aim target).2
  close (stream : Nat) (world : World) : relation world (world.closeStream stream)
  /-- Readers take from the queues of streams, or wait for them. -/
  take {world : World} {streams : List LiveStream} (same : streams.length = world.streams.length)
    (fewer : ∀ (index : Nat) (after : LiveStream), streams[index]? = some after →
      ∃ before, world.streams[index]? = some before ∧ after.query = before.query ∧
        after.queue.items ⊆ before.queue.items) : relation world { world with streams := streams }

theorem composes_runs : Composes Runs where
  stay := .stay
  further := .further
  perform action world := runs_performTo _ action world
  ready := .ready
  close := .close
  take := .take

/-- What a reader does to a queue is a part of a step if it puts nothing in. -/
theorem Composes.updateQueue {relation : World → World → Prop} (composes : Composes relation)
    (stream : Nat) {change : Stream (Except Failure QueryResult) → Stream (Except Failure QueryResult)}
    {world : World} (fewer : ∀ found, world.streams[stream]? = some found →
      (change found.queue).items ⊆ found.queue.items) :
    relation world (world.updateQueue stream change) := by
  refine composes.take (List.length_modify ..) fun index after present => ?_
  rw [List.getElem?_modify] at present
  obtain ⟨before, known, rfl⟩ := Option.map_eq_some_iff.mp present
  refine ⟨before, known, by split <;> rfl, ?_⟩
  split
  · next same => exact fewer before (same ▸ known)
  · exact List.Subset.refl _

end World

namespace Stream

variable {α : Type}

theorem items_next_subset (reader : Nat) (stream : Stream α) :
    (stream.next reader).2.items ⊆ stream.items := by
  rw [next]
  split
  · next same =>
    rw [same]
    exact List.subset_cons_self _ _
  · split <;> exact List.Subset.refl _

theorem items_serve_subset (readers : List Nat) (stream : Stream α) :
    (serve readers stream).2.items ⊆ stream.items := by
  induction readers generalizing stream with
  | nil => exact List.Subset.refl _
  | cons reader rest inductionHypothesis =>
    rw [serve]
    split
    · next item others same =>
      rw [same]
      exact List.Subset.trans (inductionHypothesis { stream with items := others })
        (List.subset_cons_self _ _)
    · exact inductionHypothesis { stream with waiting := stream.waiting ++ [reader] }

end Stream

namespace Program

variable {relation : World → World → Prop} (composes : World.Composes relation)

include composes

theorem composes_settle (program : Program) : relation program.world program.settle.world := by
  have turned (streams : List LiveStream) : (turnAll streams).2 =
      streams.map fun stream => { stream with queue := stream.queue.turn.2 } := by
    induction streams with
    | nil => rfl
    | cons stream rest inductionHypothesis =>
      rw [turnAll, List.map_cons, ← inductionHypothesis]
  refine composes.take ?_ fun index after present => ?_
  · rw [turned, List.length_map]
  · rw [turned, List.getElem?_map] at present
    obtain ⟨before, known, rfl⟩ := Option.map_eq_some_iff.mp present
    exact ⟨before, known, rfl, Stream.items_serve_subset _ _⟩

theorem composes_readNext (stream reader : Nat) (world : World) :
    relation world (readNext stream reader world).2 := by
  rw [readNext]
  split
  · exact composes.stay world
  · next found present =>
    have fewer (other : LiveStream) (there : world.streams[stream]? = some other) :
        (found.queue.next reader).2.items ⊆ other.queue.items := by
      obtain rfl := Option.some.inj (present.symm.trans there)
      exact Stream.items_next_subset reader found.queue
    have taken : relation world (world.updateQueue stream fun _ => (found.queue.next reader).2) :=
      composes.updateQueue stream fewer
    exact taken

theorem composes_withdraw (stream reader : Nat) (world : World) :
    relation world (world.updateQueue stream (Stream.withdraw reader)) :=
  composes.updateQueue stream fun found _ =>
    (Stream.items_withdraw reader found.queue) ▸ List.Subset.refl _

theorem composes_countNext (stream reader left : Nat) (world : World) :
    relation world (countNext stream reader left world).2 := by
  induction left generalizing world with
  | zero => exact composes.stay world
  | succ left inductionHypothesis =>
    have read := composes_readNext composes stream reader world
    rw [countNext]
    split
    · next waits =>
      rw [waits] at read
      exact composes.further read (composes_withdraw composes stream reader _)
    · next ended =>
      rwa [ended] at read
    · next failed =>
      rw [failed] at read
      split <;> exact read
    · next delivered =>
      rw [delivered] at read
      have others := composes.further read (inductionHypothesis _)
      split
      · next stopped =>
        rwa [stopped] at others
      · next counted =>
        rwa [counted] at others

theorem composes_takeNext (stream : Nat) (keep : Option Text) (program : Program) :
    relation program.world (program.takeNext stream keep).2.world := by
  have read := composes_readNext composes stream program.nextReader program.world
  unfold takeNext
  cases keep with
  | none =>
    dsimp only
    split
    · exact read
    · exact composes.further read (composes_withdraw composes stream _ _)
  | some name =>
    dsimp only
    split <;> exact read

theorem composes_withStream {name : Text} {program : Program}
    {use : Nat → Except Failure ProgramAnswer × Program}
    (uses : ∀ stream, relation program.world (use stream).2.world) :
    relation program.world (program.withStream name use).2.world := by
  rw [withStream]
  split
  · exact composes.stay _
  · exact uses _

theorem composes_ask (target : Target) (program : Program) :
    relation program.world (program.ask target).2.world := by
  have readied := composes.ready target program.world
  rw [ask]
  split
  · next failed =>
    rwa [failed] at readied
  · next ready =>
    rwa [ready] at readied

/-- Every step of a caller is put together from these parts, before the others have their turns. -/
theorem composes_step (step : ProgramStep) (program : Program) :
    relation program.world (program.step step).2.world := by
  cases step with
  | act action => exact composes.perform action program.world
  | read name calls => exact composes.stay _
  | ask target => exact composes_ask composes target program
  | askText target => exact composes_ask composes target program
  | next name keep =>
    exact composes_withStream composes fun stream => composes_takeNext composes stream keep program
  | poll name => exact composes.stay _
  | drain name most =>
    exact composes_withStream composes fun stream =>
      composes.further (composes_countNext composes stream _ _ _) (composes.close stream _)
  | finish name => exact composes_withStream composes fun stream => composes.close stream _

omit composes in
/-- Every step of a caller is a run, with all that is told and noticed before it laid aside. -/
theorem runs_run (step : ProgramStep) (program : Program) :
    program.world.Runs (program.run step).2.world := by
  have cleared : program.world.Runs program.world.fresh :=
    .remark (List.nil_subset _) [] program.world.cutShort
  have stepped := composes_step World.composes_runs step
    { program with world := program.world.fresh }
  exact (cleared.further stepped).further (composes_settle World.composes_runs _)

end Program

end DocQuery
