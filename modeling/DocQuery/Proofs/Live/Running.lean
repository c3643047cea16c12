/-
This file proves that no live query misses an update.

A run is any sequence of writes, removals, reports of failures, starts and cancellations, where the
listeners do the same inside every delivery. What listeners do is a parameter of every step:
a run may have them do anything, as long as that is a run itself. So the induction is on the run,
with the runs inside its deliveries among its parts.

After a run each live query that is still active was last told, by its start or by a write, what
asking it once would give now.
-/

import DocQuery.Proofs.Live.Starting

namespace DocQuery

namespace World

/-! ### Runs -/

/-- How a state can go on: by steps of a caller, in whose deliveries listeners go on too. -/
inductive Goes : World → World → Prop
  | stay (world : World) : Goes world world
  | further {first second third : World} : Goes first second → Goes second third →
      Goes first third
  | write {performer : Performer}
      (plays : ∀ action, action.IsLive → ∀ inside, Goes inside (performer action inside).2)
      (name : Text) (path data : Value) (world : World) :
      Goes world (world.writeDocument performer name path data).2
  | remove {performer : Performer}
      (plays : ∀ action, action.IsLive → ∀ inside, Goes inside (performer action inside).2)
      (name : Text) (path : Value) (world : World) :
      Goes world (world.removeDocument performer name path).2
  | report {performer : Performer}
      (plays : ∀ action, action.IsLive → ∀ inside, Goes inside (performer action inside).2)
      (name : Text) (path : Value) (failure : Failure) (world : World) :
      Goes world (world.reportFailure performer name path failure).2
  | subscribe {performer : Performer}
      (plays : ∀ action, action.IsLive → ∀ inside, Goes inside (performer action inside).2)
      (type : QueryType) (projection : Projection) (name label : Text) {reference : Reference}
      (named : reference.IsNamed) {reactions : List Reaction} (live : AreLive reactions)
      (world : World) :
      Goes world ((world.addRecipient label reactions).2.subscribeTo performer label
        ⟨type, reference.path, projection, .store name reference⟩ world.recipients.length).2
  | cancel (query : Nat) (world : World) : Goes world (world.cancelQuery query)
  /-- Notices are given, or a script is cut short. -/
  | remark (notices : List Notice) (cutShort : Bool) (world : World) :
      Goes world { world with notices := notices, cutShort := cutShort }

/-! ### Steps -/

variable {performer : Performer} {world : World}

theorem Sound.carries_writeDocument (sound : world.Sound) (faithful : Faithful performer)
    (name : Text) (path data : Value) :
    world.Carries (world.writeDocument performer name path data).2 := by
  unfold writeDocument World.store
  cases there : world.store? name with
  | none => exact .refl sound
  | some store =>
    cases Store.acceptWrite path data with
    | error failure => exact .refl sound
    | ok accepted =>
      obtain ⟨segments, entries⟩ := accepted
      obtain ⟨after, passed, carries⟩ :=
        sound.exists_changePass faithful there (touches_write segments entries)
      dsimp only
      rw [passed]
      exact carries

theorem Sound.carries_removeDocument (sound : world.Sound) (faithful : Faithful performer)
    (name : Text) (path : Value) :
    world.Carries (world.removeDocument performer name path).2 := by
  unfold removeDocument World.store
  cases there : world.store? name with
  | none => exact .refl sound
  | some store =>
    cases Segments.ofDocumentPath path with
    | error failure => exact .refl sound
    | ok segments =>
      dsimp only
      by_cases held : store.holds segments = true
      · rw [if_pos held]
        obtain ⟨after, passed, carries⟩ :=
          sound.exists_changePass faithful there (touches_remove segments)
        rw [passed]
        exact carries
      · rw [if_neg held]
        exact .refl sound

theorem Sound.carries_reportFailure (sound : world.Sound) (faithful : Faithful performer)
    (name : Text) (path : Value) (failure : Failure) :
    world.Carries (world.reportFailure performer name path failure).2 := by
  unfold reportFailure World.store
  cases there : world.store? name with
  | none => exact .refl sound
  | some store =>
    cases path.toName with
    | error refused => exact .refl sound
    | ok given =>
      have live : ∀ entry ∈ store.listenersAt (Segments.ofPath given),
          ∃ query, entry.2.callback = .live query := by
        intro entry member
        obtain ⟨_, _, query, _, callback, _, _⟩ :=
          sound.attended there (List.mem_filter.mp member).1
        exact ⟨query, callback⟩
      obtain ⟨after, passed, carries⟩ := exists_reportPass faithful failure live sound
      dsimp only
      rw [passed]
      exact carries

/-- A run carries freshness on. -/
theorem Goes.carries {first last : World} (run : first.Goes last) (sound : first.Sound) :
    first.Carries last := by
  -- For a step with deliveries the hypothesis is that what plays inside them is faithful.
  induction run with
  | stay => exact .refl sound
  | further _ _ firstHypothesis secondHypothesis =>
    have carries := firstHypothesis sound
    exact carries.trans sound (secondHypothesis carries.sound)
  | write _ name path data _ inductionHypothesis =>
    exact sound.carries_writeDocument inductionHypothesis name path data
  | remove _ name path _ inductionHypothesis =>
    exact sound.carries_removeDocument inductionHypothesis name path
  | report _ name path failure _ inductionHypothesis =>
    exact sound.carries_reportFailure inductionHypothesis name path failure
  | subscribe _ type projection name label named live _ inductionHypothesis =>
    exact sound.carries_subscribeTo inductionHypothesis type projection name label named live
  | cancel query => exact sound.carries_cancelQuery query
  | remark notices cutShort => exact sound.carries_remark notices cutShort

/-! ### Actions -/

/-- Starting a live query on a target is a run, whether or not the target can be built. -/
theorem goes_subscribe
    (plays : ∀ action, action.IsLive → ∀ inside : World, inside.Goes (performer action inside).2)
    {target : Target} (targetNamed : target.IsNamed) {reactions : List Reaction}
    (live : AreLive reactions) (label : Text) (world : World) :
    world.Goes (world.performWith performer (.subscribe label target reactions)).2 := by
  cases target with
  | feed feed => exact targetNamed.elim
  | query name value =>
    rw [performWith, aim]
    cases decoded : decodeQuery Json.nestingLimit value with
    | error failure => exact .stay world
    | ok components =>
      cases world.store name with
      | error failure => exact .stay world
      | ok store =>
        have noticed : world.Goes
            (world.notifyAll (Reference.build world.mode components).notices) :=
          .remark _ world.cutShort world
        cases outcome : (Reference.build world.mode components).outcome with
        | error failure =>
          simp only [outcome]
          exact noticed
        | ok built =>
          have named := Reference.isNamed_of_build (targetNamed components decoded) outcome
          simp only [outcome]
          exact noticed.further
            (.subscribe plays (classify components) built.projection name label named live _)

/-- Carrying out a live action, up to any depth, is a run. -/
theorem goes_performTo (depth : Nat) {action : Action} (live : action.IsLive) (world : World) :
    world.Goes (performTo depth action world).2 := by
  induction depth generalizing action world with
  | zero => exact .remark world.notices true world
  | succ depth inductionHypothesis =>
    have plays : ∀ action, action.IsLive → ∀ inside : World,
        inside.Goes (performTo depth action inside).2 :=
      fun _ actionLive inside => inductionHypothesis actionLive inside
    rw [performTo]
    cases action with
    | write name path data => exact .write plays name path data world
    | remove name path => exact .remove plays name path world
    | report name path failure => exact .report plays name path failure world
    | subscribe label target reactions =>
      rw [Action.IsLive] at live
      exact goes_subscribe plays live.1 live.2 label world
    | cancel label =>
      rw [performWith]
      split
      · exact .stay world
      · exact .cancel _ world
    | leave label =>
      rw [performWith]
      split
      · exact .stay world
      · exact .cancel _ world
    | describe name => exact .stay world
    | inspect label =>
      rw [performWith]
      split <;> exact .stay world
    | inspectStream label =>
      rw [performWith]
      split <;> exact .stay world
    | _ => simp only [Action.IsLive] at live

/-- Carries out actions one after the other. -/
def performAll (actions : List Action) (world : World) : World :=
  actions.foldl (fun reached action => (reached.perform action).2) world

theorem goes_performAll {actions : List Action} (live : ∀ action ∈ actions, action.IsLive)
    (world : World) : world.Goes (world.performAll actions) := by
  induction actions generalizing world with
  | nil => exact .stay world
  | cons action rest inductionHypothesis =>
    have restLive : ∀ other ∈ rest, other.IsLive :=
      fun other member => live other (List.mem_cons_of_mem _ member)
    exact (goes_performTo _ (live action List.mem_cons_self) world).further
      (inductionHypothesis restLive _)

/-! ### No missed update -/

theorem sound_ofStores {mode : BuildMode} {stores : List (Text × Store Callback)}
    (unheard : ∀ entry ∈ stores, entry.2.listeners = []) : (ofStores mode stores).Sound := by
  have none {name : Text} {store : Store Callback} {entry : Nat × Listener Callback}
      (there : (ofStores mode stores).store? name = some store) : entry ∉ store.listeners := by
    rw [listeners_ofStores unheard there]
    exact List.not_mem_nil
  refine ⟨fun there member => absurd member (none there), fun there member => ?_, nofun, nofun,
    nofun, nofun⟩
  exact absurd member (none there)

/-- After any run, a live query with a name was last told, by its start or by a write, what asking
it once gives, if it is still active. The recipient that was told has no other live query. -/
theorem lastStanding_of_goes {mode : BuildMode} {stores : List (Text × Store Callback)}
    (unheard : ∀ entry ∈ stores, entry.2.listeners = []) {world : World}
    (run : (ofStores mode stores).Goes world) {label : Text} {query : Nat}
    (bound : (label, query) ∈ world.queryNames) :
    ∃ found, world.queries[query]? = some found ∧ (found.handle.active = true →
      ∃ name reference recipient, found.source = some (.store name reference) ∧
        found.sink = .recipient recipient ∧
        (∀ other otherFound, world.queries[other]? = some otherFound →
          otherFound.sink = .recipient recipient → other = query) ∧
        world.lastStanding recipient =
          some (.ofResult (world.askOnce (found.aim name reference)))) := by
  have carries := run.carries (sound_ofStores unheard)
  have served : world.Served query := by
    rcases carries.bound bound with known | served
    · cases known
    · exact served
  obtain ⟨found, present, attended⟩ := served
  refine ⟨found, present, fun active => ?_⟩
  obtain ⟨name, id, reference, attends, fresh⟩ := attended active
  obtain ⟨same, recipient, presentToo, sink, last⟩ := fresh
  obtain rfl := Option.some.inj (present.symm.trans presentToo)
  obtain ⟨other, presentOther, _, reads⟩ := carries.sound.exists_query attends
  obtain rfl := Option.some.inj (present.symm.trans presentOther)
  exact ⟨name, reference, recipient, reads.source, sink, fun other otherFound there toIt =>
    carries.sound.apart there present (toIt.trans sink.symm), last⟩

/-- A live query on all people whose listener writes another one when it is told of a write. -/
def doubling : List Action :=
  [.subscribe "watch"
    (.query "store" (.list [.map [("type", .text "literal"), ("value", .text "people")]]))
    [.act 2 (.write "store" (.text "people/eve") (.map [("age", .int 41)]))],
    .write "store" (.text "people/ada") (.map [("age", .int 36)])]

theorem isLive_of_mem_doubling {action : Action} (member : action ∈ doubling) :
    action.IsLive := by
  have literal : decodeQuery Json.nestingLimit
      (.list [.map [("type", .text "literal"), ("value", .text "people")]]) =
        .ok [.literal "people"] := by rfl
  simp only [doubling, List.mem_cons, List.not_mem_nil, or_false] at member
  rcases member with rfl | rfl
  · rw [Action.IsLive]
    refine ⟨fun components decoded component among => ?_, ?_⟩
    · rw [literal] at decoded
      cases decoded
      rw [List.mem_singleton.mp among]
      trivial
    · simp [AreLive, Reaction.IsLive, Action.IsLive]
  · simp [Action.IsLive]

theorem lastStanding_of_goes_doubling :
    let world := (ofStores .permissive [("store", .empty)]).performAll doubling
    world.events.length = 3 ∧ world.lastStanding 0 =
      some (.result ⟨[⟨"people/ada", [("age", .int 36)], true⟩,
        ⟨"people/eve", [("age", .int 41)], true⟩], false⟩) := by
  have unheard : ∀ entry ∈ [(("store" : Text), (Store.empty : Store Callback))],
      entry.2.listeners = [] := by
    simp [Store.empty, Store.ofDocuments]
  have run : (ofStores .permissive [("store", .empty)]).Goes
      ((ofStores .permissive [("store", .empty)]).performAll doubling) :=
    goes_performAll (fun _ member => isLive_of_mem_doubling member) _
  have bound : ((ofStores .permissive [("store", .empty)]).performAll doubling).queryNames =
      [(("watch" : Text), 0)] := by rfl
  obtain ⟨found, present, told⟩ := lastStanding_of_goes unheard run
    (bound ▸ List.mem_singleton_self (("watch" : Text), 0))
  cases present
  obtain ⟨name, reference, recipient, source, sink, _, last⟩ := told rfl
  cases source
  cases sink
  exact ⟨rfl, last⟩

end World

end DocQuery
