/-
This file proves that live queries are told what asking them once would give.

A deed is anything that is done to a state. Deeds are built from writes, removals, reports of
failures, starts of live queries of any type on any reference, and cancellations, in any order that
may hang on how earlier ones ended and on the state; and what listeners do inside a delivery is
such a deed again. Beside each deed stands the same deed by asking: there a live query that starts
or that a write concerns is told what asking its query once gives at that very moment. The two
never differ, so there is no delivery of which this is not true. The induction is on how the deed
is built, with the deeds of listeners among its parts.
-/

import DocQuery.Proofs.Live.Asking
import DocQuery.Proofs.Live.Running

namespace DocQuery

/-- Something that is done to a state: how it ends, and the state that it leaves. -/
abbrev Deed := World → Except Failure Response × World

namespace World

/-! ### Deeds by asking -/

/-- A deed, and the same deed by asking. -/
inductive ByAsking : Deed → Deed → Prop
  | done (response : Except Failure Response) :
      ByAsking (fun world => (response, world)) (fun world => (response, world))
  /-- One deed after another, which may hang on how the first ended. -/
  | andThen {first firstAsking : Deed} {next nextAsking : Except Failure Response → Deed}
      (before : ByAsking first firstAsking)
      (after : ∀ response, ByAsking (next response) (nextAsking response)) :
      ByAsking (fun world => next (first world).1 (first world).2)
        (fun world => nextAsking (firstAsking world).1 (firstAsking world).2)
  /-- A deed that hangs on the state. -/
  | depending {deed asking : World → Deed} (each : ∀ state, ByAsking (deed state) (asking state)) :
      ByAsking (fun world => deed world world) (fun world => asking world world)
  | write {performer asking : Performer}
      (inside : ∀ action, action.IsLive → ByAsking (performer action) (asking action))
      (name : Text) (path data : Value) :
      ByAsking (writeDocument performer name path data) (writeAsking asking name path data)
  | remove {performer asking : Performer}
      (inside : ∀ action, action.IsLive → ByAsking (performer action) (asking action))
      (name : Text) (path : Value) :
      ByAsking (removeDocument performer name path) (removeAsking asking name path)
  /-- A report is no news of how things stand, so nothing is asked. -/
  | report {performer asking : Performer}
      (inside : ∀ action, action.IsLive → ByAsking (performer action) (asking action))
      (name : Text) (path : Value) (failure : Failure) :
      ByAsking (reportFailure performer name path failure) (reportFailure asking name path failure)
  | subscribe {performer asking : Performer}
      (inside : ∀ action, action.IsLive → ByAsking (performer action) (asking action))
      (type : QueryType) (projection : Projection) (name label : Text) {reference : Reference}
      (named : reference.IsNamed) {reactions : List Reaction} (live : AreLive reactions) :
      ByAsking
        (fun world => (world.addRecipient label reactions).2.subscribeTo performer label
          ⟨type, reference.path, projection, .store name reference⟩ world.recipients.length)
        (subscribeAsking asking type projection name label reference reactions)
  | cancel (query : Nat) :
      ByAsking (fun world => (.ok .done, world.cancelQuery query))
        (fun world => (.ok .done, world.cancelQuery query))
  /-- Notices are given, or a script is cut short. -/
  | remark (notices : List Notice) (cutShort : Bool) :
      ByAsking (fun world => (.ok .done, { world with notices := notices, cutShort := cutShort }))
        (fun world => (.ok .done, { world with notices := notices, cutShort := cutShort }))

theorem faithful_and_agree {performer asking : Performer}
    (plays : ∀ action, action.IsLive → ∀ {world : World}, world.Sound →
      performer action world = asking action world ∧ world.Carries (performer action world).2) :
    Faithful performer ∧ Agree performer asking :=
  ⟨fun action live _ sound => (plays action live sound).2,
    fun action live _ sound => (plays action live sound).1⟩

/-- A deed is the deed by asking, and it leaves a sound state. -/
theorem ByAsking.eq_and_carries {deed asking : Deed} (byAsking : ByAsking deed asking) :
    ∀ {world : World}, world.Sound → deed world = asking world ∧ world.Carries (deed world).2 := by
  induction byAsking with
  | done response => exact fun sound => ⟨rfl, .refl sound⟩
  | andThen _ _ firstHypothesis nextHypothesis =>
    intro world sound
    obtain ⟨same, carries⟩ := firstHypothesis sound
    obtain ⟨sameThen, further⟩ := nextHypothesis _ carries.sound
    exact ⟨sameThen.trans (by rw [same]), carries.trans sound further⟩
  | depending _ inductionHypothesis => exact fun sound => inductionHypothesis _ sound
  | write _ name path data inductionHypothesis =>
    intro world sound
    obtain ⟨faithful, agree⟩ := faithful_and_agree inductionHypothesis
    exact ⟨sound.writeDocument_eq faithful agree name path data,
      sound.carries_writeDocument faithful name path data⟩
  | remove _ name path inductionHypothesis =>
    intro world sound
    obtain ⟨faithful, agree⟩ := faithful_and_agree inductionHypothesis
    exact ⟨sound.removeDocument_eq faithful agree name path,
      sound.carries_removeDocument faithful name path⟩
  | report _ name path failure inductionHypothesis =>
    intro world sound
    obtain ⟨faithful, agree⟩ := faithful_and_agree inductionHypothesis
    exact ⟨sound.reportFailure_eq faithful agree name path failure,
      sound.carries_reportFailure faithful name path failure⟩
  | subscribe _ type projection name label named live inductionHypothesis =>
    intro world sound
    obtain ⟨faithful, agree⟩ := faithful_and_agree inductionHypothesis
    exact ⟨sound.subscribeTo_eq faithful agree type projection name label named live,
      sound.carries_subscribeTo faithful type projection name label named live⟩
  | cancel query => exact fun sound => ⟨rfl, sound.carries_cancelQuery query⟩
  | remark notices cutShort => exact fun sound => ⟨rfl, sound.carries_remark notices cutShort⟩

/-! ### Actions by asking -/

/-- What an action does if live queries are answered by asking. -/
def askWith (asking : Performer) (action : Action) (world : World) :
    Except Failure Response × World :=
  match action with
  | .write store path data => world.writeAsking asking store path data
  | .remove store path => world.removeAsking asking store path
  | .subscribe label target reactions =>
    match world.aim target with
    | (.error failure, after) => (.error failure, after)
    | (.ok aim, after) =>
      match aim.source with
      | .store name reference =>
        after.subscribeAsking asking aim.type aim.projection name label reference reactions
      | .feed _ =>
        let added := after.addRecipient label reactions
        added.2.subscribeTo asking label aim added.1
  | other => world.performWith asking other

/-- Carries out an action by asking, up to a depth of actions inside actions. -/
def askTo : Nat → Performer
  | 0, _, world => (.ok .done, { world with cutShort := true })
  | depth + 1, action, world => world.askWith (askTo depth) action

/-- Carries out an action by asking. -/
def ask (action : Action) (world : World) : Except Failure Response × World :=
  askTo (world.depthFor action) action world

/-- Carries out actions by asking one after the other. -/
def askAll (actions : List Action) (world : World) : World :=
  actions.foldl (fun reached action => (reached.ask action).2) world

/-- A deed that is like some deed in each state. -/
theorem ByAsking.of_states {deed asking : Deed}
    (each : ∀ state, ∃ alike alikeAsking, ByAsking alike alikeAsking ∧ deed state = alike state ∧
      asking state = alikeAsking state) : ByAsking deed asking := by
  choose alike alikeAsking byAsking same sameAsking using each
  rw [funext same, funext sameAsking]
  exact .depending byAsking

/-- Starting a live query on a target is so by asking, whether or not the target can be built. -/
theorem byAsking_subscribe {performer asking : Performer}
    (inside : ∀ action, action.IsLive → ByAsking (performer action) (asking action))
    {target : Target} (targetNamed : target.IsNamed) {reactions : List Reaction}
    (live : AreLive reactions) (label : Text) :
    ByAsking (performWith performer (.subscribe label target reactions))
      (askWith asking (.subscribe label target reactions)) := by
  cases target with
  | feed feed => exact targetNamed.elim
  | query name value =>
    refine .of_states fun world => ?_
    rw [performWith, askWith, aim]
    cases decoded : decodeQuery Json.nestingLimit value with
    | error failure => exact ⟨_, _, .done (.error failure), rfl, rfl⟩
    | ok components =>
      cases world.store name with
      | error failure => exact ⟨_, _, .done (.error failure), rfl, rfl⟩
      | ok store =>
        -- Building gives its notices first, whatever comes of it.
        have noticed := ByAsking.remark
          (world.notices ++ (Reference.build world.mode components).notices) world.cutShort
        cases outcome : (Reference.build world.mode components).outcome with
        | error failure =>
          refine ⟨_, _, noticed.andThen fun _ => .done (.error failure), ?_, ?_⟩ <;>
            simp only [outcome] <;> rfl
        | ok built =>
          have named := Reference.isNamed_of_build (targetNamed components decoded) outcome
          refine ⟨_, _, noticed.andThen fun _ =>
            .subscribe inside (classify components) built.projection name label named live, ?_, ?_⟩ <;>
            simp only [outcome] <;> rfl

/-- Carrying out a live action, up to any depth, is so by asking. -/
theorem byAsking_performTo (depth : Nat) {action : Action} (live : action.IsLive) :
    ByAsking (performTo depth action) (askTo depth action) := by
  induction depth generalizing action with
  | zero => exact .of_states fun world => ⟨_, _, .remark world.notices true, rfl, rfl⟩
  | succ depth inductionHypothesis =>
    have inside : ∀ action, action.IsLive →
        ByAsking (performTo depth action) (askTo depth action) :=
      fun _ actionLive => inductionHypothesis actionLive
    cases action with
    | write name path data => exact .write inside name path data
    | remove name path => exact .remove inside name path
    | report name path failure => exact .report inside name path failure
    | subscribe label target reactions =>
      rw [Action.IsLive] at live
      exact byAsking_subscribe inside live.1 live.2 label
    | cancel label =>
      have same : askTo (depth + 1) (.cancel label) = performTo (depth + 1) (.cancel label) := rfl
      rw [same]
      refine .of_states fun world => ?_
      rw [performTo, performWith]
      split
      · exact ⟨_, _, .done (.ok .unknown), rfl, rfl⟩
      · exact ⟨_, _, .cancel _, rfl, rfl⟩
    | leave label =>
      have same : askTo (depth + 1) (.leave label) = performTo (depth + 1) (.leave label) := rfl
      rw [same]
      refine .of_states fun world => ?_
      rw [performTo, performWith]
      split
      · exact ⟨_, _, .done (.ok .unknown), rfl, rfl⟩
      · next query found _ =>
        exact ⟨_, _, (ByAsking.cancel query).andThen fun _ =>
          .done (.ok (.active found.handle.active)), rfl, rfl⟩
    | describe name =>
      exact .of_states fun world => ⟨_, _, .done ((world.standing name).map .store), rfl, rfl⟩
    | inspect label =>
      have same : askTo (depth + 1) (.inspect label) = performTo (depth + 1) (.inspect label) := rfl
      rw [same]
      refine .of_states fun world => ?_
      rw [performTo, performWith]
      split
      · exact ⟨_, _, .done (.ok .unknown), rfl, rfl⟩
      · exact ⟨_, _, .done (.ok (.query _)), rfl, rfl⟩
    | inspectStream label =>
      have same : askTo (depth + 1) (.inspectStream label) =
          performTo (depth + 1) (.inspectStream label) := rfl
      rw [same]
      refine .of_states fun world => ?_
      rw [performTo, performWith]
      split
      · exact ⟨_, _, .done (.ok .unknown), rfl, rfl⟩
      · exact ⟨_, _, .done (.ok (.stream _)), rfl, rfl⟩
    | _ => simp only [Action.IsLive] at live

theorem byAsking_performAll {actions : List Action} (live : ∀ action ∈ actions, action.IsLive) :
    ByAsking (fun world => (.ok .done, world.performAll actions))
      (fun world => (.ok .done, world.askAll actions)) := by
  induction actions with
  | nil => exact .done (.ok .done)
  | cons action rest inductionHypothesis =>
    obtain ⟨first, restLive⟩ := List.forall_mem_cons.mp live
    have once : ByAsking (perform action) (ask action) :=
      .of_states fun world => ⟨_, _, byAsking_performTo (world.depthFor action) first, rfl, rfl⟩
    exact once.andThen fun _ => inductionHypothesis restLive

/-! ### Live queries are told what asking gives -/

/-- From stores without listeners, whatever is done is done by asking: live queries of any type on
any reference are told what asking them once gives at that moment, a result or a failure. This holds
of every deed, so of every list of actions too; and a failure that asking gives is a missing document
or a refusal of the store. -/
theorem eq_asking_of_unheard {mode : BuildMode} {stores : List (Text × Store Callback)}
    (unheard : ∀ entry ∈ stores, entry.2.listeners = []) :
    (∀ deed asking, ByAsking deed asking →
      deed (ofStores mode stores) = asking (ofStores mode stores)) ∧
    (∀ actions, (∀ action ∈ actions, action.IsLive) →
      (ofStores mode stores).performAll actions = (ofStores mode stores).askAll actions) ∧
    ∀ (world : World) name store reference (query : LiveQuery) failure,
      world.store? name = some store → reference.IsNamed →
        world.askOnce (query.aim name reference) = .error failure → failure.isDeliverable = true := by
  have same {deed asking : Deed} (byAsking : ByAsking deed asking) :
      deed (ofStores mode stores) = asking (ofStores mode stores) :=
    (byAsking.eq_and_carries (sound_ofStores unheard)).1
  refine ⟨fun _ _ byAsking => same byAsking, fun actions live => ?_,
    fun _ _ _ _ query _ there named failed => isDeliverable_of_askOnce there named query failed⟩
  exact congrArg Prod.snd (same (byAsking_performAll live))

/-- The start of a live query that takes the collection of people for a document, and then of one on
all people whose listener writes while it is told of a write. -/
def mistaken : Deed := fun world =>
  (.ok .done, ((world.addRecipient "mistaken" []).2.subscribeTo (performTo 1) "mistaken"
    ⟨.document, (Reference.plain ["people"]).path, .everything,
      .store "store" (Reference.plain ["people"])⟩ world.recipients.length).2.performAll doubling)

def mistakenAsking : Deed := fun world =>
  (.ok .done, (world.subscribeAsking (askTo 1) .document .everything "store" "mistaken"
    (Reference.plain ["people"]) []).2.askAll doubling)

theorem byAsking_mistaken : ByAsking mistaken mistakenAsking := by
  have begun := ByAsking.subscribe (fun _ live => byAsking_performTo 1 live) .document .everything
    "store" "mistaken" (Reference.isNamed_plain ["people"]) (show AreLive [] from trivial)
  exact begun.andThen fun _ => byAsking_performAll fun _ member => isLive_of_mem_doubling member

theorem eq_asking_of_unheard_mistaken :
    let start := ofStores .permissive [("store", .empty)]
    let refusal : Update := .failure (.store .documentExpected (some (.text "people")))
    let ada : Document := ⟨"people/ada", [("age", .int 36)], true⟩
    let eve : Document := ⟨"people/eve", [("age", .int 41)], true⟩
    mistaken start = mistakenAsking start ∧
      (mistakenAsking start).2.events.map (fun event => (event.name, event.update)) =
        [(("mistaken" : Text), refusal), ("watch", .result ⟨[], false⟩), ("mistaken", refusal),
          ("watch", .result ⟨[ada], false⟩), ("mistaken", refusal),
          ("watch", .result ⟨[ada, eve], false⟩)] := by
  have unheard : ∀ entry ∈ [(("store" : Text), (Store.empty : Store Callback))],
      entry.2.listeners = [] := by
    simp [Store.empty, Store.ofDocuments]
  exact ⟨(eq_asking_of_unheard unheard).1 _ _ byAsking_mistaken, rfl⟩

end World

end DocQuery
