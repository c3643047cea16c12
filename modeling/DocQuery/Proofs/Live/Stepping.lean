/-
This file proves that actions on stores and their listeners are courses of single steps.

An action that begins where nothing is under way, or inside a delivery, goes through moments with
more under way, and when it has ended, what was under way before it is again all there is. The
induction is on the depth of actions inside actions: what a listener does inside a delivery is a
course, with the delivery on top of the pass that it was called in.
-/

import DocQuery.Proofs.Live.Moments

namespace DocQuery

/-! ### Actions are courses -/

/-- A performer that carries out direct actions step by step. -/
def StepsThrough (performer : Performer) : Prop :=
  ∀ action : Action, action.IsDirect → ∀ {moment : Moment}, moment.Coherent →
    IsFree moment.frames → Course moment ⟨moment.frames, (performer action moment.world).2⟩

theorem isDirect_of_mem {reactions : List Reaction} (direct : AreDirect reactions)
    {reaction : Reaction} (member : reaction ∈ reactions) : reaction.IsDirect := by
  induction reactions with
  | nil => cases member
  | cons first rest inductionHypothesis =>
    rw [AreDirect] at direct
    rcases List.mem_cons.mp member with rfl | later
    · exact direct.1
    · exact inductionHypothesis direct.2 later

namespace World

variable {performer : Performer} {world : World} {frames : List Frame}

/-- What a listener does inside a delivery. -/
theorem course_react (through : StepsThrough performer) (recipient : Nat)
    {reactions : List Reaction} (direct : ∀ reaction ∈ reactions, reaction.IsDirect)
    (coherent : (Moment.mk (.delivery :: frames) world).Coherent) :
    Course ⟨.delivery :: frames, world⟩
      ⟨.delivery :: frames, (react performer recipient reactions world).2⟩ := by
  induction reactions generalizing world with
  | nil => exact .refl
  | cons reaction rest inductionHypothesis =>
    obtain ⟨first, restDirect⟩ := List.forall_mem_cons.mp direct
    have shown : Course ⟨.delivery :: frames, world⟩
        ⟨.delivery :: frames, (world.showReaction performer reaction).2⟩ := by
      cases reaction with
      | raise position failure => exact .refl
      | act position action =>
        rw [Reaction.IsDirect] at first
        exact through action first coherent trivial
    rw [react]
    split
    · split
      · next raised =>
        rwa [raised] at shown
      · next performed =>
        rw [performed] at shown
        exact shown.trans (inductionHypothesis restDirect (coherent_of_course shown coherent))
    · exact inductionHypothesis restDirect coherent

/-- A listener that was called does what it does. -/
theorem course_hear (through : StepsThrough performer) {recipient : Nat} {occasion : Occasion}
    {update : Update}
    (coherent : (Moment.mk (.delivery :: frames)
      (world.called recipient occasion update)).Coherent)
    (direct : ∀ reaction ∈ world.reactionsOf recipient, reaction.IsDirect) :
    Course ⟨.delivery :: frames, world.called recipient occasion update⟩
      ⟨.delivery :: frames, (world.hear performer recipient occasion update).2⟩ := by
  unfold hear
  unfold called at coherent ⊢
  cases examined : update.examine with
  | error failure => exact .refl
  | ok _ =>
    rw [examined] at coherent
    exact course_react through recipient direct coherent

theorem reactionsOf_isDirect (orderly : world.Orderly) (recipient : Nat) :
    ∀ reaction ∈ world.reactionsOf recipient, reaction.IsDirect := by
  intro reaction member
  rw [reactionsOf] at member
  split at member
  · cases member
  · next known there =>
    exact isDirect_of_mem (orderly.scripts known (List.mem_of_getElem? there)) member

/-- Refreshing a listener on a reference is telling it the news. -/
theorem refresh_recipient (performer : Performer) (store : Store Callback) (reference : Reference)
    (recipient : Nat) (world : World) :
    world.refresh performer store ⟨reference, .recipient recipient⟩ =
      match store.news reference with
      | .ok update => world.hear performer recipient .standing update
      | .error failure => (.error failure, world) := by
  rw [refresh, Store.news]
  cases store.read reference with
  | ok snapshot => rfl
  | error failure =>
    dsimp only
    split <;> rfl

theorem writePass_of_absent {name : Text} (absent : world.store? name = none)
    (line : List (Nat × Listener Callback)) :
    world.writePass performer name line = (.ok (), world) := by
  cases line with
  | nil => rfl
  | cons entry rest => rw [writePass, absent]

theorem course_writePass (through : StepsThrough performer) {name : Text}
    {line : List (Nat × Listener Callback)}
    (coherent : (Moment.mk (.write name line :: frames) world).Coherent) :
    Course ⟨.write name line :: frames, world⟩
      ⟨frames, (world.writePass performer name line).2⟩ := by
  induction line generalizing world with
  | nil => exact .single .written
  | cons entry rest inductionHypothesis =>
    obtain ⟨has, _⟩ := coherent.writing List.mem_cons_self
    obtain ⟨recipient, callback, _⟩ := has entry List.mem_cons_self
    obtain ⟨id, reference, _⟩ := entry
    obtain rfl : _ = Callback.recipient recipient := callback
    rw [writePass]
    cases there : world.store? name with
    | none =>
      -- There is no store of this name, so everybody in line counts as removed.
      have removed : world.isRegistered name id = false := by rw [isRegistered, there]
      have others := inductionHypothesis coherent.next_write
      rw [writePass_of_absent there] at others
      exact .head (.skip removed) others
    | some store =>
      dsimp only
      by_cases registered : store.isRegistered id = true
      · rw [if_pos registered, refresh_recipient]
        cases news : store.news reference with
        | error failure => exact .single (.broken there registered news)
        | ok update =>
          have told : Step
              ⟨.write name ((id, ⟨reference, .recipient recipient⟩) :: rest) :: frames, world⟩
              ⟨.delivery :: .write name rest :: frames, world.called recipient .standing update⟩ :=
            .told there registered news
          have after := told.coherent coherent
          have heard := course_hear through after (reactionsOf_isDirect coherent.world recipient)
          have calm := coherent_of_course heard after
          dsimp only
          split
          · next raised =>
            rw [raised] at heard
            exact .head told (heard.tail .raised)
          · next returned =>
            rw [returned] at heard calm
            exact .head told ((heard.tail .returned).trans (inductionHypothesis calm.pop))
      · rw [if_neg registered]
        have removed : world.isRegistered name id = false := by
          rw [isRegistered, there]
          simpa using registered
        exact .head (.skip removed) (inductionHypothesis coherent.next_write)

theorem course_reportPass (through : StepsThrough performer) {failure : Failure}
    {line : List (Nat × Listener Callback)}
    (coherent : (Moment.mk (.report failure line :: frames) world).Coherent) :
    Course ⟨.report failure line :: frames, world⟩
      ⟨frames, (world.reportPass performer failure line).2⟩ := by
  induction line generalizing world with
  | nil => exact .single .ended
  | cons entry rest inductionHypothesis =>
    have has := coherent.reporting List.mem_cons_self
    obtain ⟨recipient, callback, _⟩ := has entry List.mem_cons_self
    obtain ⟨id, reference, _⟩ := entry
    obtain rfl : _ = Callback.recipient recipient := callback
    rw [reportPass]
    have told : Step ⟨.report failure ((id, ⟨reference, .recipient recipient⟩) :: rest) :: frames,
        world⟩ ⟨.delivery :: .report failure rest :: frames,
          world.called recipient .report (.failure failure)⟩ := .reported
    have after := told.coherent coherent
    have heard := course_hear through after (reactionsOf_isDirect coherent.world recipient)
    have calm := coherent_of_course heard after
    dsimp only [callFailure]
    split
    · next raised =>
      rw [raised] at heard
      exact .head told (heard.tail .raised)
    · next returned =>
      rw [returned] at heard calm
      exact .head told ((heard.tail .returned).trans (inductionHypothesis calm.pop))

/-- The operations that a moment allows begin where it stands. -/
theorem course_listen (through : StepsThrough performer) (label name : Text)
    (calls : List NavigationCall) {reactions : List Reaction} (direct : AreDirect reactions)
    (coherent : (Moment.mk frames world).Coherent) (free : DocQuery.IsFree frames) :
    Course ⟨frames, world⟩ ⟨frames, (world.listen performer label name calls reactions).2⟩ := by
  unfold listen World.store
  cases there : world.store? name with
  | none => exact .refl
  | some store =>
    cases Reference.root.callAll calls with
    | error failure => exact .refl
    | ok reference =>
      have known : (world.addRecipient label reactions).2.store? name = some store := there
      have recipient : (world.addRecipient label reactions).1 = world.recipients.length := rfl
      dsimp only
      unfold installRecipient World.store
      rw [known, recipient]
      dsimp only
      cases accepted : store.acceptListener reference with
      | error failure => exact .single (.begin free (.refuse label direct))
      | ok snapshot =>
        have began : Step ⟨frames, world⟩ ⟨.delivery :: .install label name store.nextListener ::
            frames, ((world.addRecipient label reactions).2.updateStore name (Store.register
              ⟨reference, .recipient world.recipients.length⟩)).called world.recipients.length
                .standing (.snapshot snapshot)⟩ := .begin free (.listen there accepted direct)
        have registered := coherent.world.register name label direct reference
        have heard := course_hear through (began.coherent coherent)
          (reactionsOf_isDirect registered world.recipients.length)
        dsimp only
        generalize hear performer world.recipients.length .standing (.snapshot snapshot)
          ((world.addRecipient label reactions).2.updateStore name (Store.register
            ⟨reference, .recipient world.recipients.length⟩)) = result at heard
        obtain ⟨raised | returned, after⟩ := result
        · exact .head began (heard.tail .raised)
        · exact .head began ((heard.tail .returned).tail .installed)

theorem course_performWith (through : StepsThrough performer) {action : Action}
    (direct : action.IsDirect) (coherent : (Moment.mk frames world).Coherent)
    (free : DocQuery.IsFree frames) :
    Course ⟨frames, world⟩ ⟨frames, (world.performWith performer action).2⟩ := by
  cases action with
  | write name path data =>
    rw [performWith]
    unfold writeDocument World.store
    cases there : world.store? name with
    | none => exact .refl
    | some store =>
      cases Store.acceptWrite path data with
      | error failure => exact .refl
      | ok accepted =>
        have began : Step ⟨frames, world⟩ _ := .begin free (.write there accepted.1 accepted.2)
        exact .head began (course_writePass through (began.coherent coherent))
  | remove name path =>
    rw [performWith]
    unfold removeDocument World.store
    cases there : world.store? name with
    | none => exact .refl
    | some store =>
      cases Segments.ofDocumentPath path with
      | error failure => exact .refl
      | ok segments =>
        dsimp only
        split
        · have began : Step ⟨frames, world⟩ _ := .begin free (.remove there segments)
          exact .head began (course_writePass through (began.coherent coherent))
        · exact .refl
  | report name path failure =>
    rw [performWith]
    unfold reportFailure World.store
    cases there : world.store? name with
    | none => exact .refl
    | some store =>
      cases path.toName with
      | error refused => exact .refl
      | ok given =>
        have began : Step ⟨frames, world⟩ _ :=
          .begin free (.report there (Segments.ofPath given) failure)
        exact .head began (course_reportPass through (began.coherent coherent))
  | closeStore name => exact .single (.begin free (.close name))
  | describe name => exact .refl
  | listen label name calls reactions =>
    rw [Action.IsDirect] at direct
    exact course_listen through label name calls direct coherent free
  | unlisten label => exact .single (.begin free (.unlisten label))
  | _ => simp only [Action.IsDirect] at direct

/-- Carrying out a direct action, up to any depth, is a course. -/
theorem stepsThrough_performTo (depth : Nat) : StepsThrough (performTo depth) := by
  induction depth with
  | zero =>
    intro action _ moment coherent free
    exact .single (.begin free (.remark moment.world.notices true))
  | succ depth inductionHypothesis =>
    intro action direct moment coherent free
    exact course_performWith inductionHypothesis direct coherent free

end World

end DocQuery
