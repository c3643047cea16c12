/-
This file proves when a listener that was removed is called no more.

A pass that follows a write looks, before each call, whether the listener is still registered. A
pass that reports a failure does not look: it goes on with the listeners that it took when it began.
So a listener that is removed while such a pass has it in line can still be called, and this is the
only way. Ids and recipients are not used twice, so nothing that begins later comes back to it.
-/

import DocQuery.Proofs.Live.Running
import DocQuery.Proofs.Live.Stepping

namespace DocQuery

namespace World

variable {world : World}

/-! ### Deliveries -/

/-- A recipient that is called has one more delivery, and nobody else has. -/
theorem deliveriesOf_called (recipient : Nat) (occasion : Occasion) (update : Update)
    (world : World) (other : Nat) :
    (world.called recipient occasion update).deliveriesOf other =
      world.deliveriesOf other +
        if recipient = other ∧ other < world.recipients.length then 1 else 0 := by
  have counted := deliveriesOf_countDelivery recipient world other
  unfold called
  cases update.examine with
  | error failure => exact counted
  | ok _ =>
    dsimp only
    rw [tell]
    split
    · next absent =>
      have outside := List.getElem?_eq_none_iff.mp absent
      rw [if_neg fun both => absurd both.2 (both.1 ▸ Nat.not_lt.mpr outside), Nat.add_zero]
    · exact counted

theorem deliveriesOf_addRecipient (label : Text) (reactions : List Reaction) {recipient : Nat}
    (there : recipient < world.recipients.length) :
    (world.addRecipient label reactions).2.deliveriesOf recipient =
      world.deliveriesOf recipient := by
  rw [deliveriesOf, deliveriesOf, addRecipient, List.getElem?_append_left there]

theorem deliveriesOf_updateStore (name : Text) (change : Store Callback → Store Callback)
    (world : World) (recipient : Nat) :
    (world.updateStore name change).deliveriesOf recipient = world.deliveriesOf recipient := by
  obtain ⟨stores, same⟩ := exists_updateStore name change world
  rw [same]
  rfl

end World

/-- Whose turn it is to be called at a moment. -/
def Moment.Calls (recipient : Nat) : Moment → Prop
  | ⟨.write name ((id, listener) :: _) :: _, world⟩ =>
    world.isRegistered name id = true ∧ listener.callback = .recipient recipient
  | ⟨.report _ ((_, listener) :: _) :: _, _⟩ => listener.callback = .recipient recipient
  | _ => False

/-- An operation that begins calls none of the recipients that are there. -/
theorem Begins.deliveriesOf {world after : World} {opened : List Frame}
    (begins : Begins world opened after) {recipient : Nat}
    (there : recipient < world.recipients.length) :
    after.deliveriesOf recipient = world.deliveriesOf recipient := by
  cases begins with
  | write _ segments entries => exact World.deliveriesOf_updateStore _ _ world recipient
  | remove _ segments => exact World.deliveriesOf_updateStore _ _ world recipient
  | report _ segments failure => rfl
  | close name => exact World.deliveriesOf_updateStore _ _ world recipient
  | listen _ accepted direct =>
    rw [World.deliveriesOf_called, World.deliveriesOf_updateStore,
      World.deliveriesOf_addRecipient _ _ there,
      if_neg fun both => Nat.ne_of_lt there both.1.symm, Nat.add_zero]
  | refuse label direct => exact World.deliveriesOf_addRecipient _ _ there
  | unlisten label =>
    rw [World.unlisten]
    split
    · rfl
    · exact World.deliveriesOf_updateStore _ _ world recipient
  | remark notices cutShort => rfl

/-- From one moment to the next, a recipient is called only if it is its turn. -/
theorem Step.deliveriesOf {moment later : Moment} (step : Step moment later) {recipient : Nat}
    (there : recipient < moment.world.recipients.length) :
    later.world.deliveriesOf recipient = moment.world.deliveriesOf recipient ∨
      moment.Calls recipient ∧
        later.world.deliveriesOf recipient = moment.world.deliveriesOf recipient + 1 := by
  have call (other : Nat) (occasion : Occasion) (update : Update)
      (turn : other = recipient → moment.Calls recipient) :
      (moment.world.called other occasion update).deliveriesOf recipient =
          moment.world.deliveriesOf recipient ∨
        moment.Calls recipient ∧
          (moment.world.called other occasion update).deliveriesOf recipient =
            moment.world.deliveriesOf recipient + 1 := by
    rw [World.deliveriesOf_called]
    by_cases same : other = recipient
    · rw [if_pos ⟨same, there⟩]
      exact .inr ⟨turn same, rfl⟩
    · rw [if_neg fun both => same both.1]
      exact .inl rfl
  cases step with
  | begin free begins => exact .inl (begins.deliveriesOf there)
  | told known registered news =>
    refine call _ _ _ fun same => ⟨?_, congrArg Callback.recipient same⟩
    rw [World.isRegistered, known]
    exact registered
  | reported => exact call _ .report (.failure _) fun same => congrArg Callback.recipient same
  | _ => exact .inl rfl

/-! ### Listeners that are gone -/

/-- A recipient that is no listener's callback any more, and cannot become one again. -/
structure World.Gone (recipient : Nat) (world : World) : Prop where
  there : recipient < world.recipients.length
  nowhere : ∀ {name store}, world.store? name = some store → ∀ entry ∈ store.listeners,
    entry.2.callback ≠ .recipient recipient

/-- A report of a failure is under way that still has a recipient in line. -/
def IsReported (recipient : Nat) (frames : List Frame) : Prop :=
  ∃ failure line, .report failure line ∈ frames ∧
    ∃ entry ∈ line, entry.2.callback = .recipient recipient

namespace World

/-- A listener that is removed from its store is gone. -/
theorem Orderly.gone {world : World} (orderly : world.Orderly) {name : Text}
    {store : Store Callback} (there : world.store? name = some store) {id recipient : Nat}
    {reference : Reference} (registered : (id, ⟨reference, .recipient recipient⟩) ∈ store.listeners)
    {change : Store Callback → Store Callback}
    (removes : ∀ entry ∈ (change store).listeners, entry ∈ store.listeners ∧ entry.1 ≠ id) :
    (world.updateStore name change).Gone recipient := by
  obtain ⟨stores, same⟩ := exists_updateStore name change world
  refine ⟨?_, fun known entry member callback => ?_⟩
  · obtain ⟨other, equal, inside⟩ := orderly.line there _ registered
    rw [same, Callback.recipient.inj equal]
    exact inside
  · obtain ⟨before, found, ⟨rfl, rfl⟩ | ⟨apart, rfl⟩⟩ := store?_updateStore_cases known
    · obtain rfl := Option.some.inj (there.symm.trans found)
      obtain ⟨old, different⟩ := removes entry member
      exact different (orderly.apart there there entry old _ registered callback).2
    · exact apart (orderly.apart found there entry member _ registered callback).1

theorem Orderly.gone_unregister {world : World} (orderly : world.Orderly) {name : Text}
    {store : Store Callback} (there : world.store? name = some store) {id recipient : Nat}
    {reference : Reference}
    (registered : (id, ⟨reference, .recipient recipient⟩) ∈ store.listeners) :
    (world.updateStore name (Store.unregister id)).Gone recipient := by
  refine orderly.gone there registered fun entry member => ?_
  obtain ⟨old, different⟩ := List.mem_filter.mp member
  exact ⟨old, by simpa using different⟩

theorem Orderly.gone_close {world : World} (orderly : world.Orderly) {name : Text}
    {store : Store Callback} (there : world.store? name = some store) {id recipient : Nat}
    {reference : Reference}
    (registered : (id, ⟨reference, .recipient recipient⟩) ∈ store.listeners) :
    (world.updateStore name Store.close).Gone recipient :=
  orderly.gone there registered fun _ member => absurd member List.not_mem_nil

/-- New listeners have new recipients. -/
theorem Grows.gone {world later : World} (grows : world.Grows later) {recipient : Nat}
    (gone : world.Gone recipient) : later.Gone recipient := by
  refine ⟨Nat.lt_of_lt_of_le gone.there grows.recipients, fun there entry member callback => ?_⟩
  obtain ⟨store, found, _, listeners⟩ := grows.stores there
  rcases listeners entry member with old | ⟨_, new⟩
  · exact gone.nowhere found entry old callback
  · exact absurd gone.there (Nat.not_lt.mpr (new recipient callback))

end World

/-! ### Silence -/

/-- It is the turn of a listener that is gone only in a report that is under way. -/
theorem Moment.Coherent.isReported {moment : Moment} (coherent : moment.Coherent)
    {recipient : Nat} (gone : moment.world.Gone recipient) (calls : moment.Calls recipient) :
    IsReported recipient moment.frames := by
  obtain ⟨frames, world⟩ := moment
  match frames, calls with
  | .write name ((id, listener) :: line) :: frames, ⟨registered, callback⟩ =>
    rw [World.isRegistered] at registered
    split at registered
    · next store there =>
      obtain ⟨other, member⟩ := World.mem_of_isRegistered registered
      obtain ⟨_, knows⟩ := coherent.writing List.mem_cons_self
      -- Ids stand for one listener, so the listener that is registered is the one in line.
      have same := (knows there _ List.mem_cons_self).2 other member
      exact absurd (same ▸ callback) (gone.nowhere there _ member)
    · cases registered
  | .report failure ((id, listener) :: line) :: frames, callback =>
    exact ⟨failure, _, List.mem_cons_self, _, List.mem_cons_self, callback⟩

/-- No report that begins after a listener is gone has it in line. -/
theorem Step.not_isReported {moment later : Moment} (step : Step moment later) {recipient : Nat}
    (gone : moment.world.Gone recipient) (unreported : ¬ IsReported recipient moment.frames) :
    ¬ IsReported recipient later.frames := by
  rintro ⟨failure, line, member, entry, among, callback⟩
  have before (longer : List (Nat × Listener Callback))
      (known : .report failure longer ∈ moment.frames) (subset : line ⊆ longer) : False :=
    unreported ⟨failure, longer, known, entry, subset among, callback⟩
  cases step with
  | begin free begins =>
    rcases List.mem_append.mp member with opened | deeper
    · cases begins with
      | report there segments _ =>
        cases List.mem_singleton.mp opened
        exact gone.nowhere there entry (listenersAt_subset segments _ among) callback
      | _ => simp at opened
    · exact before line deeper (List.Subset.refl _)
  | told there registered news =>
    have inner := (List.mem_cons.mp member).resolve_left nofun
    have deeper := (List.mem_cons.mp inner).resolve_left nofun
    exact before line (List.mem_cons_of_mem _ deeper) (List.Subset.refl _)
  | skip removed =>
    have deeper := (List.mem_cons.mp member).resolve_left nofun
    exact before line (List.mem_cons_of_mem _ deeper) (List.Subset.refl _)
  | reported =>
    rcases List.mem_cons.mp ((List.mem_cons.mp member).resolve_left nofun) with same | deeper
    · cases same
      exact before _ List.mem_cons_self (List.subset_cons_self _ _)
    · exact before line (List.mem_cons_of_mem _ deeper) (List.Subset.refl _)
  | raised =>
    exact before line (List.mem_cons_of_mem _ (List.mem_cons_of_mem _ member)) (List.Subset.refl _)
  | _ => exact before line (List.mem_cons_of_mem _ member) (List.Subset.refl _)

/-- A listener that is gone, and that no report has in line, is not called any more. -/
theorem deliveriesOf_of_course {moment later : Moment} (course : Course moment later)
    (coherent : moment.Coherent) {recipient : Nat} (gone : moment.world.Gone recipient)
    (unreported : ¬ IsReported recipient moment.frames) :
    later.world.deliveriesOf recipient = moment.world.deliveriesOf recipient := by
  -- What holds of the listener at the first moment holds at every later one.
  have silent : later.world.deliveriesOf recipient = moment.world.deliveriesOf recipient ∧
      later.Coherent ∧ later.world.Gone recipient ∧ ¬ IsReported recipient later.frames := by
    induction course with
    | refl => exact ⟨rfl, coherent, gone, unreported⟩
    | tail _ step inductionHypothesis =>
      obtain ⟨same, calm, still, unlined⟩ := inductionHypothesis
      refine ⟨?_, step.coherent calm, step.grows.gone still, step.not_isReported still unlined⟩
      rcases step.deliveriesOf still.there with unchanged | ⟨calls, _⟩
      · exact unchanged.trans same
      · exact absurd (calm.isReported still calls) unlined
  exact silent.1

/-! ### Reports that go on -/

/-- From a moment to a later one, a recipient loses no deliveries. -/
theorem deliveriesOf_le_of_course {moment later : Moment} (course : Course moment later)
    {recipient : Nat} (there : recipient < moment.world.recipients.length) :
    moment.world.deliveriesOf recipient ≤ later.world.deliveriesOf recipient ∧
      recipient < later.world.recipients.length := by
  induction course with
  | refl => exact ⟨Nat.le_refl _, there⟩
  | tail _ step inductionHypothesis =>
    obtain ⟨more, still⟩ := inductionHypothesis
    refine ⟨Nat.le_trans more ?_, Nat.lt_of_lt_of_le still step.grows.recipients⟩
    rcases step.deliveriesOf still with same | ⟨_, next⟩
    · exact Nat.le_of_eq same.symm
    · exact next ▸ Nat.le_succ _

/-- A report of a failure can go on to its end, and has then called whoever was in line. -/
theorem exists_course_report {failure : Failure} {line : List (Nat × Listener Callback)}
    {frames : List Frame} {world : World}
    (coherent : (Moment.mk (.report failure line :: frames) world).Coherent) :
    ∃ after, Course ⟨.report failure line :: frames, world⟩ ⟨frames, after⟩ ∧
      ∀ entry ∈ line, ∀ recipient, entry.2.callback = .recipient recipient →
        world.deliveriesOf recipient < after.deliveriesOf recipient := by
  induction line generalizing world with
  | nil => exact ⟨world, .single .ended, fun _ member => absurd member List.not_mem_nil⟩
  | cons entry rest inductionHypothesis =>
    have has := coherent.reporting List.mem_cons_self
    obtain ⟨called, callback, there⟩ := has entry List.mem_cons_self
    obtain ⟨id, reference, _⟩ := entry
    obtain rfl : _ = Callback.recipient called := callback
    have told : Step ⟨.report failure ((id, ⟨reference, .recipient called⟩) :: rest) :: frames,
        world⟩ ⟨.delivery :: .report failure rest :: frames,
          world.called called .report (.failure failure)⟩ := .reported
    obtain ⟨after, others, more⟩ := inductionHypothesis (told.coherent coherent).pop
    refine ⟨after, .head told (.head .returned others), fun other member recipient same => ?_⟩
    rcases List.mem_cons.mp member with rfl | later
    · obtain rfl := Callback.recipient.inj same
      have counted := World.deliveriesOf_called called .report (.failure failure) world called
      rw [if_pos ⟨rfl, there⟩] at counted
      have inside := Nat.lt_of_lt_of_le there told.grows.recipients
      have least := (deliveriesOf_le_of_course others inside).1
      exact Nat.lt_of_lt_of_le (counted ▸ Nat.lt_succ_self _) least
    · obtain ⟨_, own, inside⟩ := has other (List.mem_cons_of_mem _ later)
      obtain rfl := Callback.recipient.inj (own.symm.trans same)
      have kept := (deliveriesOf_le_of_course (.single told) inside).1
      exact Nat.lt_of_le_of_lt kept (more other later _ same)

/-- What is innermost can end. -/
theorem exists_course_end {frame : Frame} {frames : List Frame} {world : World}
    (coherent : (Moment.mk (frame :: frames) world).Coherent) :
    ∃ after, Course ⟨frame :: frames, world⟩ ⟨frames, after⟩ := by
  cases frame with
  | delivery => exact ⟨world, .single .returned⟩
  | write name line => exact ⟨_, World.course_writePass (World.stepsThrough_performTo 0) coherent⟩
  | report failure line =>
    obtain ⟨after, course, _⟩ := exists_course_report coherent
    exact ⟨after, course⟩
  | install label name id => exact ⟨_, .single .installed⟩

/-- Whoever a report has in line can be called once more. -/
theorem exists_course_of_isReported {frames : List Frame} {world : World}
    (coherent : (Moment.mk frames world).Coherent) {recipient : Nat}
    (reported : IsReported recipient frames) :
    ∃ later, Course ⟨frames, world⟩ later ∧
      world.deliveriesOf recipient < later.world.deliveriesOf recipient := by
  induction frames generalizing world with
  | nil =>
    obtain ⟨_, _, member, _⟩ := reported
    cases member
  | cons frame rest inductionHypothesis =>
    obtain ⟨failure, line, member, entry, among, callback⟩ := reported
    obtain ⟨known, own, there⟩ := coherent.reporting member entry among
    obtain rfl := Callback.recipient.inj (own.symm.trans callback)
    rcases List.mem_cons.mp member with rfl | deeper
    · obtain ⟨after, course, more⟩ := exists_course_report coherent
      exact ⟨⟨rest, after⟩, course, more entry among _ callback⟩
    · obtain ⟨after, ends⟩ := exists_course_end coherent
      have calm := coherent_of_course ends coherent
      obtain ⟨later, course, more⟩ :=
        inductionHypothesis calm ⟨failure, line, deeper, entry, among, callback⟩
      have kept := (deliveriesOf_le_of_course ends there).1
      exact ⟨later, ends.trans course, Nat.lt_of_le_of_lt kept more⟩

/-! ### Removal -/

namespace World

/-- Actions that remove a listener: its registration is taken back, or its store is closed. -/
inductive Removes (world : World) (name : Text) (id : Nat) : Action → Prop
  | unlisten {label : Text} (bound : world.listenerNames.lookup label = some (name, id)) :
      Removes world name id (.unlisten label)
  | close : Removes world name id (.closeStore name)

theorem Orderly.gone_performTo {world : World} (orderly : world.Orderly) {name : Text}
    {store : Store Callback} (there : world.store? name = some store) {id recipient : Nat}
    {reference : Reference} (registered : (id, ⟨reference, .recipient recipient⟩) ∈ store.listeners)
    {action : Action} (removes : world.Removes name id action) (depth : Nat) :
    (performTo (depth + 1) action world).2.Gone recipient := by
  cases removes with
  | unlisten bound =>
    rw [performTo, performWith, World.unlisten, bound]
    exact orderly.gone_unregister there registered
  | close => exact orderly.gone_close there registered

end World

/-- At every moment that actions lead to, a listener that is gone will never be called again exactly
if no report of a failure that is under way has it in line. Removing a listener leaves it gone, and
whatever is carried out, to any depth, is a course of moments. -/
theorem silent_iff_unreported {mode : BuildMode} {stores : List (Text × Store Callback)}
    (unheard : ∀ entry ∈ stores, entry.2.listeners = []) {moment : Moment}
    (course : Course ⟨[], .ofStores mode stores⟩ moment) :
    (∀ recipient, moment.world.Gone recipient →
      ((∀ later, Course moment later →
          later.world.deliveriesOf recipient = moment.world.deliveriesOf recipient) ↔
        ¬ IsReported recipient moment.frames)) ∧
    (∀ name store id reference recipient, moment.world.store? name = some store →
      (id, ⟨reference, .recipient recipient⟩) ∈ store.listeners →
        ∀ action, moment.world.Removes name id action → ∀ depth,
          (World.performTo (depth + 1) action moment.world).2.Gone recipient) ∧
    (IsFree moment.frames → ∀ depth action, action.IsDirect →
      Course moment ⟨moment.frames, (World.performTo depth action moment.world).2⟩) := by
  have coherent := coherent_of_course course (coherent_ofStores unheard)
  refine ⟨fun recipient gone => ⟨fun silent reported => ?_, fun unreported later further => ?_⟩,
    fun name store id reference recipient there registered action removes depth => ?_,
    fun free depth action direct => ?_⟩
  · obtain ⟨later, further, more⟩ := exists_course_of_isReported coherent reported
    exact Nat.ne_of_gt more (silent later further)
  · exact deliveriesOf_of_course further coherent gone unreported
  · exact coherent.world.gone_performTo there registered removes depth
  · exact World.stepsThrough_performTo depth action direct coherent free

namespace World

/-- Two listeners on all people, of which the first removes the second when it is called again. -/
def twoListening : World :=
  let people : List NavigationCall := [.collection (.text "people")]
  let first := performTo 2 (.listen "first" "store" people [.act 2 (.unlisten "second")])
    (ofStores .permissive [("store", .empty)])
  (performTo 2 (.listen "second" "store" people []) first.2).2

end World

theorem course_twoListening : Course ⟨[], .ofStores .permissive [("store", .empty)]⟩
    ⟨[], World.twoListening⟩ := by
  have start : (Moment.mk [] (.ofStores .permissive [("store", .empty)])).Coherent :=
    coherent_ofStores fun entry member => by rw [List.mem_singleton.mp member]; rfl
  have first := World.stepsThrough_performTo 2 (.listen "first" "store"
    [.collection (.text "people")] [.act 2 (.unlisten "second")])
    ⟨trivial, trivial⟩ start trivial
  exact first.trans (World.stepsThrough_performTo 2 (.listen "second" "store"
    [.collection (.text "people")] []) trivial (coherent_of_course first start) trivial)

/-- Once the second listener is removed where nothing is under way, nobody calls it again. -/
theorem silent_iff_unreported_twoListening :
    let removed := (World.performTo 1 (.unlisten "second") World.twoListening).2
    removed.Gone 1 ∧ ∀ later, Course ⟨[], removed⟩ later → later.world.deliveriesOf 1 = 1 := by
  intro removed
  have unheard : ∀ entry ∈ [(("store" : Text), (Store.empty : Store Callback))],
      entry.2.listeners = [] := fun entry member => by rw [List.mem_singleton.mp member]; rfl
  obtain ⟨_, remove, carry⟩ := silent_iff_unreported unheard course_twoListening
  have gone : removed.Gone 1 := remove "store" _ 1 (Reference.plain ["people"]) 1 rfl
    (List.mem_cons_of_mem _ List.mem_cons_self) _ (.unlisten rfl) 0
  have further := course_twoListening.trans (carry trivial 1 (.unlisten "second") trivial)
  obtain ⟨silent, _, _⟩ := silent_iff_unreported unheard further
  exact ⟨gone, (silent 1 gone).mpr fun ⟨_, _, member, _⟩ => absurd member List.not_mem_nil⟩

/-- A listener can be called after it was removed: a report that is under way has it in line. This
is what becomes of the two listeners when a failure is reported to them. -/
theorem exists_called_after_removal : ∃ before after : Moment,
    Course ⟨[], World.twoListening⟩ before ∧
    before.world.Removes "store" 1 (.unlisten "second") ∧
    let removed : Moment :=
      ⟨before.frames, (World.performTo 1 (.unlisten "second") before.world).2⟩
    Course before removed ∧ removed.world.Gone 1 ∧ Course removed after ∧
    after.world.deliveriesOf 1 = removed.world.deliveriesOf 1 + 1 ∧
    after.world = (World.performTo 2 (.report "store" (.text "people")
      (.store (.reported "offline") none)) World.twoListening).2 := by
  have calm := coherent_of_course course_twoListening
    (coherent_ofStores fun entry member => by rw [List.mem_singleton.mp member]; rfl)
  let people := Reference.plain ["people"]
  let line : List (Nat × Listener Callback) :=
    [(0, ⟨people, .recipient 0⟩), (1, ⟨people, .recipient 1⟩)]
  let offline : Failure := .store (.reported "offline") none
  have there : World.twoListening.store? "store" = some ⟨[], line, 2, false⟩ := rfl
  have opens : Begins World.twoListening [.report offline line] World.twoListening :=
    .report there ["people"] offline
  have free : IsFree [] := trivial
  have began : Step ⟨[], World.twoListening⟩ ⟨[.report offline line], World.twoListening⟩ :=
    .begin free opens
  have inside := (Relation.ReflTransGen.single began).tail .reported
  have orderly := coherent_of_course inside calm
  have registered : (1, ⟨people, .recipient 1⟩) ∈ line :=
    List.mem_cons_of_mem _ List.mem_cons_self
  refine ⟨_, ⟨[], _⟩, inside, .unlisten rfl, ?_, ?_, ?_, ?_, rfl⟩
  · exact World.stepsThrough_performTo 1 (.unlisten "second") trivial orderly trivial
  · exact orderly.world.gone_performTo there registered (.unlisten rfl) 0
  · exact .head .returned (.head .reported (.head .returned (.single .ended)))
  · rfl

end DocQuery
