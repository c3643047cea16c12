/-
This file proves that deliveries carry freshness on, whatever listeners do meanwhile.

A performer is faithful if every live action it carries out carries freshness on. That is all that
is assumed of what happens inside a delivery: the listener may have written, subscribed and
cancelled in any order and to any depth before the delivery returns.
-/

import DocQuery.Proofs.Live.Steps

namespace DocQuery

/-- A performer that carries freshness on whenever it carries out a live action. -/
def Faithful (performer : Performer) : Prop :=
  ∀ action, action.IsLive → ∀ world : World, world.Sound → world.Carries (performer action world).2

namespace World

variable {performer : Performer} {world : World}

/-! ### Reactions -/

theorem carries_react (faithful : Faithful performer) (recipient : Nat)
    {reactions : List Reaction} (live : ∀ reaction ∈ reactions, reaction.IsLive)
    (sound : world.Sound) : world.Carries (react performer recipient reactions world).2 := by
  induction reactions generalizing world with
  | nil => exact .refl sound
  | cons reaction rest inductionHypothesis =>
    have restLive : ∀ other ∈ rest, other.IsLive :=
      fun other member => live other (List.mem_cons_of_mem reaction member)
    have shown : world.Carries (world.showReaction performer reaction).2 := by
      cases reaction with
      | raise position failure => exact .refl sound
      | act position action =>
        have actionLive := live _ List.mem_cons_self
        rw [Reaction.IsLive] at actionLive
        exact faithful action actionLive world sound
    rw [react]
    split
    · split
      · next raised =>
        rwa [raised] at shown
      · next performed =>
        rw [performed] at shown
        exact shown.trans sound (inductionHypothesis restLive shown.sound)
    · exact inductionHypothesis restLive sound

theorem reactionsOf_isLive (sound : world.Sound) (recipient : Nat) :
    ∀ reaction ∈ world.reactionsOf recipient, reaction.IsLive := by
  intro reaction member
  rw [reactionsOf] at member
  split at member
  · cases member
  · next known there =>
    exact areLive_of_mem (sound.scripts known (List.mem_of_getElem? there)) member

/-- A recipient that is told a result hears it, and what it does is carried on. -/
theorem exists_hear (faithful : Faithful performer) (sound : world.Sound) {recipient : Nat}
    {occasion : Occasion} {delivery : Except Failure QueryResult}
    (right : occasion = .standing → world.Tells recipient (.ofResult delivery)) :
    world.Carries (world.tell recipient occasion (.ofResult delivery)) ∧
      (world.tell recipient occasion (.ofResult delivery)).Carries
        (world.hear performer recipient occasion (.ofResult delivery)).2 := by
  have told := sound.carries_tell right
  refine ⟨told, ?_⟩
  have examined : (Update.ofResult delivery).examine = .ok () := by
    cases delivery <;> rfl
  rw [hear, examined]
  exact carries_react faithful recipient (reactionsOf_isLive sound recipient) told.sound

/-! ### Deliveries -/

/-- What a live query is told about how things stand has to be what asking it once gives. -/
def Answers (query : Nat) (delivery : Except Failure QueryResult) (world : World) : Prop :=
  ∀ {name id reference} {found : LiveQuery}, world.Attends name id reference query →
    world.queries[query]? = some found → delivery = world.askOnce (found.aim name reference)

/-- A delivery of an active live query counts, is told, and goes on as its listener wants. -/
theorem exists_deliver (faithful : Faithful performer) (sound : world.Sound) {query : Nat}
    {found : LiveQuery} (present : world.queries[query]? = some found)
    (active : found.handle.active = true) {recipient : Nat}
    (sink : found.sink = .recipient recipient) {occasion : Occasion}
    {delivery : Except Failure QueryResult}
    (right : occasion = .standing → world.Answers query delivery) :
    let told := (world.updateHandle query Subscription.count).tell recipient occasion
      (.ofResult delivery)
    world.Carries told ∧ told.Carries (world.deliver performer query occasion delivery) := by
  -- No other live query delivers to this recipient, so only this one is told.
  have counted := sound.carries_count query
  have tells : occasion = .standing →
      (world.updateHandle query Subscription.count).Tells recipient (.ofResult delivery) := by
    intro standing name id reference other asked attends there same
    rw [queries_updateHandle] at there
    obtain ⟨before, known, rfl⟩ := Option.map_eq_some_iff.mp there
    have sameSink : before.sink = found.sink := by
      rw [sink, ← same]
      split <;> rfl
    obtain rfl := sound.apart known present sameSink
    obtain rfl := Option.some.inj (known.symm.trans present)
    rw [if_pos rfl, right standing attends present]
    rfl
  obtain ⟨told, heard⟩ := exists_hear faithful counted.sound tells
  refine ⟨counted.trans sound told, ?_⟩
  rw [deliver, present]
  dsimp only
  rw [if_pos active, handOver, sink]
  dsimp only
  split
  · next calm =>
    rwa [calm] at heard
  · next raised =>
    rw [raised] at heard
    exact heard.trans told.sound (heard.sound.carries_remark _ _)

/-- A delivery carries freshness on, if what it tells about how things stand is right. -/
theorem Sound.carries_deliver (sound : world.Sound) (faithful : Faithful performer) {query : Nat}
    {occasion : Occasion} {delivery : Except Failure QueryResult}
    (right : occasion = .standing → world.Answers query delivery) :
    world.Carries (world.deliver performer query occasion delivery) := by
  cases present : world.queries[query]? with
  | none =>
    rw [deliver, present]
    exact .refl sound
  | some found =>
    by_cases active : found.handle.active = true
    · obtain ⟨recipient, sink, _⟩ := sound.sinks present
      obtain ⟨told, went⟩ := exists_deliver faithful sound present active sink right
      exact told.trans sound went
    · rw [deliver, present]
      dsimp only
      rw [if_neg active]
      exact .refl sound

/-- A live query that is told how things stand is fresh afterwards, if it is still active. -/
theorem Sound.fresh_deliver (sound : world.Sound) (faithful : Faithful performer) {query : Nat}
    {delivery : Except Failure QueryResult} (right : world.Answers query delivery)
    {name : Text} {id : Nat} {reference : Reference}
    (attends : world.Attends name id reference query)
    (active : (world.deliver performer query .standing delivery).IsActive query) :
    (world.deliver performer query .standing delivery).Fresh name reference query := by
  have rightly : Occasion.standing = .standing → world.Answers query delivery := fun _ => right
  have carries := sound.carries_deliver faithful rightly
  obtain ⟨found, present, _⟩ := sound.exists_query attends
  obtain ⟨_, there, activeFound⟩ := carries.evolves.isActive present active
  obtain rfl := Option.some.inj (present.symm.trans there)
  obtain ⟨recipient, sink, inside⟩ := sound.sinks present
  obtain ⟨told, went⟩ := exists_deliver faithful sound present activeFound sink rightly
  obtain ⟨_, attendsTold⟩ := told.evolves.between sound went.evolves attends active
  -- It is fresh when it has just been told, and its listener's reactions carry that on.
  refine went.fresh attendsTold active ?_
  obtain ⟨after, later, continues⟩ := told.evolves.queries present
  refine ⟨after, recipient, later, continues.sink.trans sink, ?_⟩
  have there : recipient <
      (world.updateHandle query Subscription.count).recipients.length := inside
  rw [lastStanding_tell there, if_pos ⟨rfl, rfl⟩, continues.aim,
    right attends present, tell_eq (List.getElem?_eq_getElem there)]
  rfl

end World

end DocQuery
