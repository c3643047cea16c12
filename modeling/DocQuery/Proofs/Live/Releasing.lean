/-
This file says what is kept by whatever takes listeners away and lets go of handles.

To cancel a live query, to attach its release, to close a stream and to remove a listener are put
together from few steps: a change of a store that adds no listener, a change of a handle that leaves
it on its path and no more active, a feed that is released, and the end of a queue. Terms that are
kept by these steps are kept by all of them.
-/

import DocQuery.Proofs.Live.Keeping
import DocQuery.Proofs.Live.Steps

namespace DocQuery

namespace World

/-- A change of a handle that leaves it on its path, of its type, and no more active. -/
structure Steers (change : Subscription Release → Subscription Release) : Prop where
  type : ∀ handle, (change handle).type = handle.type
  path : ∀ handle, (change handle).path = handle.path
  active : ∀ handle, (change handle).active = true → handle.active = true

theorem steers_count : Steers Subscription.count := ⟨fun _ => rfl, fun _ => rfl, fun _ => id⟩

theorem steers_release (release : Option Release) :
    Steers fun handle => { handle with release := release } :=
  ⟨fun _ => rfl, fun _ => rfl, fun _ => id⟩

theorem steers_cancelled : Steers fun handle => { handle with release := none, cancelled := true } :=
  ⟨fun _ => rfl, fun _ => rfl, fun _ active => nomatch active⟩

theorem Steers.continues {change : Subscription Release → Subscription Release}
    (steers : Steers change) {world : World} (query : Nat) {index : Nat} {found : LiveQuery}
    (present : world.queries[index]? = some found) :
    ∃ after, (world.updateHandle query change).queries[index]? = some after ∧
      after.Continues found := by
  rw [queries_updateHandle, present]
  refine ⟨_, rfl, ?_⟩
  dsimp only
  split
  · exact ⟨steers.type _, steers.path _, rfl, rfl, rfl, steers.active _⟩
  · exact .refl found

theorem streams_carryOutAny (release : Option Release) (world : World) :
    (world.carryOutAny release).streams = world.streams := by
  cases release with
  | none => rfl
  | some release =>
    cases release with
    | listener name id =>
      obtain ⟨stores, same⟩ := exists_updateStore name (Store.unregister id) world
      rw [carryOutAny, carryOut, same]
    | feed path => rfl
    | watch index => rfl

theorem streams_cancelQuery (query : Nat) (world : World) :
    (world.cancelQuery query).streams = world.streams := by
  obtain same | ⟨found, _, same⟩ := cancelQuery_cases query world <;> rw [same]
  exact streams_carryOutAny _ _

namespace Terms

/-- The steps by which listeners are taken away and handles are let go keep to the terms. -/
structure Releasing (terms : Terms) : Prop extends Telling terms where
  shrink {change : Store Callback → Store Callback} (shrinks : Shrinks change) (name : Text)
    {world : World} (good : terms.good world) :
    terms.relation world (world.updateStore name change)
  steer (query : Nat) {change : Subscription Release → Subscription Release}
    (steers : Steers change) {world : World} (good : terms.good world) :
    terms.relation world (world.updateHandle query change)
  release (path : Text) {world : World} (good : terms.good world) :
    terms.relation world { world with released := world.released ++ [path] }
  /-- A queue is ended when the live query that fills it has been cancelled. -/
  finish {stream : Nat} {found : LiveStream} {world : World}
    (there : world.streams[stream]? = some found) (ended : ¬ world.IsActive found.query)
    (good : terms.good world) : terms.relation world (world.updateQueue stream Stream.close)

variable {terms : Terms}

namespace Releasing

variable (releasing : terms.Releasing) {world : World}

include releasing

theorem carryOutAny (release : Option Release) (good : terms.good world) :
    terms.relation world (world.carryOutAny release) := by
  cases release with
  | none => exact releasing.refl good
  | some release =>
    cases release with
    | listener name id => exact releasing.shrink (shrinks_unregister id) name good
    | feed path => exact releasing.release path good
    | watch index => exact releasing.refl good

theorem cancelQuery (query : Nat) (good : terms.good world) :
    terms.relation world (world.cancelQuery query) := by
  obtain same | ⟨found, _, same⟩ := cancelQuery_cases query world <;> rw [same]
  · exact releasing.refl good
  · have handled := releasing.steer query steers_cancelled good
    exact releasing.trans handled (releasing.carryOutAny _ (releasing.good handled))

theorem attach (query : Nat) (release : Release) (good : terms.good world) :
    terms.relation world (world.attach query release) := by
  obtain same | same | ⟨_, same⟩ := attach_cases query release world <;> rw [same]
  · exact releasing.refl good
  · exact releasing.steer query (steers_release (some release)) good
  · have handled := releasing.steer query (steers_release none) good
    exact releasing.trans handled (releasing.carryOutAny _ (releasing.good handled))

theorem closeStream (stream : Nat) (good : terms.good world) :
    terms.relation world (world.closeStream stream) := by
  rw [World.closeStream]
  split
  · exact releasing.refl good
  · split
    · exact releasing.refl good
    · next found present _ =>
      have cancelled := releasing.cancelQuery found.query good
      have there : (world.cancelQuery found.query).streams[stream]? = some found := by
        rw [streams_cancelQuery, present]
      exact releasing.trans cancelled (releasing.finish there (not_isActive_cancelQuery _ _)
        (releasing.good cancelled))

theorem unlisten (label : Text) (good : terms.good world) :
    terms.relation world (world.unlisten label).2 := by
  rw [World.unlisten]
  split
  · exact releasing.refl good
  · exact releasing.shrink (shrinks_unregister _) _ good

end Releasing

end Terms

end World

end DocQuery
