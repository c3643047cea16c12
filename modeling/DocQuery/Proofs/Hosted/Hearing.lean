/-
This file proves that a listener on a hosted reference hears what its watch is told, in order.

The listener is set apart: whatever else goes on, only the calls of its own watch tell it something.
Nobody cancels it, so what it was told, followed by what the waiting calls will tell it, is always
what its watch was told. Only a snapshot whose documents cannot be looked at is not heard.
-/

import DocQuery.Proofs.Hosted.Relaying

namespace DocQuery

namespace Update

/-- What a listener on a reference hears of what was read, if it can be looked at. -/
def heard? (read : Except Failure Snapshot) : Option Update :=
  match (ofRead read).examine with
  | .ok _ => some (ofRead read)
  | .error _ => none

@[simp] theorem heard?_error (cause : Failure) : heard? (.error cause) = some (.failure cause) := rfl

/-- Nothing but a failure is heard as one. -/
theorem heard?_eq_some_failure_iff {read : Except Failure Snapshot} {failure : Failure} :
    heard? read = some (.failure failure) ↔ read = .error failure := by
  cases read with
  | error cause => rw [heard?_error, Option.some.injEq, Update.failure.injEq, Except.error.injEq]
  | ok content =>
    rw [heard?]
    split
    · exact ⟨nofun, nofun⟩
    · exact ⟨nofun, nofun⟩

end Update

namespace World

variable {recipient : Nat} {world : World} {performer : Performer}

/-- To count a delivery brings nobody who tells those that are set apart. -/
theorem Secludes.secludes_countDelivery {apart : Nat → Prop} (secludes : world.Secludes apart)
    (recipient : Nat) : (world.countDelivery recipient).Secludes apart := by
  have length : (world.countDelivery recipient).recipients.length = world.recipients.length :=
    List.length_modify ..
  have kept {callback : Callback} (bypasses : world.Bypasses apart callback) :
      (world.countDelivery recipient).Bypasses apart callback :=
    bypasses.mono (Nat.le_of_eq length.symm) fun present => ⟨_, present, rfl⟩
  exact ⟨fun index set => length ▸ secludes.there index set,
    fun present sink => length ▸ secludes.sinks present sink,
    fun there member => kept (secludes.listeners there member),
    fun watches => kept (secludes.watchers watches), fun member => length ▸ secludes.told member⟩

/-- What is read for a recipient that is set apart is told to it once, whatever it does then, or it
is not heard at all. -/
theorem Secludes.relays_hear (secludes : world.Secludes (· = recipient))
    (kept : (sparing (· = recipient)).KeptBy performer) (occasion : Occasion)
    (read : Except Failure Snapshot) :
    world.Relays recipient (Update.heard? read).toList
      (world.hear performer recipient occasion (.ofRead read)).2 := by
  rw [hear, Update.heard?]
  cases (Update.ofRead read).examine with
  | error failure =>
    exact ⟨secludes.secludes_countDelivery recipient, Nat.le_of_eq (List.length_modify ..).symm,
      fun present => ⟨_, present, .refl _⟩, (List.append_nil _).symm⟩
  | ok _ =>
    have told := secludes.relays_tell occasion (.ofRead read)
    have reacted : SparesApart _ _ _ := (telling_sparing (· = recipient)).react kept recipient
      ((telling_sparing _).allows_reactionsOf recipient secludes) told.secludes
    exact told.trans reacted.relays

end World

namespace HostedWorld

/-! ### Calls that wait -/

/-- What a recipient hears by a call of a callback, if anything. -/
def heardBy (recipient : Nat) (dispatch : Dispatch) : Option Update :=
  if dispatch.callback = .recipient recipient then Update.heard? dispatch.told else none

variable {recipient : Nat} {world : World}

/-- A call of the recipient's own watch is heard, and a call that tells others is not. -/
theorem relays_call (secludes : world.Secludes (· = recipient)) {dispatch : Dispatch}
    (known : dispatch.callback = .recipient recipient ∨
      world.Bypasses (· = recipient) dispatch.callback) :
    world.Relays recipient (heardBy recipient dispatch).toList (call dispatch world).2 := by
  rw [heardBy]
  rcases known with mine | bypasses
  · obtain ⟨callback, told⟩ := dispatch
    cases mine
    rw [if_pos rfl]
    have heard := secludes.relays_hear (keptBy_perform _) .report told
    cases told <;> exact heard
  · have other : dispatch.callback ≠ .recipient recipient := fun same => by
      rw [same] at bypasses
      exact bypasses.2 rfl
    rw [if_neg other]
    exact (spares_call secludes bypasses).relays

/-- Calls that are made one after the other are heard in order. -/
theorem relays_callAll (secludes : world.Secludes (· = recipient)) {dispatches : List Dispatch}
    (known : ∀ dispatch ∈ dispatches, dispatch.callback = .recipient recipient ∨
      world.Bypasses (· = recipient) dispatch.callback) :
    world.Relays recipient (dispatches.filterMap (heardBy recipient))
      (callAll dispatches world) := by
  induction dispatches generalizing world with
  | nil => exact secludes.refl.relays
  | cons next rest inductionHypothesis =>
    have called := relays_call secludes (known next List.mem_cons_self)
    have others := inductionHypothesis called.secludes fun dispatch member =>
      (known dispatch (List.mem_cons_of_mem _ member)).imp_right called.bypasses
    have heard := called.trans others
    rw [List.filterMap_cons]
    cases first : heardBy recipient next with
    | none => rwa [first] at heard
    | some update => rwa [first] at heard

/-! ### Listeners and their watches -/

/-- What a listener on a reference hears of the lists that its watch is told. -/
def heardOf (reference : HostedReference) (lists : List (List NativeDocument)) : List Update :=
  lists.filterMap fun documents => Update.heard? (reference.told documents)

/-- A listener with its watch, the only one that tells it something. -/
structure Hearing (reference : HostedReference) (recipient watch : Nat)
    (lists : List (List NativeDocument)) (hosted : HostedWorld) : Prop where
  secludes : hosted.world.Secludes (· = recipient)
  known : hosted.watches[watch]? = some ⟨reference, .recipient recipient⟩
  others : ∀ {index : Nat} {found : Watch}, hosted.watches[index]? = some found →
    index = watch ∨ hosted.world.Bypasses (· = recipient) found.callback
  waiting : ∀ dispatch ∈ hosted.waiting, dispatch.callback = .recipient recipient ∨
    hosted.world.Bypasses (· = recipient) dispatch.callback
  heard : hosted.world.toldTo recipient ++ hosted.waiting.filterMap (heardBy recipient) =
    heardOf reference lists

namespace Hearing

variable {reference : HostedReference} {watch : Nat} {lists : List (List NativeDocument)}
  {hosted : HostedWorld}

theorem of_spares (hearing : Hearing reference recipient watch lists hosted) {later : HostedWorld}
    (spares : hosted.SparesApart (· = recipient) later) :
    Hearing reference recipient watch lists later := by
  refine ⟨spares.world.secludes, spares.kept hearing.known, fun present => ?_, ?_, ?_⟩
  · rcases spares.watches present with old | bypasses
    · exact (hearing.others old).imp_right spares.world.bypasses
    · exact .inr bypasses
  · rw [spares.waiting]
    exact fun dispatch member => (hearing.waiting dispatch member).imp_right spares.world.bypasses
  · rw [spares.waiting, spares.world.relays.told, List.append_nil]
    exact hearing.heard

/-- What the client tells a watch is heard later if the watch is that of the listener. -/
theorem enqueue (hearing : Hearing reference recipient watch lists hosted) {index : Nat}
    {found : Watch} (present : hosted.watches[index]? = some found)
    (documents : List NativeDocument) :
    Hearing reference recipient watch (lists ++ firedAt watch [.fire index documents])
      (hosted.enqueue found documents) := by
  have known : found.callback = .recipient recipient ∨
      hosted.world.Bypasses (· = recipient) found.callback := by
    rcases hearing.others present with rfl | bypasses
    · obtain rfl := Option.some.inj (present.symm.trans hearing.known)
      exact .inl rfl
    · exact .inr bypasses
  refine ⟨hearing.secludes, hearing.known, hearing.others, fun dispatch member => ?_, ?_⟩
  · rcases List.mem_append.mp member with old | new
    · exact hearing.waiting dispatch old
    · rw [List.mem_singleton.mp new]
      exact known
  · have due : heardBy recipient ⟨found.callback, found.reference.told documents⟩ =
        if index = watch then Update.heard? (reference.told documents) else none := by
      by_cases same : index = watch
      · rw [same] at present
        obtain rfl := Option.some.inj (present.symm.trans hearing.known)
        rw [if_pos same, heardBy, if_pos rfl]
      · have bypasses := (hearing.others present).resolve_left same
        rw [if_neg same, heardBy, if_neg]
        intro mine
        rw [show found.callback = .recipient recipient from mine] at bypasses
        exact bypasses.2 rfl
    have split : (hosted.enqueue found documents).waiting =
        hosted.waiting ++ [⟨found.callback, found.reference.told documents⟩] := rfl
    have world : (hosted.enqueue found documents).world = hosted.world := rfl
    rw [split, world, List.filterMap_append, ← List.append_assoc, hearing.heard, heardOf, heardOf,
      List.filterMap_append, firedAt_fire, List.filterMap_cons, due]
    by_cases same : index = watch
    · rw [if_pos same, if_pos same]
      rfl
    · rw [if_neg same, if_neg same]
      rfl

/-- Calls that wait are made, which are heard in order. -/
theorem advance (hearing : Hearing reference recipient watch lists hosted) (count : Nat) :
    Hearing reference recipient watch lists (hosted.advance count) := by
  have relays := relays_callAll hearing.secludes fun dispatch member =>
    hearing.waiting dispatch (List.mem_of_mem_take (i := count) member)
  refine ⟨relays.secludes, hearing.known, fun present =>
    (hearing.others present).imp_right relays.bypasses, fun dispatch member =>
    (hearing.waiting dispatch (List.mem_of_mem_drop member)).imp_right relays.bypasses, ?_⟩
  have told : (hosted.advance count).world.toldTo recipient = _ := relays.told
  rw [told, List.append_assoc, HostedWorld.advance, ← List.filterMap_append, List.take_append_drop]
  exact hearing.heard

theorem fire (hearing : Hearing reference recipient watch lists hosted) {looped : Bool}
    (marshals : hosted.Marshals looped) (index : Nat) (documents : List NativeDocument) :
    Hearing reference recipient watch (lists ++ firedAt watch [.fire index documents])
      (hosted.step (.fire index documents)) := by
  rw [HostedWorld.step]
  split
  · next none =>
    have other : index ≠ watch := by
      rintro rfl
      cases none.symm.trans hearing.known
    rw [firedAt_fire, if_neg other, List.append_nil]
    exact hearing
  · next found present =>
    have queued := hearing.enqueue present documents
    rw [marshals.fire_eq]
    split
    · exact queued
    · exact queued.advance 1

/-- Every step: what the watch is told is heard, at once or later. -/
theorem step (hearing : Hearing reference recipient watch lists hosted) {looped : Bool}
    (marshals : hosted.Marshals looped) (step : Step) :
    Hearing reference recipient watch (lists ++ firedAt watch [step]) (hosted.step step) ∧
      (hosted.step step).Marshals looped := by
  by_cases told : ∃ index documents, step = .fire index documents
  · obtain ⟨index, documents, rfl⟩ := told
    exact ⟨hearing.fire marshals index documents, marshals.step_fire index documents⟩
  · have untold (index : Nat) (documents : List NativeDocument) : step ≠ .fire index documents :=
      fun same => told ⟨index, documents, same⟩
    have unfired : firedAt watch [step] = [] := by
      rw [firedAt, List.filterMap_cons, Step.firedAt_of_untold untold]
      rfl
    rw [unfired, List.append_nil]
    by_cases called : ∃ count, step = .advance count
    · obtain ⟨count, rfl⟩ := called
      exact ⟨hearing.advance count, marshals.advance count⟩
    · have spares := spares_step hearing.secludes untold fun count same => called ⟨count, same⟩
      exact ⟨hearing.of_spares spares, spares.marshals marshals⟩

theorem runAll (hearing : Hearing reference recipient watch lists hosted) {looped : Bool}
    (marshals : hosted.Marshals looped) (steps : List Step) :
    Hearing reference recipient watch (lists ++ firedAt watch steps) (hosted.runAll steps) := by
  induction steps generalizing hosted lists with
  | nil =>
    rw [firedAt, List.filterMap_nil, List.append_nil]
    exact hearing
  | cons step rest inductionHypothesis =>
    obtain ⟨stepped, kept⟩ := hearing.step marshals step
    have reached := inductionHypothesis stepped kept
    rw [List.append_assoc, ← firedAt_cons] at reached
    exact reached

/-- After a turn of the loop nothing is left that was not heard. -/
theorem turn (hearing : Hearing reference recipient watch lists hosted) :
    hosted.turn.world.toldTo recipient = heardOf reference lists := by
  have heard := (hearing.advance hosted.waiting.length).heard
  have nothing : (hosted.advance hosted.waiting.length).waiting = [] := List.drop_length ..
  rw [nothing, List.filterMap_nil, List.append_nil] at heard
  rw [turn_eq_advance, heard]

theorem ordered (hearing : Hearing reference recipient watch lists hosted) :
    hosted.world.toldTo recipient <+: heardOf reference lists := ⟨_, hearing.heard⟩

end Hearing

/-- A new listener has its watch, and has heard nothing. -/
theorem hearing_of_listen {hosted reached : HostedWorld} (numbered : hosted.Numbered) {name : Text}
    {reactions : List Reaction} {reference : HostedReference} {watch : Nat}
    (listened : hosted.listen name reactions reference = (.ok watch, reached)) :
    Hearing reference hosted.world.recipients.length watch [] reached := by
  obtain ⟨rfl, client, rfl⟩ := exists_of_startWatch listened
  have apart := numbered.world.secludes_addRecipient name reactions
  -- whoever was called before does not know the new listener
  have kept {callback : Callback} (bypasses : hosted.world.Bypasses (fun _ => False) callback) :=
    numbered.world.bypasses_new bypasses name reactions
  have waiting (dispatch : Dispatch) (member : dispatch ∈ hosted.waiting) :=
    kept ((numbered.waiting member).resolve_left id)
  have unqueued : hosted.waiting.filterMap (heardBy hosted.world.recipients.length) = [] := by
    refine List.filterMap_eq_nil_iff.mpr fun dispatch member => if_neg fun same => ?_
    have bypasses := waiting dispatch member
    rw [same] at bypasses
    exact bypasses.2 rfl
  refine ⟨apart, List.getElem?_concat_length .., fun {index found} present => ?_,
    fun dispatch member => .inr (waiting dispatch member), ?_⟩
  · rcases World.getElem?_concat_eq_some.mp present with old | ⟨same, _⟩
    · exact .inr (kept ((numbered.watches old).resolve_left id))
    · exact .inl same
  · rw [numbered.toldTo_addRecipient name reactions, unqueued]
    rfl

/-- Whatever goes on before and after the start of a listener, in an event loop or outside one, it
hears what its watch is told. -/
theorem hearing_runAll {looped : Bool} {mode : BuildMode} {before : List Step} {name : Text}
    {reactions : List Reaction} {reference : HostedReference} {watch : Nat} {reached : HostedWorld}
    (listened : ((start looped mode).runAll before).listen name reactions reference =
      (.ok watch, reached)) (steps : List Step) :
    Hearing reference ((start looped mode).runAll before).world.recipients.length watch
      (firedAt watch steps) (reached.runAll steps) := by
  obtain ⟨numbered, marshals⟩ := numbered_runAll looped mode before
  have kept : reached.Marshals looped := by
    obtain ⟨_, client, rfl⟩ := exists_of_startWatch listened
    exact ⟨marshals.loop, marshals.idle⟩
  exact (hearing_of_listen numbered listened).runAll kept steps

end HostedWorld

end DocQuery
