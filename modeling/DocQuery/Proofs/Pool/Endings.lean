/-
This file says how callers of a pool end, and by what.

A creation gets its ending from one event: it succeeds, it fails, or a cancellation comes out of it.
Callers stand as their creation does, so a caller that nobody cancels gets the connection, or the
failure, or else it ends cancelled with the creation. Cancelling a caller ends nobody else by itself:
what comes out of a creation is up to whoever carries it out. Where cancellations come out only after
the caller that began the creation was cancelled, the callers that end so without being cancelled are
callers that joined.
-/

import DocQuery.Proofs.Pool.Running

namespace DocQuery

namespace Pool

variable {κ : Type}

/-! ### What ends a creation -/

/-- The events that end a creation of a project which is under way, with the endings that they
give to it. -/
inductive Ends (creation : Nat) (project : Text) (pool : Pool κ) : PoolEvent κ → Ending κ → Prop
  | succeed (connection : κ) :
      Ends creation project pool (.succeed creation connection) (.connected connection)
  | fail (failure : Failure) :
      Ends creation project pool (.fail creation failure) (.failed (reported project failure))
  /-- A cancellation comes out of the creation. -/
  | interrupt : Ends creation project pool (.interrupt creation) .cancelled

theorem ends_of_abandoned {pool : Pool κ} {event : PoolEvent κ} {creation : Nat}
    (abandoned : pool.abandoned? event = some creation) (project : Text) :
    pool.Ends creation project event (endingBy event project) := by
  rcases eq_of_abandoned abandoned with ⟨failure, rfl⟩ | rfl
  · exact .fail failure
  · exact .interrupt

/-- A creation that has ended after an event had ended before, or the event ended it. -/
theorem ends_of_moves {pool after : Pool κ} {event : PoolEvent κ} (moves : pool.Moves event after)
    {creation : Nat} {project : Text} {ending : Ending κ}
    (ended : after.creations[creation]? = some ⟨project, some ending⟩) :
    pool.creations[creation]? = some ⟨project, some ending⟩ ∨
      pool.creations[creation]? = some ⟨project, none⟩ ∧
        pool.Ends creation project event ending := by
  have settled (forgotten : Pool κ) (same : forgotten.creations = pool.creations) (other : Nat)
      (owner : Text) (given : Ending κ) (present : pool.creations[other]? = some ⟨owner, none⟩)
      (ends : pool.Ends other owner event given)
      (known : (forgotten.settle other given).creations[creation]? =
        some ⟨project, some ending⟩) :
      pool.creations[creation]? = some ⟨project, some ending⟩ ∨
        pool.creations[creation]? = some ⟨project, none⟩ ∧
          pool.Ends creation project event ending := by
    by_cases equal : creation = other
    · subst equal
      rw [creations_settle_self (same ▸ present)] at known
      obtain ⟨rfl, given⟩ := Creation.mk.inj (Option.some.inj known)
      obtain rfl := Option.some.inj given
      exact .inr ⟨present, ends⟩
    · rw [creations_settle_of_ne equal, same] at known
      exact .inl known
  cases moves with
  | idle => exact .inl ended
  | join _ => exact .inl ended
  | begin _ =>
    rw [creations_begin, List.getElem?_append] at ended
    split at ended
    · exact .inl ended
    · have new := List.mem_singleton.mp (List.mem_of_getElem? ended)
      cases (Creation.mk.inj new).2
  | succeed present => exact settled pool rfl _ _ _ present (.succeed _) ended
  | abandon abandoned present =>
    exact settled (pool.forget _) rfl _ _ _ present (ends_of_abandoned abandoned _) ended
  | leave _ => exact .inl ended
  | refuse _ => exact .inl ended
  | close _ => exact .inl ended

/-- A creation that has ended was ended by one of the events, while it was under way. -/
theorem exists_ends {events : List (PoolEvent κ)} {creation : Nat} {project : Text}
    {ending : Ending κ}
    (ended : (run events empty).creations[creation]? = some ⟨project, some ending⟩) :
    ∃ before event rest, events = before ++ event :: rest ∧
      (run before empty).creations[creation]? = some ⟨project, none⟩ ∧
        (run before empty).Ends creation project event ending := by
  induction events using List.reverseRecOn with
  | nil => simp [run, empty] at ended
  | append_singleton earlier event inductionHypothesis =>
    rw [run_append] at ended
    rcases ends_of_moves (moves_apply event (run earlier empty)) ended with known | ends
    · obtain ⟨before, first, rest, rfl, found⟩ := inductionHypothesis known
      exact ⟨before, first, rest ++ [event], by simp, found⟩
    · exact ⟨earlier, event, [], rfl, ends⟩

/-- A cancellation that comes out of a creation ends it. -/
theorem creations_apply_interrupt {pool : Pool κ} {creation : Nat} {project : Text}
    (present : pool.creations[creation]? = some ⟨project, none⟩) :
    (pool.apply (.interrupt creation)).creations[creation]? =
      some ⟨project, some .cancelled⟩ := by
  have underWay := underWay?_eq_some_iff.mpr present
  have forgotten : (pool.forget project).creations[creation]? = some ⟨project, none⟩ := present
  simp only [apply, interrupt, abandon, underWay]
  exact creations_settle_self forgotten _

/-- Cancelling a caller changes no other caller. -/
theorem callers_apply_cancel_of_ne {caller index : Nat} (different : index ≠ caller)
    (pool : Pool κ) : (pool.apply (.cancel caller)).callers[index]? = pool.callers[index]? := by
  rw [apply, cancel]
  split
  · rw [List.getElem?_modify]
    simp [Ne.symm different]
  · rfl

/-! ### Who began a creation -/

/-- What stays of the callers: which creation, and whether they began it. -/
def roles (pool : Pool κ) : List (Nat × Bool) :=
  pool.callers.map fun caller => (caller.creation, caller.began)

theorem roles_settle (creation : Nat) (ending : Ending κ) (pool : Pool κ) :
    (pool.settle creation ending).roles = pool.roles := by
  rw [roles, settle, List.map_map]
  refine List.map_congr_left fun caller _ => ?_
  rw [Function.comp_apply]
  split <;> rfl

theorem roles_leave (caller : Nat) (pool : Pool κ) : (pool.leave caller).roles = pool.roles := by
  refine List.ext_getElem? fun index => ?_
  rw [roles, roles, leave, List.getElem?_map, List.getElem?_map, List.getElem?_modify]
  cases pool.callers[index]? with
  | none => rfl
  | some found => by_cases equal : caller = index <;> simp [equal]

/-- A move leaves the roles as they are, or adds one: that of a caller that joins, or that of the
caller that begins the next creation. -/
theorem roles_of_moves {pool after : Pool κ} {event : PoolEvent κ}
    (moves : pool.Moves event after) :
    after.roles = pool.roles ∨ ∃ role : Nat × Bool, after.roles = pool.roles ++ [role] ∧
      (role.2 = true → role.1 = pool.creations.length) := by
  cases moves with
  | idle => exact .inl rfl
  | @join _ creation _ =>
    exact .inr ⟨(creation, false), by simp [roles], fun began => by cases began⟩
  | begin _ => exact .inr ⟨(pool.creations.length, true), by simp [roles], fun _ => rfl⟩
  | succeed _ => exact .inl (roles_settle _ _ _)
  | abandon _ _ => exact .inl (roles_settle _ _ _)
  | leave _ => exact .inl (roles_leave _ _)
  | refuse _ => exact .inl rfl
  | close _ => exact .inl rfl

theorem roles_prefix_run (events : List (PoolEvent κ)) (pool : Pool κ) :
    pool.roles <+: (run events pool).roles := by
  refine run_induction (motive := fun after => pool.roles <+: after.roles)
    (fun event after earlier => ?_) events (List.prefix_refl _)
  rcases roles_of_moves (moves_apply event after) with same | ⟨role, more, _⟩
  · rwa [same]
  · rw [more]
    exact earlier.trans (List.prefix_append _ _)

/-- Every creation was begun by one caller at most. -/
def Led (pool : Pool κ) : Prop :=
  ∀ creation first second : Nat, pool.roles[first]? = some (creation, true) →
    pool.roles[second]? = some (creation, true) → first = second

/-- One more caller changes nothing, if it begins a creation that nobody has yet. -/
theorem Led.append {pool after : Pool κ} (led : pool.Led) {role : Nat × Bool}
    (roles : after.roles = pool.roles ++ [role]) (new : role.2 = true → role ∉ pool.roles) :
    after.Led := by
  intro creation first second one other
  rw [roles, List.getElem?_append] at one other
  have last {index : Nat} (found : [role][index - pool.roles.length]? = some (creation, true)) :
      role = (creation, true) ∧ index - pool.roles.length = 0 := by
    have bound := (List.getElem?_eq_some_iff.mp found).1
    exact ⟨(List.mem_singleton.mp (List.mem_of_getElem? found)).symm, by simpa using bound⟩
  split at one <;> split at other
  · exact led creation first second one other
  · obtain ⟨rfl, _⟩ := last other
    exact absurd (List.mem_of_getElem? one) (new rfl)
  · obtain ⟨rfl, _⟩ := last one
    exact absurd (List.mem_of_getElem? other) (new rfl)
  · have here := (last one).2
    have there := (last other).2
    omega

theorem led_run (events : List (PoolEvent κ)) : (run events empty).Led := by
  induction events using List.reverseRecOn with
  | nil => simp [Led, roles, run, empty]
  | append_singleton earlier event inductionHypothesis =>
    rw [run_append]
    rcases roles_of_moves (moves_apply event (run earlier empty)) with same | ⟨role, more, next⟩
    · rw [Led, run, run, same]
      exact inductionHypothesis
    · refine Led.append inductionHypothesis more fun began known => ?_
      -- Callers have creations that are there, and this one is yet to come.
      obtain ⟨caller, member, rfl⟩ := List.mem_map.mp known
      have placed := (sound_run earlier).placed caller member
      exact absurd (next began) (Nat.ne_of_lt placed)

/-- Whoever once is the caller that began a creation stays the only one. -/
theorem eq_of_began {before later : List (PoolEvent κ)} {creation beginner index : Nat}
    {ending : Option (Ending κ)} {caller : Caller κ}
    (began : (run before empty).callers[beginner]? = some ⟨creation, true, ending⟩)
    (present : (run (before ++ later) empty).callers[index]? = some caller)
    (same : caller.creation = creation) (leads : caller.began = true) : index = beginner := by
  have early : (run before empty).roles[beginner]? = some (creation, true) := by
    rw [roles, List.getElem?_map, began]
    rfl
  have first : (run (before ++ later) empty).roles[index]? = some (creation, true) := by
    rw [roles, List.getElem?_map, present, ← same, ← leads]
    rfl
  have second : (run (before ++ later) empty).roles[beginner]? = some (creation, true) := by
    obtain ⟨more, extended⟩ := roles_prefix_run later (run before empty)
    have inside := (List.getElem?_eq_some_iff.mp early).1
    rw [run_append, ← extended, List.getElem?_append_left inside, early]
  exact led_run _ _ _ _ first second

/-! ### Callers that nobody cancels -/

/-- The caller that began a creation was cancelled while the creation was under way. -/
def BeginnerCancelled (creation : Nat) (events : List (PoolEvent κ)) : Prop :=
  ∃ before beginner rest, events = before ++ .cancel beginner :: rest ∧
    (run before empty).callers[beginner]? = some ⟨creation, true, none⟩

/-- A cancellation came out of a creation while it was under way. -/
def Interrupted (creation : Nat) (events : List (PoolEvent κ)) : Prop :=
  ∃ before rest project, events = before ++ .interrupt creation :: rest ∧
    (run before empty).creations[creation]? = some ⟨project, none⟩

/-- A cancellation comes out of a creation only after the caller that began it was cancelled. -/
def InterruptsWhenAsked (events : List (PoolEvent κ)) : Prop :=
  ∀ before creation rest project, events = before ++ .interrupt creation :: rest →
    (run before empty).creations[creation]? = some ⟨project, none⟩ →
    BeginnerCancelled creation before

/-- Where the caller that began a creation is cancelled, the creation lets the cancellation through. -/
def LetsThrough (events : List (PoolEvent κ)) : Prop :=
  ∀ before beginner creation rest, events = before ++ .cancel beginner :: rest →
    (run before empty).callers[beginner]? = some ⟨creation, true, none⟩ →
    ∃ others, rest = .interrupt creation :: others

/-- How a caller of a number stands after given events that nobody cancelled. -/
structure Spared (events : List (PoolEvent κ)) (index : Nat) (caller : Caller κ) : Prop where
  /-- It ends when its creation ends, and alike. -/
  alike : caller.ending = (run events empty).endingOf caller.creation
  /-- A connection that it ends with is what its creation came to. -/
  connected : ∀ connection, caller.ending = some (.connected connection) →
    .succeed caller.creation connection ∈ events
  /-- A failure that it ends with is what its creation came to, as callers of its project see
  it. -/
  failed : ∀ failure, caller.ending = some (.failed failure) → ∃ project cause,
    (run events empty).creations[caller.creation]? = some ⟨project, some (.failed failure)⟩ ∧
      .fail caller.creation cause ∈ events ∧ failure = reported project cause
  /-- It ends cancelled exactly if a cancellation came out of its creation. -/
  cancelled : caller.ending = some .cancelled ↔ Interrupted caller.creation events
  /-- If that happens only when asked for, then it joined, and the caller that began the creation was
  cancelled while the creation was under way. -/
  joined : InterruptsWhenAsked events → caller.ending = some .cancelled →
    caller.began = false ∧ BeginnerCancelled caller.creation events
  /-- If creations let cancellations through, that is enough. -/
  reached : LetsThrough events → BeginnerCancelled caller.creation events →
    caller.ending = some .cancelled
  /-- Cancelling another caller changes nothing for it. -/
  alone : ∀ before other rest, events = before ++ .cancel other :: rest →
    (run (before ++ [.cancel other]) empty).callers[index]? = (run before empty).callers[index]?

theorem endingOf_eq_some_iff {creation : Nat} {pool : Pool κ} {ending : Ending κ} :
    pool.endingOf creation = some ending ↔
      ∃ project, pool.creations[creation]? = some ⟨project, some ending⟩ := by
  rw [endingOf_eq, Option.bind_eq_some_iff]
  constructor
  · rintro ⟨⟨project, _⟩, found, rfl⟩
    exact ⟨project, found⟩
  · rintro ⟨project, found⟩
    exact ⟨_, found, rfl⟩

/-- A creation that a cancellation came out of stays cancelled. -/
theorem Interrupted.endingOf_run {creation : Nat} {events : List (PoolEvent κ)}
    (interrupted : Interrupted creation events) :
    (run events empty).endingOf creation = some .cancelled := by
  obtain ⟨before, rest, project, rfl, present⟩ := interrupted
  rw [run_append, endingOf_eq_some_iff]
  exact ⟨project, creations_run_of_ended (creations_apply_interrupt present) rest⟩

/-- A caller that began a creation and has not ended has a creation that is under way. -/
theorem exists_creation_of_began {events : List (PoolEvent κ)} {beginner creation : Nat}
    (began : (run events empty).callers[beginner]? = some ⟨creation, true, none⟩) :
    ∃ project, (run events empty).creations[creation]? = some ⟨project, none⟩ := by
  have stood : none = (run events empty).endingOf creation := by
    rcases told_run events beginner _ began with same | ⟨joined, _⟩
    · exact same
    · cases joined
  have placed := (sound_run events).placed _ (List.mem_of_getElem? began)
  obtain ⟨⟨project, ending⟩, found⟩ : ∃ known, (run events empty).creations[creation]? =
      some known := ⟨_, List.getElem?_eq_getElem placed⟩
  rw [endingOf_eq, found] at stood
  obtain rfl : ending = none := stood.symm
  exact ⟨project, found⟩

/-- A cancellation that is let through comes out of the creation. -/
theorem BeginnerCancelled.interrupted {creation : Nat} {events : List (PoolEvent κ)}
    (cancelled : BeginnerCancelled creation events) (through : LetsThrough events) :
    Interrupted creation events := by
  obtain ⟨before, beginner, rest, rfl, began⟩ := cancelled
  obtain ⟨others, rfl⟩ := through before beginner creation rest rfl began
  obtain ⟨project, present⟩ := exists_creation_of_began began
  refine ⟨before ++ [.cancel beginner], others, project, by simp, ?_⟩
  have kept : ((run before empty).apply (.cancel beginner)).creations =
      (run before empty).creations := by
    rw [apply, cancel, began]
  rw [run_append, run, run, kept, present]

/-- Whoever began a creation of which the beginner was cancelled was cancelled. -/
theorem BeginnerCancelled.mem_of_began {events : List (PoolEvent κ)} {index : Nat}
    {caller : Caller κ} (cancelled : BeginnerCancelled caller.creation events)
    (present : (run events empty).callers[index]? = some caller) (leads : caller.began = true) :
    .cancel index ∈ events := by
  obtain ⟨before, beginner, rest, rfl, began⟩ := cancelled
  rw [eq_of_began began present rfl leads]
  exact List.mem_append_right before List.mem_cons_self

theorem BeginnerCancelled.append {creation : Nat} {events : List (PoolEvent κ)}
    (cancelled : BeginnerCancelled creation events) (more : List (PoolEvent κ)) :
    BeginnerCancelled creation (events ++ more) := by
  obtain ⟨before, beginner, rest, rfl, began⟩ := cancelled
  exact ⟨before, beginner, rest ++ more, by simp, began⟩

/-- In every run, a caller that nobody cancels ends as its creation does: with the connection, with
the failure, or cancelled, and the last exactly if a cancellation came out of its creation. -/
theorem spared_run {events : List (PoolEvent κ)} {index : Nat} {caller : Caller κ}
    (present : (run events empty).callers[index]? = some caller)
    (uncancelled : .cancel index ∉ events) : Spared events index caller := by
  have alike : caller.ending = (run events empty).endingOf caller.creation := by
    rcases told_run events index caller present with same | ⟨_, _, asked⟩
    · exact same
    · exact absurd asked uncancelled
  have ended (ending : Ending κ) (got : caller.ending = some ending) :
      ∃ project before event rest, events = before ++ event :: rest ∧
        (run events empty).creations[caller.creation]? = some ⟨project, some ending⟩ ∧
          (run before empty).creations[caller.creation]? = some ⟨project, none⟩ ∧
            (run before empty).Ends caller.creation project event ending := by
    obtain ⟨project, found⟩ := endingOf_eq_some_iff.mp (alike.symm.trans got)
    obtain ⟨before, event, rest, split, underWay, ends⟩ := exists_ends found
    exact ⟨project, before, event, rest, split, found, underWay, ends⟩
  have interrupted (got : caller.ending = some .cancelled) :
      Interrupted caller.creation events := by
    obtain ⟨project, before, event, rest, split, _, underWay, ends⟩ := ended _ got
    cases ends
    exact ⟨before, rest, project, split, underWay⟩
  refine
    { alike := alike
      connected := fun connection got => ?connected
      failed := fun failure got => ?failed
      cancelled := ⟨interrupted, fun came => alike.trans came.endingOf_run⟩
      joined := fun asked got => ?joined
      reached := fun through cancelled =>
        alike.trans (cancelled.interrupted through).endingOf_run
      alone := fun before other rest split => ?alone }
  case connected =>
    obtain ⟨project, before, event, rest, rfl, _, _, ends⟩ := ended _ got
    cases ends
    simp
  case failed =>
    obtain ⟨project, before, event, rest, rfl, found, _, ends⟩ := ended _ got
    cases ends with
    | fail cause => exact ⟨project, cause, found, by simp, rfl⟩
  case joined =>
    obtain ⟨before, rest, project, split, underWay⟩ := interrupted got
    have earlier := (asked before _ rest project split underWay).append
      (.interrupt caller.creation :: rest)
    rw [← split] at earlier
    -- Otherwise it is the caller itself that was cancelled.
    exact ⟨Bool.eq_false_iff.mpr fun leads => uncancelled (earlier.mem_of_began present leads),
      earlier⟩
  case alone =>
    have different : index ≠ other := by
      rintro rfl
      exact uncancelled (by simp [split])
    rw [run_append]
    exact callers_apply_cancel_of_ne different _

/-- A run in which the caller that began a creation is cancelled while another waits, the creation
lets that through, and the next creation fails. -/
def leaderCancelled : List (PoolEvent Nat) :=
  [.ask "alpha", .ask "alpha", .cancel 0, .interrupt 0, .ask "alpha", .ask "alpha", .cancel 3,
    .fail 1 (.foreign .system "unreachable")]

/-- The second caller is ended with the first, the third sees the failure. -/
theorem spared_run_leaderCancelled :
    (run leaderCancelled empty).callers[1]? = some ⟨0, false, some .cancelled⟩ ∧
      .cancel 1 ∉ leaderCancelled ∧ Spared leaderCancelled 1 ⟨0, false, some .cancelled⟩ := by
  have present : (run leaderCancelled empty).callers[1]? = some ⟨0, false, some .cancelled⟩ := rfl
  have uncancelled : .cancel 1 ∉ leaderCancelled := by simp [leaderCancelled]
  exact ⟨present, uncancelled, spared_run present uncancelled⟩

/-- A run in which the caller that began a creation is cancelled while another waits, and the
creation lets that through. -/
def leaderLeaves : List (PoolEvent Nat) := [.ask "alpha", .ask "alpha", .cancel 0, .interrupt 0]

/-- The second caller ends cancelled, though nobody cancels it. -/
theorem callerEnding_leaderLeaves : .cancel 1 ∉ leaderLeaves ∧
    (run leaderLeaves empty).callerEnding 1 = some .cancelled :=
  ⟨by simp [leaderLeaves], rfl⟩

end Pool

end DocQuery
