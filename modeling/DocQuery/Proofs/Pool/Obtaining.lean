/-
This file says what comes of asking a pool whose connections are made at once.

Whoever asks for a project with an entry joins its creation. Otherwise the factory is called, and
what it gives ends the new creation on the spot: its connection stays in the pool, and after a
failure the pool has no entry of the project, as before. A pool is closed by what closing its
connections does to a state; where that depends on no state, this is the closing of a pool.
-/

import DocQuery.Proofs.Pool.Running

namespace DocQuery

namespace Pool

variable {κ σ : Type} {factory : Text → σ → Except Failure κ × σ} {project : Text} {pool : Pool κ}
  {state : σ}

/-! ### Asking -/

/-- What can come of asking a pool for a project. -/
inductive Obtains (factory : Text → σ → Except Failure κ × σ) (project : Text) (pool : Pool κ)
    (state : σ) : Option (Ending κ) → Pool κ → σ → Prop
  | joined {creation : Nat} : pool.entries.lookup project = some creation →
      Obtains factory project pool state (pool.endingOf creation) (pool.join creation) state
  | connected {connection : κ} {after : σ} : pool.entries.lookup project = none →
      factory project state = (.ok connection, after) →
      Obtains factory project pool state (some (.connected connection))
        ((pool.begin project).settle pool.creations.length (.connected connection)) after
  | failed {failure : Failure} {after : σ} : pool.entries.lookup project = none →
      factory project state = (.error failure, after) →
      Obtains factory project pool state (some (.failed (reported project failure)))
        (((pool.begin project).forget project).settle pool.creations.length
          (.failed (reported project failure))) after

/-- The creation that was just begun is under way. -/
theorem underWay?_begin (project : Text) (pool : Pool κ) :
    (pool.begin project).underWay? pool.creations.length = some project := by
  rw [underWay?_eq_some_iff, creations_begin]
  exact List.getElem?_concat_length ..

/-- Settling a creation ends the caller that began it last. -/
theorem callerEnding_settle (creation : Nat) (ending : Ending κ) (callers : List (Caller κ))
    (last : pool.callers = callers ++ [⟨creation, true, none⟩]) :
    (pool.settle creation ending).callerEnding callers.length = some ending := by
  rw [callerEnding, settle, last, List.map_append, List.getElem?_append_right (by simp)]
  simp

theorem obtains (factory : Text → σ → Except Failure κ × σ) (project : Text) (pool : Pool κ)
    (state : σ) :
    Obtains factory project pool state (obtain factory project pool state).1
      (obtain factory project pool state).2.1 (obtain factory project pool state).2.2 := by
  rw [Pool.obtain, ask]
  cases found : pool.entries.lookup project with
  | some creation =>
    have ending : (pool.join creation).callerEnding pool.callers.length =
        pool.endingOf creation := by
      rw [callerEnding, callers_join, List.getElem?_concat_length]
      rfl
    dsimp only
    rw [ending]
    exact .joined found
  | none =>
    dsimp only
    cases made : factory project state with
    | mk outcome after =>
      cases outcome with
      | ok connection =>
        dsimp only
        rw [succeed, underWay?_begin]
        dsimp only
        rw [callerEnding_settle _ _ _ (callers_begin project pool)]
        exact .connected found made
      | error failure =>
        dsimp only
        rw [fail, underWay?_begin]
        dsimp only
        rw [abandon, underWay?_begin]
        dsimp only
        have forgotten : ((pool.begin project).forget project).callers =
            pool.callers ++ [⟨pool.creations.length, true, none⟩] := callers_begin project pool
        rw [callerEnding_settle _ _ _ forgotten]
        exact .failed found made

/-- Whatever comes of asking, the pool stays sound. -/
theorem Obtains.sound {ending : Option (Ending κ)} {after : Pool κ} {later : σ}
    (obtains : Obtains factory project pool state ending after later) (sound : pool.Sound) :
    after.Sound := by
  cases obtains with
  | joined entered => exact sound.join (sound.lt_of_entered (Sound.mem_of_lookup entered))
  | connected absent made =>
    exact (sound.begin absent).settle (List.getElem?_concat_length ..) fun _ => ⟨_, rfl⟩
  | failed absent made =>
    refine ((sound.begin absent).forget project).settle
      (List.getElem?_concat_length ..) fun member => ?_
    exact absurd rfl (mem_entries_forget.mp member).2

/-- After a failure the pool has the entries it had. -/
theorem entries_forget_begin (absent : pool.entries.lookup project = none) :
    ((pool.begin project).forget project).entries = pool.entries := by
  have others : ∀ entry ∈ pool.entries, entry.1 ≠ project := by
    intro entry member same
    have different := List.lookup_eq_none_iff.mp absent entry member
    simp [same] at different
  simp only [forget, entries_begin, List.filter_append]
  rw [List.filter_eq_self.mpr (by simpa using others)]
  simp

/-! ### Closing -/

/-- What every closing keeps, the closing of a pool keeps. -/
theorem shutAll_keeps {shut : κ → σ → Except Failure Unit × σ} (kept : σ → Prop)
    (each : ∀ connection state, kept state → kept (shut connection state).2)
    (connections : List κ) (before : kept state) :
    kept (shutAll shut connections state).2.2 := by
  induction connections generalizing state with
  | nil => exact before
  | cons connection rest inductionHypothesis =>
    have after := each connection state before
    rw [shutAll]
    generalize shut connection state = closed at after
    obtain ⟨outcome, later⟩ := closed
    cases outcome with
    | error failure => exact after
    | ok closed => exact inductionHypothesis after

theorem entries_shut (shut : κ → σ → Except Failure Unit × σ) (pool : Pool κ) (state : σ) :
    (pool.shut shut state).2.1.entries.Sublist pool.entries ∧
      (pool.shut shut state).2.2 = (shutAll shut pool.connections state).2.2 := by
  rw [Pool.shut]
  generalize shutAll shut pool.connections state = closed
  obtain ⟨asked, outcome, after⟩ := closed
  cases outcome with
  | error failure => exact ⟨List.Sublist.refl _, rfl⟩
  | ok closed => exact ⟨List.nil_sublist _, rfl⟩

/-- Whatever comes of closing, the pool stays sound. -/
theorem Sound.shut (sound : pool.Sound) (shut : κ → σ → Except Failure Unit × σ) (state : σ) :
    (pool.shut shut state).2.1.Sound := by
  rw [Pool.shut]
  generalize shutAll shut pool.connections state = closed
  obtain ⟨asked, outcome, after⟩ := closed
  cases outcome with
  | error failure => exact sound.of_entries_sublist (List.Sublist.refl _) _
  | ok closed => exact sound.of_entries_sublist (List.nil_sublist _) _

theorem shutAll_eq_closeAll (refusal : κ → Option Failure) (connections : List κ) (state : σ) :
    shutAll (fun connection state => (match refusal connection with
        | some failure => .error failure
        | none => .ok (), state)) connections state =
      ((closeAll refusal connections).1, (closeAll refusal connections).2, state) := by
  induction connections with
  | nil => rfl
  | cons connection rest inductionHypothesis =>
    rw [shutAll, closeAll]
    cases refusal connection with
    | some failure => rfl
    | none =>
      dsimp only
      rw [inductionHypothesis]

/-- Where closing depends on no state, a pool is closed as a pool is. -/
theorem shut_eq_close (refusal : κ → Option Failure) (pool : Pool κ) (state : σ) :
    pool.shut (fun connection state => (match refusal connection with
        | some failure => .error failure
        | none => .ok (), state)) state =
      ((pool.close refusal).1, (pool.close refusal).2, state) := by
  rw [shut, close, shutAll_eq_closeAll]
  dsimp only
  cases (closeAll refusal pool.connections).2 <;> rfl

end Pool

end DocQuery
