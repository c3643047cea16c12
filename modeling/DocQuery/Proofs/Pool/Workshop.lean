/-
This file ties workshops to runs of pools.

Whatever callers do with a workshop, and whatever its factory makes of it, the pool inside goes
through events: each operation leads its pool through some, and so do operations in any order. What is
proved of all runs of pools therefore holds of the pool of every workshop.
-/

import DocQuery.Pool.Workshop
import DocQuery.Proofs.Pool.Running

namespace DocQuery

namespace Workshop

/-- The pool of the later workshop comes from that of the earlier one by events. -/
def Leads (workshop later : Workshop) : Prop := ∃ events, later.pool = Pool.run events workshop.pool

namespace Leads

variable {workshop later : Workshop}

theorem of_same (same : later.pool = workshop.pool) : workshop.Leads later := ⟨[], same⟩

theorem of_apply (event : PoolEvent Nat) (applied : later.pool = workshop.pool.apply event) :
    workshop.Leads later :=
  ⟨[event], applied⟩

theorem trans {first second third : Workshop} (leads : first.Leads second)
    (further : second.Leads third) : first.Leads third := by
  obtain ⟨events, same⟩ := leads
  obtain ⟨others, rest⟩ := further
  exact ⟨events ++ others, by rw [rest, same, Pool.run_append]⟩

end Leads

/-! ### Single operations -/

theorem leads_finish (creation : Nat) (workshop : Workshop) :
    workshop.Leads (workshop.finish creation) := by
  rw [finish]
  split
  · next connection _ _ => exact .of_apply (.succeed creation connection) rfl
  · next failure _ _ => exact .of_apply (.fail creation failure) rfl

theorem leads_carryOut (project : Text) (creation : Nat) (workshop : Workshop) :
    workshop.Leads (workshop.carryOut project creation) := by
  rw [carryOut]
  split
  · exact .of_same rfl
  · exact (Leads.of_same rfl).trans (leads_finish creation _)

theorem leads_ask (project : Text) (workshop : Workshop) :
    workshop.Leads (workshop.ask project).2 := by
  have asked : workshop.Leads { workshop with pool := (workshop.pool.ask project).2 } :=
    .of_apply (.ask project) rfl
  rw [ask]
  dsimp only
  split
  · next creation _ => exact asked.trans (leads_carryOut project creation _)
  · exact asked

theorem leads_cancel (caller : Nat) (workshop : Workshop) :
    workshop.Leads (workshop.cancel caller) := by
  have cancelled : workshop.Leads { workshop with pool := workshop.pool.cancel caller } :=
    .of_apply (.cancel caller) rfl
  rw [cancel]
  split
  · next creation _ => exact cancelled.trans (.of_apply (.interrupt creation) rfl)
  · exact cancelled

theorem leads_cancelAll (callers : List Nat) (workshop : Workshop) :
    workshop.Leads (callers.foldl (fun after caller => after.cancel caller) workshop) := by
  induction callers generalizing workshop with
  | nil => exact .of_same rfl
  | cons caller rest inductionHypothesis =>
    exact (leads_cancel caller workshop).trans (inductionHypothesis _)

theorem leads_askOnly (project : Text) (workshop : Workshop) :
    workshop.Leads (workshop.askOnly project).2 := by
  have asked := leads_ask project workshop
  rw [askOnly]
  split
  · exact asked
  · exact asked.trans (leads_cancel _ _)

theorem leads_askAll (projects : List Text) (workshop : Workshop) :
    workshop.Leads (askAll projects workshop).2 := by
  induction projects generalizing workshop with
  | nil => exact .of_same rfl
  | cons project rest inductionHypothesis =>
    exact (leads_ask project workshop).trans (inductionHypothesis _)

theorem leads_askAllOnly (projects : List Text) (workshop : Workshop) :
    workshop.Leads (askAllOnly projects workshop).2 := by
  have asked := leads_askAll projects workshop
  rw [askAllOnly]
  split
  · exact asked
  · exact asked.trans (leads_cancelAll _ _)

theorem leads_openGate (project : Text) (workshop : Workshop) :
    workshop.Leads (workshop.openGate project).2 := by
  rw [openGate]
  split
  · exact .of_same rfl
  · split
    · exact (Leads.of_same rfl).trans (leads_finish _ _)
    · exact .of_same rfl

/-! ### Operations in any order -/

/-- What can be done with a workshop. -/
inductive Operation
  | askAs (name project : Text)
  | askAllOnly (projects : List Text)
  | askOnly (project : Text)
  | cancel (caller : Nat)
  | openGate (project : Text)
  | close

def operate (operation : Operation) (workshop : Workshop) : Workshop :=
  match operation with
  | .askAs name project => (workshop.askAs name project).2
  | .askAllOnly projects => (workshop.askAllOnly projects).2
  | .askOnly project => (workshop.askOnly project).2
  | .cancel caller => workshop.cancel caller
  | .openGate project => (workshop.openGate project).2
  | .close => workshop.close

theorem leads_operate (operation : Operation) (workshop : Workshop) :
    workshop.Leads (workshop.operate operation) := by
  cases operation with
  | askAs name project => exact (leads_ask project workshop).trans (.of_same rfl)
  | askAllOnly projects => exact leads_askAllOnly projects workshop
  | askOnly project => exact leads_askOnly project workshop
  | cancel caller => exact leads_cancel caller workshop
  | openGate project => exact leads_openGate project workshop
  | close => exact .of_apply (.close fun _ => none) rfl

theorem leads_operateAll (operations : List Operation) (workshop : Workshop) :
    workshop.Leads (operations.foldl (fun after operation => after.operate operation) workshop) := by
  induction operations generalizing workshop with
  | nil => exact .of_same rfl
  | cons operation rest inductionHypothesis =>
    exact (leads_operate operation workshop).trans (inductionHypothesis _)

/-- The pool of every workshop is what a run makes of the pool that nobody has asked. -/
theorem exists_run (script : FactoryScript) (operations : List Operation) :
    ∃ events, (operations.foldl (fun after operation => after.operate operation)
      (start script)).pool = Pool.run events .empty :=
  leads_operateAll operations (start script)

end Workshop

end DocQuery
