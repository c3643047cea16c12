/-
This file defines subscriptions: handles of live queries.

A subscription is active until it is cancelled. It holds at most one release, which is what has
to be done to stop the store's listener; the release is handed out when the subscription is
cancelled, and a release that is attached later is handed out at once. A release that has been
handed out is forgotten, so it is not handed out again.

What a release is, and how it is carried out, is left to the caller.
-/

import DocQuery.Component.Basic
import DocQuery.Value.Quoted

namespace DocQuery

/-- The handle of a live query: what kind of thing it watches and where, what releases it, and
how many updates it has delivered. -/
structure Subscription (α : Type) where
  type : QueryType
  path : Value
  release : Option α
  cancelled : Bool
  updates : Nat
  deriving DecidableEq, Repr

namespace Subscription

variable {α : Type}

/-- A new subscription, without a release. -/
def opened (type : QueryType) (path : Value) : Subscription α := ⟨type, path, none, false, 0⟩

/-- Whether a subscription still delivers. -/
def active (subscription : Subscription α) : Bool := !subscription.cancelled

/-- Gives a subscription its release. The first component is what has to be released now. -/
def attach (release : α) (subscription : Subscription α) : Option α × Subscription α :=
  if subscription.cancelled then (some release, { subscription with release := none })
  else (none, { subscription with release := some release })

/-- Cancels a subscription. The first component is what has to be released now. -/
def cancel (subscription : Subscription α) : Option α × Subscription α :=
  if subscription.cancelled then (none, subscription)
  else (subscription.release, { subscription with release := none, cancelled := true })

/-- Counts one delivery. -/
def count (subscription : Subscription α) : Subscription α :=
  { subscription with updates := subscription.updates + 1 }

def shown (subscription : Subscription α) : String :=
  "Subscription(" ++ subscription.type.name ++ ", " ++ subscription.path.quoted ++ ", " ++
    (if subscription.active then "active" else "cancelled") ++ ")"

@[simp] theorem active_opened (type : QueryType) (path : Value) :
    (opened type path : Subscription α).active = true := rfl

theorem active_cancel (subscription : Subscription α) :
    subscription.cancel.2.active = false := by
  rw [cancel]
  split
  · next already => simp [active, already]
  · rfl

/-- A second cancellation has nothing to release. -/
theorem cancel_cancel (subscription : Subscription α) :
    subscription.cancel.2.cancel = (none, subscription.cancel.2) := by
  have cancelled : subscription.cancel.2.cancelled = true := by
    simpa [active] using active_cancel subscription
  rw [cancel, if_pos cancelled]

theorem active_attach (release : α) (subscription : Subscription α) :
    (subscription.attach release).2.active = subscription.active := by
  rw [attach]
  split <;> rfl

/-- Attaching releases at once exactly if the subscription was cancelled before. -/
theorem attach_fst (release : α) (subscription : Subscription α) :
    (subscription.attach release).1 = if subscription.active then none else some release := by
  rw [attach]
  split <;> simp_all [active]

end Subscription

/-! ### Runs of one handle -/

/-- What can be done with a handle. -/
inductive HandleStep (α : Type)
  | attach (release : α)
  | cancel
  deriving DecidableEq, Repr

/-- Carries out one step: what it releases, and the handle afterwards. -/
def Subscription.perform {α : Type} (step : HandleStep α) (subscription : Subscription α) :
    Option α × Subscription α :=
  match step with
  | .attach release => subscription.attach release
  | .cancel => subscription.cancel

end DocQuery
