/-
This file sorts lists by a comparison that may refuse to answer.

The list is cut into runs, and neighbouring runs are merged until one is left. When they are
merged is settled by their borders: every border has a power, which is the number of halvings of
the whole list after which the middles of its two runs are first apart, and borders of higher
power go first. A refused comparison refuses the whole sort.

The sort is stable. For a comparison that is a total preorder the outcome is the one stable order,
whatever the course; the exact course is fixed as well, because a comparison with undefined
numbers is not such a preorder.
-/

import DocQuery.Sorting.Merge
import DocQuery.Sorting.Run

namespace DocQuery.Sorting

variable {α : Type}

/-! ### Pending runs -/

/-- A run that waits to be merged: where it starts in the whole list, its items, and the power of
its border with the next run. -/
structure PendingRun (α : Type) where
  start : Nat
  items : List α
  power : Nat
  deriving Repr

/-- The runs that wait to be merged, the latest first, and the threshold of the next merge. -/
structure Pending (α : Type) where
  runs : List (PendingRun α)
  threshold : Nat
  deriving Repr

/-- The number of halvings of a whole list after which two places in it are first apart. The
places are given in halves of an item; the fuel bounds the number. -/
def halvingsApart (total low high : Nat) : Nat → Nat
  | 0 => 0
  | fuel + 1 =>
    if low / total = high / total then halvingsApart total (2 * low) (2 * high) fuel + 1 else 1

namespace PendingRun

/-- The power of the border between a run and the items of the next one. -/
def borderPower (total : Nat) (run : PendingRun α) (next : List α) : Nat :=
  let middle := 2 * run.start + run.items.length
  halvingsApart total middle (middle + run.items.length + next.length) total

/-- Merges a run with the one that follows it. -/
def merge (less : α → α → Option Bool) (threshold : Nat) (run next : PendingRun α) :
    Option (PendingRun α × Nat) :=
  (mergeRuns less threshold run.items next.items).map fun merged =>
    ({ run with items := merged.1 }, merged.2)

end PendingRun

/-- Merges the latest run with those before it as long as their borders have more than a power. -/
def mergeAbove (less : α → α → Option Bool) (power threshold : Nat) (latest : PendingRun α) :
    List (PendingRun α) → Option (Pending α)
  | [] => some ⟨[{ latest with power := power }], threshold⟩
  | earlier :: rest =>
    if power < earlier.power then
      (earlier.merge less threshold latest).bind fun merged =>
        mergeAbove less power merged.2 merged.1 rest
    else some ⟨{ latest with power := power } :: earlier :: rest, threshold⟩

/-- Adds the items of a new run. -/
def Pending.push (less : α → α → Option Bool) (total : Nat) (items : List α)
    (pending : Pending α) : Option (Pending α) :=
  match pending.runs with
  | [] => some { pending with runs := [⟨0, items, 0⟩] }
  | latest :: rest =>
    (mergeAbove less (latest.borderPower total items) pending.threshold latest rest).map
      fun merged =>
        { merged with
          runs := ⟨latest.start + latest.items.length, items, 0⟩ :: merged.runs }

/-- Cuts items into runs, and adds them. -/
def pushAll (less : α → α → Option Bool) (goal total : Nat) (items : List α)
    (pending : Pending α) : Option (Pending α) :=
  match items with
  | [] => some pending
  | first :: rest =>
    match _ : nextRun less goal first rest with
    | none => none
    | some split =>
      match pending.push less total split.1 with
      | none => none
      | some next => pushAll less goal total split.2 next
termination_by items.length
decreasing_by exact Nat.lt_succ_of_le (length_nextRun ‹_›)

/-- Merges all runs, the latest ones first, unless the run before them is shorter than the
latest. -/
def mergeAll (less : α → α → Option Bool) (threshold : Nat) (latest : PendingRun α)
    (before : List (PendingRun α)) : Option (List α) :=
  match before with
  | [] => some latest.items
  | [earlier] => (earlier.merge less threshold latest).map fun merged => merged.1.items
  | earlier :: first :: rest =>
    if first.items.length < latest.items.length then
      (first.merge less threshold earlier).bind fun merged =>
        mergeAll less merged.2 latest (merged.1 :: rest)
    else
      (earlier.merge less threshold latest).bind fun merged =>
        mergeAll less merged.2 merged.1 (first :: rest)
termination_by before.length

/-! ### Sorting -/

/-- The threshold at which the first merge gallops. -/
def firstThreshold : Nat := 7

/-- The items in ascending order, equal ones in their given order. -/
def ascending (less : α → α → Option Bool) (items : List α) : Option (List α) :=
  (pushAll less (runGoal items.length 0) items.length items ⟨[], firstThreshold⟩).bind
    fun pending =>
      match pending.runs with
      | [] => some []
      | latest :: before => mergeAll less pending.threshold latest before

/-- The items in descending order, equal ones in their given order. -/
def descending (less : α → α → Option Bool) (items : List α) : Option (List α) :=
  (ascending less items.reverse).map List.reverse

end DocQuery.Sorting
