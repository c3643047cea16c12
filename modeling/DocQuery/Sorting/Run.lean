/-
This file cuts a list into runs: stretches that are brought into order before they are merged.

A run begins as the longest stretch at the start of the list that is in order already, or that
descends strictly and is turned round. If it is shorter than the goal, the items that follow are
placed into it one by one, each behind the items it is not below.
-/

import DocQuery.Sorting.Search

namespace DocQuery.Sorting

variable {α : Type}

/-! ### The stretch at the start -/

/-- Extends a descending stretch, kept last item first, by the items that go on descending. -/
def descendingRun (less : α → α → Option Bool) (last : α) (reversed : List α) :
    List α → Option (List α × List α)
  | [] => some (last :: reversed, [])
  | item :: rest =>
    (less item last).bind fun below =>
      if below then descendingRun less item (last :: reversed) rest
      else some (last :: reversed, item :: rest)

/-- Splits off the items behind `last` that go on without descending. -/
def ascendingRun (less : α → α → Option Bool) (last : α) : List α → Option (List α × List α)
  | [] => some ([], [])
  | item :: rest =>
    (less item last).bind fun below =>
      if below then some ([], item :: rest)
      else (ascendingRun less item rest).map fun split => (item :: split.1, split.2)

/-- The stretch that starts with an item, brought into order, and what follows it. -/
def leadingRun (less : α → α → Option Bool) (first : α) : List α → Option (List α × List α)
  | [] => some ([first], [])
  | second :: rest =>
    (less second first).bind fun below =>
      if below then descendingRun less second [first] rest
      else (ascendingRun less second rest).map fun split => (first :: second :: split.1, split.2)

/-! ### Placing further items -/

/-- Puts an item into its place in a run, behind all items it is not below. -/
def place (less : α → α → Option Bool) (item : α) (run : List α) : Option (List α) :=
  (bisect .front (fun other => (less item other).map not) run 0 run.length).map fun position =>
    run.take position ++ item :: run.drop position

/-- Puts items into a run, one after the other. -/
def placeAll (less : α → α → Option Bool) : List α → List α → Option (List α)
  | [], run => some run
  | item :: rest, run => (place less item run).bind (placeAll less rest)

/-! ### Runs -/

/-- The length that a run has to reach in a list of so many items: a short list is one run, and
a long one has a number of runs that is a power of two or slightly less. -/
def runGoal (count carry : Nat) : Nat :=
  if count < 64 then count + carry else runGoal (count / 2) (max carry (count % 2))
termination_by count

/-- The run that starts with an item, of the length of the goal at least if there are enough
items, and what follows it. -/
def nextRun (less : α → α → Option Bool) (goal : Nat) (first : α) (rest : List α) :
    Option (List α × List α) :=
  (leadingRun less first rest).bind fun split =>
    let missing := goal - split.1.length
    (placeAll less (split.2.take missing) split.1).map fun run => (run, split.2.drop missing)

/-! ### What follows a run -/

theorem length_descendingRun {less : α → α → Option Bool} {last : α} {reversed items : List α}
    {split : List α × List α} (found : descendingRun less last reversed items = some split) :
    split.2.length ≤ items.length := by
  induction items generalizing last reversed with
  | nil =>
    rw [descendingRun, Option.some.injEq] at found
    simp [← found]
  | cons item rest inductionHypothesis =>
    rw [descendingRun, Option.bind_eq_some_iff] at found
    obtain ⟨below, _, found⟩ := found
    split at found
    · exact Nat.le_succ_of_le (inductionHypothesis found)
    · rw [Option.some.injEq] at found
      simp [← found]

theorem length_ascendingRun {less : α → α → Option Bool} {last : α} {items : List α}
    {split : List α × List α} (found : ascendingRun less last items = some split) :
    split.2.length ≤ items.length := by
  induction items generalizing last split with
  | nil =>
    rw [ascendingRun, Option.some.injEq] at found
    simp [← found]
  | cons item rest inductionHypothesis =>
    rw [ascendingRun, Option.bind_eq_some_iff] at found
    obtain ⟨below, _, found⟩ := found
    split at found
    · rw [Option.some.injEq] at found
      simp [← found]
    · obtain ⟨others, further, rfl⟩ := Option.map_eq_some_iff.mp found
      have smaller := inductionHypothesis further
      exact Nat.le_succ_of_le smaller

theorem length_leadingRun {less : α → α → Option Bool} {first : α} {items : List α}
    {split : List α × List α} (found : leadingRun less first items = some split) :
    split.2.length ≤ items.length := by
  cases items with
  | nil =>
    rw [leadingRun, Option.some.injEq] at found
    simp [← found]
  | cons second rest =>
    rw [leadingRun, Option.bind_eq_some_iff] at found
    obtain ⟨below, _, found⟩ := found
    split at found
    · exact Nat.le_succ_of_le (length_descendingRun found)
    · obtain ⟨others, further, rfl⟩ := Option.map_eq_some_iff.mp found
      have smaller := length_ascendingRun further
      exact Nat.le_succ_of_le smaller

/-- A run takes its first item at least. -/
theorem length_nextRun {less : α → α → Option Bool} {goal : Nat} {first : α} {rest : List α}
    {split : List α × List α} (found : nextRun less goal first rest = some split) :
    split.2.length ≤ rest.length := by
  rw [nextRun, Option.bind_eq_some_iff] at found
  obtain ⟨leading, start, found⟩ := found
  obtain ⟨run, _, rfl⟩ := Option.map_eq_some_iff.mp found
  rw [List.length_drop]
  exact Nat.le_trans (Nat.sub_le _ _) (length_leadingRun start)

end DocQuery.Sorting
