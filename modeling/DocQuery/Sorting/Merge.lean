/-
This file merges two neighbouring runs into one.

A merge goes from one edge to the other. From the front it holds the earlier run and takes the
items of the later one first where they are below; from the back it holds the later run and goes
through both with the last item first. Either way the first item comes from the other run, and
the last item of the held run comes at the very end, as the start of the merge has made sure.

Items are first compared one by one. When one run has given so many items in a row that the
threshold is reached, the merge gallops: it looks how far each run reaches before the head of the
other one, and takes whole stretches. It goes back to single items after a round in which both
stretches were short. Rounds lower the threshold, and going back raises it, so that it follows
the items; the next merge starts with the threshold that this one leaves.
-/

import DocQuery.Sorting.Search

namespace DocQuery.Sorting

variable {α : Type}

/-! ### Merges under way -/

/-- The two runs of a merge. -/
inductive Side
  | held
  | other
  deriving DecidableEq, Repr

/-- The opposite run. -/
def Side.opposite : Side → Side
  | .held => .other
  | .other => .held

/-- The run from which a round of galloping first takes a stretch. -/
def Edge.leader : Edge → Side
  | .front => .held
  | .back => .other

/-- A merge under way: the merged items, last one first, and what is left of the two runs. -/
structure Merge (α : Type) where
  done : List α
  held : List α
  other : List α
  deriving Repr

namespace Merge

/-- The number of items that are not merged yet. -/
def size (merge : Merge α) : Nat := merge.held.length + merge.other.length

/-- Takes items from one of the runs. -/
def take (side : Side) (count : Nat) (merge : Merge α) : Merge α :=
  match side with
  | .held =>
    { merge with
      done := (merge.held.take count).reverse ++ merge.done
      held := merge.held.drop count }
  | .other =>
    { merge with
      done := (merge.other.take count).reverse ++ merge.done
      other := merge.other.drop count }

/-- Whether nothing is left to compare: the other run is used up, or the held one but for its
last item. -/
def settled (merge : Merge α) : Bool :=
  match merge.held, merge.other with
  | _ :: _ :: _, _ :: _ => false
  | _, _ => true

/-- The items of a settled merge, in order from the edge. -/
def items (merge : Merge α) : List α := merge.done.reverse ++ (merge.other ++ merge.held)

/-- How far a run reaches before the head of the opposite one. -/
def stretch (edge : Edge) (goesFirst : α → α → Option Bool) (side : Side) (merge : Merge α) :
    Option Nat :=
  match side, merge.held, merge.other with
  | .held, held, head :: _ => reach edge (fun item => (goesFirst head item).map not) held
  | .other, head :: _, other => reach edge (fun item => goesFirst item head) other
  | _, _, _ => some 0

theorem size_take_le (side : Side) (count : Nat) (merge : Merge α) :
    (merge.take side count).size ≤ merge.size := by
  cases side <;> simp only [take, size, List.length_drop] <;> omega

theorem size_take_one {merge : Merge α} (unsettled : merge.settled = false) (side : Side) :
    (merge.take side 1).size + 1 = merge.size := by
  obtain ⟨done, held, other⟩ := merge
  match held, other with
  | [], _ | [_], _ | _ :: _ :: _, [] => simp [settled] at unsettled
  | _ :: _ :: _, _ :: _ => cases side <;> simp [take, size] <;> omega

end Merge

/-! ### Steps -/

/-- How a merge goes on: by single items, where it is known how many each run has given in a row,
or by a round of galloping, which takes a stretch and an item twice and remembers the longer of
its stretches. -/
inductive Pace
  | single (heldStreak otherStreak : Nat)
  | firstStretch
  | firstItem (longest : Nat)
  | secondStretch (longest : Nat)
  | secondItem (longest : Nat)
  | roundEnd (longest : Nat)
  deriving DecidableEq, Repr

/-- The length of a stretch that is worth another round. -/
def longStretch : Nat := 7

/-- A merge with its pace and the threshold at which it gallops. -/
structure Course (α : Type) where
  merge : Merge α
  pace : Pace
  threshold : Nat
  deriving Repr

namespace Course

/-- A bound on the steps that are left. -/
def measure (course : Course α) : Nat :=
  5 * course.merge.size +
    match course.pace with
    | .roundEnd _ => 4
    | .single _ _ => 3
    | .firstStretch | .secondStretch _ => 2
    | .firstItem _ | .secondItem _ => 1

/-- The pace after a run has given so many items in a row. -/
def paceAfter (side : Side) (streak threshold : Nat) : Pace :=
  if threshold ≤ streak then .firstStretch
  else
    match side with
    | .held => .single streak 0
    | .other => .single 0 streak

/-- Compares the heads of the two runs and takes the one that goes first. -/
def takeSingle (goesFirst : α → α → Option Bool) (heldStreak otherStreak : Nat)
    (course : Course α) : Option (Course α) :=
  match course.merge.held, course.merge.other with
  | held :: _, other :: _ =>
    (goesFirst other held).map fun first =>
      if first then
        { course with
          merge := course.merge.take .other 1
          pace := paceAfter .other (otherStreak + 1) course.threshold }
      else
        { course with
          merge := course.merge.take .held 1
          pace := paceAfter .held (heldStreak + 1) course.threshold }
  | _, _ => none

/-- Takes the stretch of a run, and gives the pace that its length leads to. -/
def takeStretch (edge : Edge) (goesFirst : α → α → Option Bool) (side : Side)
    (next : Nat → Pace) (course : Course α) : Option (Course α) :=
  (course.merge.stretch edge goesFirst side).map fun length =>
    { course with merge := course.merge.take side length, pace := next length }

/-- What follows a round: another one, or single items. -/
def afterRound (longest : Nat) (course : Course α) : Course α :=
  if longStretch ≤ longest then
    { course with pace := .firstStretch, threshold := max 1 (course.threshold - 1) }
  else { course with pace := .single 0 0, threshold := course.threshold + 1 }

/-- One step of a merge that is not settled. -/
def step (edge : Edge) (goesFirst : α → α → Option Bool) (course : Course α) :
    Option (Course α) :=
  match course.pace with
  | .single heldStreak otherStreak => course.takeSingle goesFirst heldStreak otherStreak
  | .firstStretch => course.takeStretch edge goesFirst edge.leader .firstItem
  | .firstItem longest =>
    some { course with
      merge := course.merge.take edge.leader.opposite 1
      pace := .secondStretch longest }
  | .secondStretch longest =>
    course.takeStretch edge goesFirst edge.leader.opposite fun length =>
      .secondItem (max longest length)
  | .secondItem longest =>
    some { course with
      merge := course.merge.take edge.leader 1
      pace := .roundEnd longest }
  | .roundEnd longest => some (course.afterRound longest)

theorem measure_paceAfter (merge : Merge α) (side : Side) (streak threshold : Nat) :
    measure ⟨merge, paceAfter side streak threshold, threshold⟩ ≤ 5 * merge.size + 3 := by
  unfold paceAfter
  split
  · simp [measure]
  · cases side <;> simp [measure]

theorem measure_takeSingle {goesFirst : α → α → Option Bool} {heldStreak otherStreak : Nat}
    {course next : Course α} (unsettled : course.merge.settled = false)
    (taken : course.takeSingle goesFirst heldStreak otherStreak = some next) :
    next.measure < 5 * course.merge.size := by
  rw [takeSingle] at taken
  split at taken
  · obtain ⟨first, _, rfl⟩ := Option.map_eq_some_iff.mp taken
    cases first
    · have smaller := Merge.size_take_one unsettled .held
      have bound := measure_paceAfter (course.merge.take .held 1) .held (heldStreak + 1)
        course.threshold
      simp only [Bool.false_eq_true, if_false]
      omega
    · have smaller := Merge.size_take_one unsettled .other
      have bound := measure_paceAfter (course.merge.take .other 1) .other (otherStreak + 1)
        course.threshold
      simp only [if_true]
      omega
  · cases taken

/-- Every step of a merge that is not settled brings its end nearer. -/
theorem measure_step {edge : Edge} {goesFirst : α → α → Option Bool} {course next : Course α}
    (unsettled : course.merge.settled = false)
    (stepped : course.step edge goesFirst = some next) : next.measure < course.measure := by
  obtain ⟨merge, pace, threshold⟩ := course
  cases pace with
  | single heldStreak otherStreak =>
    have smaller := measure_takeSingle unsettled stepped
    simp only [measure] at smaller ⊢
    omega
  | firstStretch =>
    obtain ⟨length, _, rfl⟩ := Option.map_eq_some_iff.mp stepped
    have smaller := Merge.size_take_le edge.leader length merge
    simp only [measure]
    omega
  | firstItem longest =>
    have smaller := Merge.size_take_one unsettled edge.leader.opposite
    rw [step, Option.some.injEq] at stepped
    subst stepped
    simp only [measure] at smaller ⊢
    omega
  | secondStretch longest =>
    obtain ⟨length, _, rfl⟩ := Option.map_eq_some_iff.mp stepped
    have smaller := Merge.size_take_le edge.leader.opposite length merge
    simp only [measure]
    omega
  | secondItem longest =>
    have smaller := Merge.size_take_one unsettled edge.leader
    rw [step, Option.some.injEq] at stepped
    subst stepped
    simp only [measure] at smaller ⊢
    omega
  | roundEnd longest =>
    rw [step, Option.some.injEq] at stepped
    subst stepped
    rw [afterRound]
    split <;> simp [measure]

/-- Goes on until the merge is settled: the items, and the threshold that is left. -/
def complete (edge : Edge) (goesFirst : α → α → Option Bool) (course : Course α) :
    Option (List α × Nat) :=
  if course.merge.settled = false then
    match _ : course.step edge goesFirst with
    | none => none
    | some next => complete edge goesFirst next
  else some (course.merge.items, course.threshold)
termination_by course.measure
decreasing_by exact measure_step ‹_› ‹_›

end Course

/-! ### Merging -/

/-- Merges a held run with another one whose first item goes before all items of the held one. -/
def mergeFrom (edge : Edge) (goesFirst : α → α → Option Bool) (threshold : Nat)
    (held other : List α) : Option (List α × Nat) :=
  Course.complete edge goesFirst
    ⟨({ done := [], held := held, other := other } : Merge α).take .other 1, .single 0 0, threshold⟩

/-- Merges the parts of two neighbouring runs that lie between the first item of the later and
the last item of the earlier one, from the edge where the shorter of them is held. -/
def mergeContested (less : α → α → Option Bool) (threshold : Nat) (earlier later : List α) :
    Option (List α × Nat) :=
  if earlier.length ≤ later.length then mergeFrom .front less threshold earlier later
  else
    (mergeFrom .back (fun other held => less held other) threshold later.reverse
      earlier.reverse).map fun merged => (merged.1.reverse, merged.2)

/-- Merges two neighbouring runs. Items of the earlier one that are not above the first item of
the later one stay in front, and items of the later one that are not below the last item of the
earlier one stay behind. -/
def mergeRuns (less : α → α → Option Bool) (threshold : Nat) (earlier later : List α) :
    Option (List α × Nat) :=
  match later.head? with
  | none => some (earlier, threshold)
  | some first =>
    (reach .front (fun item => (less first item).map not) earlier).bind fun front =>
      match (earlier.drop front).getLast? with
      | none => some (earlier ++ later, threshold)
      | some last =>
        (reach .back (fun item => (less item last).map not) later.reverse).bind fun back =>
          let border := later.length - back
          if border = 0 then some (earlier ++ later, threshold)
          else
            (mergeContested less threshold (earlier.drop front) (later.take border)).map
              fun merged => (earlier.take front ++ merged.1 ++ later.drop border, merged.2)

end DocQuery.Sorting
