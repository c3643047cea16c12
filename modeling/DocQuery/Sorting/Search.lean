/-
This file finds places in a run of items that is in order.

A test says of an item whether it lies before the place that is looked for, and it may refuse to
answer. If it holds for the items up to some place and for none behind it, that place is found;
if it does not, as with undefined numbers among the items, the course of the search decides what
is found. So the course is fixed: halving looks at the item in the middle of a stretch, and a
search from an edge first goes out in strides of 1, 3, 7 and so on, to stop at the first item that
fails the test, and then halves what the last stride passed over.
-/

namespace DocQuery.Sorting

variable {α : Type}

/-- The edge from which a run is looked at. A run looked at from the back is a list with its last
item first. -/
inductive Edge
  | front
  | back
  deriving DecidableEq, Repr

/-- The middle of a stretch of a given width, counted from the edge. Where two items are in the
middle, it is the one farther from the front of the run. -/
def Edge.middle (edge : Edge) (width : Nat) : Nat :=
  match edge with
  | .front => width / 2
  | .back => (width - 1) / 2

theorem Edge.middle_lt (edge : Edge) {width : Nat} (positive : 0 < width) :
    edge.middle width < width := by
  cases edge <;> simp only [middle] <;> omega

/-! ### Halving -/

/-- The place between `low` and `high` at which the items stop to pass a test. -/
def bisect (edge : Edge) (test : α → Option Bool) (items : List α) (low high : Nat) : Option Nat :=
  if low < high then
    let middle := low + edge.middle (high - low)
    match items[middle]? with
    | none => some high
    | some item =>
      (test item).bind fun before =>
        if before then bisect edge test items (middle + 1) high
        else bisect edge test items low middle
  else some high
termination_by high - low
decreasing_by
  all_goals
    have inside := edge.middle_lt (Nat.sub_pos_of_lt ‹low < high›)
    omega

/-! ### Strides -/

/-- The stretch in which the items stop to pass a test, known to pass it up to `last`. The next
item to be looked at is at `next`. -/
def stride (test : α → Option Bool) (items : List α) (last next : Nat) : Option (Nat × Nat) :=
  if within : next < items.length then
    (test items[next]).bind fun before =>
      if before then stride test items next (2 * next + 1) else some (last + 1, next)
  else some (last + 1, items.length)
termination_by items.length - next

/-- The number of items at an edge that pass a test. -/
def reach (edge : Edge) (test : α → Option Bool) (items : List α) : Option Nat :=
  match items with
  | [] => some 0
  | first :: _ =>
    (test first).bind fun before =>
      if before then
        (stride test items 0 1).bind fun stretch => bisect edge test items stretch.1 stretch.2
      else some 0

end DocQuery.Sorting
