/-
This file proves that the searches find the place they look for.

A test splits a list at a place if it answers for all items, and passes exactly those before the
place. Halving keeps the place between its bounds, and so does the way out from the edge in
strides, whatever the middles and the strides are. So the outcome depends on the place alone.
-/

import DocQuery.Proofs.Sorting.Order

namespace DocQuery.Sorting

variable {α : Type}

/-! ### Places -/

/-- A test passes the items before a place, and no others. -/
structure Splits (test : α → Option Bool) (items : List α) (place : Nat) : Prop where
  within : place ≤ items.length
  answers : ∀ position (inside : position < items.length),
    test items[position] = some (decide (position < place))

/-- A test that no item passes behind one that fails splits the list. -/
theorem exists_splits {test : α → Option Bool} {passes : α → Prop} [DecidablePred passes]
    {items : List α} (answers : ∀ item ∈ items, test item = some (decide (passes item)))
    (closed : items.Pairwise fun first second => passes second → passes first) :
    ∃ place, Splits test items place ∧ (∀ item ∈ items.take place, passes item) ∧
      ∀ item ∈ items.drop place, ¬ passes item := by
  induction items with
  | nil =>
    refine ⟨0, ⟨Nat.le_refl _, fun position inside => ?_⟩, fun item member => ?_,
      fun item member => ?_⟩
    · cases inside
    · cases member
    · cases member
  | cons first rest inductionHypothesis =>
    obtain ⟨closedFirst, closedRest⟩ := List.pairwise_cons.mp closed
    obtain ⟨place, splits, before, behind⟩ := inductionHypothesis
      (fun item member => answers item (List.mem_cons_of_mem first member)) closedRest
    have answered := answers first List.mem_cons_self
    by_cases passed : passes first
    · refine ⟨place + 1, ⟨Nat.succ_le_succ splits.within, fun position inside => ?_⟩, ?_, behind⟩
      · cases position with
        | zero =>
          rw [List.getElem_cons_zero, answered, decide_eq_true passed]
          simp
        | succ position =>
          rw [List.getElem_cons_succ, splits.answers position (Nat.lt_of_succ_lt_succ inside)]
          simp
      · intro item member
        rcases List.mem_cons.mp member with rfl | later
        · exact passed
        · exact before item later
    · -- Nothing behind the first item passes either.
      have failed : ∀ item ∈ first :: rest, ¬ passes item := by
        intro item member
        rcases List.mem_cons.mp member with rfl | later
        · exact passed
        · exact fun passedItem => passed (closedFirst item later passedItem)
      refine ⟨0, ⟨Nat.zero_le _, fun position inside => ?_⟩, fun item member => ?_, failed⟩
      · have fails := failed _ (List.getElem_mem inside)
        rw [answers _ (List.getElem_mem inside), decide_eq_false fails]
        simp
      · cases member

namespace Splits

variable {test : α → Option Bool} {items : List α} {place : Nat}

/-! ### Searches -/

/-- Halving finds the place between two bounds, whichever middles it looks at. -/
theorem bisect (splits : Splits test items place) (edge : Edge) {low high : Nat}
    (above : low ≤ place) (below : place ≤ high) (inside : high ≤ items.length) :
    bisect edge test items low high = some place := by
  induction width : high - low using Nat.strongRecOn generalizing low high with
  | ind width inductionHypothesis =>
    by_cases nonempty : low < high
    · have smaller := edge.middle_lt (Nat.sub_pos_of_lt nonempty)
      have there : low + edge.middle (high - low) < items.length := by omega
      rw [Sorting.bisect, if_pos nonempty]
      simp only [List.getElem?_eq_getElem there, splits.answers _ there, Option.bind_some]
      by_cases passed : low + edge.middle (high - low) < place
      · rw [if_pos (decide_eq_true passed)]
        exact inductionHypothesis _ (by omega) (by omega) below inside rfl
      · rw [if_neg (by simpa using passed)]
        exact inductionHypothesis _ (by omega) above (by omega) (by omega) rfl
    · have same : high = place := by omega
      rw [Sorting.bisect, if_neg nonempty, same]

/-- The way out from the edge ends with bounds of the place. -/
theorem stride (splits : Splits test items place) {last next : Nat} (passed : last < place)
    (ahead : last < next) :
    ∃ low high, stride test items last next = some (low, high) ∧
      low ≤ place ∧ place ≤ high ∧ high ≤ items.length := by
  have within := splits.within
  induction remaining : items.length - next using Nat.strongRecOn
    generalizing last next with
  | ind remaining inductionHypothesis =>
    rw [Sorting.stride]
    by_cases there : next < items.length
    · rw [dif_pos there, splits.answers next there, Option.bind_some]
      by_cases further : next < place
      · rw [if_pos (decide_eq_true further)]
        exact inductionHypothesis _ (by omega) further (by omega) rfl
      · rw [if_neg (by simpa using further)]
        exact ⟨last + 1, next, rfl, passed, by omega, by omega⟩
    · rw [dif_neg there]
      exact ⟨last + 1, items.length, rfl, passed, within, Nat.le_refl _⟩

/-- A search from an edge finds the place. -/
theorem reach (splits : Splits test items place) (edge : Edge) :
    reach edge test items = some place := by
  have within := splits.within
  cases items with
  | nil =>
    have none : place = 0 := Nat.le_zero.mp within
    rw [Sorting.reach, none]
  | cons first rest =>
    have answered : test first = some (decide (0 < place)) :=
      splits.answers 0 (Nat.zero_lt_succ _)
    rw [Sorting.reach, answered, Option.bind_some]
    by_cases passed : 0 < place
    · obtain ⟨low, high, found, above, below, inside⟩ := splits.stride passed Nat.zero_lt_one
      rw [if_pos (decide_eq_true passed), found, Option.bind_some]
      exact splits.bisect edge above below inside
    · have none : place = 0 := by omega
      rw [if_neg (by simpa using passed), none]

end Splits

end DocQuery.Sorting
