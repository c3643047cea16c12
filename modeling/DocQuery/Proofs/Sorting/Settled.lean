/-
This file proves that a sort that goes through has settled the order of any two items.

A comparison that answers more questions than another, and answers the same where both do, leads
the sort along the same course: every part of it that goes through for the first goes through
alike for the second. Suppose now that the answers respect a preorder and that it leaves two items
apart. Then the preorder can be extended by putting the one below the other, or the other way
round, and the comparison can be filled up by either extension. Both are total, so both sorts put
the items in order; but both are the sort of the comparison that was there at first, and it cannot
put the two items in both orders.
-/

import DocQuery.Proofs.Sorting.Stable
import Mathlib.Data.List.Pairwise

namespace DocQuery.Sorting

variable {α β γ : Type}

/-! ### Answers that stay -/

/-- Where one question has an answer, another has the same. -/
def Stays (answer further : Option β) : Prop := ∀ result, answer = some result →
  further = some result

namespace Stays

theorem refl (answer : Option β) : Stays answer answer := fun _ found => found

theorem of_none (further : Option β) : Stays none further := fun _ found => nomatch found

theorem bind {answer further : Option β} {next following : β → Option γ}
    (stays : Stays answer further) (nextStays : ∀ result, Stays (next result) (following result)) :
    Stays (answer.bind next) (further.bind following) := by
  intro result found
  obtain ⟨between, first, second⟩ := Option.bind_eq_some_iff.mp found
  rw [stays between first, Option.bind_some]
  exact nextStays between result second

theorem map {answer further : Option β} (stays : Stays answer further) (function : β → γ) :
    Stays (answer.map function) (further.map function) := by
  intro result found
  obtain ⟨between, first, same⟩ := Option.map_eq_some_iff.mp found
  rw [stays between first, Option.map_some, same]

theorem ite {condition : Prop} [Decidable condition] {answer further other ending : Option β}
    (stays : Stays answer further) (otherStays : Stays other ending) :
    Stays (if condition then answer else other) (if condition then further else ending) := by
  split
  · exact stays
  · exact otherStays

end Stays

/-! ### Searches -/

section Searches

variable {test fuller : α → Option Bool}

theorem stays_bisect (stays : ∀ item, Stays (test item) (fuller item)) (edge : Edge)
    (items : List α) (low high : Nat) :
    Stays (bisect edge test items low high) (bisect edge fuller items low high) := by
  induction width : high - low using Nat.strongRecOn generalizing low high with
  | ind width inductionHypothesis =>
    rw [bisect.eq_def edge test, bisect.eq_def edge fuller]
    split
    · next nonempty =>
      have smaller := edge.middle_lt (Nat.sub_pos_of_lt nonempty)
      dsimp only
      split
      · exact Stays.refl _
      · refine (stays _).bind fun before => Stays.ite ?_ ?_
        · exact inductionHypothesis _ (by omega) _ _ rfl
        · exact inductionHypothesis _ (by omega) _ _ rfl
    · exact Stays.refl _

theorem stays_stride (stays : ∀ item, Stays (test item) (fuller item)) (items : List α)
    (last next : Nat) : Stays (stride test items last next) (stride fuller items last next) := by
  induction remaining : items.length - next using Nat.strongRecOn generalizing last next with
  | ind remaining inductionHypothesis =>
    rw [stride.eq_def test, stride.eq_def fuller]
    split
    · refine (stays _).bind fun before => Stays.ite ?_ (Stays.refl _)
      exact inductionHypothesis _ (by omega) _ _ rfl
    · exact Stays.refl _

theorem stays_reach (stays : ∀ item, Stays (test item) (fuller item)) (edge : Edge)
    (items : List α) : Stays (reach edge test items) (reach edge fuller items) := by
  cases items with
  | nil => exact Stays.refl _
  | cons first rest =>
    refine (stays first).bind fun before => Stays.ite ?_ (Stays.refl _)
    exact (stays_stride stays _ _ _).bind fun stretch => stays_bisect stays edge _ _ _

end Searches

/-! ### Runs -/

/-- A comparison answers everything that another one does, and alike. -/
def Extends (less fuller : α → α → Option Bool) : Prop :=
  ∀ first second, Stays (less first second) (fuller first second)

namespace Extends

variable {less fuller : α → α → Option Bool}

/-- The test whether an item is not below another one. -/
theorem notBelow (fills : Extends less fuller) (first second : α) :
    Stays ((less first second).map not) ((fuller first second).map not) :=
  (fills first second).map not

theorem descendingRun (fills : Extends less fuller) (last : α) (reversed items : List α) :
    Stays (descendingRun less last reversed items) (descendingRun fuller last reversed items) := by
  induction items generalizing last reversed with
  | nil => exact Stays.refl _
  | cons item rest inductionHypothesis =>
    exact (fills item last).bind fun below =>
      Stays.ite (inductionHypothesis item (last :: reversed)) (Stays.refl _)

theorem ascendingRun (fills : Extends less fuller) (last : α) (items : List α) :
    Stays (ascendingRun less last items) (ascendingRun fuller last items) := by
  induction items generalizing last with
  | nil => exact Stays.refl _
  | cons item rest inductionHypothesis =>
    exact (fills item last).bind fun below =>
      Stays.ite (Stays.refl _) ((inductionHypothesis item).map _)

theorem leadingRun (fills : Extends less fuller) (first : α) (items : List α) :
    Stays (leadingRun less first items) (leadingRun fuller first items) := by
  cases items with
  | nil => exact Stays.refl _
  | cons second rest =>
    exact (fills second first).bind fun below =>
      Stays.ite (fills.descendingRun second [first] rest) ((fills.ascendingRun second rest).map _)

theorem placeAll (fills : Extends less fuller) (items run : List α) :
    Stays (placeAll less items run) (placeAll fuller items run) := by
  induction items generalizing run with
  | nil => exact Stays.refl _
  | cons item rest inductionHypothesis =>
    have placed : Stays (place less item run) (place fuller item run) :=
      (stays_bisect (fills.notBelow item) .front run 0 run.length).map _
    exact placed.bind inductionHypothesis

theorem nextRun (fills : Extends less fuller) (goal : Nat) (first : α) (rest : List α) :
    Stays (nextRun less goal first rest) (nextRun fuller goal first rest) :=
  (fills.leadingRun first rest).bind fun _ => (fills.placeAll _ _).map _

/-! ### Merges -/

theorem stretch (fills : Extends less fuller) (edge : Edge) (side : Side) (merge : Merge α) :
    Stays (merge.stretch edge less side) (merge.stretch edge fuller side) := by
  obtain ⟨done, held, other⟩ := merge
  cases side with
  | held =>
    cases other with
    | nil => exact Stays.refl _
    | cons head others => exact stays_reach (fills.notBelow head) edge held
  | other =>
    cases held with
    | nil => exact Stays.refl _
    | cons head others => exact stays_reach (fun item => fills item head) edge other

theorem takeSingle (fills : Extends less fuller) (heldStreak otherStreak : Nat)
    (course : Course α) :
    Stays (course.takeSingle less heldStreak otherStreak)
      (course.takeSingle fuller heldStreak otherStreak) := by
  unfold Course.takeSingle
  split
  · exact (fills _ _).map _
  · exact Stays.refl _

theorem step (fills : Extends less fuller) (edge : Edge) (course : Course α) :
    Stays (course.step edge less) (course.step edge fuller) := by
  obtain ⟨merge, pace, threshold⟩ := course
  cases pace with
  | single heldStreak otherStreak => exact fills.takeSingle heldStreak otherStreak _
  | firstStretch => exact (fills.stretch edge edge.leader merge).map _
  | firstItem longest => exact Stays.refl _
  | secondStretch longest => exact (fills.stretch edge edge.leader.opposite merge).map _
  | secondItem longest => exact Stays.refl _
  | roundEnd longest => exact Stays.refl _

theorem complete (fills : Extends less fuller) (edge : Edge) (course : Course α) :
    Stays (course.complete edge less) (course.complete edge fuller) := by
  induction left : course.measure using Nat.strongRecOn generalizing course with
  | ind left inductionHypothesis =>
    rw [Course.complete.eq_def edge less, Course.complete.eq_def edge fuller]
    split
    · next unsettled =>
      split
      · exact Stays.of_none _
      · next next stepped =>
        have further := fills.step edge course next stepped
        have nearer := Course.measure_step unsettled stepped
        split
        · next refused =>
          rw [refused] at further
          cases further
        · next last found =>
          obtain rfl := Option.some.inj (further.symm.trans found)
          exact inductionHypothesis _ (left ▸ nearer) next rfl
    · exact Stays.refl _

theorem mergeFrom (fills : Extends less fuller) (edge : Edge) (threshold : Nat)
    (held other : List α) :
    Stays (mergeFrom edge less threshold held other)
      (mergeFrom edge fuller threshold held other) :=
  fills.complete edge _

theorem mergeContested (fills : Extends less fuller) (threshold : Nat) (earlier later : List α) :
    Stays (mergeContested less threshold earlier later)
      (mergeContested fuller threshold earlier later) := by
  have turned : Extends (fun other held => less held other) (fun other held => fuller held other) :=
    fun other held => fills held other
  exact Stays.ite (fills.mergeFrom .front threshold earlier later)
    ((turned.mergeFrom .back threshold later.reverse earlier.reverse).map _)

theorem mergeRuns (fills : Extends less fuller) (threshold : Nat) (earlier later : List α) :
    Stays (mergeRuns less threshold earlier later) (mergeRuns fuller threshold earlier later) := by
  unfold Sorting.mergeRuns
  split
  · exact Stays.refl _
  · refine (stays_reach (fills.notBelow _) .front earlier).bind fun front => ?_
    split
    · exact Stays.refl _
    · next last ends =>
      refine (stays_reach (fun item => fills.notBelow item last) .back later.reverse).bind
        fun back => ?_
      exact Stays.ite (Stays.refl _) ((fills.mergeContested threshold _ _).map _)

/-! ### Sorts -/

theorem merge (fills : Extends less fuller) (threshold : Nat) (run next : PendingRun α) :
    Stays (run.merge less threshold next) (run.merge fuller threshold next) :=
  (fills.mergeRuns threshold run.items next.items).map _

theorem mergeAbove (fills : Extends less fuller) (power threshold : Nat) (latest : PendingRun α)
    (before : List (PendingRun α)) :
    Stays (mergeAbove less power threshold latest before)
      (mergeAbove fuller power threshold latest before) := by
  induction before generalizing threshold latest with
  | nil => exact Stays.refl _
  | cons earlier rest inductionHypothesis =>
    exact Stays.ite ((fills.merge threshold earlier latest).bind fun merged =>
      inductionHypothesis merged.2 merged.1) (Stays.refl _)

theorem push (fills : Extends less fuller) (total : Nat) (items : List α) (pending : Pending α) :
    Stays (pending.push less total items) (pending.push fuller total items) := by
  obtain ⟨runs, threshold⟩ := pending
  cases runs with
  | nil => exact Stays.refl _
  | cons latest rest => exact (fills.mergeAbove _ threshold latest rest).map _

theorem pushAll (fills : Extends less fuller) (goal total : Nat) (items : List α)
    (pending : Pending α) :
    Stays (pushAll less goal total items pending) (pushAll fuller goal total items pending) := by
  induction length : items.length using Nat.strongRecOn generalizing items pending with
  | ind count inductionHypothesis =>
    rw [pushAll.eq_def less, pushAll.eq_def fuller]
    cases items with
    | nil => exact Stays.refl _
    | cons first rest =>
      dsimp only
      split
      · exact Stays.of_none _
      · next run cut =>
        have further := fills.nextRun goal first rest run cut
        have shorter : run.2.length < count := length ▸ Nat.lt_succ_of_le (length_nextRun cut)
        split
        · exact Stays.of_none _
        · next next pushed =>
          have furtherPushed := fills.push total run.1 pending next pushed
          split
          · next refused =>
            rw [refused] at further
            cases further
          · next found same =>
            obtain rfl := Option.some.inj (further.symm.trans same)
            rw [furtherPushed]
            exact inductionHypothesis _ shorter run.2 next rfl

theorem mergeAll (fills : Extends less fuller) (threshold : Nat) (latest : PendingRun α)
    (before : List (PendingRun α)) :
    Stays (mergeAll less threshold latest before) (mergeAll fuller threshold latest before) := by
  induction length : before.length generalizing latest before threshold with
  | zero =>
    obtain rfl := List.length_eq_zero_iff.mp length
    rw [Sorting.mergeAll, Sorting.mergeAll]
    exact Stays.refl _
  | succ count inductionHypothesis =>
    obtain ⟨earlier, others, rfl⟩ := List.exists_cons_of_length_eq_add_one length
    have fewer : others.length = count := Nat.succ.inj length
    cases others with
    | nil =>
      rw [Sorting.mergeAll, Sorting.mergeAll]
      exact (fills.merge threshold earlier latest).map _
    | cons first rest =>
      rw [Sorting.mergeAll, Sorting.mergeAll]
      refine Stays.ite ((fills.merge threshold first earlier).bind fun merged => ?_)
        ((fills.merge threshold earlier latest).bind fun merged => ?_)
      · exact inductionHypothesis merged.2 latest (merged.1 :: rest) fewer
      · exact inductionHypothesis merged.2 merged.1 (first :: rest) fewer

/-- A sort that goes through goes through alike for every comparison that answers more. -/
theorem ascending (fills : Extends less fuller) (items : List α) :
    Stays (ascending less items) (ascending fuller items) := by
  refine (fills.pushAll _ _ items _).bind fun pending => ?_
  split
  · exact Stays.refl _
  · exact fills.mergeAll _ _ _

end Extends

/-! ### Items that are settled -/

/-- A preorder that a comparison respects: what it puts below is below, and what it does not put
below is at most as high. It need not be total, and the comparison need not answer. -/
structure Respects (less : α → α → Option Bool) (items : List α) (atMost : α → α → Prop) :
    Prop where
  refl : ∀ item, atMost item item
  trans : ∀ {first second third}, first ∈ items → second ∈ items → third ∈ items →
    atMost first second → atMost second third → atMost first third
  below : ∀ {first second}, first ∈ items → second ∈ items → less first second = some true →
    atMost first second ∧ ¬ atMost second first
  notBelow : ∀ {first second}, first ∈ items → second ∈ items →
    less first second = some false → atMost second first

namespace Respects

variable {less : α → α → Option Bool} {items : List α} {atMost : α → α → Prop}

/-- Two items that are apart can be put in order, one below the other. -/
theorem extend (respects : Respects less items atMost) {lower upper : α}
    (inLower : lower ∈ items) (inUpper : upper ∈ items) (apart : ¬ atMost upper lower) :
    Respects less items fun first second =>
      atMost first second ∨ atMost first lower ∧ atMost upper second where
  refl item := .inl (respects.refl item)
  trans := by
    rintro first second third inFirst inSecond inThird (one | one) (other | other)
    · exact .inl (respects.trans inFirst inSecond inThird one other)
    · exact .inr ⟨respects.trans inFirst inSecond inLower one other.1, other.2⟩
    · exact .inr ⟨one.1, respects.trans inUpper inSecond inThird one.2 other⟩
    · exact absurd (respects.trans inUpper inSecond inLower one.2 other.1) apart
  below := by
    intro first second inFirst inSecond answered
    obtain ⟨below, notAbove⟩ := respects.below inFirst inSecond answered
    refine ⟨.inl below, ?_⟩
    rintro (above | ⟨low, high⟩)
    · exact notAbove above
    · refine apart (respects.trans inUpper inFirst inLower high ?_)
      exact respects.trans inFirst inSecond inLower below low
  notBelow inFirst inSecond answered := .inl (respects.notBelow inFirst inSecond answered)

open Classical in
/-- The number of items that are at most as high as an item. -/
noncomputable def height (items : List α) (atMost : α → α → Prop) (item : α) : Int :=
  (items.countP fun other => decide (atMost other item) : Nat)

theorem height_le (respects : Respects less items atMost) {first second : α}
    (inFirst : first ∈ items) (inSecond : second ∈ items) (ordered : atMost first second) :
    height items atMost first ≤ height items atMost second := by
  classical
  refine Int.ofNat_le.mpr (List.countP_mono_left fun other inOther counted => ?_)
  exact decide_eq_true (respects.trans inOther inFirst inSecond (of_decide_eq_true counted) ordered)

theorem height_lt (respects : Respects less items atMost) {first second : α}
    (inFirst : first ∈ items) (inSecond : second ∈ items) (ordered : atMost first second)
    (apart : ¬ atMost second first) :
    height items atMost first < height items atMost second := by
  classical
  refine Int.ofNat_lt.mpr (countP_lt_countP (fun other inOther counted => ?_) inSecond
    (decide_eq_true (respects.refl second)) (decide_eq_false apart))
  exact decide_eq_true (respects.trans inOther inFirst inSecond (of_decide_eq_true counted) ordered)

/-- A sort that goes through puts the items in the order of their heights. -/
theorem ascends_of_ascending (respects : Respects less items atMost) {sorted : List α}
    (found : ascending less items = some sorted) :
    Ascends (height items atMost) sorted ∧ ∀ item ∈ items, item ∈ sorted := by
  let fuller (first second : α) : Option Bool :=
    (less first second).or
      (some (decide (height items atMost first < height items atMost second)))
  have fills : Extends less fuller := by
    intro first second answer answered
    show (less first second).or _ = _
    rw [answered, Option.some_or]
  have agrees : Agrees fuller (height items atMost) items := by
    intro first inFirst second inSecond
    show (less first second).or _ = _
    cases answered : less first second with
    | none => rw [Option.none_or]
    | some answer =>
      rw [Option.some_or, Option.some.injEq]
      cases answer with
      | true =>
        obtain ⟨below, apart⟩ := respects.below inFirst inSecond answered
        exact (decide_eq_true (respects.height_lt inFirst inSecond below apart)).symm
      | false =>
        have atMostAsHigh := respects.height_le inSecond inFirst
          (respects.notBelow inFirst inSecond answered)
        exact (decide_eq_false (Int.not_lt.mpr atMostAsHigh)).symm
  obtain ⟨result, sortedFuller, stable⟩ := exists_ascending agrees
  obtain rfl : result = sorted :=
    Option.some.inj (sortedFuller.symm.trans (fills.ascending items sorted found))
  exact ⟨stable.ascends, fun item member => stable.levels.mem_iff.mp member⟩

/-- A sort that goes through has settled the order of any two items: a preorder that the
comparison respects does not leave them apart. -/
theorem settled (respects : Respects less items atMost) {sorted : List α}
    (found : ascending less items = some sorted) {first second : α} (inFirst : first ∈ items)
    (inSecond : second ∈ items) : atMost first second ∨ atMost second first := by
  by_contra apart
  obtain ⟨notUp, notDown⟩ := not_or.mp apart
  have up := respects.extend inFirst inSecond notDown
  have down := respects.extend inSecond inFirst notUp
  obtain ⟨upSorted, members⟩ := up.ascends_of_ascending found
  obtain ⟨downSorted, _⟩ := down.ascends_of_ascending found
  have firstLower := up.height_lt inFirst inSecond (.inr ⟨respects.refl first, respects.refl second⟩)
    fun back => back.elim notDown fun both => notDown both.1
  have secondLower := down.height_lt inSecond inFirst
    (.inr ⟨respects.refl second, respects.refl first⟩)
    fun back => back.elim notUp fun both => notUp both.1
  have different : first ≠ second := fun same => notUp (same ▸ respects.refl first)
  -- One of the two comes first in the outcome, and one of the two heights says it must not.
  have never : sorted.Pairwise fun one other =>
      ¬ (one = first ∧ other = second ∨ one = second ∧ other = first) := by
    refine (upSorted.and downSorted).imp fun {one other} ordered => ?_
    rintro (⟨rfl, rfl⟩ | ⟨rfl, rfl⟩)
    · exact Int.not_le.mpr secondLower ordered.2
    · exact Int.not_le.mpr firstLower ordered.1
  have : Std.Symm fun one other : α =>
      ¬ (one = first ∧ other = second ∨ one = second ∧ other = first) :=
    ⟨fun one other apart swapped => apart (swapped.symm.imp And.symm And.symm)⟩
  exact never.forall (members first inFirst) (members second inSecond) different (.inl ⟨rfl, rfl⟩)

/-- The same holds of a sort in descending order. -/
theorem settled_of_descending (respects : Respects less items atMost) {sorted : List α}
    (found : descending less items = some sorted) {first second : α} (inFirst : first ∈ items)
    (inSecond : second ∈ items) : atMost first second ∨ atMost second first := by
  obtain ⟨turned, foundTurned, _⟩ := Option.map_eq_some_iff.mp found
  have inside {item : α} (member : item ∈ items.reverse) : item ∈ items :=
    List.mem_reverse.mp member
  have turnedRespects : Respects less items.reverse atMost :=
    ⟨respects.refl, fun one other last => respects.trans (inside one) (inside other) (inside last),
      fun one other => respects.below (inside one) (inside other),
      fun one other => respects.notBelow (inside one) (inside other)⟩
  exact turnedRespects.settled foundTurned (List.mem_reverse.mpr inFirst)
    (List.mem_reverse.mpr inSecond)

end Respects

/-! ### Short lists -/

theorem ascending_nil (less : α → α → Option Bool) : ascending less [] = some [] := by
  simp [ascending, pushAll]

/-- A single item is compared with nothing. -/
theorem ascending_singleton (less : α → α → Option Bool) (item : α) :
    ascending less [item] = some [item] := by
  have run (goal : Nat) : nextRun less goal item [] = some ([item], []) := by
    simp [nextRun, leadingRun, placeAll]
  have pushed (goal : Nat) (pending : Pending α) (empty : pending.runs = []) :
      pushAll less goal 1 [item] pending = some { pending with runs := [⟨0, [item], 0⟩] } := by
    rw [pushAll.eq_def]
    dsimp only
    split
    · next refused => cases (run goal).symm.trans refused
    · next split found =>
      obtain rfl := Option.some.inj ((run goal).symm.trans found)
      simp [Pending.push, empty, pushAll]
  rw [ascending, List.length_singleton, pushed _ _ rfl, Option.bind_some]
  dsimp only
  rw [mergeAll]

end DocQuery.Sorting
