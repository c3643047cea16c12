/-
This file proves that a sort knows its items by how they compare only.

If items stand for others, and compare as those do, then sorting them is sorting the others: every
part of a sort takes the same course on both. So lists that are alike, item by item, in a way that
no comparison can tell apart, are sorted alike, and if one of the sorts is refused then so is the
other. Nothing is assumed of the comparison: it may be refused, and it need not be an order.
-/

import DocQuery.Sorting.Stable
import Mathlib.Data.List.Forall2

namespace DocQuery.Sorting

variable {α β : Type} {stands : α → β}

/-! ### Searches -/

section Searches

variable {test : β → Option Bool} {inner : α → Option Bool}
  (same : ∀ item, test (stands item) = inner item)
include same

theorem bisect_map (edge : Edge) (items : List α) (low high : Nat) :
    bisect edge test (items.map stands) low high = bisect edge inner items low high := by
  induction width : high - low using Nat.strongRecOn generalizing low high with
  | ind width inductionHypothesis =>
    rw [bisect.eq_def edge test, bisect.eq_def edge inner]
    split
    · next nonempty =>
      have smaller := edge.middle_lt (Nat.sub_pos_of_lt nonempty)
      dsimp only
      rw [List.getElem?_map]
      cases items[low + edge.middle (high - low)]? with
      | none => rfl
      | some item =>
        simp only [Option.map_some, same]
        refine Option.bind_congr fun before _ => ?_
        cases before with
        | true => exact inductionHypothesis _ (by omega) _ _ rfl
        | false => exact inductionHypothesis _ (by omega) _ _ rfl
    · rfl

theorem stride_map (items : List α) (last next : Nat) :
    stride test (items.map stands) last next = stride inner items last next := by
  induction remaining : items.length - next using Nat.strongRecOn generalizing last next with
  | ind remaining inductionHypothesis =>
    rw [stride.eq_def test, stride.eq_def inner]
    by_cases within : next < items.length
    · rw [dif_pos (by rwa [List.length_map]), dif_pos within, List.getElem_map, same]
      refine Option.bind_congr fun before _ => ?_
      cases before with
      | true => exact inductionHypothesis _ (by omega) _ _ rfl
      | false => rfl
    · rw [dif_neg (by rwa [List.length_map]), dif_neg within, List.length_map]

theorem reach_map (edge : Edge) (items : List α) :
    reach edge test (items.map stands) = reach edge inner items := by
  cases items with
  | nil => rfl
  | cons first rest =>
    rw [List.map_cons, reach, reach, same]
    refine Option.bind_congr fun before _ => ?_
    cases before with
    | true =>
      rw [← List.map_cons, stride_map same]
      exact Option.bind_congr fun stretch _ => bisect_map same edge _ _ _
    | false => rfl

end Searches

/-! ### Runs -/

/-- Two lists of items, each replaced by what its items stand for. -/
def standBoth (stands : α → β) (split : List α × List α) : List β × List β :=
  (split.1.map stands, split.2.map stands)

section Runs

variable {less : β → β → Option Bool} {below : α → α → Option Bool}
  (same : ∀ first second, less (stands first) (stands second) = below first second)
include same

theorem descendingRun_map (last : α) (reversed items : List α) :
    descendingRun less (stands last) (reversed.map stands) (items.map stands) =
      (descendingRun below last reversed items).map (standBoth stands) := by
  induction items generalizing last reversed with
  | nil => rfl
  | cons item rest inductionHypothesis =>
    rw [List.map_cons, descendingRun, descendingRun, same, Option.map_bind]
    refine Option.bind_congr fun below _ => ?_
    cases below with
    | true => exact inductionHypothesis item (last :: reversed)
    | false => rfl

theorem ascendingRun_map (last : α) (items : List α) :
    ascendingRun less (stands last) (items.map stands) =
      (ascendingRun below last items).map (standBoth stands) := by
  induction items generalizing last with
  | nil => rfl
  | cons item rest inductionHypothesis =>
    rw [List.map_cons, ascendingRun, ascendingRun, same, Option.map_bind]
    refine Option.bind_congr fun below _ => ?_
    cases below with
    | true => rfl
    | false =>
      show (ascendingRun less (stands item) (rest.map stands)).map _ = Option.map _ (Option.map _ _)
      rw [inductionHypothesis, Option.map_map, Option.map_map]
      rfl

theorem leadingRun_map (first : α) (items : List α) :
    leadingRun less (stands first) (items.map stands) =
      (leadingRun below first items).map (standBoth stands) := by
  cases items with
  | nil => rfl
  | cons second rest =>
    rw [List.map_cons, leadingRun, leadingRun, same, Option.map_bind]
    refine Option.bind_congr fun below _ => ?_
    cases below with
    | true => exact descendingRun_map same second [first] rest
    | false =>
      show (ascendingRun less (stands second) (rest.map stands)).map _ =
        Option.map _ (Option.map _ _)
      rw [ascendingRun_map same, Option.map_map, Option.map_map]
      rfl

theorem place_map (item : α) (run : List α) :
    place less (stands item) (run.map stands) = (place below item run).map (List.map stands) := by
  have found : bisect .front (fun other => (less (stands item) other).map not) (run.map stands) 0
      run.length = bisect .front (fun other => (below item other).map not) run 0 run.length :=
    bisect_map (fun other => by rw [same]) .front run 0 run.length
  rw [place, place, List.length_map, found, Option.map_map]
  refine Option.map_congr fun position _ => ?_
  rw [Function.comp, List.map_append, List.map_cons, List.map_take, List.map_drop]

theorem placeAll_map (items run : List α) :
    placeAll less (items.map stands) (run.map stands) =
      (placeAll below items run).map (List.map stands) := by
  induction items generalizing run with
  | nil => rfl
  | cons item rest inductionHypothesis =>
    rw [List.map_cons, placeAll, placeAll, place_map same, Option.bind_map, Option.map_bind]
    exact Option.bind_congr fun placed _ => inductionHypothesis placed

theorem nextRun_map (goal : Nat) (first : α) (rest : List α) :
    nextRun less goal (stands first) (rest.map stands) =
      (nextRun below goal first rest).map (standBoth stands) := by
  rw [nextRun, nextRun, leadingRun_map same, Option.bind_map, Option.map_bind]
  refine Option.bind_congr fun split _ => ?_
  simp only [Function.comp, standBoth, List.length_map, ← List.map_take, ← List.map_drop,
    placeAll_map same, Option.map_map]
  rfl

end Runs

/-! ### Merges -/

/-- A merge under way of what the items stand for. -/
def Merge.map (stands : α → β) (merge : Merge α) : Merge β :=
  ⟨merge.done.map stands, merge.held.map stands, merge.other.map stands⟩

/-- The course of a merge of what the items stand for. -/
def Course.map (stands : α → β) (course : Course α) : Course β :=
  ⟨course.merge.map stands, course.pace, course.threshold⟩

/-- The outcome of a merge of what the items stand for. -/
def standMerged (stands : α → β) (merged : List α × Nat) : List β × Nat :=
  (merged.1.map stands, merged.2)

theorem Merge.take_map (side : Side) (count : Nat) (merge : Merge α) :
    (merge.map stands).take side count = (merge.take side count).map stands := by
  cases side <;> simp [take, Merge.map]

theorem Merge.settled_map (merge : Merge α) : (merge.map stands).settled = merge.settled := by
  obtain ⟨done, held, other⟩ := merge
  match held, other with
  | [], _ => rfl
  | [_], _ => rfl
  | _ :: _ :: _, [] => rfl
  | _ :: _ :: _, _ :: _ => rfl

theorem Merge.items_map (merge : Merge α) : (merge.map stands).items = merge.items.map stands := by
  simp [items, Merge.map]

/-- A merge that is not settled goes on after its next step. -/
theorem complete_of_unsettled {γ : Type} {goesFirst : γ → γ → Option Bool} (edge : Edge)
    {course : Course γ} (unsettled : course.merge.settled = false) :
    course.complete edge goesFirst =
      (course.step edge goesFirst).bind (Course.complete edge goesFirst) := by
  rw [Course.complete.eq_def, if_pos unsettled]
  split
  · next refused => rw [refused, Option.bind_none]
  · next next stepped => rw [stepped, Option.bind_some]

section Merges

variable {less : β → β → Option Bool} {below : α → α → Option Bool}
  (same : ∀ first second, less (stands first) (stands second) = below first second)
include same

theorem stretch_map (edge : Edge) (side : Side) (merge : Merge α) :
    (merge.map stands).stretch edge less side = merge.stretch edge below side := by
  obtain ⟨done, held, other⟩ := merge
  cases side with
  | held =>
    cases other with
    | nil => rfl
    | cons head rest =>
      show reach edge (fun item => (less (stands head) item).map not) (held.map stands) = _
      exact reach_map (fun item => by rw [same]) edge held
  | other =>
    cases held with
    | nil => rfl
    | cons head rest => exact reach_map (fun item => same item head) edge other

theorem takeStretch_map (edge : Edge) (side : Side) (next : Nat → Pace) (course : Course α) :
    (course.map stands).takeStretch edge less side next =
      (course.takeStretch edge below side next).map (Course.map stands) := by
  rw [Course.takeStretch, Course.takeStretch, Course.map, stretch_map same, Option.map_map]
  refine Option.map_congr fun length _ => ?_
  rw [Merge.take_map]
  rfl

theorem takeSingle_map (heldStreak otherStreak : Nat) (course : Course α) :
    (course.map stands).takeSingle less heldStreak otherStreak =
      (course.takeSingle below heldStreak otherStreak).map (Course.map stands) := by
  obtain ⟨⟨done, held, other⟩, pace, threshold⟩ := course
  cases held with
  | nil => rfl
  | cons heldHead heldRest =>
    cases other with
    | nil => rfl
    | cons otherHead otherRest =>
      show (less (stands otherHead) (stands heldHead)).map _ = Option.map _ (Option.map _ _)
      rw [same, Option.map_map]
      refine Option.map_congr fun first _ => ?_
      cases first <;> rfl

theorem step_map (edge : Edge) (course : Course α) :
    (course.map stands).step edge less = (course.step edge below).map (Course.map stands) := by
  obtain ⟨merge, pace, threshold⟩ := course
  cases pace with
  | single heldStreak otherStreak => exact takeSingle_map same heldStreak otherStreak _
  | firstStretch => exact takeStretch_map same edge edge.leader .firstItem _
  | firstItem longest => simp [Course.step, Course.map, Merge.take_map]
  | secondStretch longest =>
    exact takeStretch_map same edge edge.leader.opposite
      (fun length => .secondItem (max longest length)) _
  | secondItem longest => simp [Course.step, Course.map, Merge.take_map]
  | roundEnd longest =>
    simp only [Course.step, Course.map, Course.afterRound]
    split <;> rfl

theorem complete_map (edge : Edge) (course : Course α) :
    (course.map stands).complete edge less =
      (course.complete edge below).map (standMerged stands) := by
  induction left : course.measure using Nat.strongRecOn generalizing course with
  | ind left inductionHypothesis =>
    have alike : (course.map stands).merge.settled = course.merge.settled :=
      Merge.settled_map course.merge
    by_cases unsettled : course.merge.settled = false
    · rw [complete_of_unsettled edge (alike.trans unsettled), complete_of_unsettled edge unsettled,
        step_map same, Option.bind_map, Option.map_bind]
      refine Option.bind_congr fun next stepped => ?_
      exact inductionHypothesis _ (left ▸ Course.measure_step unsettled stepped) next rfl
    · rw [Course.complete.eq_def, Course.complete.eq_def, if_neg unsettled,
        if_neg (alike ▸ unsettled)]
      simp [Course.map, Merge.items_map, standMerged]

theorem mergeFrom_map (edge : Edge) (threshold : Nat) (held other : List α) :
    mergeFrom edge less threshold (held.map stands) (other.map stands) =
      (mergeFrom edge below threshold held other).map (standMerged stands) := by
  rw [mergeFrom, mergeFrom, ← complete_map same, Course.map, ← Merge.take_map]
  rfl

theorem mergeContested_map (threshold : Nat) (earlier later : List α) :
    mergeContested less threshold (earlier.map stands) (later.map stands) =
      (mergeContested below threshold earlier later).map (standMerged stands) := by
  have turned : ∀ other held, (fun other held => less held other) (stands other) (stands held) =
      (fun other held => below held other) other held := fun other held => same held other
  rw [mergeContested, mergeContested, List.length_map, List.length_map]
  split
  · exact mergeFrom_map same .front threshold earlier later
  · rw [← List.map_reverse, ← List.map_reverse, mergeFrom_map turned, Option.map_map,
      Option.map_map]
    refine Option.map_congr fun merged _ => ?_
    simp [standMerged]

theorem mergeRuns_map (threshold : Nat) (earlier later : List α) :
    mergeRuns less threshold (earlier.map stands) (later.map stands) =
      (mergeRuns below threshold earlier later).map (standMerged stands) := by
  cases later with
  | nil => rfl
  | cons first rest =>
    have reachFront : reach .front (fun item => (less (stands first) item).map not)
        (earlier.map stands) = reach .front (fun item => (below first item).map not) earlier :=
      reach_map (fun item => by rw [same]) .front earlier
    rw [List.map_cons, mergeRuns, mergeRuns]
    simp only [List.head?_cons]
    rw [reachFront, Option.map_bind]
    refine Option.bind_congr fun front _ => ?_
    rw [← List.map_drop, List.getLast?_map, Function.comp]
    cases (earlier.drop front).getLast? with
    | none => simp [standMerged]
    | some last =>
      have reachBack : reach .back (fun item => (less item (stands last)).map not)
          ((first :: rest).map stands).reverse =
            reach .back (fun item => (below item last).map not) (first :: rest).reverse := by
        rw [← List.map_reverse]
        exact reach_map (fun item => by rw [same]) .back _
      simp only [Option.map_some]
      rw [← List.map_cons, reachBack, Option.map_bind]
      refine Option.bind_congr fun back _ => ?_
      rw [List.length_map, Function.comp]
      split
      · simp [standMerged]
      · rw [← List.map_take, ← List.map_take, mergeContested_map same, Option.map_map,
          Option.map_map]
        refine Option.map_congr fun merged _ => ?_
        simp [standMerged]

end Merges

/-! ### Sorts -/

/-- A run of what the items stand for. -/
def PendingRun.map (stands : α → β) (run : PendingRun α) : PendingRun β :=
  ⟨run.start, run.items.map stands, run.power⟩

/-- Runs of what the items stand for. -/
def Pending.map (stands : α → β) (pending : Pending α) : Pending β :=
  ⟨pending.runs.map (PendingRun.map stands), pending.threshold⟩

/-- Pushing items is cutting a run off and pushing the rest behind it. -/
theorem pushAll_cons {γ : Type} (less : γ → γ → Option Bool) (goal total : Nat) (first : γ)
    (rest : List γ) (pending : Pending γ) :
    pushAll less goal total (first :: rest) pending =
      (nextRun less goal first rest).bind fun split =>
        (pending.push less total split.1).bind (pushAll less goal total split.2) := by
  rw [pushAll]
  split
  · next refused => rw [refused, Option.bind_none]
  · next split cut =>
    rw [cut, Option.bind_some]
    split
    · next refused => rw [refused, Option.bind_none]
    · next next pushed => rw [pushed, Option.bind_some]

section Sorts

variable {less : β → β → Option Bool} {below : α → α → Option Bool}
  (same : ∀ first second, less (stands first) (stands second) = below first second)
include same

theorem merge_map (threshold : Nat) (run next : PendingRun α) :
    (run.map stands).merge less threshold (next.map stands) =
      (run.merge below threshold next).map fun merged => (merged.1.map stands, merged.2) := by
  rw [PendingRun.merge, PendingRun.merge, PendingRun.map, PendingRun.map, mergeRuns_map same,
    Option.map_map, Option.map_map]
  rfl

theorem mergeAbove_map (power threshold : Nat) (latest : PendingRun α)
    (before : List (PendingRun α)) :
    mergeAbove less power threshold (latest.map stands) (before.map (PendingRun.map stands)) =
      (mergeAbove below power threshold latest before).map (Pending.map stands) := by
  induction before generalizing threshold latest with
  | nil => rfl
  | cons earlier rest inductionHypothesis =>
    rw [List.map_cons, mergeAbove, mergeAbove]
    show (if power < earlier.power then _ else _) =
      Option.map _ (if power < earlier.power then _ else _)
    split
    · rw [merge_map same, Option.bind_map, Option.map_bind]
      exact Option.bind_congr fun merged _ => inductionHypothesis merged.2 merged.1
    · rfl

theorem push_map (total : Nat) (items : List α) (pending : Pending α) :
    (pending.map stands).push less total (items.map stands) =
      (pending.push below total items).map (Pending.map stands) := by
  obtain ⟨runs, threshold⟩ := pending
  cases runs with
  | nil => rfl
  | cons latest rest =>
    have power : (latest.map stands).borderPower total (items.map stands) =
        latest.borderPower total items := by
      simp [PendingRun.borderPower, PendingRun.map]
    rw [Pending.push, Pending.push, Pending.map]
    simp only [List.map_cons]
    rw [power, mergeAbove_map same, Option.map_map, Option.map_map]
    refine Option.map_congr fun merged _ => ?_
    simp [Pending.map, PendingRun.map]

theorem pushAll_map (goal total : Nat) (items : List α) (pending : Pending α) :
    pushAll less goal total (items.map stands) (pending.map stands) =
      (pushAll below goal total items pending).map (Pending.map stands) := by
  induction length : items.length using Nat.strongRecOn generalizing items pending with
  | ind count inductionHypothesis =>
    cases items with
    | nil => rw [List.map_nil, pushAll, pushAll, Option.map_some]
    | cons first rest =>
      rw [List.map_cons, pushAll_cons, pushAll_cons, nextRun_map same, Option.bind_map,
        Option.map_bind]
      refine Option.bind_congr fun split cut => ?_
      show ((pending.map stands).push less total (split.1.map stands)).bind _ = _
      rw [push_map same, Option.bind_map, Function.comp, Option.map_bind]
      refine Option.bind_congr fun next _ => ?_
      have shorter : split.2.length < count := length ▸ Nat.lt_succ_of_le (length_nextRun cut)
      exact inductionHypothesis _ shorter split.2 next rfl

theorem mergeAll_map (threshold : Nat) (latest : PendingRun α) (before : List (PendingRun α)) :
    mergeAll less threshold (latest.map stands) (before.map (PendingRun.map stands)) =
      (mergeAll below threshold latest before).map (List.map stands) := by
  induction length : before.length generalizing latest before threshold with
  | zero =>
    obtain rfl := List.length_eq_zero_iff.mp length
    rw [List.map_nil, mergeAll, mergeAll]
    rfl
  | succ count inductionHypothesis =>
    obtain ⟨earlier, others, rfl⟩ := List.exists_cons_of_length_eq_add_one length
    have fewer : others.length = count := Nat.succ.inj length
    cases others with
    | nil =>
      rw [List.map_cons, List.map_nil, mergeAll, mergeAll, merge_map same, Option.map_map,
        Option.map_map]
      rfl
    | cons first rest =>
      have lengths (run : PendingRun α) : (run.map stands).items.length = run.items.length :=
        List.length_map _
      rw [List.map_cons, List.map_cons, mergeAll, mergeAll, lengths, lengths]
      split
      · rw [merge_map same, Option.bind_map, Option.map_bind]
        exact Option.bind_congr fun merged _ =>
          inductionHypothesis merged.2 latest (merged.1 :: rest) fewer
      · rw [merge_map same, Option.bind_map, Option.map_bind]
        exact Option.bind_congr fun merged _ =>
          inductionHypothesis merged.2 merged.1 (first :: rest) fewer

/-- Sorting what the items stand for is sorting the items by it. -/
theorem ascending_map (items : List α) :
    ascending less (items.map stands) = (ascending below items).map (List.map stands) := by
  have pushed : pushAll less (runGoal items.length 0) items.length (items.map stands)
      ⟨[], firstThreshold⟩ = (pushAll below (runGoal items.length 0) items.length items
        ⟨[], firstThreshold⟩).map (Pending.map stands) :=
    pushAll_map same _ _ items ⟨[], firstThreshold⟩
  rw [ascending, ascending, List.length_map, pushed, Option.bind_map, Option.map_bind]
  refine Option.bind_congr fun pending _ => ?_
  obtain ⟨runs, threshold⟩ := pending
  cases runs with
  | nil => rfl
  | cons latest before => exact mergeAll_map same threshold latest before

end Sorts

/-! ### Related items -/

section Related

variable {related : α → β → Prop} {items : List α} {others : List β}

/-- Items in pairs, each related to its partner. -/
theorem exists_pairs (each : List.Forall₂ related items others) :
    ∃ pairs : List {pair : α × β // related pair.1 pair.2},
      pairs.map (·.1.1) = items ∧ pairs.map (·.1.2) = others := by
  induction each with
  | nil => exact ⟨[], rfl, rfl⟩
  | @cons item other _ _ first _ inductionHypothesis =>
    obtain ⟨pairs, left, right⟩ := inductionHypothesis
    refine ⟨⟨(item, other), first⟩ :: pairs, ?_, ?_⟩
    · rw [List.map_cons, left]
    · rw [List.map_cons, right]

theorem related_of_pairs (pairs : List {pair : α × β // related pair.1 pair.2}) :
    List.Forall₂ related (pairs.map (·.1.1)) (pairs.map (·.1.2)) := by
  induction pairs with
  | nil => exact .nil
  | cons pair _ inductionHypothesis => exact .cons pair.2 inductionHypothesis

variable {less : α → α → Option Bool} {otherLess : β → β → Option Bool}
  (same : ∀ {first second : α} {firstOther secondOther : β}, related first firstOther →
    related second secondOther → less first second = otherLess firstOther secondOther)
include same

/-- Items that compare as their partners do are sorted as these are. -/
theorem ascending_related (each : List.Forall₂ related items others) :
    Option.Rel (List.Forall₂ related) (ascending less items) (ascending otherLess others) := by
  obtain ⟨pairs, rfl, rfl⟩ := exists_pairs each
  have left : ascending less (pairs.map (·.1.1)) =
      (ascending (fun first second => less first.1.1 second.1.1) pairs).map (List.map (·.1.1)) :=
    ascending_map (fun _ _ => rfl) pairs
  have right : ascending otherLess (pairs.map (·.1.2)) =
      (ascending (fun first second => less first.1.1 second.1.1) pairs).map (List.map (·.1.2)) :=
    ascending_map (fun first second => (same first.2 second.2).symm) pairs
  rw [left, right]
  cases ascending (fun first second => less first.1.1 second.1.1) pairs with
  | none => exact .none
  | some sorted => exact .some (related_of_pairs sorted)

theorem descending_related (each : List.Forall₂ related items others) :
    Option.Rel (List.Forall₂ related) (descending less items) (descending otherLess others) := by
  have turned := ascending_related @same (List.forall₂_reverse_iff.mpr each)
  rw [descending, descending]
  generalize ascending less items.reverse = sorted at turned ⊢
  generalize ascending otherLess others.reverse = otherSorted at turned ⊢
  cases turned with
  | none => exact .none
  | some each => exact .some (List.forall₂_reverse_iff.mpr each)

end Related

end DocQuery.Sorting
