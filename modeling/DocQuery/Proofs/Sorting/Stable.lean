/-
This file proves that the sort is a stable sort, for every comparison that ranks the items.

Cutting off a run, merging two waiting runs and adding a run each keep one thing: what waits,
followed by what is not cut yet, has the levels of the whole list, and every waiting run is in
order. The powers of borders and the thresholds decide when runs are merged, but not what comes out,
so they appear in no statement.
-/

import DocQuery.Proofs.Sorting.Merge

namespace DocQuery.Sorting

variable {α : Type} {rank : α → Int} {less : α → α → Option Bool}

/-! ### Runs -/

/-- Turning a strictly descending stretch round keeps its levels, which have one member each. -/
theorem SameLevels.turnRound {run : List α}
    (strict : run.Pairwise fun first second => rank first < rank second) :
    SameLevels rank run.reverse run := by
  induction run with
  | nil => exact SameLevels.refl rank []
  | cons first rest inductionHypothesis =>
    obtain ⟨below, strictRest⟩ := List.pairwise_cons.mp strict
    rw [List.reverse_cons]
    have apart : ∀ one ∈ rest.reverse, ∀ other ∈ [first], rank one ≠ rank other := by
      intro one inRest other same
      obtain rfl := List.mem_singleton.mp same
      exact (Int.ne_of_lt (below one (List.mem_reverse.mp inRest))).symm
    exact (SameLevels.swap apart).trans
      ((SameLevels.refl rank [first]).append (inductionHypothesis strictRest))

/-- A descending stretch is kept turned round. -/
theorem exists_descendingRun {last : α} {reversed items : List α}
    (strict : (last :: reversed).Pairwise fun first second => rank first < rank second)
    (agrees : Agrees less rank (last :: items)) :
    ∃ run rest, descendingRun less last reversed items = some (run, rest) ∧
      (run.Pairwise fun first second => rank first < rank second) ∧
      run.reverse ++ rest = (last :: reversed).reverse ++ items := by
  induction items generalizing last reversed with
  | nil => exact ⟨_, _, rfl, strict, rfl⟩
  | cons item rest inductionHypothesis =>
    have answered := agrees item (by simp) last (by simp)
    rw [descendingRun, answered, Option.bind_some]
    by_cases below : rank item < rank last
    · rw [if_pos (decide_eq_true below)]
      have longer : (item :: last :: reversed).Pairwise
          fun first second => rank first < rank second := by
        refine List.pairwise_cons.mpr ⟨fun other member => ?_, strict⟩
        rcases List.mem_cons.mp member with rfl | later
        · exact below
        · exact Int.lt_trans below (List.rel_of_pairwise_cons strict later)
      obtain ⟨run, behind, found, inOrder, whole⟩ := inductionHypothesis longer
        (agrees.of_subset fun _ member => List.mem_cons_of_mem last member)
      refine ⟨run, behind, found, inOrder, ?_⟩
      rw [whole, List.reverse_cons, List.append_assoc, List.singleton_append]
    · rw [if_neg (by simpa using below)]
      exact ⟨_, _, rfl, strict, rfl⟩

/-- A stretch that does not descend is split off as it stands. -/
theorem exists_ascendingRun {last : α} {items : List α}
    (agrees : Agrees less rank (last :: items)) :
    ∃ run rest, ascendingRun less last items = some (run, rest) ∧
      Ascends rank (last :: run) ∧ items = run ++ rest := by
  induction items generalizing last with
  | nil => exact ⟨[], [], rfl, List.pairwise_singleton _ _, rfl⟩
  | cons item rest inductionHypothesis =>
    have answered := agrees item (by simp) last (by simp)
    rw [ascendingRun, answered, Option.bind_some]
    by_cases below : rank item < rank last
    · rw [if_pos (decide_eq_true below)]
      exact ⟨[], item :: rest, rfl, List.pairwise_singleton _ _, rfl⟩
    · rw [if_neg (by simpa using below)]
      obtain ⟨run, behind, found, inOrder, rfl⟩ := inductionHypothesis
        (agrees.of_subset fun _ member => List.mem_cons_of_mem last member)
      rw [found, Option.map_some]
      refine ⟨_, _, rfl, List.pairwise_cons.mpr ⟨fun other member => ?_, inOrder⟩, rfl⟩
      exact Int.le_trans (Int.not_lt.mp below) (inOrder.head_le member)

/-- The stretch at the start is brought into order. -/
theorem exists_leadingRun {first : α} {items : List α}
    (agrees : Agrees less rank (first :: items)) :
    ∃ run rest, leadingRun less first items = some (run, rest) ∧ Ascends rank run ∧
      SameLevels rank (first :: items) (run ++ rest) := by
  cases items with
  | nil => exact ⟨[first], [], rfl, List.pairwise_singleton _ _, SameLevels.refl rank _⟩
  | cons second rest =>
    have answered := agrees second (by simp) first (by simp)
    have further : Agrees less rank (second :: rest) :=
      agrees.of_subset fun _ member => List.mem_cons_of_mem first member
    rw [leadingRun, answered, Option.bind_some]
    by_cases below : rank second < rank first
    · rw [if_pos (decide_eq_true below)]
      have strict : [second, first].Pairwise fun one other => rank one < rank other :=
        List.pairwise_cons.mpr ⟨by simpa using below, List.pairwise_singleton _ _⟩
      obtain ⟨run, behind, found, inOrder, whole⟩ := exists_descendingRun strict further
      refine ⟨run, behind, found, inOrder.imp Int.le_of_lt, ?_⟩
      have turned := (SameLevels.turnRound inOrder).append (SameLevels.refl rank behind)
      rw [whole] at turned
      exact turned
    · rw [if_neg (by simpa using below)]
      obtain ⟨run, behind, found, inOrder, rfl⟩ := exists_ascendingRun further
      rw [found, Option.map_some]
      refine ⟨_, _, rfl, List.pairwise_cons.mpr ⟨fun other member => ?_, inOrder⟩,
        SameLevels.refl rank _⟩
      exact Int.le_trans (Int.not_lt.mp below) (inOrder.head_le member)

/-! ### Placing further items -/

/-- An item that is placed into a run comes behind all of its level. -/
theorem exists_place {item : α} {run : List α} (ascends : Ascends rank run)
    (agrees : Agrees less rank (run ++ [item])) :
    ∃ placed, place less item run = some placed ∧ IsStableSort rank (run ++ [item]) placed := by
  have tested : ∀ other ∈ run,
      (less item other).map not = some (decide (rank other ≤ rank item)) := by
    intro other member
    have flipped : ¬ rank item < rank other ↔ rank other ≤ rank item := Int.not_lt
    rw [agrees item (by simp) other (by simp [member]), Option.map_some, ← decide_not,
      decide_eq_decide.mpr flipped]
  obtain ⟨position, splits, before, behind⟩ := exists_splits tested
    (ascends.imp fun inOrder atMost => Int.le_trans inOrder atMost)
  have found := splits.bisect .front (Nat.zero_le position) splits.within (Nat.le_refl run.length)
  have split : Ascends rank (run.take position ++ run.drop position) := by
    rwa [List.take_append_drop]
  obtain ⟨front, back, cross⟩ := ascends_append.mp split
  have above : ∀ other ∈ run.drop position, rank item < rank other :=
    fun other inBack => Int.not_le.mp (behind other inBack)
  refine ⟨run.take position ++ item :: run.drop position, ?_, ?_, ?_⟩
  · rw [place, found, Option.map_some]
  · refine ascends_append.mpr ⟨front, List.pairwise_cons.mpr
      ⟨fun other inBack => Int.le_of_lt (above other inBack), back⟩, fun one inFront other => ?_⟩
    intro member
    rcases List.mem_cons.mp member with rfl | inBack
    · exact before one inFront
    · exact cross one inFront other inBack
  · have apart : ∀ one ∈ run.drop position, ∀ other ∈ [item], rank one ≠ rank other := by
      intro one inBack other same
      obtain rfl := List.mem_singleton.mp same
      exact (Int.ne_of_lt (above one inBack)).symm
    have moved := (SameLevels.refl rank (run.take position)).append (SameLevels.swap apart)
    rwa [← List.append_assoc, List.take_append_drop] at moved

/-- A stable sort of a start can be sorted on with what follows. -/
theorem IsStableSort.continue {start sorted others result : List α}
    (first : IsStableSort rank start sorted) (second : IsStableSort rank (sorted ++ others) result) :
    IsStableSort rank (start ++ others) result :=
  ⟨second.ascends, (first.levels.append (SameLevels.refl rank others)).trans second.levels⟩

theorem exists_placeAll {items run : List α} (ascends : Ascends rank run)
    (agrees : Agrees less rank (run ++ items)) :
    ∃ placed, placeAll less items run = some placed ∧ IsStableSort rank (run ++ items) placed := by
  induction items generalizing run with
  | nil =>
    rw [List.append_nil]
    exact ⟨run, rfl, ascends, SameLevels.refl rank run⟩
  | cons item rest inductionHypothesis =>
    have inWhole {other : α} (member : other ∈ run ++ [item]) : other ∈ run ++ item :: rest := by
      rcases List.mem_append.mp member with inRun | same
      · exact List.mem_append_left _ inRun
      · obtain rfl := List.mem_singleton.mp same
        exact List.mem_append_right _ List.mem_cons_self
    obtain ⟨placed, found, sorted⟩ := exists_place ascends
      (agrees.of_subset fun _ member => inWhole member)
    have further : Agrees less rank (placed ++ rest) := by
      refine agrees.of_subset fun other member => ?_
      rcases List.mem_append.mp member with inPlaced | inRest
      · exact inWhole (sorted.levels.mem_iff.mpr inPlaced)
      · exact List.mem_append_right _ (List.mem_cons_of_mem item inRest)
    obtain ⟨result, placedAll, sortedAll⟩ := inductionHypothesis sorted.ascends further
    refine ⟨result, ?_, ?_⟩
    · rw [placeAll, found, Option.bind_some, placedAll]
    · have whole := sorted.continue sortedAll
      rwa [List.append_assoc, List.singleton_append] at whole

/-- A run is cut off in order, and nothing else has changed. -/
theorem exists_nextRun {first : α} {items : List α} (agrees : Agrees less rank (first :: items))
    (goal : Nat) :
    ∃ run rest, nextRun less goal first items = some (run, rest) ∧ Ascends rank run ∧
      SameLevels rank (first :: items) (run ++ rest) := by
  obtain ⟨leading, behind, started, inOrder, levels⟩ := exists_leadingRun agrees
  let missing := goal - leading.length
  have further : Agrees less rank (leading ++ behind.take missing) := by
    refine agrees.of_subset fun other member => levels.mem_iff.mpr ?_
    rcases List.mem_append.mp member with inLeading | taken
    · exact List.mem_append_left _ inLeading
    · exact List.mem_append_right _ (List.mem_of_mem_take taken)
  obtain ⟨run, placed, sorted⟩ := exists_placeAll inOrder further
  refine ⟨run, behind.drop missing, ?_, sorted.ascends, ?_⟩
  · rw [nextRun, started, Option.bind_some]
    dsimp only
    rw [placed, Option.map_some]
  · have cut := sorted.levels.append (SameLevels.refl rank (behind.drop missing))
    rw [List.append_assoc, List.take_append_drop] at cut
    exact levels.trans cut

/-! ### Waiting runs -/

/-- The items of waiting runs, of which the latest stands first. -/
def gathered : List (PendingRun α) → List α
  | [] => []
  | run :: before => gathered before ++ run.items

theorem gathered_append (latest before : List (PendingRun α)) :
    gathered (latest ++ before) = gathered before ++ gathered latest := by
  induction latest with
  | nil => exact (List.append_nil _).symm
  | cons run rest inductionHypothesis =>
    show gathered (rest ++ before) ++ run.items = gathered before ++ (gathered rest ++ run.items)
    rw [inductionHypothesis, List.append_assoc]

/-- Waiting runs that have gone right: each is in order, and with the items that are not cut yet
they have the levels of the whole. -/
structure Waiting (rank : α → Int) (whole rest : List α) (runs : List (PendingRun α)) : Prop where
  ascends : ∀ run ∈ runs, Ascends rank run.items
  levels : SameLevels rank whole (gathered runs ++ rest)

namespace Waiting

variable {whole rest : List α}

theorem mem_of_run {runs : List (PendingRun α)} (waiting : Waiting rank whole rest runs)
    {run : PendingRun α} (member : run ∈ runs) {item : α} (inRun : item ∈ run.items) :
    item ∈ whole := by
  refine waiting.levels.mem_iff.mpr (List.mem_append_left _ ?_)
  obtain ⟨latest, before, rfl⟩ := List.append_of_mem member
  rw [gathered_append]
  exact List.mem_append_left _ (List.mem_append_right _ inRun)

/-- Two neighbouring runs are merged, wherever they stand. -/
theorem exists_merge (latest : List (PendingRun α)) {before : List (PendingRun α)}
    {run next : PendingRun α}
    (waiting : Waiting rank whole rest (latest ++ next :: run :: before))
    (agrees : Agrees less rank whole) (threshold : Nat) :
    ∃ merged further, run.merge less threshold next = some (merged, further) ∧
      Waiting rank whole rest (latest ++ merged :: before) := by
  have runIn : run ∈ latest ++ next :: run :: before := by simp
  have nextIn : next ∈ latest ++ next :: run :: before := by simp
  have contested : Agrees less rank (run.items ++ next.items) := by
    refine agrees.of_subset fun item member => ?_
    rcases List.mem_append.mp member with inRun | inNext
    · exact waiting.mem_of_run runIn inRun
    · exact waiting.mem_of_run nextIn inNext
  obtain ⟨merged, further, found, sorted⟩ := exists_mergeRuns (waiting.ascends run runIn)
    (waiting.ascends next nextIn) contested threshold
  refine ⟨{ run with items := merged }, further, ?_, fun other member => ?_, ?_⟩
  · rw [PendingRun.merge, found, Option.map_some]
  · rcases List.mem_append.mp member with inLatest | inRest
    · exact waiting.ascends other (List.mem_append_left _ inLatest)
    · rcases List.mem_cons.mp inRest with rfl | inBefore
      · exact sorted.ascends
      · exact waiting.ascends other (by simp [inBefore])
  · have same : gathered (latest ++ next :: run :: before) =
        gathered before ++ (run.items ++ next.items) ++ gathered latest := by
      rw [gathered_append, gathered, gathered, List.append_assoc (gathered before)]
    have levels := waiting.levels
    rw [same] at levels
    rw [gathered_append, gathered]
    exact levels.trans ((((SameLevels.refl rank (gathered before)).append sorted.levels).append
      (SameLevels.refl rank _)).append (SameLevels.refl rank rest))

/-- The power of a run does not matter. -/
theorem withPower {latest : PendingRun α} {before : List (PendingRun α)}
    (waiting : Waiting rank whole rest (latest :: before)) (power : Nat) :
    Waiting rank whole rest ({ latest with power := power } :: before) := by
  refine ⟨fun run member => ?_, waiting.levels⟩
  rcases List.mem_cons.mp member with rfl | inBefore
  · exact waiting.ascends latest List.mem_cons_self
  · exact waiting.ascends run (List.mem_cons_of_mem latest inBefore)

theorem exists_mergeAbove {latest : PendingRun α} {before : List (PendingRun α)}
    (waiting : Waiting rank whole rest (latest :: before)) (agrees : Agrees less rank whole)
    (power threshold : Nat) :
    ∃ pending, mergeAbove less power threshold latest before = some pending ∧
      Waiting rank whole rest pending.runs := by
  induction before generalizing latest threshold with
  | nil => exact ⟨_, rfl, waiting.withPower power⟩
  | cons earlier before inductionHypothesis =>
    rw [mergeAbove]
    by_cases above : power < earlier.power
    · obtain ⟨merged, further, found, merges⟩ := exists_merge [] waiting agrees threshold
      rw [if_pos above, found, Option.bind_some]
      exact inductionHypothesis merges further
    · rw [if_neg above]
      exact ⟨_, rfl, waiting.withPower power⟩

/-- A new run takes its place behind those that wait. -/
theorem cons {runs : List (PendingRun α)} {run : PendingRun α}
    (waiting : Waiting rank whole (run.items ++ rest) runs) (ascends : Ascends rank run.items) :
    Waiting rank whole rest (run :: runs) := by
  refine ⟨fun other member => ?_, ?_⟩
  · rcases List.mem_cons.mp member with rfl | before
    · exact ascends
    · exact waiting.ascends other before
  · rw [gathered, List.append_assoc]
    exact waiting.levels

theorem exists_push {pending : Pending α} {items : List α}
    (waiting : Waiting rank whole (items ++ rest) pending.runs) (ascends : Ascends rank items)
    (agrees : Agrees less rank whole) (total : Nat) :
    ∃ next, pending.push less total items = some next ∧ Waiting rank whole rest next.runs := by
  obtain ⟨runs, threshold⟩ := pending
  cases runs with
  | nil =>
    let run : PendingRun α := ⟨0, items, 0⟩
    have single : Waiting rank whole rest [run] := cons waiting ascends
    exact ⟨_, rfl, single⟩
  | cons latest before =>
    obtain ⟨merged, found, merges⟩ :=
      waiting.exists_mergeAbove agrees (latest.borderPower total items) threshold
    let run : PendingRun α := ⟨latest.start + latest.items.length, items, 0⟩
    have longer : Waiting rank whole rest (run :: merged.runs) := cons merges ascends
    refine ⟨{ merged with runs := run :: merged.runs }, ?_, longer⟩
    rw [Pending.push]
    dsimp only
    rw [found, Option.map_some]

theorem exists_pushAll {pending : Pending α} (waiting : Waiting rank whole rest pending.runs)
    (agrees : Agrees less rank whole) (goal total : Nat) :
    ∃ next, pushAll less goal total rest pending = some next ∧
      Waiting rank whole [] next.runs := by
  induction length : rest.length using Nat.strongRecOn generalizing rest pending with
  | ind count inductionHypothesis =>
    rw [pushAll.eq_def]
    cases rest with
    | nil => exact ⟨pending, rfl, waiting⟩
    | cons first items =>
      have further : Agrees less rank (first :: items) :=
        agrees.of_subset fun item member =>
          waiting.levels.mem_iff.mpr (List.mem_append_right _ member)
      obtain ⟨run, behind, cut, ascends, levels⟩ := exists_nextRun further goal
      have shorter : behind.length < count := length ▸ Nat.lt_succ_of_le (length_nextRun cut)
      have cutWaiting : Waiting rank whole (run ++ behind) pending.runs :=
        ⟨waiting.ascends,
          waiting.levels.trans ((SameLevels.refl rank (gathered pending.runs)).append levels)⟩
      obtain ⟨next, pushed, nextWaiting⟩ := cutWaiting.exists_push ascends agrees total
      obtain ⟨last, pushedAll, lastWaiting⟩ := inductionHypothesis _ shorter nextWaiting rfl
      refine ⟨last, ?_, lastWaiting⟩
      dsimp only
      split
      · next refused =>
        rw [cut] at refused
        cases refused
      · next split found =>
        obtain rfl := Option.some.inj (cut.symm.trans found)
        dsimp only
        rw [pushed]
        exact pushedAll

theorem exists_mergeAll {latest : PendingRun α} {before : List (PendingRun α)}
    (waiting : Waiting rank whole [] (latest :: before)) (agrees : Agrees less rank whole)
    (threshold : Nat) :
    ∃ sorted, mergeAll less threshold latest before = some sorted ∧
      IsStableSort rank whole sorted := by
  -- A single run that waits is the whole.
  have single {run : PendingRun α} (alone : Waiting rank whole [] [run]) :
      IsStableSort rank whole run.items := by
    refine ⟨alone.ascends run List.mem_cons_self, ?_⟩
    have levels := alone.levels
    rwa [gathered, gathered, List.nil_append, List.append_nil] at levels
  induction length : before.length generalizing latest before threshold with
  | zero =>
    obtain rfl := List.length_eq_zero_iff.mp length
    rw [mergeAll]
    exact ⟨_, rfl, single waiting⟩
  | succ count inductionHypothesis =>
    obtain ⟨earlier, others, rfl⟩ := List.exists_cons_of_length_eq_add_one length
    have fewer : others.length = count := Nat.succ.inj length
    cases others with
    | nil =>
      obtain ⟨merged, further, found, merges⟩ := exists_merge [] waiting agrees threshold
      rw [mergeAll, found, Option.map_some]
      exact ⟨_, rfl, single merges⟩
    | cons first rest =>
      rw [mergeAll]
      by_cases shorter : first.items.length < latest.items.length
      · obtain ⟨merged, further, found, merges⟩ :=
          exists_merge [latest] waiting agrees threshold
        rw [if_pos shorter, found, Option.bind_some]
        exact inductionHypothesis merges further fewer
      · obtain ⟨merged, further, found, merges⟩ :=
          exists_merge [] waiting agrees threshold
        rw [if_neg shorter, found, Option.bind_some]
        exact inductionHypothesis merges further fewer

end Waiting

/-! ### Sorting -/

/-- A comparison that ranks the items sorts them stably. -/
theorem exists_ascending {items : List α} (agrees : Agrees less rank items) :
    ∃ sorted, ascending less items = some sorted ∧ IsStableSort rank items sorted := by
  have start : Waiting rank items items (⟨[], firstThreshold⟩ : Pending α).runs :=
    ⟨fun _ member => (List.not_mem_nil member).elim, SameLevels.refl rank items⟩
  obtain ⟨pending, pushed, waiting⟩ :=
    start.exists_pushAll agrees (runGoal items.length 0) items.length
  rw [ascending, pushed, Option.bind_some]
  obtain ⟨runs, threshold⟩ := pending
  cases runs with
  | nil => exact ⟨[], rfl, List.Pairwise.nil, waiting.levels⟩
  | cons latest before => exact waiting.exists_mergeAll agrees threshold

/-- Sorting in descending order is stable as well. -/
theorem exists_descending {items : List α} (agrees : Agrees less rank items) :
    ∃ sorted, descending less items = some sorted ∧
      IsStableSort (fun item => -rank item) items sorted := by
  obtain ⟨sorted, found, stable⟩ :=
    exists_ascending (agrees.of_subset fun item member => List.mem_reverse.mp member)
  rw [descending, found, Option.map_some]
  exact ⟨_, rfl, stable.reverse⟩

end DocQuery.Sorting
