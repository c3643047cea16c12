/-
This file proves that merging two runs in order sorts them stably.

A merge under way is ready if what is merged, together with what is left of either run, is in
order, and nothing has changed places with an item of its level. Taking items keeps this as long
as the taken ones go before all of the opposite run. So a step is right whatever its pace, and
only the two paces that take an item without looking owe something to the stretch before them.

A merge from the back is the same merge of the reversed runs, with negated ranks.
-/

import DocQuery.Proofs.Sorting.Search

namespace DocQuery.Sorting

variable {α : Type} {rank : α → Int}

/-! ### How far a run reaches -/

/-- The items of a run in order that are not above another item. -/
theorem exists_reach_atMost {less : α → α → Option Bool} {items : List α} {head : α} (edge : Edge)
    (ascends : Ascends rank items)
    (answers : ∀ item ∈ items, less head item = some (decide (rank head < rank item))) :
    ∃ count, reach edge (fun item => (less head item).map not) items = some count ∧
      (∀ item ∈ items.take count, rank item ≤ rank head) ∧
      ∀ item ∈ items.drop count, rank head < rank item := by
  have tested : ∀ item ∈ items,
      (less head item).map not = some (decide (rank item ≤ rank head)) := by
    intro item member
    have flipped : ¬ rank head < rank item ↔ rank item ≤ rank head := Int.not_lt
    rw [answers item member, Option.map_some, ← decide_not, decide_eq_decide.mpr flipped]
  obtain ⟨count, splits, before, behind⟩ := exists_splits tested
    (ascends.imp fun inOrder atMost => Int.le_trans inOrder atMost)
  exact ⟨count, splits.reach edge, before, fun item member => Int.not_le.mp (behind item member)⟩

/-- The items of a run in order that are below another item. -/
theorem exists_reach_below {less : α → α → Option Bool} {items : List α} {head : α} (edge : Edge)
    (ascends : Ascends rank items)
    (answers : ∀ item ∈ items, less item head = some (decide (rank item < rank head))) :
    ∃ count, reach edge (fun item => less item head) items = some count ∧
      (∀ item ∈ items.take count, rank item < rank head) ∧
      ∀ item ∈ items.drop count, rank head ≤ rank item := by
  obtain ⟨count, splits, before, behind⟩ := exists_splits answers
    (ascends.imp fun inOrder below => Int.lt_of_le_of_lt inOrder below)
  exact ⟨count, splits.reach edge, before, fun item member => Int.not_lt.mp (behind item member)⟩

namespace Merge

/-! ### Merges that are ready -/

/-- One of the two runs. -/
def run (side : Side) (merge : Merge α) : List α :=
  match side with
  | .held => merge.held
  | .other => merge.other

/-- An item of a run goes before all of the opposite one. -/
def GoesBefore (rank : α → Int) (side : Side) (merge : Merge α) (item : α) : Prop :=
  match side with
  | .held => ∀ other ∈ merge.other, rank item ≤ rank other
  | .other => ∀ held ∈ merge.held, rank item < rank held

/-- A merge that has gone right: the merged items and either run are in order, levels are those
of the whole, and the end of the held run is above all of the other one. -/
structure Ready (rank : α → Int) (whole : List α) (merge : Merge α) : Prop where
  levels : SameLevels rank whole (merge.done.reverse ++ (merge.held ++ merge.other))
  held : Ascends rank (merge.done.reverse ++ merge.held)
  other : Ascends rank (merge.done.reverse ++ merge.other)
  ending : ∀ last, merge.held.getLast? = some last → ∀ item ∈ merge.other, rank item < rank last

namespace Ready

variable {whole : List α} {merge : Merge α}

theorem mem_of_held (ready : merge.Ready rank whole) {item : α} (member : item ∈ merge.held) :
    item ∈ whole :=
  ready.levels.mem_iff.mpr (List.mem_append_right _ (List.mem_append_left _ member))

theorem mem_of_other (ready : merge.Ready rank whole) {item : α} (member : item ∈ merge.other) :
    item ∈ whole :=
  ready.levels.mem_iff.mpr (List.mem_append_right _ (List.mem_append_right _ member))

/-- Taking items that go before all of the opposite run keeps a merge ready. -/
theorem take (ready : merge.Ready rank whole) {side : Side} {count : Nat}
    (first : ∀ item ∈ (merge.run side).take count, merge.GoesBefore rank side item) :
    (merge.take side count).Ready rank whole := by
  obtain ⟨done, held, other⟩ := merge
  obtain ⟨levels, heldAscends, otherAscends, ending⟩ := ready
  obtain ⟨_, heldOnly, doneHeld⟩ := ascends_append.mp heldAscends
  obtain ⟨_, otherOnly, doneOther⟩ := ascends_append.mp otherAscends
  cases side with
  | held =>
    have split := List.take_append_drop count held
    refine ⟨?_, ?_, ?_, fun last found item member => ?_⟩
    · have same : done.reverse ++ held.take count ++ (held.drop count ++ other) =
          done.reverse ++ (held ++ other) := by
        rw [List.append_assoc, ← List.append_assoc (held.take count), split]
      simpa [Merge.take, ← same] using levels
    · simpa [Merge.take] using heldAscends
    · have merged : Ascends rank (done.reverse ++ held.take count) :=
        heldAscends.sublist (List.Sublist.append_left (List.take_sublist count held) _)
      have inOrder : Ascends rank ((done.reverse ++ held.take count) ++ other) := by
        refine ascends_append.mpr ⟨merged, otherOnly, fun one inMerged item member => ?_⟩
        rcases List.mem_append.mp inMerged with inDone | inTaken
        · exact doneOther one inDone item member
        · exact first one inTaken item member
      simpa [Merge.take] using inOrder
    · refine ending last ?_ item member
      have rest : held.drop count ≠ [] := by
        intro empty
        simp [Merge.take, empty] at found
      rw [← split, List.getLast?_append_of_ne_nil _ rest]
      exact found
  | other =>
    have split := List.take_append_drop count other
    have mem_other {item : α} (member : item ∈ other.drop count) : item ∈ other :=
      List.mem_of_mem_drop member
    refine ⟨?_, ?_, ?_, fun last found item member => ending last found item (mem_other member)⟩
    · -- The taken items pass the held run, with which they share no level.
      have apart : ∀ one ∈ held, ∀ item ∈ other.take count, rank one ≠ rank item := by
        intro one inHeld item inTaken equal
        have below : rank item < rank one := first item inTaken one inHeld
        omega
      have passed := (SameLevels.swap apart).append (SameLevels.refl rank (other.drop count))
      have moved := levels.trans
        ((SameLevels.refl rank done.reverse).append (by simpa using passed))
      simpa [Merge.take] using moved
    · have merged : Ascends rank (done.reverse ++ other.take count) :=
        otherAscends.sublist (List.Sublist.append_left (List.take_sublist count other) _)
      have inOrder : Ascends rank ((done.reverse ++ other.take count) ++ held) := by
        refine ascends_append.mpr ⟨merged, heldOnly, fun one inMerged item member => ?_⟩
        rcases List.mem_append.mp inMerged with inDone | inTaken
        · exact doneHeld one inDone item member
        · exact Int.le_of_lt (first one inTaken item member)
      simpa [Merge.take] using inOrder
    · simpa [Merge.take] using otherAscends

/-- A merge that is settled has nothing left to compare. -/
theorem isStableSort (ready : merge.Ready rank whole) (settled : merge.settled = true) :
    IsStableSort rank whole merge.items := by
  obtain ⟨done, held, other⟩ := merge
  obtain ⟨levels, heldAscends, otherAscends, ending⟩ := ready
  have below : ∀ item ∈ other, ∀ one ∈ held, rank item < rank one := by
    intro item inOther one inHeld
    match held, other with
    | [], _ => cases inHeld
    | _ :: _ :: _, [] => cases inOther
    | _ :: _ :: _, _ :: _ => simp [Merge.settled] at settled
    | [last], _ =>
      obtain rfl := List.mem_singleton.mp inHeld
      exact ending one rfl item inOther
  obtain ⟨_, heldOnly, doneHeld⟩ := ascends_append.mp heldAscends
  constructor
  · rw [items, ← List.append_assoc]
    refine ascends_append.mpr ⟨otherAscends, heldOnly, fun one inMerged item member => ?_⟩
    rcases List.mem_append.mp inMerged with inDone | inOther
    · exact doneHeld one inDone item member
    · exact Int.le_of_lt (below one inOther item member)
  · have swapped : SameLevels rank (held ++ other) (other ++ held) :=
      SameLevels.swap fun one inHeld item inOther =>
        (Int.ne_of_lt (below item inOther one inHeld)).symm
    exact levels.trans ((SameLevels.refl rank done.reverse).append swapped)

end Ready

/-! ### Stretches -/

variable {goesFirst : α → α → Option Bool} {whole : List α} {merge : Merge α}

/-- The next item of a run, if there is one, goes before all of the opposite run. -/
def Leads (rank : α → Int) (side : Side) (merge : Merge α) : Prop :=
  ∀ head, (merge.run side).head? = some head → merge.GoesBefore rank side head

/-- A merge that is not settled has heads to compare. -/
theorem exists_heads (unsettled : merge.settled = false) :
    ∃ heldHead heldRest otherHead otherRest,
      merge.held = heldHead :: heldRest ∧ merge.other = otherHead :: otherRest := by
  obtain ⟨done, held, other⟩ := merge
  match held, other with
  | [], _ | [_], _ | _ :: _ :: _, [] => simp [settled] at unsettled
  | heldHead :: second :: heldRest, otherHead :: otherRest =>
    exact ⟨heldHead, second :: heldRest, otherHead, otherRest, rfl, rfl⟩

/-- The stretch of a run goes before the opposite one, whose next item then goes before what is
left of the run. -/
theorem exists_stretch (ready : merge.Ready rank whole) (agrees : Agrees goesFirst rank whole)
    (unsettled : merge.settled = false) (edge : Edge) (side : Side) :
    ∃ length, merge.stretch edge goesFirst side = some length ∧
      (∀ item ∈ (merge.run side).take length, merge.GoesBefore rank side item) ∧
      (merge.take side length).Leads rank side.opposite := by
  obtain ⟨heldHead, heldRest, otherHead, otherRest, held, other⟩ := exists_heads unsettled
  have heldAscends := (ascends_append.mp ready.held).2.1
  have otherAscends := (ascends_append.mp ready.other).2.1
  cases side with
  | held =>
    have inWhole : otherHead ∈ whole := ready.mem_of_other (by rw [other]; exact List.mem_cons_self)
    obtain ⟨length, found, before, behind⟩ := exists_reach_atMost edge heldAscends
      fun item member => agrees otherHead inWhole item (ready.mem_of_held member)
    refine ⟨length, ?_, fun item member one inOther => ?_, fun head next item member => ?_⟩
    · unfold stretch
      rw [other]
      exact found
    · rw [other] at otherAscends inOther
      exact Int.le_trans (before item member) (otherAscends.head_le inOther)
    · have same : otherHead = head := by simpa [run, take, Side.opposite, other] using next
      rw [← same]
      exact behind item member
  | other =>
    have inWhole : heldHead ∈ whole := ready.mem_of_held (by rw [held]; exact List.mem_cons_self)
    obtain ⟨length, found, before, behind⟩ := exists_reach_below edge otherAscends
      fun item member => agrees item (ready.mem_of_other member) heldHead inWhole
    refine ⟨length, ?_, fun item member one inHeld => ?_, fun head next item member => ?_⟩
    · unfold stretch
      rw [held]
      exact found
    · rw [held] at heldAscends inHeld
      exact Int.lt_of_lt_of_le (before item member) (heldAscends.head_le inHeld)
    · have same : heldHead = head := by simpa [run, take, Side.opposite, held] using next
      rw [← same]
      exact behind item member

/-- Taking one item that leads keeps a merge ready. -/
theorem Ready.takeOne (ready : merge.Ready rank whole) {side : Side}
    (leads : merge.Leads rank side) : (merge.take side 1).Ready rank whole := by
  refine ready.take fun item member => leads item ?_
  cases run : merge.run side with
  | nil => simp [run] at member
  | cons head rest =>
    have same : item = head := by simpa [run] using member
    rw [List.head?_cons, same]

end Merge

/-! ### Steps -/

namespace Course

variable {goesFirst : α → α → Option Bool} {whole : List α} {course : Course α} {edge : Edge}

/-- Where a pace takes an item without looking, the item leads. -/
def Paced (rank : α → Int) (edge : Edge) (course : Course α) : Prop :=
  match course.pace with
  | .firstItem _ => course.merge.Leads rank edge.leader.opposite
  | .secondItem _ => course.merge.Leads rank edge.leader
  | _ => True

theorem paced_paceAfter (merge : Merge α) (side : Side) (streak threshold : Nat) :
    Paced rank edge ⟨merge, paceAfter side streak threshold, threshold⟩ := by
  unfold paceAfter
  split
  · trivial
  · cases side <;> trivial

theorem exists_takeSingle (ready : course.merge.Ready rank whole)
    (agrees : Agrees goesFirst rank whole) (unsettled : course.merge.settled = false)
    (heldStreak otherStreak : Nat) :
    ∃ next, course.takeSingle goesFirst heldStreak otherStreak = some next ∧
      next.merge.Ready rank whole ∧ next.Paced rank edge := by
  obtain ⟨heldHead, heldRest, otherHead, otherRest, held, other⟩ := Merge.exists_heads unsettled
  have heldAscends := (ascends_append.mp ready.held).2.1
  have otherAscends := (ascends_append.mp ready.other).2.1
  have answered := agrees otherHead (ready.mem_of_other (by rw [other]; exact List.mem_cons_self))
    heldHead (ready.mem_of_held (by rw [held]; exact List.mem_cons_self))
  unfold takeSingle
  rw [held, other]
  dsimp only
  rw [answered, Option.map_some]
  by_cases below : rank otherHead < rank heldHead
  · have leads : course.merge.Leads rank .other := by
      intro head next one inHeld
      have same : otherHead = head := by simpa [Merge.run, other] using next
      rw [held] at heldAscends inHeld
      rw [← same]
      exact Int.lt_of_lt_of_le below (heldAscends.head_le inHeld)
    rw [if_pos (decide_eq_true below)]
    exact ⟨_, rfl, ready.takeOne leads, paced_paceAfter _ _ _ _⟩
  · have leads : course.merge.Leads rank .held := by
      intro head next item inOther
      have same : heldHead = head := by simpa [Merge.run, held] using next
      rw [other] at otherAscends inOther
      rw [← same]
      exact Int.le_trans (Int.not_lt.mp below) (otherAscends.head_le inOther)
    rw [if_neg (by simpa using below)]
    exact ⟨_, rfl, ready.takeOne leads, paced_paceAfter _ _ _ _⟩

/-- Every step is answered, and keeps a merge ready. -/
theorem exists_step (ready : course.merge.Ready rank whole) (paced : course.Paced rank edge)
    (agrees : Agrees goesFirst rank whole) (unsettled : course.merge.settled = false) :
    ∃ next, course.step edge goesFirst = some next ∧ next.merge.Ready rank whole ∧
      next.Paced rank edge := by
  have stretched (side : Side) (pace : Nat → Pace)
      (due : ∀ length, (course.merge.take side length).Leads rank side.opposite →
        Paced rank edge ⟨course.merge.take side length, pace length, course.threshold⟩) :
      ∃ next, course.takeStretch edge goesFirst side pace = some next ∧
        next.merge.Ready rank whole ∧ next.Paced rank edge := by
    obtain ⟨length, found, before, leads⟩ :=
      Merge.exists_stretch ready agrees unsettled edge side
    rw [takeStretch, found, Option.map_some]
    exact ⟨_, rfl, ready.take before, due length leads⟩
  obtain ⟨merge, pace, threshold⟩ := course
  cases pace with
  | single heldStreak otherStreak => exact exists_takeSingle ready agrees unsettled _ _
  | firstStretch => exact stretched edge.leader .firstItem fun _ leads => leads
  | firstItem longest => exact ⟨_, rfl, ready.takeOne paced, trivial⟩
  | secondStretch longest =>
    refine stretched edge.leader.opposite (fun length => .secondItem (max longest length))
      fun _ leads => ?_
    have back : edge.leader.opposite.opposite = edge.leader := by cases edge <;> rfl
    rwa [back] at leads
  | secondItem longest => exact ⟨_, rfl, ready.takeOne paced, trivial⟩
  | roundEnd longest =>
    refine ⟨_, rfl, ?_, ?_⟩
    · unfold afterRound
      split <;> exact ready
    · unfold afterRound
      split <;> trivial

/-- A merge that is ready comes to a stable sort of the whole. -/
theorem exists_complete (ready : course.merge.Ready rank whole) (paced : course.Paced rank edge)
    (agrees : Agrees goesFirst rank whole) :
    ∃ merged threshold, course.complete edge goesFirst = some (merged, threshold) ∧
      IsStableSort rank whole merged := by
  induction left : course.measure using Nat.strongRecOn generalizing course with
  | ind left inductionHypothesis =>
    rw [complete]
    by_cases unsettled : course.merge.settled = false
    · obtain ⟨next, stepped, nextReady, nextPaced⟩ := exists_step ready paced agrees unsettled
      rw [if_pos unsettled]
      split
      · next stuck =>
        rw [stepped] at stuck
        cases stuck
      · next found stuck =>
        obtain rfl := Option.some.inj (stepped.symm.trans stuck)
        exact inductionHypothesis _ (left ▸ measure_step unsettled stepped) nextReady nextPaced rfl
    · rw [if_neg unsettled]
      have settled : course.merge.settled = true := by simpa using unsettled
      exact ⟨_, _, rfl, ready.isStableSort settled⟩

end Course

/-! ### Merging -/

variable {less : α → α → Option Bool}

/-- Two runs in order are merged, if the other one starts before all of the held one, and the held
one ends behind all of the other one. -/
theorem exists_mergeFrom (edge : Edge) {held other : List α} {first last : α}
    (heldAscends : Ascends rank held) (otherAscends : Ascends rank other)
    (agrees : Agrees less rank (held ++ other)) (starts : other.head? = some first)
    (before : ∀ item ∈ held, rank first < rank item) (ends : held.getLast? = some last)
    (behind : ∀ item ∈ other, rank item < rank last) (threshold : Nat) :
    ∃ merged next, mergeFrom edge less threshold held other = some (merged, next) ∧
      IsStableSort rank (held ++ other) merged := by
  let merge : Merge α := ⟨[], held, other⟩
  have ready : merge.Ready rank (held ++ other) :=
    ⟨SameLevels.refl rank _, heldAscends, otherAscends, fun found same => by
      obtain rfl := Option.some.inj (ends.symm.trans same)
      exact behind⟩
  have leads : merge.Leads rank .other := by
    intro head found
    obtain rfl := Option.some.inj (starts.symm.trans found)
    exact before
  let course : Course α := ⟨merge.take .other 1, .single 0 0, threshold⟩
  have started : course.merge.Ready rank (held ++ other) := ready.takeOne leads
  exact Course.exists_complete started trivial agrees

/-- The contested parts of two runs are merged, whichever is held. -/
theorem exists_mergeContested {earlier later : List α} {first last : α}
    (earlierAscends : Ascends rank earlier) (laterAscends : Ascends rank later)
    (agrees : Agrees less rank (earlier ++ later)) (starts : later.head? = some first)
    (before : ∀ item ∈ earlier, rank first < rank item) (ends : earlier.getLast? = some last)
    (behind : ∀ item ∈ later, rank item < rank last) (threshold : Nat) :
    ∃ merged next, mergeContested less threshold earlier later = some (merged, next) ∧
      IsStableSort rank (earlier ++ later) merged := by
  rw [mergeContested]
  by_cases shorter : earlier.length ≤ later.length
  · rw [if_pos shorter]
    exact exists_mergeFrom .front earlierAscends laterAscends agrees starts before ends behind threshold
  · rw [if_neg shorter]
    have turned : Agrees (fun other held => less held other) (fun item => -rank item)
        (later.reverse ++ earlier.reverse) :=
      agrees.turned.of_subset fun item member => by simpa [or_comm] using member
    obtain ⟨merged, next, found, sorted⟩ := exists_mergeFrom .back
      laterAscends.reverse earlierAscends.reverse turned
      (by rw [List.head?_reverse, ends])
      (fun item member => Int.neg_lt_neg (behind item (List.mem_reverse.mp member)))
      (by rw [List.getLast?_reverse, starts])
      (fun item member => Int.neg_lt_neg (before item (List.mem_reverse.mp member))) threshold
    rw [← List.reverse_append] at sorted
    have back := sorted.reverse
    simp only [Int.neg_neg] at back
    rw [found, Option.map_some]
    exact ⟨merged.reverse, next, rfl, back⟩

/-- Reaching from the back finds where the part of a run begins that is not below an item. -/
theorem exists_border {later : List α} {last : α} (laterAscends : Ascends rank later)
    (agrees : ∀ item ∈ later, less item last = some (decide (rank item < rank last))) :
    ∃ back, reach .back (fun item => (less item last).map not) later.reverse = some back ∧
      (∀ item ∈ later.take (later.length - back), rank item < rank last) ∧
      ∀ item ∈ later.drop (later.length - back), rank last ≤ rank item := by
  obtain ⟨back, reached, above, below⟩ :=
    @exists_reach_atMost _ _ (fun other item => less item other) _ last .back laterAscends.reverse
      fun item member => by
        rw [agrees item (List.mem_reverse.mp member)]
        simp
  refine ⟨back, reached, fun item member => ?_, fun item member => ?_⟩
  · rw [List.drop_reverse] at below
    exact Int.neg_lt_neg_iff.mp (below item (List.mem_reverse.mpr member))
  · rw [List.take_reverse] at above
    exact Int.neg_le_neg_iff.mp (above item (List.mem_reverse.mpr member))

theorem Ascends.take_le_drop {items : List α} (ascends : Ascends rank items) (count : Nat) :
    ∀ one ∈ items.take count, ∀ other ∈ items.drop count, rank one ≤ rank other := by
  rw [← List.take_append_drop count items] at ascends
  exact (ascends_append.mp ascends).2.2

/-- Where only the parts between two places are contested, the rest can stay where it is. -/
theorem isStableSort_of_contested {earlier later merged : List α} {front border : Nat}
    (earlierAscends : Ascends rank earlier) (laterAscends : Ascends rank later)
    (sorted : IsStableSort rank (earlier.drop front ++ later.take border) merged)
    (before : ∀ one ∈ earlier.take front, ∀ other ∈ later, rank one ≤ rank other)
    (behind : ∀ one ∈ earlier.drop front, ∀ other ∈ later.drop border, rank one ≤ rank other) :
    IsStableSort rank (earlier ++ later)
      (earlier.take front ++ merged ++ later.drop border) := by
  have whole : earlier.take front ++ (earlier.drop front ++ later.take border) ++
      later.drop border = earlier ++ later := by
    rw [← List.append_assoc, List.take_append_drop, List.append_assoc, List.take_append_drop]
  rw [← whole]
  refine sorted.frame (earlierAscends.sublist (List.take_sublist front earlier))
    (laterAscends.sublist (List.drop_sublist border later)) (fun one inFront other inRest => ?_)
    fun one inMiddle other inBack => ?_
  · rw [List.append_assoc, List.take_append_drop] at inRest
    rcases List.mem_append.mp inRest with inMiddle | inLater
    · exact earlierAscends.take_le_drop front one inFront other inMiddle
    · exact before one inFront other inLater
  · rcases List.mem_append.mp inMiddle with inRest | inStart
    · exact behind one inRest other inBack
    · exact laterAscends.take_le_drop border one inStart other inBack

/-- Two runs in order are merged into one. -/
theorem exists_mergeRuns {earlier later : List α} (earlierAscends : Ascends rank earlier)
    (laterAscends : Ascends rank later) (agrees : Agrees less rank (earlier ++ later))
    (threshold : Nat) :
    ∃ merged next, mergeRuns less threshold earlier later = some (merged, next) ∧
      IsStableSort rank (earlier ++ later) merged := by
  -- Where nothing is contested, the runs are in order as they stand.
  have asTheyStand (inOrder : ∀ one ∈ earlier, ∀ other ∈ later, rank one ≤ rank other) :
      ∃ merged next, some (earlier ++ later, threshold) = some (merged, next) ∧
        IsStableSort rank (earlier ++ later) merged :=
    ⟨_, _, rfl, ascends_append.mpr ⟨earlierAscends, laterAscends, inOrder⟩, SameLevels.refl rank _⟩
  unfold mergeRuns
  cases later with
  | nil => simpa using asTheyStand fun _ _ _ none => by cases none
  | cons first rest =>
    generalize laterRun : first :: rest = later at *
    have starts : later.head? = some first := by rw [← laterRun, List.head?_cons]
    have firstIn : first ∈ later := List.mem_of_head? starts
    have firstLe : ∀ item ∈ later, rank first ≤ rank item := by
      rw [← laterRun] at laterAscends ⊢
      exact fun item member => laterAscends.head_le member
    obtain ⟨front, reached, frontBelow, frontAbove⟩ := exists_reach_atMost .front earlierAscends
      fun item member => agrees first (List.mem_append_right _ firstIn) item
        (List.mem_append_left _ member)
    simp only [starts, reached, Option.bind_some]
    have front_mem {item : α} (member : item ∈ earlier) :
        item ∈ earlier.take front ∨ item ∈ earlier.drop front := by
      rwa [← List.mem_append, List.take_append_drop]
    have fromFront : ∀ one ∈ earlier.take front, ∀ other ∈ later, rank one ≤ rank other :=
      fun one inFront other inLater =>
        Int.le_trans (frontBelow one inFront) (firstLe other inLater)
    cases ends : (earlier.drop front).getLast? with
    | none =>
      refine asTheyStand fun one inEarlier other inLater => ?_
      rcases front_mem inEarlier with inFront | inRest
      · exact fromFront one inFront other inLater
      · rw [List.getLast?_eq_none_iff.mp ends] at inRest
        cases inRest
    | some last =>
      have restAscends := earlierAscends.sublist (List.drop_sublist front earlier)
      have lastIn : last ∈ earlier := List.mem_of_mem_drop (List.mem_of_getLast? ends)
      obtain ⟨back, reached, belowLast, lastLe⟩ := exists_border laterAscends
        fun item member => agrees item (List.mem_append_right _ member) last
          (List.mem_append_left _ lastIn)
      simp only [reached, Option.bind_some]
      generalize later.length - back = border at belowLast lastLe ⊢
      have restLe : ∀ one ∈ earlier.drop front, ∀ other ∈ later.drop border,
          rank one ≤ rank other := fun one inRest other inBack =>
        Int.le_trans (restAscends.le_getLast ends inRest) (lastLe other inBack)
      by_cases settled : border = 0
      · rw [if_pos settled]
        subst settled
        refine asTheyStand fun one inEarlier other inLater => ?_
        rcases front_mem inEarlier with inFront | inRest
        · exact fromFront one inFront other inLater
        · exact restLe one inRest other inLater
      · rw [if_neg settled]
        have contestedStarts : (later.take border).head? = some first := by
          rw [List.head?_take, if_neg settled, starts]
        have contested : Agrees less rank (earlier.drop front ++ later.take border) :=
          agrees.of_subset fun item member => List.mem_append.mpr
            ((List.mem_append.mp member).imp List.mem_of_mem_drop List.mem_of_mem_take)
        obtain ⟨merged, next, found, sorted⟩ := exists_mergeContested restAscends
          (laterAscends.sublist (List.take_sublist border later)) contested contestedStarts
          frontAbove ends belowLast threshold
        rw [found, Option.map_some]
        exact ⟨_, next, rfl,
          isStableSort_of_contested earlierAscends laterAscends sorted fromFront restLe⟩

end DocQuery.Sorting
