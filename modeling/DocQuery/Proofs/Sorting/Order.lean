/-
This file says what a stable sort of a list is, for a comparison that ranks its members.

A comparison agrees with a rank if it answers every question about two members, and answers as
their ranks do. A stable sort puts the members in the order of their ranks, and for each rank it
keeps the members of that rank in their given order. Since nothing is said about the course of a
sort, the two halves can be proved of small pieces and put together: keeping the levels is an
equivalence that lists inherit from their parts.

Every comparison that is a strict weak order on the members agrees with some rank, the number of
members below.
-/

import DocQuery.Sorting.Stable
import Mathlib.Data.List.Perm.Basic

namespace DocQuery.Sorting

variable {α : Type}

/-! ### Levels -/

/-- The members of a list that have a rank, in their order. -/
def atLevel (rank : α → Int) (level : Int) (items : List α) : List α :=
  items.filter fun item => rank item = level

/-- Two lists have the same members at every level, in the same order. -/
def SameLevels (rank : α → Int) (items result : List α) : Prop :=
  ∀ level, atLevel rank level items = atLevel rank level result

/-- The members are in the order of their ranks. -/
def Ascends (rank : α → Int) (items : List α) : Prop :=
  items.Pairwise fun first second => rank first ≤ rank second

/-- The second list is the first one, sorted stably. -/
structure IsStableSort (rank : α → Int) (items result : List α) : Prop where
  ascends : Ascends rank result
  levels : SameLevels rank items result

variable {rank : α → Int} {items result : List α}

theorem atLevel_append (level : Int) (first second : List α) :
    atLevel rank level (first ++ second) = atLevel rank level first ++ atLevel rank level second :=
  List.filter_append ..

theorem mem_atLevel {level : Int} {item : α} :
    item ∈ atLevel rank level items ↔ item ∈ items ∧ rank item = level := by
  rw [atLevel, List.mem_filter, decide_eq_true_iff]

namespace SameLevels

theorem refl (rank : α → Int) (items : List α) : SameLevels rank items items := fun _ => rfl

theorem symm (levels : SameLevels rank items result) : SameLevels rank result items :=
  fun level => (levels level).symm

theorem trans {last : List α} (levels : SameLevels rank items result)
    (further : SameLevels rank result last) : SameLevels rank items last :=
  fun level => (levels level).trans (further level)

theorem append {others ending : List α} (levels : SameLevels rank items result)
    (further : SameLevels rank others ending) :
    SameLevels rank (items ++ others) (result ++ ending) := by
  intro level
  rw [atLevel_append, atLevel_append, levels level, further level]

theorem reverse (levels : SameLevels rank items result) :
    SameLevels rank items.reverse result.reverse := by
  intro level
  have same := congrArg List.reverse (levels level)
  rwa [atLevel, atLevel, ← List.filter_reverse, ← List.filter_reverse] at same

/-- Stretches that share no rank can change places. -/
theorem swap {first second : List α}
    (apart : ∀ one ∈ first, ∀ other ∈ second, rank one ≠ rank other) :
    SameLevels rank (first ++ second) (second ++ first) := by
  intro level
  rw [atLevel_append, atLevel_append]
  by_cases absent : atLevel rank level first = []
  · rw [absent, List.nil_append, List.append_nil]
  · obtain ⟨one, present⟩ := List.exists_mem_of_ne_nil _ absent
    obtain ⟨member, same⟩ := mem_atLevel.mp present
    have empty : atLevel rank level second = [] := by
      refine List.filter_eq_nil_iff.mpr fun other inSecond equal => ?_
      exact apart one member other inSecond (same.trans (of_decide_eq_true equal).symm)
    rw [empty, List.nil_append, List.append_nil]

theorem mem_iff (levels : SameLevels rank items result) {item : α} :
    item ∈ items ↔ item ∈ result := by
  have same : item ∈ atLevel rank (rank item) items ↔ item ∈ atLevel rank (rank item) result := by
    rw [levels]
  rwa [mem_atLevel, mem_atLevel, and_iff_left rfl, and_iff_left rfl] at same

/-- Lists with the same levels have the same members, each as often. -/
theorem perm (levels : SameLevels rank items result) : items.Perm result := by
  classical
  refine List.perm_iff_count.mpr fun item => ?_
  have counted (list : List α) : (atLevel rank (rank item) list).count item = list.count item :=
    List.count_filter (decide_eq_true rfl)
  rw [← counted items, levels, counted]

/-- The levels of a rank are those of its negation. -/
theorem negated (levels : SameLevels rank items result) :
    SameLevels (fun item => -rank item) items result := by
  intro level
  have same (list : List α) :
      atLevel (fun item => -rank item) level list = atLevel rank (-level) list := by
    unfold atLevel
    congr 1
    funext item
    have flipped : -rank item = level ↔ rank item = -level := by omega
    exact decide_eq_decide.mpr flipped
  rw [same, same, levels]

end SameLevels

/-! ### Stable sorts -/

theorem ascends_append {first second : List α} :
    Ascends rank (first ++ second) ↔ Ascends rank first ∧ Ascends rank second ∧
      ∀ one ∈ first, ∀ other ∈ second, rank one ≤ rank other :=
  List.pairwise_append

theorem Ascends.sublist {part : List α} (ascends : Ascends rank items)
    (sublist : part.Sublist items) : Ascends rank part :=
  List.Pairwise.sublist sublist ascends

/-- The first member has the lowest rank. -/
theorem Ascends.head_le {head item : α} {rest : List α} (ascends : Ascends rank (head :: rest))
    (member : item ∈ head :: rest) : rank head ≤ rank item := by
  rcases List.mem_cons.mp member with rfl | later
  · exact Int.le_refl _
  · exact List.rel_of_pairwise_cons ascends later

theorem Ascends.reverse (ascends : Ascends rank items) :
    Ascends (fun item => -rank item) items.reverse :=
  List.pairwise_reverse.mpr (ascends.imp fun below => Int.neg_le_neg below)

/-- The last member has the highest rank. -/
theorem Ascends.le_getLast {last item : α} (ascends : Ascends rank items)
    (ends : items.getLast? = some last) (member : item ∈ items) : rank item ≤ rank last := by
  have turned := ascends.reverse
  rw [← List.head?_reverse] at ends
  rw [← List.mem_reverse] at member
  cases reversed : items.reverse with
  | nil => simp [reversed] at ends
  | cons head rest =>
    rw [reversed] at turned ends member
    obtain rfl : head = last := by simpa using ends
    exact Int.neg_le_neg_iff.mp (turned.head_le member)

namespace IsStableSort

/-- The reverse of a sorted reverse is sorted the other way round, and equal members are in the
given order again. -/
theorem reverse (sorted : IsStableSort rank items.reverse result) :
    IsStableSort (fun item => -rank item) items result.reverse where
  ascends := sorted.ascends.reverse
  levels := by
    have levels := sorted.levels.reverse
    rw [List.reverse_reverse] at levels
    exact levels.negated

/-- What goes before and behind everything can be left where it is. -/
theorem frame (sorted : IsStableSort rank items result) {front back : List α}
    (frontAscends : Ascends rank front) (backAscends : Ascends rank back)
    (before : ∀ one ∈ front, ∀ other ∈ items ++ back, rank one ≤ rank other)
    (behind : ∀ one ∈ items, ∀ other ∈ back, rank one ≤ rank other) :
    IsStableSort rank (front ++ items ++ back) (front ++ result ++ back) where
  ascends := by
    have member {item : α} (inResult : item ∈ result) : item ∈ items :=
      sorted.levels.mem_iff.mpr inResult
    rw [List.append_assoc]
    refine ascends_append.mpr ⟨frontAscends, ascends_append.mpr ⟨sorted.ascends, backAscends,
      fun one inResult => behind one (member inResult)⟩, fun one inFront other inRest => ?_⟩
    refine before one inFront other (List.mem_append.mpr ?_)
    exact (List.mem_append.mp inRest).imp_left member
  levels := ((SameLevels.refl rank front).append sorted.levels).append (SameLevels.refl rank back)

/-- An order that the list was in before decides between members of one rank. -/
theorem pairwise (sorted : IsStableSort rank items result) {related : α → α → Prop}
    (before : items.Pairwise related) :
    result.Pairwise fun first second =>
      rank first < rank second ∨ rank first = rank second ∧ related first second := by
  refine List.pairwise_iff_forall_sublist.mpr fun {first second} sublist => ?_
  have atMost : rank first ≤ rank second :=
    List.pairwise_iff_forall_sublist.mp sorted.ascends sublist
  rcases Int.lt_or_eq_of_le atMost with below | equal
  · exact .inl below
  · -- Both members are of one level, and levels stand in the old order.
    have ranked : atLevel rank (rank second) [first, second] = [first, second] := by
      simp [atLevel, equal]
    have levelled := List.Sublist.filter (fun item => decide (rank item = rank second)) sublist
    have inItems : [first, second].Sublist items := by
      rw [← ranked]
      refine levelled.trans ?_
      have same := sorted.levels (rank second)
      unfold atLevel at same
      rw [← same]
      exact List.filter_sublist
    exact .inr ⟨equal, List.pairwise_iff_forall_sublist.mp before inItems⟩

end IsStableSort

/-! ### Comparisons -/

/-- A comparison answers all questions about the members of a list as their ranks do. -/
def Agrees (less : α → α → Option Bool) (rank : α → Int) (items : List α) : Prop :=
  ∀ first ∈ items, ∀ second ∈ items, less first second = some (decide (rank first < rank second))

variable {less : α → α → Option Bool}

theorem Agrees.of_subset {part : List α} (agrees : Agrees less rank items)
    (subset : ∀ item ∈ part, item ∈ items) : Agrees less rank part :=
  fun first inFirst second inSecond =>
    agrees first (subset first inFirst) second (subset second inSecond)

/-- A comparison turned round agrees with the negated rank. -/
theorem Agrees.turned (agrees : Agrees less rank items) :
    Agrees (fun first second => less second first) (fun item => -rank item) items := by
  intro first inFirst second inSecond
  have flipped : rank second < rank first ↔ -rank first < -rank second := by omega
  show less second first = some (decide (-rank first < -rank second))
  rw [agrees second inSecond first inFirst, decide_eq_decide.mpr flipped]

/-- A comparison that is a strict weak order on some items: it answers every question about two
of them, it never answers "below" both ways, and what is not below can be chained. -/
structure Orders (less : α → α → Option Bool) (among : α → Prop) : Prop where
  answers : ∀ {first second}, among first → among second → (less first second).isSome
  asymmetric : ∀ {first second}, among first → among second →
    less first second = some true → less second first = some false
  chained : ∀ {first second third}, among first → among second → among third →
    less first second = some false → less second third = some false →
      less first third = some false

/-- The number of members that are below an item. -/
def rankBelow (less : α → α → Option Bool) (items : List α) (item : α) : Int :=
  (items.countP fun other => less other item == some true : Nat)

/-- More members have a property that one more member has. -/
theorem countP_lt_countP {first second : α → Bool} (implied : ∀ item ∈ items, first item = true →
    second item = true) {item : α} (member : item ∈ items) (gained : second item = true)
    (lacked : first item = false) : items.countP first < items.countP second := by
  obtain ⟨front, back, rfl⟩ := List.append_of_mem member
  have inFront := List.countP_mono_left fun other inOther =>
    implied other (List.mem_append_left _ inOther)
  have inBack := List.countP_mono_left fun other inOther =>
    implied other (List.mem_append_right _ (List.mem_cons_of_mem item inOther))
  rw [List.countP_append, List.countP_append, List.countP_cons_of_pos gained,
    List.countP_cons_of_neg (by rw [lacked]; exact Bool.false_ne_true)]
  omega

namespace Orders

variable {among : α → Prop}

/-- Items are ordered by what is ordered about them. -/
theorem comap {β : Type} (orders : Orders less among) {project : β → α} {others : β → Prop}
    (inside : ∀ {item}, others item → among (project item)) :
    Orders (fun first second => less (project first) (project second)) others :=
  ⟨fun inFirst inSecond => orders.answers (inside inFirst) (inside inSecond),
    fun inFirst inSecond => orders.asymmetric (inside inFirst) (inside inSecond),
    fun inFirst inSecond inThird => orders.chained (inside inFirst) (inside inSecond)
      (inside inThird)⟩

/-- Items are ordered by contents with a strict weak order. -/
theorem of_contents {κ : Type} (below : κ → κ → Prop) [DecidableRel below]
    {content : α → Option κ} (asymmetric : ∀ {first second}, below first second →
      ¬ below second first)
    (chained : ∀ {first second third}, ¬ below first second → ¬ below second third →
      ¬ below first third)
    (answers : ∀ {first second one other}, content first = some one → content second = some other →
      less first second = some (decide (below one other))) :
    Orders less fun item => (content item).isSome where
  answers := by
    intro first second inFirst inSecond
    obtain ⟨one, first⟩ := Option.isSome_iff_exists.mp inFirst
    obtain ⟨other, second⟩ := Option.isSome_iff_exists.mp inSecond
    rw [answers first second]
    rfl
  asymmetric := by
    intro first second inFirst inSecond found
    obtain ⟨one, first⟩ := Option.isSome_iff_exists.mp inFirst
    obtain ⟨other, second⟩ := Option.isSome_iff_exists.mp inSecond
    rw [answers first second, Option.some.injEq, decide_eq_true_iff] at found
    rw [answers second first, decide_eq_false (asymmetric found)]
  chained := by
    intro first second third inFirst inSecond inThird found further
    obtain ⟨one, first⟩ := Option.isSome_iff_exists.mp inFirst
    obtain ⟨other, second⟩ := Option.isSome_iff_exists.mp inSecond
    obtain ⟨last, third⟩ := Option.isSome_iff_exists.mp inThird
    rw [answers first second, Option.some.injEq, decide_eq_false_iff_not] at found
    rw [answers second third, Option.some.injEq, decide_eq_false_iff_not] at further
    rw [answers first third, decide_eq_false (chained found further)]

theorem irreflexive (orders : Orders less among) {item : α} (member : among item) :
    less item item = some false := by
  obtain ⟨answer, answered⟩ := Option.isSome_iff_exists.mp (orders.answers member member)
  cases answer with
  | false => exact answered
  | true => exact orders.asymmetric member member answered

theorem total (orders : Orders less among) {first second : α} (inFirst : among first)
    (inSecond : among second) :
    less first second = some true ∨ less first second = some false := by
  obtain ⟨answer, answered⟩ := Option.isSome_iff_exists.mp (orders.answers inFirst inSecond)
  cases answer with
  | false => exact .inr answered
  | true => exact .inl answered

/-- What is below an item is below all that the item is not above. -/
theorem below_of_below (orders : Orders less among) {first second third : α}
    (inFirst : among first) (inSecond : among second) (inThird : among third)
    (below : less first second = some true) (notAbove : less third second = some false) :
    less first third = some true := by
  rcases orders.total inFirst inThird with found | found
  · exact found
  · have chained := orders.chained inFirst inThird inSecond found notAbove
    rw [below] at chained
    cases chained

/-- A strict weak order on the members agrees with the number of members below. -/
theorem agrees (orders : Orders less fun item => item ∈ items) :
    Agrees less (rankBelow less items) items := by
  intro first inFirst second inSecond
  -- A member that is not above another has no more members below it.
  have counted {one other : α} (inOne : one ∈ items) (inOther : other ∈ items)
      (notAbove : less other one = some false) : ∀ third ∈ items,
      (less third one == some true) = true → (less third other == some true) = true := by
    intro third inThird below
    rw [beq_iff_eq] at below ⊢
    exact orders.below_of_below inThird inOne inOther below notAbove
  rcases orders.total inFirst inSecond with below | notBelow
  · have fewer : rankBelow less items first < rankBelow less items second := by
      refine Int.ofNat_lt.mpr (countP_lt_countP
        (counted inFirst inSecond (orders.asymmetric inFirst inSecond below)) inFirst ?_ ?_)
      · rw [below]
        rfl
      · rw [orders.irreflexive inFirst]
        rfl
    rw [below, decide_eq_true fewer]
  · have more : rankBelow less items second ≤ rankBelow less items first :=
      Int.ofNat_le.mpr (List.countP_mono_left (counted inSecond inFirst notBelow))
    rw [notBelow, decide_eq_false (Int.not_lt.mpr more)]

end Orders

end DocQuery.Sorting
