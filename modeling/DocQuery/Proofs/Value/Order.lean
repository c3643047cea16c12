/-
This file proves which laws the order of values keeps.

The order is read off what values stand for. It is partial: a number cannot be compared with a
text, null and maps cannot be compared at all, and of two lists the first members that differ
decide. So "can be compared" is no equivalence, since a list can stand between two that differ at
an earlier place in things without an order. But what is at most as high as a value is at most as
high as all that the value is at most as high as: the chain says where the first difference lies,
and there it goes on by itself.
-/

import DocQuery.Proofs.Sorting.Order
import DocQuery.Proofs.Value.Contents
import DocQuery.Value.Conversion

namespace DocQuery

/-! ### Answers -/

/-- An answer that says "below" or "equal". -/
def SaysAtMost (answer : Option Ordering) : Prop := answer = some .lt ∨ answer = some .eq

theorem not_saysAtMost_none : ¬ SaysAtMost none := nofun

theorem saysAtMost_some_iff {ordering : Ordering} :
    SaysAtMost (some ordering) ↔ ordering.isLE = true := by
  cases ordering <;> simp [SaysAtMost]

/-! ### What has no parts -/

namespace Plain

/-- How things without parts compare. -/
def order : Plain → Plain → Option Ordering
  | .number left, .number right => some (compare left right)
  | .text left, .text right => some (compare left right)
  | .bytes left, .bytes right => some (compare left right)
  | _, _ => none

theorem order_flip (left right : Plain) : right.order left = (left.order right).map Ordering.swap := by
  cases left <;> cases right <;> try rfl
  all_goals exact congrArg some Std.OrientedCmp.eq_swap

theorem eq_of_order_eq {left right : Plain} (same : left.order right = some .eq) :
    left = right := by
  cases left <;> cases right <;> try cases same
  all_goals exact congrArg _ (Std.LawfulEqCmp.eq_of_compare (Option.some.inj same))

theorem order_self {left right : Plain} (comparable : left.order right ≠ none) :
    left.order left = some .eq := by
  cases left with
  | null => exact absurd (by cases right <;> rfl) comparable
  | _ => exact congrArg some Std.ReflCmp.compare_self

theorem order_trans {first second third : Plain} (below : SaysAtMost (first.order second))
    (further : SaysAtMost (second.order third)) : SaysAtMost (first.order third) := by
  cases first <;> cases second <;> try exact absurd below not_saysAtMost_none
  all_goals
    cases third <;> try exact absurd further not_saysAtMost_none
    rw [order, saysAtMost_some_iff] at below further ⊢
    exact Std.TransCmp.isLE_trans below further

end Plain

/-! ### Lists -/

namespace Content

open Classical in
mutual
/-- How things that values stand for compare. -/
noncomputable def order : Content → Content → Option Ordering
  | .plain left, right => match right with
    | .plain right => left.order right
    | _ => none
  | .list items, right => match right with
    | .list others => orderList items others
    | _ => none
  | .map _, _ => none
/-- How two lists compare: at the first place where the members are not the same. -/
noncomputable def orderList : List Content → List Content → Option Ordering
  | [], others => match others with
    | [] => some .eq
    | _ :: _ => some .lt
  | item :: items, others => match others with
    | [] => some .gt
    | other :: rest => if item = other then orderList items rest else order item other
end

/-- What is proved of lists from their items holds of everything that a value can stand for. -/
theorem parts_induction {Holds : Content → Prop} (plain : ∀ plain, Holds (.plain plain))
    (list : ∀ items, (∀ item ∈ items, Holds item) → Holds (.list items))
    (map : ∀ held, Holds (.map held)) (content : Content) : Holds content := by
  match content with
  | .plain content => exact plain content
  | .map held => exact map held
  | .list items =>
    exact list items fun item member => parts_induction plain list map item
termination_by sizeOf content
decreasing_by
  have := List.sizeOf_lt_of_mem member
  simp_wf
  omega

theorem orderList_flip {items : List Content}
    (each : ∀ item ∈ items, ∀ other : Content, other.order item = (item.order other).map Ordering.swap)
    (others : List Content) : orderList others items = (orderList items others).map Ordering.swap := by
  induction items generalizing others with
  | nil => cases others <;> rfl
  | cons item rest inductionHypothesis =>
    obtain ⟨itemEach, restEach⟩ := List.forall_mem_cons.mp each
    cases others with
    | nil => rfl
    | cons other others =>
      rw [orderList, orderList]
      by_cases same : item = other
      · rw [if_pos same, if_pos same.symm]
        exact inductionHypothesis restEach others
      · rw [if_neg same, if_neg (Ne.symm same)]
        exact itemEach other

theorem order_flip (left right : Content) : right.order left = (left.order right).map Ordering.swap := by
  induction left using parts_induction generalizing right with
  | plain left =>
    cases right with
    | plain right => exact left.order_flip right
    | list items => rfl
    | map held => rfl
  | list items each =>
    cases right with
    | plain right => rfl
    | list others => exact orderList_flip each others
    | map held => rfl
  | map held => cases right <;> rfl

theorem eq_of_orderList_eq {items others : List Content}
    (each : ∀ item ∈ items, ∀ {other : Content}, item.order other = some .eq → item = other)
    (same : orderList items others = some .eq) : items = others := by
  induction items generalizing others with
  | nil =>
    cases others with
    | nil => rfl
    | cons other others => cases same
  | cons item rest inductionHypothesis =>
    obtain ⟨itemEach, restEach⟩ := List.forall_mem_cons.mp each
    cases others with
    | nil => cases same
    | cons other others =>
      rw [orderList] at same
      by_cases equal : item = other
      · rw [if_pos equal] at same
        rw [equal, inductionHypothesis restEach same]
      · rw [if_neg equal] at same
        exact absurd (itemEach same) equal

theorem eq_of_order_eq {left right : Content} (same : left.order right = some .eq) :
    left = right := by
  induction left using parts_induction generalizing right with
  | plain left =>
    cases right with
    | plain right => rw [Plain.eq_of_order_eq same]
    | list items => cases same
    | map held => cases same
  | list items each =>
    cases right with
    | plain right => cases same
    | list others => rw [eq_of_orderList_eq each same]
    | map held => cases same
  | map held => cases right <;> cases same

theorem orderList_self (items : List Content) : orderList items items = some .eq := by
  induction items with
  | nil => rfl
  | cons item rest inductionHypothesis =>
    rw [orderList, if_pos rfl]
    exact inductionHypothesis

/-- What can be compared with anything compares as equal with itself. -/
theorem order_self {left right : Content} (comparable : left.order right ≠ none) :
    left.order left = some .eq := by
  cases left with
  | plain left =>
    cases right with
    | plain right => exact Plain.order_self comparable
    | list items => exact absurd rfl comparable
    | map held => exact absurd rfl comparable
  | list items => exact orderList_self items
  | map held => exact absurd (by cases right <;> rfl) comparable

/-- Only what is the same is at most as high both ways. -/
theorem eq_of_saysAtMost {left right : Content} (below : SaysAtMost (left.order right))
    (above : SaysAtMost (right.order left)) : left = right := by
  rcases below with less | same
  · rw [order_flip, less] at above
    exact (Bool.false_ne_true (saysAtMost_some_iff.mp above)).elim
  · exact eq_of_order_eq same

theorem orderList_trans {items others lasts : List Content}
    (each : ∀ item ∈ items, ∀ {second third : Content}, SaysAtMost (item.order second) →
      SaysAtMost (second.order third) → SaysAtMost (item.order third))
    (below : SaysAtMost (orderList items others)) (further : SaysAtMost (orderList others lasts)) :
    SaysAtMost (orderList items lasts) := by
  have notAbove : ¬ SaysAtMost (some .gt) := nofun
  induction items generalizing others lasts with
  | nil =>
    cases lasts with
    | nil => exact .inr rfl
    | cons last lasts => exact .inl rfl
  | cons item rest inductionHypothesis =>
    obtain ⟨itemEach, restEach⟩ := List.forall_mem_cons.mp each
    cases others with
    | nil => exact absurd below notAbove
    | cons other others =>
      cases lasts with
      | nil => exact absurd further notAbove
      | cons last lasts =>
        rw [orderList] at below further ⊢
        -- The first place at which two of the three lists differ decides.
        by_cases firstSame : item = other
        · subst firstSame
          rw [if_pos rfl] at below
          by_cases secondSame : item = last
          · rw [if_pos secondSame] at further ⊢
            exact inductionHypothesis restEach below further
          · rw [if_neg secondSame] at further ⊢
            exact further
        · rw [if_neg firstSame] at below
          by_cases secondSame : other = last
          · subst secondSame
            rw [if_neg firstSame]
            exact below
          · rw [if_neg secondSame] at further
            have apart : item ≠ last := by
              rintro rfl
              exact firstSame (eq_of_saysAtMost below further)
            rw [if_neg apart]
            exact itemEach below further

/-- What is at most as high can be chained. -/
theorem order_trans {first second third : Content} (below : SaysAtMost (first.order second))
    (further : SaysAtMost (second.order third)) : SaysAtMost (first.order third) := by
  have refused := not_saysAtMost_none
  induction first using parts_induction generalizing second third with
  | plain first =>
    cases second with
    | plain second =>
      cases third with
      | plain third => exact Plain.order_trans below further
      | list items => exact absurd further refused
      | map held => exact absurd further refused
    | list items => exact absurd below refused
    | map held => exact absurd below refused
  | list items each =>
    cases second with
    | plain second => exact absurd below refused
    | list others =>
      cases third with
      | plain third => exact absurd further refused
      | list lasts => exact orderList_trans each below further
      | map held => exact absurd further refused
    | map held => exact absurd below refused
  | map held => exact absurd below refused

end Content

/-! ### Values -/

/-- What comparing two values says, if their contents compare in a given way. -/
def Comparison.ofAnswer : Option Ordering → Comparison
  | some ordering => .ordered ordering
  | none => .incomparable

namespace Value

/-- A number compares as its place does. -/
theorem order_number {quantity : Quantity} (defined : quantity ≠ .undefined) {right : Value}
    (proper : right.IsProper) :
    (match right.quantity? with
      | some other => Comparison.ofQuantities quantity other
      | none => .incomparable) =
      .ofAnswer ((Content.plain (.number quantity.extent)).order right.content) := by
  cases known : right.quantity? with
  | some other =>
    dsimp only
    rw [content_eq_plain_iff.mpr (plain?_eq_number_iff.mpr ⟨other, known, rfl⟩),
      Comparison.ofQuantities,
      Quantity.order_eq_compare defined (quantity?_ne_undefined proper known)]
    rfl
  | none => cases right <;> first | rfl | cases known

/-- A text compares as its codes do. -/
theorem order_text (text : Text) (right : Value) :
    orderText text right =
      .ofAnswer ((Content.plain (.text (text.map CodePoint.code))).order right.content) := by
  rw [orderText]
  cases known : right.asText? with
  | some other =>
    dsimp only
    rw [content_eq_plain_iff.mpr (plain?_eq_text_iff.mpr known), Comparison.ofTexts_eq_compare]
    rfl
  | none => cases right <;> first | rfl | cases known

theorem orderList_eq {items others : List Value}
    (each : ∀ item ∈ items, item.IsProper ∧ ∀ right : Value, right.IsProper →
      item.order right = .ofAnswer (item.content.order right.content))
    (othersProper : ∀ other ∈ others, other.IsProper) :
    orderList items others = .ofAnswer (Content.orderList (contents items) (contents others)) := by
  induction items generalizing others with
  | nil => cases others <;> rfl
  | cons item rest inductionHypothesis =>
    cases others with
    | nil => rfl
    | cons other others =>
      obtain ⟨⟨proper, itemEach⟩, restEach⟩ := List.forall_mem_cons.mp each
      obtain ⟨otherProper, restProper⟩ := List.forall_mem_cons.mp othersProper
      rw [orderList, contents, contents, Content.orderList, inductionHypothesis restEach restProper,
        itemEach other otherProper]
      have equal := same_iff proper otherProper
      by_cases same : item.content = other.content
      · rw [if_pos same, if_pos (equal.mpr same)]
      · rw [if_neg same, if_neg fun found => same (equal.mp found)]

/-- Values compare as what they stand for does. -/
theorem order_eq {left right : Value} (leftProper : left.IsProper) (rightProper : right.IsProper) :
    left.order right = .ofAnswer (left.content.order right.content) := by
  refine proper_induction (motive := fun left => ∀ right : Value, right.IsProper →
    left.order right = .ofAnswer (left.content.order right.content)) ?plain ?list ?map leftProper
    right rightProper
  case plain =>
    intro left plain known leftProper right rightProper
    cases left with
    | null => cases right <;> rfl
    | bool flag => exact order_number (Quantity.ofInt_ne_undefined _) rightProper
    | int number => exact order_number (Quantity.ofInt_ne_undefined _) rightProper
    | float number => exact order_number (quantity?_ne_undefined leftProper rfl) rightProper
    | text content => exact order_text content right
    | bytes content =>
      cases right with
      | bytes other => exact congrArg _ (Comparison.ofBytes_eq_compare content other)
      | _ => rfl
    | direction sense => exact order_text sense.code right
    | list items => cases known
    | map entries => cases known
  case list =>
    intro items each right rightProper
    cases right with
    | list others => exact orderList_eq each (isProper_list_iff.mp rightProper)
    | _ => rfl
  case map =>
    intro entries distinct each right rightProper
    cases right <;> rfl

/-- A value is at most as high as another one. -/
def AtMost (left right : Value) : Prop := SaysAtMost (left.content.order right.content)

theorem AtMost.trans {first second third : Value} (below : first.AtMost second)
    (further : second.AtMost third) : first.AtMost third :=
  Content.order_trans below further

section Proper

variable {left right : Value} (leftProper : left.IsProper) (rightProper : right.IsProper)
include leftProper rightProper

/-- A value that is not below another one is one that the other is at most as high as. -/
theorem less?_eq_false_iff : left.less? right = some false ↔ right.AtMost left := by
  rw [less?, relates?, order_eq leftProper rightProper, AtMost, Content.order_flip left.content]
  cases left.content.order right.content with
  | none =>
    rw [Option.map_none]
    refine ⟨fun same => ?_, fun below => absurd below not_saysAtMost_none⟩
    cases same
  | some ordering =>
    rw [Option.map_some, saysAtMost_some_iff]
    cases ordering <;> decide

theorem less?_eq_true_iff :
    left.less? right = some true ↔ left.AtMost right ∧ ¬ right.AtMost left := by
  rw [less?, relates?, order_eq leftProper rightProper, AtMost, AtMost,
    Content.order_flip left.content]
  cases left.content.order right.content with
  | none =>
    rw [Option.map_none]
    refine ⟨fun same => ?_, fun both => absurd both.1 not_saysAtMost_none⟩
    cases same
  | some ordering =>
    rw [Option.map_some, saysAtMost_some_iff, saysAtMost_some_iff]
    cases ordering <;> decide

/-- Two values can be compared if one of them is at most as high as the other. -/
theorem isSome_less?_iff : (left.less? right).isSome ↔ left.AtMost right ∨ right.AtMost left := by
  rw [Option.isSome_iff_exists, Bool.exists_bool, less?_eq_false_iff leftProper rightProper,
    less?_eq_true_iff leftProper rightProper]
  by_cases above : right.AtMost left <;> simp [above]

end Proper

/-- A value that can be compared with another one can be compared with itself. -/
theorem atMost_self {left right : Value} (comparable : left.AtMost right ∨ right.AtMost left) :
    left.AtMost left := by
  have answered : left.content.order right.content ≠ none := by
    intro refused
    rcases comparable with below | above
    · rw [AtMost, refused] at below
      exact not_saysAtMost_none below
    · rw [AtMost, Content.order_flip left.content, refused] at above
      exact not_saysAtMost_none above
  exact .inr (Content.order_self answered)

/-- Proper values that can all be compared can be sorted by. -/
theorem orders_of_comparable {among : Value → Prop}
    (proper : ∀ {value}, among value → value.IsProper)
    (comparable : ∀ {left right}, among left → among right → left.AtMost right ∨ right.AtMost left) :
    Sorting.Orders less? among where
  answers inFirst inSecond :=
    (isSome_less?_iff (proper inFirst) (proper inSecond)).mpr (comparable inFirst inSecond)
  asymmetric inFirst inSecond below :=
    (less?_eq_false_iff (proper inSecond) (proper inFirst)).mpr
      ((less?_eq_true_iff (proper inFirst) (proper inSecond)).mp below).1
  chained inFirst inSecond inThird notBelow further := by
    refine (less?_eq_false_iff (proper inFirst) (proper inThird)).mpr ?_
    exact ((less?_eq_false_iff (proper inSecond) (proper inThird)).mp further).trans
      ((less?_eq_false_iff (proper inFirst) (proper inSecond)).mp notBelow)

/-! ### Fields -/

/-- What a map holds under a key is as proper as the map. -/
theorem IsProper.lookup {entries : Entries} (proper : (Value.map entries).IsProper) {key : Key}
    {value : Value} (found : entries.lookup key = some value) : value.IsProper := by
  obtain ⟨entry, member, rfl⟩ := mem_of_lookup found
  exact ((isProper_map_iff.mp proper).2 entry member).2

theorem IsProper.walk {keys : List Text} {start found : Value} (proper : start.IsProper)
    (reached : start.walk keys = some found) : found.IsProper := by
  induction keys generalizing start with
  | nil =>
    cases reached
    exact proper
  | cons key rest inductionHypothesis =>
    cases start with
    | map entries =>
      obtain ⟨between, first, second⟩ := Option.bind_eq_some_iff.mp reached
      exact inductionHypothesis (proper.lookup first) second
    | _ => cases reached

end Value

end DocQuery
