/-
This file proves that values are compared by what they stand for.

A number stands for its place on the line of all quantities, a text and a string of bytes for
their codes, a list for what its members stand for, and a map for what it holds under each key.
Two values are equal for a query exactly if they stand for the same, so that equality is an
equivalence, and nothing that is said of the order of values depends on how they are written. Both
need that no number is undefined and that every map has each key once: then a map whose entries
are all found in another one of the same size has no room for others.
-/

import DocQuery.Value.Order
import Mathlib.Data.Rat.Defs
import Mathlib.Algebra.Order.Field.Rat
import Mathlib.Algebra.Order.Field.Power
import Mathlib.Algebra.Order.Field.Basic
import Mathlib.Order.WithBot
import Mathlib.Data.List.Lex
import Mathlib.Data.Finset.Card

namespace DocQuery

/-! ### Quantities -/

namespace Quantity

/-- The place of a quantity on the line of all quantities. -/
def extent : Quantity → WithBot (WithTop ℚ)
  | .undefined => ⊥
  | .infinite negative => if negative then ⊥ else ((⊤ : WithTop ℚ) : WithBot (WithTop ℚ))
  | .dyadic multiple exponent =>
    (((multiple * (2 : ℚ) ^ exponent : ℚ) : WithTop ℚ) : WithBot (WithTop ℚ))

/-- Bringing two fractions to one exponent does not change how they compare. -/
theorem compareDyadic_eq (left leftExponent right rightExponent : Int) :
    compareDyadic left leftExponent right rightExponent =
      compare (left * (2 : ℚ) ^ leftExponent) (right * (2 : ℚ) ^ rightExponent) := by
  have scaled (multiple exponent base : Int) (low : base ≤ exponent) :
      ((multiple * (Nat.pow 2 (exponent - base).toNat : Nat) : Int) : ℚ) * (2 : ℚ) ^ base =
        multiple * (2 : ℚ) ^ exponent := by
    have together : (2 : ℚ) ^ (exponent - base).toNat * (2 : ℚ) ^ base = (2 : ℚ) ^ exponent := by
      rw [← zpow_natCast, ← zpow_add₀ (by norm_num)]
      congr 1
      omega
    push_cast [Nat.pow_eq]
    rw [mul_assoc, together]
  have positive : (0 : ℚ) < (2 : ℚ) ^ min leftExponent rightExponent := zpow_pos (by norm_num) _
  rw [← scaled left leftExponent _ (Int.min_le_left leftExponent rightExponent),
    ← scaled right rightExponent _ (Int.min_le_right leftExponent rightExponent),
    ← cmp_eq_compare, cmp_mul_pos_right positive,
    Int.cast_strictMono.cmp_map_eq, cmp_eq_compare]
  rfl

/-- Quantities compare as their places do. -/
theorem order_eq_compare {left right : Quantity} (leftDefined : left ≠ .undefined)
    (rightDefined : right ≠ .undefined) :
    left.order right = some (compare left.extent right.extent) := by
  have bottom (place : WithTop ℚ) : compare (⊥ : WithBot (WithTop ℚ)) place = .lt :=
    compare_lt_iff_lt.mpr (WithBot.bot_lt_coe place)
  have aboveBottom (place : WithTop ℚ) : compare (place : WithBot (WithTop ℚ)) ⊥ = .gt :=
    compare_gt_iff_gt.mpr (WithBot.bot_lt_coe place)
  cases left with
  | undefined => exact absurd rfl leftDefined
  | infinite negative =>
    cases right with
    | undefined => exact absurd rfl rightDefined
    | infinite otherNegative =>
      cases negative <;> cases otherNegative
      · exact congrArg some (compare_eq_iff_eq.mpr rfl).symm
      · exact congrArg some (aboveBottom _).symm
      · exact congrArg some (bottom _).symm
      · exact congrArg some (compare_eq_iff_eq.mpr rfl).symm
    | dyadic multiple exponent =>
      cases negative with
      | false =>
        refine congrArg some (compare_gt_iff_gt.mpr ?_).symm
        exact WithBot.coe_lt_coe.mpr (WithTop.coe_lt_top _)
      | true => exact congrArg some (bottom _).symm
  | dyadic multiple exponent =>
    cases right with
    | undefined => exact absurd rfl rightDefined
    | infinite negative =>
      cases negative with
      | false =>
        refine congrArg some (compare_lt_iff_lt.mpr ?_).symm
        exact WithBot.coe_lt_coe.mpr (WithTop.coe_lt_top _)
      | true => exact congrArg some (aboveBottom _).symm
    | dyadic otherMultiple otherExponent =>
      rw [order, compareDyadic_eq, extent, extent, ← cmp_eq_compare, ← cmp_eq_compare,
        WithBot.coe_strictMono.cmp_map_eq, WithTop.coe_strictMono.cmp_map_eq]

/-- Quantities that are defined are equal if they have one place. -/
theorem same_iff_extent_eq {left right : Quantity} (leftDefined : left ≠ .undefined)
    (rightDefined : right ≠ .undefined) : left.same right = true ↔ left.extent = right.extent := by
  rw [same, order_eq_compare leftDefined rightDefined, beq_iff_eq, Option.some.injEq,
    compare_eq_iff_eq]

theorem ofInt_ne_undefined (number : Int) : ofInt number ≠ .undefined := nofun

theorem ofBinary64_ne_undefined {number : Binary64} (defined : number ≠ .nan) :
    ofBinary64 number ≠ .undefined := by
  cases number with
  | nan => exact absurd rfl defined
  | infinite negative => exact nofun
  | finite negative significand exponent => exact nofun

end Quantity

/-! ### Codes -/

theorem textCodes_inj {text other : Text} :
    text.map CodePoint.code = other.map CodePoint.code ↔ text = other :=
  List.map_inj_right fun _ _ same => CodePoint.code_inj same

theorem byteCodes_inj {bytes others : List UInt8} :
    bytes.map UInt8.toNat = others.map UInt8.toNat ↔ bytes = others :=
  List.map_inj_right fun _ _ same => UInt8.toNat_inj.mp same

/-- Texts compare as their codes do. -/
theorem Comparison.ofTexts_eq_compare (left right : Text) :
    Comparison.ofTexts left right =
      .ordered (compare (left.map CodePoint.code) (right.map CodePoint.code)) := by
  rw [ofTexts]
  congr 1
  induction left generalizing right with
  | nil => cases right <;> simp
  | cons point rest inductionHypothesis =>
    cases right with
    | nil => simp
    | cons first others =>
      rw [List.map_cons, List.map_cons, List.compare_cons_cons, ← inductionHypothesis,
        Nat.compare_eq_ite_lt]
      have lessIff : point :: rest < first :: others ↔
          point.code < first.code ∨ point = first ∧ rest < others := List.cons_lt_cons_iff
      rcases Nat.lt_trichotomy point.code first.code with below | same | above
      · rw [if_pos (lessIff.mpr (.inl below)), if_pos below]
        rfl
      · obtain rfl := CodePoint.code_inj same
        simp [lessIff]
      · have different : point ≠ first := fun same => Nat.lt_irrefl _ (same ▸ above)
        have notBelow : ¬ point.code < first.code := Nat.lt_asymm above
        rw [if_neg fun below => (lessIff.mp below).elim notBelow fun both => different both.1,
          if_neg fun same => different (List.cons.inj same).1, if_neg notBelow, if_pos above]
        rfl

/-- Strings of bytes compare as their codes do. -/
theorem Comparison.ofBytes_eq_compare (left right : List UInt8) :
    Comparison.ofBytes left right =
      compare (left.map UInt8.toNat) (right.map UInt8.toNat) := by
  induction left generalizing right with
  | nil => cases right <;> rfl
  | cons byte bytes inductionHypothesis =>
    cases right with
    | nil => rfl
    | cons other others =>
      rw [ofBytes, List.map_cons, List.map_cons, List.compare_cons_cons, ← inductionHypothesis,
        Nat.compare_eq_ite_lt]
      simp only [UInt8.lt_iff_toNat_lt]
      split
      · rfl
      · split <;> rfl

/-! ### What values stand for -/

/-- What a value without parts stands for. -/
inductive Plain
  | null
  | number (extent : WithBot (WithTop ℚ))
  | text (codes : List Nat)
  | bytes (codes : List Nat)
  deriving DecidableEq

/-- What a value stands for. -/
inductive Content
  | plain (content : Plain)
  | list (items : List Content)
  | map (held : Plain → Option Content)

/-- What a key stands for. -/
def Key.plain : Key → Plain
  | .null => .null
  | .bool flag => .number (Quantity.ofInt flag.toInt).extent
  | .int number => .number (Quantity.ofInt number).extent
  | .float number => .number (Quantity.ofBinary64 number).extent
  | .text content => .text (content.map CodePoint.code)
  | .bytes content => .bytes (content.map UInt8.toNat)

namespace Key

theorem quantity?_ne_undefined {key : Key} (defined : key ≠ .float .nan) {quantity : Quantity}
    (number : key.quantity? = some quantity) : quantity ≠ .undefined := by
  cases key with
  | bool flag =>
    cases number
    exact Quantity.ofInt_ne_undefined _
  | int content =>
    cases number
    exact Quantity.ofInt_ne_undefined _
  | float content =>
    cases number
    exact Quantity.ofBinary64_ne_undefined fun undefined => defined (undefined ▸ rfl)
  | _ => cases number

theorem plain_eq_number_iff {key : Key} {extent : WithBot (WithTop ℚ)} :
    key.plain = .number extent ↔
      ∃ quantity, key.quantity? = some quantity ∧ quantity.extent = extent := by
  cases key <;> simp [plain, quantity?]

/-- A number is the same key as what stands for the same number. -/
theorem same_iff_of_quantity? {key other : Key} (otherDefined : other ≠ .float .nan)
    {quantity : Quantity} (number : key.quantity? = some quantity)
    (defined : quantity ≠ .undefined) :
    key.same other = true ↔ other.plain = .number quantity.extent := by
  have compared : key.same other = true ↔
      ∃ content, other.quantity? = some content ∧ quantity.same content = true := by
    cases key <;> cases number <;> cases other <;> simp [same, quantity?]
  rw [compared, plain_eq_number_iff]
  refine exists_congr fun content => and_congr_right fun known => ?_
  rw [Quantity.same_iff_extent_eq defined (quantity?_ne_undefined otherDefined known)]
  exact eq_comm

/-- Keys that are no undefined numbers are the same key exactly if they stand for the same. -/
theorem same_iff {key other : Key} (defined : key ≠ .float .nan)
    (otherDefined : other ≠ .float .nan) : key.same other = true ↔ key.plain = other.plain := by
  cases number : key.quantity? with
  | some quantity =>
    have place := plain_eq_number_iff.mpr ⟨quantity, number, rfl⟩
    rw [same_iff_of_quantity? otherDefined number (quantity?_ne_undefined defined number), place]
    exact eq_comm
  | none =>
    cases key <;> cases number <;> cases other <;>
      simp [same, quantity?, plain, textCodes_inj, byteCodes_inj]

end Key

namespace Value

/-- What a value stands for, if it has no parts. -/
def plain? : Value → Option Plain
  | .null => some .null
  | .bool flag => some (.number (Quantity.ofInt flag.toInt).extent)
  | .int number => some (.number (Quantity.ofInt number).extent)
  | .float number => some (.number (Quantity.ofBinary64 number).extent)
  | .text content => some (.text (content.map CodePoint.code))
  | .bytes content => some (.bytes (content.map UInt8.toNat))
  | .direction sense => some (.text (sense.code.map CodePoint.code))
  | .list _ => none
  | .map _ => none

mutual
/-- What a value stands for. -/
def content : Value → Content
  | .list items => .list (contents items)
  | .map entries => .map (held entries)
  | .null => .plain .null
  | .bool flag => .plain (.number (Quantity.ofInt flag.toInt).extent)
  | .int number => .plain (.number (Quantity.ofInt number).extent)
  | .float number => .plain (.number (Quantity.ofBinary64 number).extent)
  | .text content => .plain (.text (content.map CodePoint.code))
  | .bytes content => .plain (.bytes (content.map UInt8.toNat))
  | .direction sense => .plain (.text (sense.code.map CodePoint.code))
/-- What the members of a list stand for. -/
def contents : List Value → List Content
  | [] => []
  | item :: items => item.content :: contents items
/-- What the entries of a map hold under a key. -/
def held : List (Key × Value) → Plain → Option Content
  | [], _ => none
  | (key, value) :: entries, asked =>
    if key.plain = asked then some value.content else held entries asked
end

/-! ### Proper values -/

mutual
/-- Whether no number inside a value is undefined. -/
def isDefined : Value → Bool
  | .float number => number != .nan
  | .list items => areDefined items
  | .map entries => entriesDefined entries
  | _ => true
/-- Whether no number inside the items is undefined. -/
def areDefined : List Value → Bool
  | [] => true
  | item :: items => item.isDefined && areDefined items
/-- Whether no number inside the keys and the values of the entries is undefined. -/
def entriesDefined : List (Key × Value) → Bool
  | [] => true
  | (key, value) :: entries =>
    key != .float .nan && value.isDefined && entriesDefined entries
end

/-- A value without undefined numbers, in which every map has each key once. -/
structure IsProper (value : Value) : Prop where
  wellFormed : value.WellFormed
  defined : value.isDefined = true

theorem isProper_list_iff {items : List Value} :
    (Value.list items).IsProper ↔ ∀ item ∈ items, item.IsProper := by
  have each : wellFormedList items = true ∧ areDefined items = true ↔
      ∀ item ∈ items, item.IsProper := by
    induction items with
    | nil => simp [wellFormedList, areDefined]
    | cons item rest inductionHypothesis =>
      rw [wellFormedList, areDefined, List.forall_mem_cons, ← inductionHypothesis,
        Bool.and_eq_true, Bool.and_eq_true]
      constructor
      · rintro ⟨⟨formed, othersFormed⟩, defined, othersDefined⟩
        exact ⟨⟨formed, defined⟩, othersFormed, othersDefined⟩
      · rintro ⟨⟨formed, defined⟩, othersFormed, othersDefined⟩
        exact ⟨⟨formed, othersFormed⟩, defined, othersDefined⟩
  rw [← each]
  exact ⟨fun proper => ⟨proper.wellFormed, proper.defined⟩, fun both => ⟨both.1, both.2⟩⟩

theorem isProper_map_iff {entries : Entries} :
    (Value.map entries).IsProper ↔ entries.Distinct ∧
      ∀ entry ∈ entries, entry.1 ≠ .float .nan ∧ entry.2.IsProper := by
  have each : wellFormedEntries entries = true ∧ entriesDefined entries = true ↔
      ∀ entry ∈ entries, entry.1 ≠ .float .nan ∧ entry.2.IsProper := by
    induction entries with
    | nil => simp [wellFormedEntries, entriesDefined]
    | cons entry rest inductionHypothesis =>
      obtain ⟨key, value⟩ := entry
      rw [wellFormedEntries, entriesDefined, List.forall_mem_cons, ← inductionHypothesis,
        Bool.and_eq_true, Bool.and_eq_true, Bool.and_eq_true, bne_iff_ne]
      constructor
      · rintro ⟨⟨formed, othersFormed⟩, ⟨known, defined⟩, othersDefined⟩
        exact ⟨⟨known, formed, defined⟩, othersFormed, othersDefined⟩
      · rintro ⟨⟨known, formed, defined⟩, othersFormed, othersDefined⟩
        exact ⟨⟨formed, othersFormed⟩, ⟨known, defined⟩, othersDefined⟩
  rw [← each]
  constructor
  · intro proper
    obtain ⟨distinct, formed⟩ := Bool.and_eq_true_iff.mp proper.wellFormed
    exact ⟨of_decide_eq_true distinct, formed, proper.defined⟩
  · rintro ⟨distinct, formed, defined⟩
    exact ⟨Bool.and_eq_true_iff.mpr ⟨decide_eq_true distinct, formed⟩, defined⟩

/-- What is proved of proper lists from their items and of proper maps from their entries holds of
every proper value. -/
theorem proper_induction {motive : Value → Prop}
    (plain : ∀ value content, value.plain? = some content → value.IsProper → motive value)
    (list : ∀ items, (∀ item ∈ items, item.IsProper ∧ motive item) → motive (.list items))
    (map : ∀ entries : Entries, entries.Distinct →
      (∀ entry ∈ entries, entry.1 ≠ .float .nan ∧ entry.2.IsProper ∧ motive entry.2) →
      motive (.map entries))
    {value : Value} (proper : value.IsProper) : motive value := by
  match value with
  | .list items =>
    have each := isProper_list_iff.mp proper
    exact list items fun item member =>
      ⟨each item member, proper_induction plain list map (each item member)⟩
  | .map entries =>
    obtain ⟨distinct, each⟩ := isProper_map_iff.mp proper
    exact map entries distinct fun entry member => ⟨(each entry member).1, (each entry member).2,
      proper_induction plain list map (each entry member).2⟩
  | .null | .bool _ | .int _ | .float _ | .text _ | .bytes _ | .direction _ =>
    exact plain _ _ rfl proper
termination_by sizeOf value
decreasing_by
  · have := List.sizeOf_lt_of_mem member
    simp_wf
    omega
  · have := List.sizeOf_lt_of_mem member
    obtain ⟨key, value⟩ := entry
    simp_wf
    simp at this
    omega

/-! ### Equality -/

theorem content_eq_plain_iff {value : Value} {plain : Plain} :
    value.content = .plain plain ↔ value.plain? = some plain := by
  cases value <;> simp [content, plain?]

theorem plain?_eq_number_iff {value : Value} {extent : WithBot (WithTop ℚ)} :
    value.plain? = some (.number extent) ↔
      ∃ quantity, value.quantity? = some quantity ∧ quantity.extent = extent := by
  cases value <;> simp [plain?, quantity?]

theorem plain?_eq_text_iff {value : Value} {text : Text} :
    value.plain? = some (.text (text.map CodePoint.code)) ↔ value.asText? = some text := by
  cases value <;> simp [plain?, asText?, textCodes_inj]

/-- A proper number has a place. -/
theorem quantity?_ne_undefined {value : Value} (proper : value.IsProper) {quantity : Quantity}
    (number : value.quantity? = some quantity) : quantity ≠ .undefined := by
  cases value with
  | bool flag =>
    cases number
    exact Quantity.ofInt_ne_undefined _
  | int content =>
    cases number
    exact Quantity.ofInt_ne_undefined _
  | float content =>
    cases number
    exact Quantity.ofBinary64_ne_undefined (bne_iff_ne.mp proper.defined)
  | _ => cases number

theorem sameQuantity_iff {quantity : Quantity} (defined : quantity ≠ .undefined) {value : Value}
    (proper : value.IsProper) :
    sameQuantity quantity value = true ↔ value.plain? = some (.number quantity.extent) := by
  rw [sameQuantity, plain?_eq_number_iff]
  cases known : value.quantity? with
  | none => simp
  | some other =>
    have otherDefined := quantity?_ne_undefined proper known
    simp only [Quantity.same_iff_extent_eq defined otherDefined, Option.some.injEq,
      exists_eq_left', eq_comm]

theorem sameText_iff {text : Text} {value : Value} :
    sameText text value = true ↔ value.plain? = some (.text (text.map CodePoint.code)) := by
  rw [sameText, plain?_eq_text_iff]
  cases value.asText? with
  | none => simp
  | some other =>
    rw [Option.some.injEq, beq_iff_eq]
    exact eq_comm

/-- A value without parts is equal to what stands for the same. -/
theorem same_iff_of_plain? {left right : Value} {plain : Plain} (known : left.plain? = some plain)
    (leftProper : left.IsProper) (rightProper : right.IsProper) :
    left.same right = true ↔ right.plain? = some plain := by
  cases left with
  | null =>
    cases known
    cases right <;> simp [same, plain?]
  | bool flag =>
    cases known
    exact sameQuantity_iff (Quantity.ofInt_ne_undefined _) rightProper
  | int number =>
    cases known
    exact sameQuantity_iff (Quantity.ofInt_ne_undefined _) rightProper
  | float number =>
    cases known
    exact sameQuantity_iff (quantity?_ne_undefined leftProper rfl) rightProper
  | text content =>
    cases known
    exact sameText_iff
  | bytes content =>
    cases known
    cases right with
    | bytes other =>
      rw [same, plain?, Option.some.injEq, Plain.bytes.injEq, byteCodes_inj, beq_iff_eq]
      exact eq_comm
    | _ => simp [same, plain?]
  | direction sense =>
    cases known
    exact sameText_iff
  | list items => cases known
  | map entries => cases known

theorem sameList_iff {items others : List Value}
    (each : ∀ item ∈ items, ∀ right : Value, right.IsProper →
      (item.same right = true ↔ item.content = right.content))
    (othersProper : ∀ other ∈ others, other.IsProper) :
    sameList items others = true ↔ contents items = contents others := by
  induction items generalizing others with
  | nil => cases others <;> simp [sameList, contents]
  | cons item rest inductionHypothesis =>
    cases others with
    | nil => simp [sameList, contents]
    | cons other others =>
      obtain ⟨itemEach, restEach⟩ := List.forall_mem_cons.mp each
      obtain ⟨otherProper, restProper⟩ := List.forall_mem_cons.mp othersProper
      rw [sameList, contents, contents, Bool.and_eq_true, itemEach other otherProper,
        inductionHypothesis restEach restProper, List.cons.injEq]

/-- What the keys of the entries stand for. -/
def places (entries : Entries) : List Plain := entries.map fun entry => entry.1.plain

/-- What is held under a key is what its entry stands for. -/
theorem held_plain {entries : Entries} {key : Key} (defined : key ≠ .float .nan)
    (each : ∀ entry ∈ entries, entry.1 ≠ .float .nan) :
    held entries key.plain = (entries.lookup key).map content := by
  induction entries with
  | nil => rfl
  | cons entry rest inductionHypothesis =>
    obtain ⟨found, value⟩ := entry
    obtain ⟨foundDefined, restDefined⟩ := List.forall_mem_cons.mp each
    rw [held, Entries.lookup, inductionHypothesis restDefined]
    simp only [← Key.same_iff foundDefined defined]
    split <;> rfl

theorem held_eq_none_iff {entries : Entries} {asked : Plain} :
    held entries asked = none ↔ asked ∉ places entries := by
  induction entries with
  | nil => simp [held, places]
  | cons entry rest inductionHypothesis =>
    obtain ⟨key, value⟩ := entry
    rw [held, places, List.map_cons, List.mem_cons, not_or]
    by_cases here : key.plain = asked
    · rw [if_pos here]
      exact ⟨nofun, fun absent => absurd here.symm absent.1⟩
    · rw [if_neg here, inductionHypothesis]
      exact ⟨fun absent => ⟨Ne.symm here, absent⟩, And.right⟩

/-- A map with each key once has each place once. -/
theorem nodup_places {entries : Entries} (distinct : entries.Distinct)
    (each : ∀ entry ∈ entries, entry.1 ≠ .float .nan) : (places entries).Nodup := by
  refine List.pairwise_map.mpr ((List.pairwise_map.mp distinct).imp_of_mem ?_)
  intro earlier later inEarlier inLater apart same
  rw [(Key.same_iff (each earlier inEarlier) (each later inLater)).mpr same] at apart
  cases apart

theorem held_of_mem {entries : Entries} (distinct : (places entries).Nodup)
    {entry : Key × Value} (member : entry ∈ entries) :
    held entries entry.1.plain = some entry.2.content := by
  induction entries with
  | nil => cases member
  | cons first rest inductionHypothesis =>
    obtain ⟨key, value⟩ := first
    obtain ⟨apart, restDistinct⟩ := List.nodup_cons.mp distinct
    rw [held]
    rcases List.mem_cons.mp member with rfl | later
    · rw [if_pos rfl]
    · have different : key.plain ≠ entry.1.plain := fun same =>
        apart (List.mem_map.mpr ⟨entry, later, same.symm⟩)
      rw [if_neg different, inductionHypothesis restDistinct later]

/-- Maps of one size hold the same if one holds all that the other one does. -/
theorem held_eq_iff {entries others : Entries} (distinct : (places entries).Nodup)
    (othersDistinct : (places others).Nodup) :
    entries.length = others.length ∧
        (∀ entry ∈ entries, held others entry.1.plain = some entry.2.content) ↔
      held entries = held others := by
  have length (one : Entries) : (places one).length = one.length := List.length_map _
  constructor
  · rintro ⟨size, each⟩
    have inside : places entries ⊆ places others := by
      intro place member
      obtain ⟨entry, inEntries, rfl⟩ := List.mem_map.mp member
      by_contra absent
      have there := each entry inEntries
      rw [held_eq_none_iff.mpr absent] at there
      cases there
    have full : (places entries).Perm (places others) :=
      (distinct.subperm inside).perm_of_length_le (by rw [length, length, size])
    funext asked
    by_cases there : asked ∈ places entries
    · obtain ⟨entry, member, rfl⟩ := List.mem_map.mp there
      rw [each entry member, held_of_mem distinct member]
    · rw [held_eq_none_iff.mpr there, held_eq_none_iff.mpr (mt full.mem_iff.mpr there)]
  · intro same
    have full : (places entries).Perm (places others) := by
      refine (List.perm_ext_iff_of_nodup distinct othersDistinct).mpr fun asked => ?_
      rw [← not_iff_not, ← held_eq_none_iff, ← held_eq_none_iff, same]
    refine ⟨by rw [← length, ← length, full.length_eq], fun entry member => ?_⟩
    rw [← same, held_of_mem distinct member]

theorem sameEntries_iff {entries others : Entries} :
    sameEntries entries others = true ↔ ∀ entry ∈ entries,
      ∃ other, others.lookup entry.1 = some other ∧ entry.2.same other = true := by
  induction entries with
  | nil => simp [sameEntries]
  | cons entry rest inductionHypothesis =>
    obtain ⟨key, value⟩ := entry
    rw [sameEntries, Bool.and_eq_true, inductionHypothesis, List.forall_mem_cons]
    refine and_congr ?_ Iff.rfl
    cases others.lookup key <;> simp

theorem mem_of_lookup {entries : Entries} {key : Key} {value : Value}
    (found : entries.lookup key = some value) : ∃ entry ∈ entries, entry.2 = value := by
  induction entries with
  | nil => cases found
  | cons first rest inductionHypothesis =>
    obtain ⟨known, content⟩ := first
    rw [Entries.lookup] at found
    split at found
    · exact ⟨_, List.mem_cons_self, Option.some.inj found⟩
    · obtain ⟨entry, member, same⟩ := inductionHypothesis found
      exact ⟨entry, List.mem_cons_of_mem _ member, same⟩

/-- Two values are equal for a query exactly if they stand for the same. -/
theorem same_iff {left right : Value} (leftProper : left.IsProper) (rightProper : right.IsProper) :
    left.same right = true ↔ left.content = right.content := by
  refine proper_induction (motive := fun left => ∀ right : Value, right.IsProper →
    (left.same right = true ↔ left.content = right.content)) ?plain ?list ?map leftProper
    right rightProper
  case plain =>
    intro left plain known leftProper right rightProper
    rw [same_iff_of_plain? known leftProper rightProper, content_eq_plain_iff.mpr known,
      ← content_eq_plain_iff]
    exact eq_comm
  case list =>
    intro items each right rightProper
    cases right with
    | list others =>
      rw [same, content, content, Content.list.injEq]
      exact sameList_iff (fun item member => (each item member).2)
        (isProper_list_iff.mp rightProper)
    | _ => simp [same, content]
  case map =>
    intro entries distinct each right rightProper
    cases right with
    | map others =>
      obtain ⟨othersDistinct, othersEach⟩ := isProper_map_iff.mp rightProper
      have defined : ∀ entry ∈ entries, entry.1 ≠ .float .nan := fun entry member =>
        (each entry member).1
      have othersDefined : ∀ entry ∈ others, entry.1 ≠ .float .nan := fun entry member =>
        (othersEach entry member).1
      rw [same, content, content, Content.map.injEq, Bool.and_eq_true, beq_iff_eq,
        sameEntries_iff, ← held_eq_iff (nodup_places distinct defined)
          (nodup_places othersDistinct othersDefined)]
      refine and_congr_right fun _ => forall₂_congr fun entry member => ?_
      rw [held_plain (defined entry member) othersDefined, Option.map_eq_some_iff]
      refine exists_congr fun other => and_congr_right fun found => ?_
      obtain ⟨holder, inOthers, rfl⟩ := mem_of_lookup found
      rw [(each entry member).2.2 _ (othersEach holder inOthers).2]
      exact eq_comm
    | _ => simp [same, content]

end Value

end DocQuery
