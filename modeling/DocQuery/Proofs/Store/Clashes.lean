/-
This file proves when documents can be sorted by keys, and with which failure they cannot.

A sort by one key goes through exactly if the values of any two documents at its field can be
compared: a sort that goes through has settled the order of any two of them. Keys are gone through
from the last to the first, and each one is asked only of the documents that have its field and
those of all keys behind it. So the first clash that is met on the way from the last key decides,
and it is a clash of the documents that still take part at its key, whether or not an earlier key
would leave them out.
-/

import DocQuery.Proofs.Sorting.Settled
import DocQuery.Proofs.Store.Query
import DocQuery.Proofs.Value.Order

namespace DocQuery

/-! ### Values of documents -/

namespace StoredDocument

/-- No number in the data is undefined, and every map in it has each key once. -/
def IsProper (document : StoredDocument) : Prop := (Value.map document.data).IsProper

theorem IsProper.valueAt {document : StoredDocument} (proper : document.IsProper)
    {field value : Value} (there : document.valueAt field = some value) : value.IsProper := by
  rw [StoredDocument.valueAt, Value.resolveField] at there
  cases named : field.toName with
  | error failure =>
    rw [named] at there
    cases there
  | ok name =>
    rw [named] at there
    exact Value.IsProper.walk proper there

end StoredDocument

/-! ### One key -/

namespace Query

theorem sortKeyed_of_short {keyed : List (Value × StoredDocument)} (short : keyed.length ≤ 1)
    (direction : Direction) : sortKeyed direction keyed = some keyed := by
  match keyed with
  | [] => cases direction <;> simp [sortKeyed, Sorting.descending, Sorting.ascending_nil]
  | [row] => cases direction <;> simp [sortKeyed, Sorting.descending, Sorting.ascending_singleton]

/-- Two rows whose values can be compared. -/
def AreComparable (left right : Value × StoredDocument) : Prop :=
  left.1.AtMost right.1 ∨ right.1.AtMost left.1

instance : Std.Symm AreComparable := ⟨fun _ _ comparable => comparable.symm⟩

section Rows

variable {keyed : List (Value × StoredDocument)} (proper : ∀ row ∈ keyed, row.1.IsProper)
include proper

/-- Rows that were sorted can all be compared. -/
theorem areComparable_of_sortKeyed {direction : Direction}
    {sorted : List (Value × StoredDocument)} (found : sortKeyed direction keyed = some sorted)
    {left right : Value × StoredDocument} (inLeft : left ∈ keyed) (inRight : right ∈ keyed)
    (different : left ≠ right) : AreComparable left right := by
  have respects : Sorting.Respects (fun left right => left.1.less? right.1) keyed
      fun left right => left = right ∨ left.1.AtMost right.1 := by
    refine ⟨fun row => .inl rfl, ?_, ?_, ?_⟩
    · rintro first second third _ _ _ (rfl | below) (rfl | further)
      · exact .inl rfl
      · exact .inr further
      · exact .inr below
      · exact .inr (below.trans further)
    · intro first second inFirst inSecond answered
      obtain ⟨below, apart⟩ :=
        (Value.less?_eq_true_iff (proper first inFirst) (proper second inSecond)).mp answered
      refine ⟨.inr below, ?_⟩
      rintro (rfl | above)
      · exact apart below
      · exact apart above
    · intro first second inFirst inSecond answered
      exact .inr
        ((Value.less?_eq_false_iff (proper first inFirst) (proper second inSecond)).mp answered)
  have settled : (left = right ∨ left.1.AtMost right.1) ∨
      (right = left ∨ right.1.AtMost left.1) := by
    cases direction with
    | ascending => exact respects.settled found inLeft inRight
    | descending => exact respects.settled_of_descending found inLeft inRight
  exact settled.imp (Or.resolve_left · different) (Or.resolve_left · different.symm)

/-- Of two rows or more that can be compared with each other, each can be compared with itself. -/
theorem orders_of_areComparable (comparable : keyed.Pairwise AreComparable)
    (several : 1 < keyed.length) :
    Sorting.Orders Value.less? fun value => ∃ document, (value, document) ∈ keyed := by
  have itself : ∀ row ∈ keyed, row.1.AtMost row.1 := by
    match keyed with
    | first :: second :: rest =>
      obtain ⟨firstComparable, _⟩ := List.pairwise_cons.mp comparable
      intro row member
      rcases List.mem_cons.mp member with rfl | later
      · exact Value.atMost_self (firstComparable second List.mem_cons_self)
      · exact Value.atMost_self (firstComparable row later).symm
  refine Value.orders_of_comparable ?_ ?_
  · rintro value ⟨document, member⟩
    exact proper _ member
  · rintro left right ⟨document, inLeft⟩ ⟨other, inRight⟩
    by_cases same : (left, document) = (right, other)
    · obtain rfl : left = right := congrArg Prod.fst same
      exact .inl (itself _ inLeft)
    · exact comparable.forall inLeft inRight same

/-- Rows that can all be compared are sorted in a direction, and ties stay in the order they had. -/
theorem exists_sortKeyed_of_areComparable {related : _ → _ → Prop} (direction : Direction)
    (comparable : keyed.Pairwise AreComparable) (before : keyed.Pairwise related) :
    ∃ sorted, sortKeyed direction keyed = some sorted ∧ sorted.Perm keyed ∧
      sorted.Pairwise fun left right =>
        direction.Before left.1 right.1 ∨ left.1.Tied right.1 ∧ related left right := by
  by_cases several : 1 < keyed.length
  · exact exists_sortKeyed direction (orders_of_areComparable proper comparable several) before
  · have short : keyed.length ≤ 1 := Nat.not_lt.mp several
    refine ⟨keyed, sortKeyed_of_short short direction, List.Perm.refl _, ?_⟩
    match keyed with
    | [] => exact List.Pairwise.nil
    | [row] => exact List.pairwise_singleton _ _

end Rows

end Query

/-! ### Clashes -/

/-- Two documents have values at a key's field that cannot be compared. -/
def SortKey.Clash (key : SortKey) (left right : StoredDocument) : Prop :=
  ∃ leftValue rightValue, left.valueAt key.field = some leftValue ∧
    right.valueAt key.field = some rightValue ∧ leftValue.less? rightValue = none

theorem SortKey.Clash.symm {key : SortKey} {left right : StoredDocument}
    (leftProper : left.IsProper) (rightProper : right.IsProper) (clash : key.Clash left right) :
    key.Clash right left := by
  obtain ⟨leftValue, rightValue, leftAt, rightAt, refused⟩ := clash
  refine ⟨rightValue, leftValue, rightAt, leftAt, ?_⟩
  rw [← Option.not_isSome_iff_eq_none,
    Value.isSome_less?_iff (leftProper.valueAt leftAt) (rightProper.valueAt rightAt)] at refused
  rw [← Option.not_isSome_iff_eq_none,
    Value.isSome_less?_iff (rightProper.valueAt rightAt) (leftProper.valueAt leftAt)]
  exact fun comparable => refused comparable.symm

namespace Query

/-- Two different documents of some kind clash at a key. -/
def HasClash (among : StoredDocument → Prop) (key : SortKey) : Prop :=
  ∃ left right, among left ∧ among right ∧ left ≠ right ∧ key.Clash left right

theorem HasClash.mono {among others : StoredDocument → Prop} {key : SortKey}
    (clash : HasClash among key) (inside : ∀ {document}, among document → others document) :
    HasClash others key := by
  obtain ⟨left, right, inLeft, inRight, different, clashes⟩ := clash
  exact ⟨left, right, inside inLeft, inside inRight, different, clashes⟩

section Key

variable {key : SortKey} {documents : List StoredDocument} (path : Text)
  (named : key.field.IsName) (proper : ∀ document ∈ documents, document.IsProper)
include named proper

/-- A key sorts documents that do not clash at it. -/
theorem sortsBy_of_not_hasClash (distinct : documents.Nodup)
    (settled : ¬ HasClash (· ∈ documents) key) : SortsBy path key documents := by
  refine sortsBy_of_sortKeyed path named distinct fun {keyed} found _ before => ?_
  obtain ⟨rows, same, sublist, members⟩ := exists_withField named documents
  obtain rfl := Except.ok.inj (found.symm.trans same)
  have rowProper : ∀ row ∈ keyed, row.1.IsProper := by
    intro row member
    obtain ⟨inDocuments, there⟩ := (members row.1 row.2).mp member
    exact (proper row.2 inDocuments).valueAt there
  refine exists_sortKeyed_of_areComparable rowProper key.direction ?_ before
  have apart : keyed.Pairwise fun left right => left.2 ≠ right.2 :=
    List.pairwise_map.mp (distinct.sublist sublist)
  refine apart.imp_of_mem fun {left right} inLeft inRight different => ?_
  obtain ⟨leftIn, leftAt⟩ := (members left.1 left.2).mp inLeft
  obtain ⟨rightIn, rightAt⟩ := (members right.1 right.2).mp inRight
  rw [AreComparable, ← Value.isSome_less?_iff (rowProper left inLeft) (rowProper right inRight),
    ← Option.ne_none_iff_isSome]
  intro refused
  exact settled ⟨left.2, right.2, leftIn, rightIn, different, left.1, right.1, leftAt, rightAt,
    refused⟩

/-- A key refuses documents that clash at it. -/
theorem sortByKey_of_hasClash (clash : HasClash (· ∈ documents) key) :
    sortByKey path key documents = .error (unorderable key.field path) := by
  obtain ⟨left, right, inLeft, inRight, different, leftValue, rightValue, leftAt, rightAt,
    refused⟩ := clash
  obtain ⟨keyed, found, sublist, members⟩ := exists_withField named documents
  have rowProper : ∀ row ∈ keyed, row.1.IsProper := by
    intro row member
    obtain ⟨inDocuments, there⟩ := (members row.1 row.2).mp member
    exact (proper row.2 inDocuments).valueAt there
  have leftRow := (members leftValue left).mpr ⟨inLeft, leftAt⟩
  have rightRow := (members rightValue right).mpr ⟨inRight, rightAt⟩
  rw [sortByKey, found]
  dsimp only
  cases sortedKeyed : sortKeyed key.direction keyed with
  | none => rfl
  | some sorted =>
    have comparable := areComparable_of_sortKeyed rowProper sortedKeyed leftRow rightRow
      fun same => different (congrArg Prod.snd same)
    have answered := (Value.isSome_less?_iff (rowProper _ leftRow) (rowProper _ rightRow)).mpr
      comparable
    rw [refused] at answered
    cases answered

end Key

/-! ### All keys -/

/-- The documents of some kind that have the fields of all keys. -/
def Holding (among : StoredDocument → Prop) (keys : List SortKey) (document : StoredDocument) :
    Prop :=
  among document ∧ document.Has keys

/-- The documents of some kind can be put in order by all keys, the last one first, where each key
is asked of the documents that have the fields of the keys behind it. -/
def Settled (among : StoredDocument → Prop) (keys : List SortKey) : Prop :=
  ∀ key rest, key :: rest <:+ keys → ¬ HasClash (Holding among rest) key

theorem Settled.mono {among others : StoredDocument → Prop} {keys : List SortKey}
    (settled : Settled among keys) (inside : ∀ {document}, others document → among document) :
    Settled others keys :=
  fun key rest suffix clash =>
    settled key rest suffix (clash.mono fun holding => ⟨inside holding.1, holding.2⟩)

/-- Keys are settled, or there is a first one, from the last on, at which documents clash. -/
theorem settled_or_exists_clash (among : StoredDocument → Prop) (keys : List SortKey) :
    Settled among keys ∨ ∃ key rest, key :: rest <:+ keys ∧ Settled among rest ∧
      HasClash (Holding among rest) key := by
  induction keys with
  | nil => exact .inl fun key rest suffix => nomatch List.suffix_nil.mp suffix
  | cons key rest inductionHypothesis =>
    rcases inductionHypothesis with settled | ⟨other, others, suffix, clashes⟩
    · by_cases clash : HasClash (Holding among rest) key
      · exact .inr ⟨key, rest, List.suffix_rfl, settled, clash⟩
      · refine .inl fun other others suffix => ?_
        rcases List.suffix_cons_iff.mp suffix with same | inner
        · obtain ⟨rfl, rfl⟩ := List.cons.inj same
          exact clash
        · exact settled other others inner
    · exact .inr ⟨other, others, suffix.trans (List.suffix_cons key rest), clashes⟩

section Keys

variable {keys : List SortKey} {documents : List StoredDocument} (path : Text)
  (named : ∀ key ∈ keys, key.field.IsName) (proper : ∀ document ∈ documents, document.IsProper)
  (before : documents.Pairwise fun left right => left.id < right.id)
  (distinct : documents.Nodup)
include named proper before distinct

/-- Settled keys sort lexicographically, and leave out the documents that lack a field. -/
theorem exists_sortByKeys_of_settled (settled : Settled (· ∈ documents) keys) :
    ∃ sorted, sortByKeys path keys documents = .ok sorted ∧ sorted.Nodup ∧
      (∀ document, document ∈ sorted ↔ document ∈ documents ∧ document.Has keys) ∧
      sorted.Pairwise (Precedes keys) := by
  refine exists_sortByKeys_of_sortsBy path ?_ before distinct
  intro key rest suffix remaining remainingDistinct members
  refine sortsBy_of_not_hasClash path (named key (suffix.subset List.mem_cons_self)) ?_
    remainingDistinct ?_
  · exact fun document member => proper document ((members document).mp member).1
  · exact fun clash => settled key rest suffix (clash.mono (members _).mp)

/-- The first clash on the way from the last key to the first is the failure. -/
theorem sortByKeys_of_hasClash {key : SortKey} {rest : List SortKey} (suffix : key :: rest <:+ keys)
    (settled : Settled (· ∈ documents) rest) (clash : HasClash (Holding (· ∈ documents) rest) key) :
    sortByKeys path keys documents = .error (unorderable key.field path) := by
  induction keys with
  | nil => cases List.suffix_nil.mp suffix
  | cons first others inductionHypothesis =>
    obtain ⟨firstNamed, othersNamed⟩ := List.forall_mem_cons.mp named
    rcases List.suffix_cons_iff.mp suffix with same | inner
    · obtain ⟨rfl, rfl⟩ := List.cons.inj same
      obtain ⟨sorted, found, _, members, _⟩ :=
        exists_sortByKeys_of_settled path othersNamed proper before distinct settled
      rw [sortByKeys, found]
      refine sortByKey_of_hasClash path firstNamed ?_ (clash.mono (members _).mpr)
      exact fun document member => proper document ((members document).mp member).1
    · rw [sortByKeys, inductionHypothesis othersNamed inner]

end Keys

/-! ### Answers -/

section Answers

variable {documents : List StoredDocument}
  (located : documents.Pairwise fun left right => left.segments ≠ right.segments)
  {reference : Reference} (filtersNamed : ∀ filter ∈ reference.filters, filter.field.IsName)
  (keysNamed : ∀ key ∈ reference.orders, key.field.IsName)
  (proper : ∀ document ∈ documents, document.IsProper)
include located filtersNamed keysNamed proper

/-- A collection whose candidates are settled answers those that have all sort fields, each once,
in the order of the keys and then of the ids, up to the limit. -/
theorem exists_run_of_settled
    (settled : Settled (IsCandidate documents reference.segments reference.filters)
      reference.orders) :
    ∃ sorted, run documents reference = .ok (cutTo reference.limit sorted) ∧ sorted.Nodup ∧
      (∀ document, document ∈ sorted ↔
        Holding (IsCandidate documents reference.segments reference.filters) reference.orders
          document) ∧
      sorted.Pairwise (Precedes reference.orders) := by
  obtain ⟨kept, passing, byId, distinct, candidates⟩ :=
    exists_kept located reference filtersNamed
  obtain ⟨sorted, found, sortedDistinct, members, inOrder⟩ :=
    exists_sortByKeys_of_settled reference.path keysNamed
      (fun document member => proper document ((candidates document).mp member).1) byId distinct
      (settled.mono (candidates _).mp)
  refine ⟨sorted, ?_, sortedDistinct, fun document => ?_, inOrder⟩
  · rw [run, passing]
    dsimp only
    rw [found]
  · rw [members, candidates, Holding]

/-- A collection whose candidates clash fails at the first key, from the last on, at which they
do. -/
theorem run_of_hasClash {key : SortKey} {rest : List SortKey}
    (suffix : key :: rest <:+ reference.orders)
    (settled : Settled (IsCandidate documents reference.segments reference.filters) rest)
    (clash : HasClash
      (Holding (IsCandidate documents reference.segments reference.filters) rest) key) :
    run documents reference = .error (unorderable key.field reference.path) := by
  obtain ⟨kept, passing, byId, distinct, candidates⟩ :=
    exists_kept located reference filtersNamed
  have refused := sortByKeys_of_hasClash reference.path keysNamed
    (fun document member => proper document ((candidates document).mp member).1) byId distinct
    suffix (settled.mono (candidates _).mp)
    (clash.mono fun holding => ⟨(candidates _).mpr holding.1, holding.2⟩)
  rw [run, passing]
  dsimp only
  rw [refused]

end Answers

end Query

end DocQuery
