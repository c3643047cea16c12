/-
This file proves what a collection reference answers from stored documents.

The documents of the collection are sorted by id, and every later step keeps a relation that holds
of all pairs in order: filters and missing fields only leave documents out, and a stable sort by a
key refines the relation, so that the key decides and what held before decides between ties. After
all keys, from the last to the first, the relation is the lexicographic one.

Only values that a key can order are assumed; fields are names, so that looking them up cannot
fail.
-/

import DocQuery.Proofs.Sorting.Stable
import DocQuery.Store.Documents

namespace DocQuery

/-! ### Fields -/

/-- A value that is a name. -/
def Value.IsName (value : Value) : Prop := ∃ name, value.toName = .ok name

namespace StoredDocument

/-- The value that a document has at a field. -/
def valueAt (field : Value) (document : StoredDocument) : Option Value :=
  match Value.resolveField field (.map document.data) with
  | .ok found => found
  | .error _ => none

theorem resolveField_of_isName {field : Value} (named : field.IsName) (document : StoredDocument) :
    Value.resolveField field (.map document.data) = .ok (document.valueAt field) := by
  obtain ⟨name, found⟩ := named
  rw [valueAt, Value.resolveField, found]
  rfl

/-- A document has the fields of all keys. -/
def Has (keys : List SortKey) (document : StoredDocument) : Prop :=
  ∀ key ∈ keys, (document.valueAt key.field).isSome

/-- A document lies directly in a collection if its location is the collection's and an id. -/
def IsIn (collection : Segments) (document : StoredDocument) : Prop :=
  ∃ id, document.segments = collection ++ [id]

theorem liesIn_iff {collection : Segments} {document : StoredDocument} :
    document.liesIn collection = true ↔ document.IsIn collection := by
  rw [liesIn, Bool.and_eq_true, beq_iff_eq, beq_iff_eq]
  constructor
  · rintro ⟨length, start⟩
    have split := List.take_append_drop collection.length document.segments
    have single : (document.segments.drop collection.length).length = 1 := by
      rw [List.length_drop, length, Nat.add_sub_cancel_left]
    obtain ⟨id, last⟩ := List.length_eq_one_iff.mp single
    refine ⟨id, ?_⟩
    rw [start, last] at split
    exact split.symm
  · rintro ⟨id, same⟩
    rw [same]
    exact ⟨List.length_append, List.take_left⟩

theorem id_of_segments {collection : Segments} {document : StoredDocument} {id : Text}
    (same : document.segments = collection ++ [id]) : document.id = id := by
  rw [StoredDocument.id, same, Segments.id, List.getLast?_append]
  rfl

end StoredDocument

namespace Query

/-! ### Order of ids -/

theorem perm_insertById (document : StoredDocument) (documents : List StoredDocument) :
    (insertById document documents).Perm (document :: documents) := by
  induction documents with
  | nil => exact List.Perm.refl _
  | cons other rest inductionHypothesis =>
    rw [insertById]
    split
    · exact (inductionHypothesis.cons other).trans (List.Perm.swap _ _ _)
    · exact List.Perm.refl _

theorem perm_sortById (documents : List StoredDocument) :
    (sortById documents).Perm documents := by
  induction documents with
  | nil => exact List.Perm.refl _
  | cons document rest inductionHypothesis =>
    exact (perm_insertById document _).trans (inductionHypothesis.cons document)

theorem pairwise_insertById {document : StoredDocument} {documents : List StoredDocument}
    (inOrder : documents.Pairwise fun left right => left.id < right.id)
    (distinct : ∀ other ∈ documents, document.id ≠ other.id) :
    (insertById document documents).Pairwise fun left right => left.id < right.id := by
  induction documents with
  | nil => exact List.pairwise_singleton _ _
  | cons other rest inductionHypothesis =>
    obtain ⟨below, restInOrder⟩ := List.pairwise_cons.mp inOrder
    rw [insertById]
    by_cases behind : other.id < document.id
    · rw [if_pos behind]
      refine List.pairwise_cons.mpr ⟨fun one member => ?_, inductionHypothesis restInOrder
        fun one member => distinct one (List.mem_cons_of_mem other member)⟩
      rcases List.mem_cons.mp ((perm_insertById document rest).mem_iff.mp member) with rfl | later
      · exact behind
      · exact below one later
    · rw [if_neg behind]
      have before : document.id < other.id :=
        (Text.lt_or_lt_of_ne (distinct other List.mem_cons_self)).resolve_right behind
      refine List.pairwise_cons.mpr ⟨fun one member => ?_, inOrder⟩
      rcases List.mem_cons.mp member with rfl | later
      · exact before
      · exact Text.lt_trans before (below one later)

/-- Documents with distinct ids come in the order of their ids. -/
theorem pairwise_sortById {documents : List StoredDocument}
    (distinct : documents.Pairwise fun left right => left.id ≠ right.id) :
    (sortById documents).Pairwise fun left right => left.id < right.id := by
  induction documents with
  | nil => exact List.Pairwise.nil
  | cons document rest inductionHypothesis =>
    obtain ⟨apart, restDistinct⟩ := List.pairwise_cons.mp distinct
    exact pairwise_insertById (inductionHypothesis restDistinct)
      fun other member => apart other ((perm_sortById rest).mem_iff.mp member)

/-! ### Filters -/

/-- A document passes all filters. -/
def Passes (filters : List Filter) (document : StoredDocument) : Prop :=
  ∀ filter ∈ filters, filter.admits document.data = .ok true

/-- Asking filters on names of a document is always answered. -/
theorem exists_passesAll {filters : List Filter}
    (named : ∀ filter ∈ filters, filter.field.IsName) (document : StoredDocument) :
    ∃ passed, passesAll document filters = .ok passed ∧
      (passed = true ↔ Passes filters document) := by
  induction filters with
  | nil => exact ⟨true, rfl, fun _ _ member => (List.not_mem_nil member).elim, fun _ => rfl⟩
  | cons filter rest inductionHypothesis =>
    obtain ⟨admitted, answered⟩ : ∃ admitted, filter.admits document.data = .ok admitted := by
      rw [Filter.admits, StoredDocument.resolveField_of_isName (named filter List.mem_cons_self)]
      cases document.valueAt filter.field <;> exact ⟨_, rfl⟩
    have passes : Passes (filter :: rest) document ↔ admitted = true ∧ Passes rest document := by
      rw [Passes, List.forall_mem_cons, answered, Except.ok.injEq]
      rfl
    rw [passesAll, answered]
    cases admitted with
    | false => exact ⟨false, rfl, by simp [passes]⟩
    | true =>
      obtain ⟨passed, found, same⟩ := inductionHypothesis
        fun other member => named other (List.mem_cons_of_mem filter member)
      exact ⟨passed, found, by simp [passes, same]⟩

/-- Filters on names keep exactly the documents that pass, in their order. -/
theorem exists_keepPassing {filters : List Filter}
    (named : ∀ filter ∈ filters, filter.field.IsName) (documents : List StoredDocument) :
    ∃ kept, keepPassing filters documents = .ok kept ∧ kept.Sublist documents ∧
      ∀ document, document ∈ kept ↔ document ∈ documents ∧ Passes filters document := by
  induction documents with
  | nil => exact ⟨[], rfl, List.Sublist.refl _, fun document => by simp⟩
  | cons first rest inductionHypothesis =>
    obtain ⟨passed, answered, passes⟩ := exists_passesAll named first
    obtain ⟨kept, found, sublist, members⟩ := inductionHypothesis
    rw [keepPassing, answered]
    dsimp only
    rw [found]
    cases passed with
    | false =>
      have fails : ¬ Passes filters first := fun passed => Bool.false_ne_true (passes.mpr passed)
      refine ⟨kept, rfl, sublist.cons first, fun document => ?_⟩
      rw [members, List.mem_cons]
      refine ⟨fun known => ⟨.inr known.1, known.2⟩, fun known => ⟨?_, known.2⟩⟩
      exact known.1.resolve_left fun same => fails (same ▸ known.2)
    | true =>
      refine ⟨first :: kept, rfl, sublist.cons_cons first, fun document => ?_⟩
      rw [List.mem_cons, members, List.mem_cons]
      constructor
      · rintro (rfl | known)
        · exact ⟨.inl rfl, passes.mp rfl⟩
        · exact ⟨.inr known.1, known.2⟩
      · rintro ⟨rfl | later, passed⟩
        · exact .inl rfl
        · exact .inr ⟨later, passed⟩

/-! ### Sort keys -/

/-- Names pick exactly the documents that have a field, in their order. -/
theorem exists_withField {field : Value} (named : field.IsName)
    (documents : List StoredDocument) :
    ∃ keyed, withField field documents = .ok keyed ∧ (keyed.map Prod.snd).Sublist documents ∧
      ∀ value document, (value, document) ∈ keyed ↔
        document ∈ documents ∧ document.valueAt field = some value := by
  induction documents with
  | nil => exact ⟨[], rfl, List.Sublist.refl _, fun value document => by simp⟩
  | cons first rest inductionHypothesis =>
    obtain ⟨keyed, found, sublist, members⟩ := inductionHypothesis
    rw [withField, StoredDocument.resolveField_of_isName named]
    dsimp only
    rw [found]
    cases known : first.valueAt field with
    | none =>
      refine ⟨keyed, rfl, sublist.cons first, fun value document => ?_⟩
      rw [members, List.mem_cons]
      refine ⟨fun there => ⟨.inr there.1, there.2⟩, fun there => ⟨?_, there.2⟩⟩
      refine there.1.resolve_left fun same => ?_
      rw [same, known] at there
      cases there.2
    | some content =>
      refine ⟨(content, first) :: keyed, rfl, sublist.cons_cons first, fun value document => ?_⟩
      rw [List.mem_cons, members, List.mem_cons, Prod.mk.injEq]
      constructor
      · rintro (⟨rfl, rfl⟩ | there)
        · exact ⟨.inl rfl, known⟩
        · exact ⟨.inr there.1, there.2⟩
      · rintro ⟨rfl | later, there⟩
        · exact .inl ⟨(Option.some.inj (known.symm.trans there)).symm, rfl⟩
        · exact .inr ⟨later, there⟩

end Query

/-- One value comes before another in a direction. -/
def Direction.Before (direction : Direction) (left right : Value) : Prop :=
  match direction with
  | .ascending => left.less? right = some true
  | .descending => right.less? left = some true

/-- Neither of two values is below the other. -/
def Value.Tied (left right : Value) : Prop :=
  left.less? right = some false ∧ right.less? left = some false

namespace SortKey

/-- A key puts a document before another, by their values at its field. -/
def Before (key : SortKey) (left right : StoredDocument) : Prop :=
  ∃ leftValue rightValue, left.valueAt key.field = some leftValue ∧
    right.valueAt key.field = some rightValue ∧ key.direction.Before leftValue rightValue

/-- A key leaves it to the next one which of two documents comes first. -/
def Tied (key : SortKey) (left right : StoredDocument) : Prop :=
  ∃ leftValue rightValue, left.valueAt key.field = some leftValue ∧
    right.valueAt key.field = some rightValue ∧ leftValue.Tied rightValue

end SortKey

namespace Query

/-- The first key that tells two documents apart decides which one precedes; if there is none,
the ids do. -/
def Precedes : List SortKey → StoredDocument → StoredDocument → Prop
  | [], left, right => left.id < right.id
  | key :: rest, left, right =>
    key.Before left right ∨ key.Tied left right ∧ Precedes rest left right

/-- Keyed documents are sorted in a direction, and ties stay in the order they had. -/
theorem exists_sortKeyed {keyed : List (Value × StoredDocument)}
    {related : Value × StoredDocument → Value × StoredDocument → Prop} (direction : Direction)
    (orders : Sorting.Orders Value.less? fun value => ∃ document, (value, document) ∈ keyed)
    (before : keyed.Pairwise related) :
    ∃ sorted, sortKeyed direction keyed = some sorted ∧ sorted.Perm keyed ∧
      sorted.Pairwise fun left right =>
        direction.Before left.1 right.1 ∨ left.1.Tied right.1 ∧ related left right := by
  have keyedOrders : Sorting.Orders (fun left right : Value × StoredDocument =>
      left.1.less? right.1) fun pair => pair ∈ keyed :=
    orders.comap fun {pair} member => ⟨pair.2, member⟩
  have agrees := keyedOrders.agrees
  generalize Sorting.rankBelow _ keyed = rank at agrees
  have answered {left right : Value × StoredDocument} (inLeft : left ∈ keyed)
      (inRight : right ∈ keyed) :
      left.1.less? right.1 = some (decide (rank left < rank right)) :=
    agrees left inLeft right inRight
  have below {left right : Value × StoredDocument} (inLeft : left ∈ keyed)
      (inRight : right ∈ keyed) (ranked : rank left < rank right) :
      left.1.less? right.1 = some true := by
    rw [answered inLeft inRight, decide_eq_true ranked]
  have tied {left right : Value × StoredDocument} (inLeft : left ∈ keyed)
      (inRight : right ∈ keyed) (ranked : rank left = rank right) : left.1.Tied right.1 := by
    rw [Value.Tied, answered inLeft inRight, answered inRight inLeft, ranked]
    simp
  cases direction with
  | ascending =>
    obtain ⟨sorted, found, stable⟩ := Sorting.exists_ascending agrees
    refine ⟨sorted, found, stable.levels.perm.symm, ?_⟩
    refine (stable.pairwise before).imp_of_mem fun {left right} inLeft inRight decided => ?_
    have leftIn := stable.levels.mem_iff.mpr inLeft
    have rightIn := stable.levels.mem_iff.mpr inRight
    refine decided.imp (below leftIn rightIn) fun same => ⟨tied leftIn rightIn same.1, same.2⟩
  | descending =>
    obtain ⟨sorted, found, stable⟩ := Sorting.exists_descending agrees
    refine ⟨sorted, found, stable.levels.perm.symm, ?_⟩
    refine (stable.pairwise before).imp_of_mem fun {left right} inLeft inRight decided => ?_
    have leftIn := stable.levels.mem_iff.mpr inLeft
    have rightIn := stable.levels.mem_iff.mpr inRight
    rcases decided with above | ⟨same, stood⟩
    · exact .inl (below rightIn leftIn (Int.neg_lt_neg_iff.mp above))
    · exact .inr ⟨tied leftIn rightIn (Int.neg_inj.mp same), stood⟩

/-- A value that one of some documents has at a field. -/
def IsHeld (among : StoredDocument → Prop) (field value : Value) : Prop :=
  ∃ document, among document ∧ document.valueAt field = some value

/-- A key leaves out the documents without its field and refines any order of the others. -/
def SortsBy (path : Text) (key : SortKey) (documents : List StoredDocument) : Prop :=
  ∀ related : StoredDocument → StoredDocument → Prop, documents.Pairwise related →
    ∃ sorted, sortByKey path key documents = .ok sorted ∧ sorted.Nodup ∧
      (∀ document, document ∈ sorted ↔
        document ∈ documents ∧ (document.valueAt key.field).isSome) ∧
      sorted.Pairwise fun left right =>
        key.Before left right ∨ key.Tied left right ∧ related left right

/-- A key sorts documents if the rows of its field can be sorted. -/
theorem sortsBy_of_sortKeyed {key : SortKey} {documents : List StoredDocument} (path : Text)
    (named : key.field.IsName) (distinct : documents.Nodup)
    (sorts : ∀ {keyed}, withField key.field documents = .ok keyed →
      ∀ {related : Value × StoredDocument → Value × StoredDocument → Prop},
        keyed.Pairwise related →
        ∃ sorted, sortKeyed key.direction keyed = some sorted ∧ sorted.Perm keyed ∧
          sorted.Pairwise fun left right =>
            key.direction.Before left.1 right.1 ∨ left.1.Tied right.1 ∧ related left right) :
    SortsBy path key documents := by
  intro related before
  obtain ⟨keyed, found, sublist, members⟩ := exists_withField named documents
  have keyedBefore : keyed.Pairwise fun left right => related left.2 right.2 :=
    List.pairwise_map.mp (before.sublist sublist)
  obtain ⟨sorted, sortedKeyed, perm, inOrder⟩ := sorts found keyedBefore
  refine ⟨sorted.map Prod.snd, ?_, ?_, fun document => ?_, ?_⟩
  · rw [sortByKey, found]
    dsimp only
    rw [sortedKeyed]
  · exact (perm.map Prod.snd).nodup_iff.mpr (distinct.sublist sublist)
  · rw [(perm.map Prod.snd).mem_iff, List.mem_map]
    constructor
    · rintro ⟨⟨value, same⟩, member, rfl⟩
      obtain ⟨inDocuments, there⟩ := (members value same).mp member
      exact ⟨inDocuments, by rw [there]; rfl⟩
    · rintro ⟨inDocuments, there⟩
      obtain ⟨value, there⟩ := Option.isSome_iff_exists.mp there
      exact ⟨(value, document), (members value document).mpr ⟨inDocuments, there⟩, rfl⟩
  · refine List.pairwise_map.mpr (inOrder.imp_of_mem fun {left right} inLeft inRight decided => ?_)
    have leftAt := ((members left.1 left.2).mp (perm.mem_iff.mp inLeft)).2
    have rightAt := ((members right.1 right.2).mp (perm.mem_iff.mp inRight)).2
    refine decided.imp (fun earlier => ⟨left.1, right.1, leftAt, rightAt, earlier⟩) fun same => ?_
    exact ⟨⟨left.1, right.1, leftAt, rightAt, same.1⟩, same.2⟩

/-- Values that a comparison orders are sorted by. -/
theorem sortsBy_of_orders {key : SortKey} {documents : List StoredDocument} (path : Text)
    (named : key.field.IsName) (distinct : documents.Nodup)
    (orders : Sorting.Orders Value.less? (IsHeld (· ∈ documents) key.field)) :
    SortsBy path key documents := by
  refine sortsBy_of_sortKeyed path named distinct fun {keyed} found _ before => ?_
  obtain ⟨rows, same, _, members⟩ := exists_withField named documents
  obtain rfl := Except.ok.inj (found.symm.trans same)
  have held : ∀ {value}, (∃ document, (value, document) ∈ keyed) →
      IsHeld (· ∈ documents) key.field value := by
    rintro value ⟨document, member⟩
    exact ⟨document, (members value document).mp member⟩
  exact exists_sortKeyed key.direction (orders.comap held) before

/-- Keys that sort what the keys behind them leave sort lexicographically, and leave out the
documents that lack a field. -/
theorem exists_sortByKeys_of_sortsBy {keys : List SortKey} {documents : List StoredDocument}
    (path : Text)
    (sorts : ∀ key rest, key :: rest <:+ keys → ∀ remaining : List StoredDocument,
      remaining.Nodup → (∀ document, document ∈ remaining ↔
        document ∈ documents ∧ document.Has rest) → SortsBy path key remaining)
    (before : documents.Pairwise fun left right => left.id < right.id)
    (distinct : documents.Nodup) :
    ∃ sorted, sortByKeys path keys documents = .ok sorted ∧ sorted.Nodup ∧
      (∀ document, document ∈ sorted ↔ document ∈ documents ∧ document.Has keys) ∧
      sorted.Pairwise (Precedes keys) := by
  induction keys with
  | nil => exact ⟨documents, rfl, distinct, fun document => by simp [StoredDocument.Has], before⟩
  | cons key rest inductionHypothesis =>
    obtain ⟨sorted, found, sortedDistinct, members, inOrder⟩ := inductionHypothesis
      fun other others suffix => sorts other others (suffix.trans (List.suffix_cons key rest))
    obtain ⟨result, sortedOn, resultDistinct, resultMembers, resultInOrder⟩ :=
      sorts key rest List.suffix_rfl sorted sortedDistinct members _ inOrder
    refine ⟨result, ?_, resultDistinct, fun document => ?_, resultInOrder⟩
    · rw [sortByKeys, found]
      exact sortedOn
    · rw [resultMembers, members, StoredDocument.Has, StoredDocument.Has, List.forall_mem_cons,
        and_assoc, and_comm (a := ∀ key ∈ rest, _)]

/-- All keys together leave out the documents that lack a field and sort the others
lexicographically. -/
theorem exists_sortByKeys {keys : List SortKey} {documents : List StoredDocument} (path : Text)
    (named : ∀ key ∈ keys, key.field.IsName)
    (orders : ∀ key ∈ keys, Sorting.Orders Value.less? (IsHeld (· ∈ documents) key.field))
    (before : documents.Pairwise fun left right => left.id < right.id)
    (distinct : documents.Nodup) :
    ∃ sorted, sortByKeys path keys documents = .ok sorted ∧ sorted.Nodup ∧
      (∀ document, document ∈ sorted ↔
        document ∈ documents ∧ ∀ key ∈ keys, (document.valueAt key.field).isSome) ∧
      sorted.Pairwise (Precedes keys) := by
  refine exists_sortByKeys_of_sortsBy path ?_ before distinct
  intro key rest suffix remaining remainingDistinct members
  have member : key ∈ keys := suffix.subset List.mem_cons_self
  have held : ∀ {value}, IsHeld (· ∈ remaining) key.field value →
      IsHeld (· ∈ documents) key.field value := by
    rintro value ⟨document, inRemaining, there⟩
    exact ⟨document, ((members document).mp inRemaining).1, there⟩
  exact sortsBy_of_orders path (named key member) remainingDistinct
    ((orders key member).comap held)

/-! ### Answers -/

/-- A document of a collection that passes all filters. -/
def IsCandidate (documents : List StoredDocument) (collection : Segments) (filters : List Filter)
    (document : StoredDocument) : Prop :=
  document ∈ documents ∧ document.IsIn collection ∧ Passes filters document

/-- Documents at distinct locations have distinct ids in one collection. -/
theorem pairwise_children {documents : List StoredDocument}
    (distinct : documents.Pairwise fun left right => left.segments ≠ right.segments)
    (collection : Segments) :
    (documents.filter (StoredDocument.liesIn collection)).Pairwise
      fun left right => left.id ≠ right.id := by
  refine (distinct.filter _).imp_of_mem fun {left right} inLeft inRight apart same => apart ?_
  obtain ⟨leftId, leftAt⟩ := StoredDocument.liesIn_iff.mp (List.mem_filter.mp inLeft).2
  obtain ⟨rightId, rightAt⟩ := StoredDocument.liesIn_iff.mp (List.mem_filter.mp inRight).2
  rw [StoredDocument.id_of_segments leftAt, StoredDocument.id_of_segments rightAt] at same
  rw [leftAt, rightAt, same]

/-- The documents that the keys are asked of are the candidates, in the order of their ids. -/
theorem exists_kept {documents : List StoredDocument}
    (distinct : documents.Pairwise fun left right => left.segments ≠ right.segments)
    (reference : Reference) (named : ∀ filter ∈ reference.filters, filter.field.IsName) :
    ∃ kept, keepPassing reference.filters
        (sortById (documents.filter (StoredDocument.liesIn reference.segments))) = .ok kept ∧
      kept.Pairwise (fun left right => left.id < right.id) ∧ kept.Nodup ∧
      ∀ document, document ∈ kept ↔
        IsCandidate documents reference.segments reference.filters document := by
  have byId := pairwise_sortById (pairwise_children distinct reference.segments)
  obtain ⟨kept, passing, sublist, members⟩ := exists_keepPassing named
    (sortById (documents.filter (StoredDocument.liesIn reference.segments)))
  have keptById := byId.sublist sublist
  refine ⟨kept, passing, keptById, keptById.imp ?_, fun document => ?_⟩
  · rintro left _ below rfl
    exact Text.lt_irrefl left.id below
  · rw [members, (perm_sortById _).mem_iff, List.mem_filter, StoredDocument.liesIn_iff, and_assoc]
    rfl

/-- A collection answers its documents that pass all filters and have all sort fields, each once,
in the order of the keys and then of the ids, up to the limit. -/
theorem exists_run {documents : List StoredDocument}
    (distinct : documents.Pairwise fun left right => left.segments ≠ right.segments)
    (reference : Reference) (filtersNamed : ∀ filter ∈ reference.filters, filter.field.IsName)
    (keysNamed : ∀ key ∈ reference.orders, key.field.IsName)
    (orders : ∀ key ∈ reference.orders, Sorting.Orders Value.less?
      (IsHeld (IsCandidate documents reference.segments reference.filters) key.field)) :
    ∃ sorted, run documents reference = .ok (cutTo reference.limit sorted) ∧ sorted.Nodup ∧
      (∀ document, document ∈ sorted ↔
        IsCandidate documents reference.segments reference.filters document ∧
          ∀ key ∈ reference.orders, (document.valueAt key.field).isSome) ∧
      sorted.Pairwise (Precedes reference.orders) := by
  obtain ⟨kept, passing, keptById, keptDistinct, candidates⟩ :=
    exists_kept distinct reference filtersNamed
  have held {field : Value} : ∀ {value}, IsHeld (· ∈ kept) field value →
      IsHeld (IsCandidate documents reference.segments reference.filters) field value := by
    rintro value ⟨document, member, there⟩
    exact ⟨document, (candidates document).mp member, there⟩
  obtain ⟨sorted, found, sortedDistinct, members, inOrder⟩ := exists_sortByKeys reference.path
    keysNamed (fun key member => (orders key member).comap held) keptById keptDistinct
  refine ⟨sorted, ?_, sortedDistinct, fun document => ?_, inOrder⟩
  · rw [run, passing]
    dsimp only
    rw [found]
  · rw [members, candidates]

end Query

end DocQuery
