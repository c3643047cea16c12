/-
This file says which influence a document has on an answer that leaves it out.

A document that fails a filter has none. One that passes the filters but lacks the field of a sort
key is left out only when that key is reached, and until then it takes part in the sorts by the
later keys. It can spoil one of them: if its value there cannot be compared with another one's,
while the other documents could be put in order up to there, the whole query fails, and would not
fail like this without the document. In every other case the answer is the same with and without
it, snapshots and failures alike.
-/

import DocQuery.Proofs.Store.Answers
import DocQuery.Proofs.Store.Clashes
import DocQuery.Proofs.Store.Reads
import Mathlib.Data.List.Permutation

namespace DocQuery

namespace Query

/-! ### One order -/

/-- No document precedes another one that precedes it. -/
theorem Precedes.asymm {keys : List SortKey} {left right : StoredDocument}
    (leftProper : left.IsProper) (rightProper : right.IsProper) (precedes : Precedes keys left right) :
    ¬ Precedes keys right left := by
  induction keys with
  | nil => exact fun back => Text.lt_irrefl _ (Text.lt_trans precedes back)
  | cons key rest inductionHypothesis =>
    have decided {one other : StoredDocument} (before : key.Before one other) :
        ¬ key.Tied other one := by
      obtain ⟨oneValue, otherValue, oneAt, otherAt, before⟩ := before
      rintro ⟨tiedOther, tiedOne, tiedOtherAt, tiedOneAt, tied⟩
      obtain rfl := Option.some.inj (oneAt.symm.trans tiedOneAt)
      obtain rfl := Option.some.inj (otherAt.symm.trans tiedOtherAt)
      cases direction : key.direction with
      | ascending =>
        rw [direction, Direction.Before, tied.2] at before
        cases before
      | descending =>
        rw [direction, Direction.Before, tied.1] at before
        cases before
    rintro (back | ⟨tied, back⟩)
    · rcases precedes with before | ⟨tied, _⟩
      · obtain ⟨leftValue, rightValue, leftAt, rightAt, before⟩ := before
        obtain ⟨backRight, backLeft, backRightAt, backLeftAt, back⟩ := back
        obtain rfl := Option.some.inj (leftAt.symm.trans backLeftAt)
        obtain rfl := Option.some.inj (rightAt.symm.trans backRightAt)
        have once {one other : Value} (oneProper : one.IsProper) (otherProper : other.IsProper)
            (below : one.less? other = some true) : other.less? one ≠ some true := by
          rw [Value.less?_eq_true_iff oneProper otherProper] at below
          rw [Ne, Value.less?_eq_true_iff otherProper oneProper]
          exact fun above => below.2 above.1
        have leftValueProper := leftProper.valueAt leftAt
        have rightValueProper := rightProper.valueAt rightAt
        cases direction : key.direction with
        | ascending =>
          rw [direction] at before back
          exact once leftValueProper rightValueProper before back
        | descending =>
          rw [direction] at before back
          exact once rightValueProper leftValueProper before back
      · exact decided back tied
    · rcases precedes with before | ⟨_, further⟩
      · exact decided before tied
      · exact inductionHypothesis further back

/-- Documents can be in order in one way only. -/
theorem eq_of_pairwise_precedes {keys : List SortKey} {sorted others : List StoredDocument}
    (proper : ∀ document ∈ sorted, document.IsProper) (distinct : sorted.Nodup)
    (othersDistinct : others.Nodup) (same : ∀ document, document ∈ sorted ↔ document ∈ others)
    (inOrder : sorted.Pairwise (Precedes keys)) (othersInOrder : others.Pairwise (Precedes keys)) :
    sorted = others := by
  have perm : sorted.Perm others := (List.perm_ext_iff_of_nodup distinct othersDistinct).mpr same
  refine perm.eq_of_pairwise (fun left right inLeft inRight forth back => ?_) inOrder othersInOrder
  exact absurd back
    (forth.asymm (proper left inLeft) (proper right ((same right).mpr inRight)))

/-! ### Documents that are left out -/

/-- A document spoils an answer: it has the fields of some sort key and of all keys behind it, its
value at that key cannot be compared with the value of another candidate that has them, and the
other candidates alone can be put in order up to that key. -/
def Spoils (documents : List StoredDocument) (reference : Reference) (document : StoredDocument) :
    Prop :=
  let candidate := IsCandidate documents reference.segments reference.filters
  ∃ key rest, key :: rest <:+ reference.orders ∧ Holding candidate rest document ∧
    (∃ other, Holding candidate rest other ∧ other ≠ document ∧ key.Clash document other) ∧
    Settled (fun other => candidate other ∧ other ≠ document) (key :: rest)

theorem mem_takeOut_iff {documents : List StoredDocument} (located : Located documents)
    {document other : StoredDocument} (member : document ∈ documents) :
    other ∈ takeOut document.segments documents ↔ other ∈ documents ∧ other ≠ document := by
  rw [takeOut, List.mem_filter, decide_eq_true_iff]
  refine and_congr_right fun inDocuments => not_congr ⟨fun same => ?_, fun same => by rw [same]⟩
  have : Std.Symm fun left right : StoredDocument => left.segments ≠ right.segments :=
    ⟨fun _ _ => Ne.symm⟩
  by_contra different
  exact located.forall inDocuments member different same

/-- If a clash is gone with a document, the document is one of two that clash. -/
theorem exists_clash_with {among : StoredDocument → Prop} {document : StoredDocument}
    (proper : ∀ {other}, among other → other.IsProper) {key : SortKey} {rest : List SortKey}
    (clash : HasClash (Holding among rest) key)
    (gone : ¬ HasClash (Holding (fun other => among other ∧ other ≠ document) rest) key) :
    Holding among rest document ∧
      ∃ other, Holding among rest other ∧ other ≠ document ∧ key.Clash document other := by
  obtain ⟨left, right, inLeft, inRight, different, clashes⟩ := clash
  by_cases first : left = document
  · subst first
    exact ⟨inLeft, right, inRight, different.symm, clashes⟩
  · by_cases second : right = document
    · subst second
      exact ⟨inRight, left, inLeft, first, clashes.symm (proper inLeft.1) (proper inRight.1)⟩
    · exact absurd ⟨left, right, ⟨⟨inLeft.1, first⟩, inLeft.2⟩, ⟨⟨inRight.1, second⟩, inRight.2⟩,
        different, clashes⟩ gone

section Excluded

variable {documents : List StoredDocument} (located : Located documents)
  {document : StoredDocument} (member : document ∈ documents)
include located member

/-- The candidates that are left without a document. -/
theorem isCandidate_takeOut (collection : Segments) (filters : List Filter) :
    IsCandidate (takeOut document.segments documents) collection filters =
      fun other => IsCandidate documents collection filters other ∧ other ≠ document := by
  funext other
  refine propext ?_
  rw [IsCandidate, mem_takeOut_iff located member, IsCandidate, and_right_comm]

variable {reference : Reference} (named : reference.IsNamed)
  (proper : ∀ document ∈ documents, document.IsProper)
include named proper

/-- With a document that spoils the answer the query fails, and without it not with that failure. -/
theorem exists_failure_of_spoils (spoils : Spoils documents reference document) :
    ∃ failure, run documents reference = .error failure ∧
      run (takeOut document.segments documents) reference ≠ .error failure := by
  obtain ⟨key, rest, suffix, holding, ⟨other, otherHolding, different, clash⟩, others⟩ := spoils
  -- With the document there is a first clash, at that key or at one behind it.
  obtain ⟨first, behind, firstSuffix, firstSettled, firstClash⟩ :=
    (settled_or_exists_clash _ (key :: rest)).resolve_left fun all => all key rest
      List.suffix_rfl ⟨document, other, holding, otherHolding, different.symm, clash⟩
  refine ⟨_, run_of_hasClash located named.filters named.orders proper (firstSuffix.trans suffix)
    firstSettled firstClash, ?_⟩
  have withoutLocated : Located (takeOut document.segments documents) := located.takeOut _
  have withoutProper : ∀ other ∈ takeOut document.segments documents, other.IsProper :=
    fun other there => proper other ((mem_takeOut_iff located member).mp there).1
  rcases settled_or_exists_clash (IsCandidate (takeOut document.segments documents)
    reference.segments reference.filters) reference.orders with
    all | ⟨second, further, secondSuffix, secondSettled, secondClash⟩
  · obtain ⟨sorted, found, _⟩ := exists_run_of_settled withoutLocated named.filters named.orders
      withoutProper all
    rw [found]
    exact nofun
  · rw [run_of_hasClash withoutLocated named.filters named.orders withoutProper secondSuffix
      secondSettled secondClash]
    intro same
    have field : second.field = first.field := by
      injection same with failures
      injection failures
    rw [isCandidate_takeOut located member] at secondClash
    rcases List.suffix_or_suffix_of_suffix secondSuffix (firstSuffix.trans suffix) with
      inner | outer
    · exact others second further (inner.trans firstSuffix) secondClash
    · -- The later failure is at a key in front, so the same values clash at the field before.
      have inFurther : behind <:+ further := by
        rcases List.suffix_cons_iff.mp outer with equal | inner
        · exact (List.cons.inj equal).2 ▸ List.suffix_rfl
        · exact (List.suffix_cons first behind).trans inner
      obtain ⟨left, right, inLeft, inRight, apart, clashes⟩ := secondClash
      refine others first behind firstSuffix ⟨left, right, ?_, ?_, apart, ?_⟩
      · exact ⟨inLeft.1, fun later inBehind => inLeft.2 later (inFurther.subset inBehind)⟩
      · exact ⟨inRight.1, fun later inBehind => inRight.2 later (inFurther.subset inBehind)⟩
      · rw [SortKey.Clash, ← field]
        exact clashes

/-- A document that is left out and does not spoil the answer can be taken out. -/
theorem run_takeOut_of_not_spoils
    (excluded : ¬ (Passes reference.filters document ∧ document.Has reference.orders))
    (harmless : ¬ Spoils documents reference document) :
    run (takeOut document.segments documents) reference = run documents reference := by
  have taken := isCandidate_takeOut located member reference.segments reference.filters
  have withoutLocated : Located (takeOut document.segments documents) := located.takeOut _
  have withoutProper : ∀ other ∈ takeOut document.segments documents, other.IsProper :=
    fun other there => proper other ((mem_takeOut_iff located member).mp there).1
  rcases settled_or_exists_clash (IsCandidate documents reference.segments reference.filters)
    reference.orders with settled | ⟨key, rest, suffix, settled, clash⟩
  · obtain ⟨sorted, found, distinct, members, inOrder⟩ :=
      exists_run_of_settled located named.filters named.orders proper settled
    obtain ⟨others, othersFound, othersDistinct, othersMembers, othersInOrder⟩ :=
      exists_run_of_settled withoutLocated named.filters named.orders withoutProper
        (by rw [taken]; exact settled.mono And.left)
    have same : others = sorted := by
      refine eq_of_pairwise_precedes ?_ othersDistinct distinct (fun other => ?_) othersInOrder
        inOrder
      · exact fun other there => withoutProper other ((othersMembers other).mp there).1.1
      · rw [othersMembers, members, Holding, Holding, taken, and_right_comm, and_iff_left_iff_imp]
        rintro there rfl
        exact excluded ⟨there.1.2.2, there.2⟩
    rw [found, othersFound, same]
  · rw [run_of_hasClash located named.filters named.orders proper suffix settled clash]
    refine run_of_hasClash withoutLocated named.filters named.orders withoutProper suffix
      (by rw [taken]; exact settled.mono And.left) ?_
    rw [taken]
    by_contra gone
    -- The clash is gone with the document, so the document is one of the two.
    obtain ⟨holding, clashing⟩ :=
      exists_clash_with (fun candidate => proper _ candidate.1) clash gone
    refine harmless ⟨key, rest, suffix, holding, clashing, fun later others inner remains => ?_⟩
    rcases List.suffix_cons_iff.mp inner with same | deeper
    · obtain ⟨rfl, rfl⟩ := List.cons.inj same
      exact gone remains
    · exact settled later others deeper (remains.mono fun there => ⟨there.1.1, there.2⟩)

end Excluded

end Query

namespace Store

open Query

variable {κ : Type}

/-- Taking out a document that a collection leaves out, since it fails a filter or lacks a sort
field, leaves the answer as it is, snapshots or failure, exactly if the document does not spoil
it. -/
theorem read_remove_excluded_iff {store : Store κ} (reached : store.Reached)
    {reference : Reference} (isCollection : reference.isCollection = true)
    (named : reference.IsNamed) (proper : ∀ document ∈ store.documents, document.IsProper)
    {document : StoredDocument} (member : document ∈ store.documents)
    (excluded : ¬ Passes reference.filters document ∨
      ∃ key ∈ reference.orders, document.valueAt key.field = none) :
    (store.remove document.segments).read reference = store.read reference ↔
      ¬ Spoils store.documents reference document := by
  have leftOut : ¬ (Passes reference.filters document ∧ document.Has reference.orders) := by
    rintro ⟨passes, has⟩
    rcases excluded with fails | ⟨key, inOrders, lacks⟩
    · exact fails passes
    · have there := has key inOrders
      rw [lacks] at there
      cases there
  have isDocument : reference.isDocument = false :=
    Segments.not_isDocument_of_isCollection isCollection
  have reads (documents : List StoredDocument) : Query.read documents reference =
      (run documents reference).map fun answered =>
        .query (answered.map StoredDocument.snapshot) := by
    rw [Query.read, isDocument, isCollection]
    cases run documents reference <;> rfl
  show Query.read (takeOut document.segments store.documents) reference =
    Query.read store.documents reference ↔ _
  rw [reads, reads]
  constructor
  · intro same spoils
    obtain ⟨failure, failed, different⟩ :=
      exists_failure_of_spoils reached.located member named proper spoils
    rw [failed] at same
    cases without : run (takeOut document.segments store.documents) reference with
    | error other =>
      rw [without] at same different
      cases same
      exact different rfl
    | ok answered =>
      rw [without] at same
      cases same
  · intro harmless
    rw [run_takeOut_of_not_spoils reached.located member named proper leftOut harmless]

/-- Bob without an age, with some name. -/
def bob (name : Value) : StoredDocument := ⟨["people", "bob"], [(("name" : Text), name)]⟩

/-- Ada with an age and a name, and Bob. -/
def adaAndBob (name : Value) : Store Unit :=
  ofDocuments [⟨["people", "ada"], [(("age" : Text), .int 36), (("name" : Text), ("Ada" : Text))]⟩,
    bob name]

/-- The people by age, and then by name. -/
def byAgeAndName : Reference :=
  ⟨["people"], [], [⟨("age" : Text), .ascending⟩, ⟨("name" : Text), .ascending⟩], none⟩

theorem reached_adaAndBob (name : Value) : (adaAndBob name).Reached := by
  have seeded : ofSeed [("people/ada", .map [(("age" : Text), .int 36),
      (("name" : Text), (("Ada" : Text) : Value))]), ("people/bob", .map [(("name" : Text), name)])] =
      .ok (adaAndBob name) := by
    simp only [ofSeed, List.foldl, enlist]
    rfl
  exact .seeded seeded

theorem isNamed_byAgeAndName : byAgeAndName.IsNamed := by
  refine ⟨nofun, fun key member => ?_⟩
  simp only [byAgeAndName, List.mem_cons, List.not_mem_nil, or_false] at member
  rcases member with rfl | rfl <;> exact ⟨_, rfl⟩

theorem isProper_of_mem_adaAndBob {name : Value} (proper : name.IsProper) :
    ∀ document ∈ (adaAndBob name).documents, document.IsProper := by
  intro document member
  simp only [adaAndBob, ofDocuments, List.mem_cons, List.not_mem_nil, or_false] at member
  rcases member with rfl | rfl
  · exact ⟨by decide, by decide⟩
  · refine Value.isProper_map_iff.mpr ⟨List.pairwise_singleton _ _, fun entry member => ?_⟩
    obtain rfl := List.mem_singleton.mp member
    exact ⟨nofun, proper⟩

/-- Only Ada and Bob can clash, and only at the name. -/
theorem clash_adaAndBob {name : Value} {key : SortKey} {rest : List SortKey}
    (suffix : key :: rest <:+ byAgeAndName.orders) {other : StoredDocument}
    (member : other ∈ (adaAndBob name).documents) (different : other ≠ bob name)
    (clash : key.Clash (bob name) other) : name.less? ("Ada" : Text) = none := by
  obtain ⟨leftValue, rightValue, leftAt, rightAt, refused⟩ := clash
  have inStore := List.mem_cons.mp member
  obtain rfl := inStore.resolve_right fun last => different (List.mem_singleton.mp last)
  rcases List.suffix_cons_iff.mp suffix with same | inner
  · obtain ⟨rfl, rfl⟩ := List.cons.inj same
    cases leftAt
  · rcases List.suffix_cons_iff.mp inner with same | none
    · obtain ⟨rfl, rfl⟩ := List.cons.inj same
      cases leftAt
      cases rightAt
      exact refused
    · cases List.suffix_nil.mp none

theorem read_remove_excluded_adaAndBob :
    ((adaAndBob ("Bob" : Text)).remove ["people", "bob"]).read byAgeAndName =
      (adaAndBob ("Bob" : Text)).read byAgeAndName := by
  have member : bob ("Bob" : Text) ∈ (adaAndBob ("Bob" : Text)).documents := .tail _ (.head _)
  have lacks : ∃ key ∈ byAgeAndName.orders, (bob ("Bob" : Text)).valueAt key.field = none :=
    ⟨⟨("age" : Text), .ascending⟩, .head _, by rfl⟩
  refine (read_remove_excluded_iff (reached_adaAndBob _) (by decide) isNamed_byAgeAndName
    (isProper_of_mem_adaAndBob ⟨by decide, by decide⟩) member (.inr lacks)).mpr ?_
  rintro ⟨key, rest, suffix, _, ⟨other, holding, different, clash⟩, _⟩
  have refused := clash_adaAndBob suffix holding.1.1 different clash
  exact absurd refused (by decide)

/-- A name that is a number makes the whole query fail, although Bob has no age and is left out
of the answer. Without him Ada is answered. -/
theorem read_of_misnamed_bob :
    (bob (.int 5)).valueAt ("age" : Text) = none ∧
      (adaAndBob (.int 5)).read byAgeAndName =
        .error (unorderable ("name" : Text) "people") ∧
      ((adaAndBob (.int 5)).remove ["people", "bob"]).read byAgeAndName =
        .ok (.query [.stored "people/ada"
          [(("age" : Text), .int 36), (("name" : Text), ("Ada" : Text))]]) := by
  refine ⟨by rfl, ?_, ?_⟩
  · cbv
  · cbv

end Store

end DocQuery
