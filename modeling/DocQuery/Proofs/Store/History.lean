/-
This file proves that reads do not depend on the history of a store.

The order in which documents were first written is the only trace that writes, removals and writes
of the same again leave in a store, and the order of ids takes it away before anything else looks at
the documents. From there on both reads ask the same questions in the same order, so they come to
the same end, whether the values can be put in order or not. The same holds if the maps in the data
list their entries in other orders, which no question can tell: then the answers differ in these
orders at most.
-/

import DocQuery.Proofs.Store.Alike
import DocQuery.Proofs.Store.Locations

namespace DocQuery

namespace Query

/-! ### Documents in another order -/

theorem Located.nodup {documents : List StoredDocument} (located : Located documents) :
    documents.Nodup :=
  List.Pairwise.imp (fun apart same => apart (congrArg StoredDocument.segments same)) located

/-- Stores that hold the same documents hold them in some other order. -/
theorem Located.perm {documents others : List StoredDocument} (located : Located documents)
    (othersLocated : Located others) (same : ∀ document, document ∈ documents ↔ document ∈ others) :
    documents.Perm others :=
  (List.perm_ext_iff_of_nodup located.nodup othersLocated.nodup).mpr same

/-- The order of ids takes away any other order. -/
theorem sortById_eq_of_perm {documents others : List StoredDocument}
    (distinct : documents.Pairwise fun left right => left.id ≠ right.id)
    (perm : documents.Perm others) : sortById documents = sortById others := by
  have othersDistinct : others.Pairwise fun left right => left.id ≠ right.id :=
    distinct.perm perm Ne.symm
  have sorted : (sortById documents).Perm (sortById others) :=
    (perm_sortById documents).trans (perm.trans (perm_sortById others).symm)
  refine sorted.eq_of_pairwise (fun left right _ _ forth back => ?_) (pairwise_sortById distinct)
    (pairwise_sortById othersDistinct)
  exact absurd (Text.lt_trans forth back) (Text.lt_irrefl left.id)

/-- A document is found at its location, wherever it stands among the others. -/
theorem dataAt_eq_some_iff {documents : List StoredDocument} (located : Located documents)
    {segments : Segments} {data : Entries} :
    dataAt segments documents = some data ↔ ⟨segments, data⟩ ∈ documents := by
  induction documents with
  | nil => simp [dataAt]
  | cons first rest inductionHypothesis =>
    obtain ⟨apart, restLocated⟩ := List.pairwise_cons.mp located
    rw [dataAt, List.mem_cons]
    by_cases here : first.segments = segments
    · rw [if_pos here, Option.some.injEq]
      subst here
      refine ⟨fun same => .inl (by rw [← same]), fun member => ?_⟩
      rcases member with same | later
      · exact (congrArg StoredDocument.data same).symm
      · exact (apart _ later rfl).elim
    · rw [if_neg here, inductionHypothesis restLocated]
      refine ⟨.inr, fun member => member.resolve_left fun same => here ?_⟩
      rw [← same]

/-- What is read depends on which documents there are only. -/
theorem read_eq_of_same {documents others : List StoredDocument} (located : Located documents)
    (othersLocated : Located others) (same : ∀ document, document ∈ documents ↔ document ∈ others)
    (reference : Reference) : read documents reference = read others reference := by
  have found (segments : Segments) : dataAt segments documents = dataAt segments others := by
    refine Option.ext fun data => ?_
    rw [dataAt_eq_some_iff located, dataAt_eq_some_iff othersLocated, same]
  have children := sortById_eq_of_perm (pairwise_children located reference.segments)
    ((located.perm othersLocated same).filter _)
  rw [read, read, found, run, run, children]

/-! ### Alike documents -/

/-- Every document on either side is alike to one on the other. -/
structure Alike (documents others : List StoredDocument) : Prop where
  forth : ∀ document ∈ documents, ∃ other ∈ others, document.Alike other
  back : ∀ other ∈ others, ∃ document ∈ documents, document.Alike other

theorem id_eq_of_alike {document other : StoredDocument} (alike : document.Alike other) :
    document.id = other.id :=
  congrArg Segments.id alike.segments

namespace Alike

variable {documents others : List StoredDocument}

/-- In the order of ids, the documents that are alike stand at the same places. -/
theorem forall₂ (sorted : documents.Pairwise fun left right => left.id < right.id)
    (othersSorted : others.Pairwise fun left right => left.id < right.id)
    (alike : Alike documents others) : List.Forall₂ StoredDocument.Alike documents others := by
  induction documents generalizing others with
  | nil =>
    cases others with
    | nil => exact .nil
    | cons other rest =>
      obtain ⟨document, member, _⟩ := alike.back other List.mem_cons_self
      cases member
  | cons first rest inductionHypothesis =>
    obtain ⟨firstBelow, restSorted⟩ := List.pairwise_cons.mp sorted
    cases others with
    | nil =>
      obtain ⟨other, member, _⟩ := alike.forth first List.mem_cons_self
      cases member
    | cons other others =>
      obtain ⟨otherBelow, othersSorted⟩ := List.pairwise_cons.mp othersSorted
      have leading : first.Alike other := by
        obtain ⟨partner, partnerMember, like⟩ := alike.forth first List.mem_cons_self
        obtain ⟨document, member, otherLike⟩ := alike.back other List.mem_cons_self
        rcases List.mem_cons.mp partnerMember with rfl | partnerLater
        · exact like
        rcases List.mem_cons.mp member with rfl | later
        · exact otherLike
        -- Each would stand in front of the other's partner.
        have below : first.id < other.id := id_eq_of_alike otherLike ▸ firstBelow document later
        have above : other.id < first.id := id_eq_of_alike like ▸ otherBelow partner partnerLater
        exact absurd (Text.lt_trans below above) (Text.lt_irrefl first.id)
      have sameId := id_eq_of_alike leading
      refine .cons leading (inductionHypothesis restSorted othersSorted
        ⟨fun document member => ?_, fun partner member => ?_⟩)
      · obtain ⟨partner, partnerMember, like⟩ :=
          alike.forth document (List.mem_cons_of_mem _ member)
        rcases List.mem_cons.mp partnerMember with rfl | later
        · have below := firstBelow document member
          rw [sameId, id_eq_of_alike like] at below
          exact absurd below (Text.lt_irrefl partner.id)
        · exact ⟨partner, later, like⟩
      · obtain ⟨document, documentMember, like⟩ :=
          alike.back partner (List.mem_cons_of_mem _ member)
        rcases List.mem_cons.mp documentMember with rfl | later
        · have below := otherBelow partner member
          rw [← sameId, ← id_eq_of_alike like] at below
          exact absurd below (Text.lt_irrefl document.id)
        · exact ⟨document, later, like⟩

/-- The documents below a location stand at the same places on both sides. -/
theorem children (located : Located documents) (othersLocated : Located others)
    (alike : Alike documents others) (collection : Segments) :
    List.Forall₂ StoredDocument.Alike
      (sortById (documents.filter (StoredDocument.liesIn collection)))
      (sortById (others.filter (StoredDocument.liesIn collection))) := by
  have sameLies {document other : StoredDocument} (like : document.Alike other) :
      document.liesIn collection = other.liesIn collection := by
    rw [StoredDocument.liesIn, StoredDocument.liesIn, like.segments]
  refine forall₂ (pairwise_sortById (pairwise_children located collection))
    (pairwise_sortById (pairwise_children othersLocated collection))
    ⟨fun document member => ?_, fun other member => ?_⟩
  · rw [(perm_sortById _).mem_iff, List.mem_filter] at member
    obtain ⟨other, otherMember, like⟩ := alike.forth document member.1
    refine ⟨other, ?_, like⟩
    refine (perm_sortById _).mem_iff.mpr (List.mem_filter.mpr ⟨otherMember, ?_⟩)
    rw [← sameLies like, member.2]
  · rw [(perm_sortById _).mem_iff, List.mem_filter] at member
    obtain ⟨document, documentMember, like⟩ := alike.back other member.1
    refine ⟨document, ?_, like⟩
    refine (perm_sortById _).mem_iff.mpr (List.mem_filter.mpr ⟨documentMember, ?_⟩)
    rw [sameLies like, member.2]

theorem run (located : Located documents) (othersLocated : Located others)
    (alike : Alike documents others) (reference : Reference) :
    Outcome.Alike (List.Forall₂ StoredDocument.Alike) (Query.run documents reference)
      (Query.run others reference) := by
  have kept := keepPassing_alike reference.filters
    (alike.children located othersLocated reference.segments)
  rw [Query.run, Query.run]
  generalize keepPassing _ (sortById (documents.filter _)) = found at kept ⊢
  generalize keepPassing _ _ = otherFound at kept ⊢
  cases kept with
  | refused failure => exact .refused failure
  | @answered kept otherKept each =>
    have sorted := sortByKeys_alike reference.path reference.orders each
    dsimp only
    generalize sortByKeys _ _ kept = found at sorted ⊢
    generalize sortByKeys _ _ otherKept = otherFound at sorted ⊢
    cases sorted with
    | refused failure => exact .refused failure
    | answered each => exact .answered (cutTo_alike reference.limit each)

/-- At a location there are alike data on both sides, or none on either. -/
theorem dataAt (located : Located documents) (othersLocated : Located others)
    (alike : Alike documents others) (segments : Segments) :
    Option.Rel (fun data other : Entries => Value.Alike (.map data) (.map other))
      (Query.dataAt segments documents) (Query.dataAt segments others) := by
  cases found : Query.dataAt segments documents with
  | some data =>
    obtain ⟨⟨place, other⟩, member, samePlace, like⟩ :=
      alike.forth _ ((dataAt_eq_some_iff located).mp found)
    obtain rfl : segments = place := samePlace
    rw [(dataAt_eq_some_iff othersLocated).mpr member]
    exact .some like
  | none =>
    cases otherFound : Query.dataAt segments others with
    | none => exact .none
    | some other =>
      obtain ⟨⟨place, data⟩, member, samePlace, _⟩ :=
        alike.back _ ((dataAt_eq_some_iff othersLocated).mp otherFound)
      obtain rfl : place = segments := samePlace
      rw [(dataAt_eq_some_iff located).mpr member] at found
      cases found

/-- What is read from documents that are alike is alike, or refused for one reason. -/
theorem read (located : Located documents) (othersLocated : Located others)
    (alike : Alike documents others) (reference : Reference) :
    Outcome.Alike Snapshot.Alike (Query.read documents reference)
      (Query.read others reference) := by
  rw [Query.read, Query.read]
  split
  · have found := alike.dataAt located othersLocated reference.segments
    generalize Query.dataAt _ documents = data at found ⊢
    generalize Query.dataAt _ others = other at found ⊢
    cases found with
    | none => exact .answered (.document ⟨rfl, .refl _, rfl⟩)
    | some like => exact .answered (.document ⟨rfl, like, rfl⟩)
  · split
    · have answered := alike.run located othersLocated reference
      generalize Query.run documents reference = result at answered ⊢
      generalize Query.run others reference = other at answered ⊢
      cases answered with
      | refused failure => exact .refused failure
      | answered each =>
        refine .answered (.query ?_)
        refine List.forall₂_map_left_iff.mpr (List.forall₂_map_right_iff.mpr ?_)
        exact each.imp fun _ _ like => like.snapshot
    · exact .refused _

end Alike

end Query

namespace Store

/-- Stores that hold the same documents answer every reference alike, however they were reached, and
if maps in the data list their entries in other orders, then so do the answers, and no more. -/
theorem read_of_same_documents {κ μ : Type} {first : Store κ} {second : Store μ}
    (firstReached : first.Reached) (secondReached : second.Reached) (reference : Reference) :
    ((∀ document, document ∈ first.documents ↔ document ∈ second.documents) →
        first.read reference = second.read reference) ∧
      (Query.Alike first.documents second.documents →
        Outcome.Alike Snapshot.Alike (first.read reference) (second.read reference)) :=
  ⟨fun same => Query.read_eq_of_same firstReached.located secondReached.located same reference,
    fun alike => alike.read firstReached.located secondReached.located reference⟩

/-- Bob, whose age is a number, and Ada, whose age is a text, with Bob in front. -/
def bobFirst : Store Unit :=
  ofDocuments [⟨["people", "bob"], [(("age" : Text), .int 36), (("name" : Text), ("Bob" : Text))]⟩,
    ⟨["people", "ada"], [(("age" : Text), ("young" : Text))]⟩]

/-- The same people after Bob was removed and written again. -/
def bobAgain : Store Unit :=
  (bobFirst.remove ["people", "bob"]).write ["people", "bob"]
    [(("age" : Text), .int 36), (("name" : Text), ("Bob" : Text))]

/-- The same people after Bob was overwritten, name first. -/
def bobTurned : Store Unit :=
  bobFirst.write ["people", "bob"] [(("name" : Text), ("Bob" : Text)), (("age" : Text), .int 36)]

theorem reached_bobFirst : bobFirst.Reached := by
  have seeded : ofSeed [("people/bob",
        .map [(("age" : Text), .int 36), (("name" : Text), ("Bob" : Text))]),
      ("people/ada", .map [(("age" : Text), ("young" : Text))])] = .ok bobFirst := by rfl
  exact .seeded seeded

theorem reached_bobAgain : bobAgain.Reached := by
  have accepted : acceptWrite ("people/bob" : Text)
      (.map [(("age" : Text), .int 36), (("name" : Text), ("Bob" : Text))]) =
      .ok (["people", "bob"], [(("age" : Text), .int 36), (("name" : Text), ("Bob" : Text))]) := by
    rfl
  exact .write (.remove reached_bobFirst _) accepted

theorem reached_bobTurned : bobTurned.Reached := by
  have accepted : acceptWrite ("people/bob" : Text)
      (.map [(("name" : Text), ("Bob" : Text)), (("age" : Text), .int 36)]) =
      .ok (["people", "bob"], [(("name" : Text), ("Bob" : Text)), (("age" : Text), .int 36)]) := by
    rfl
  exact .write reached_bobFirst accepted

theorem alike_bobTurned : Query.Alike bobFirst.documents bobTurned.documents := by
  have bob : StoredDocument.Alike
      ⟨["people", "bob"], [(("age" : Text), .int 36), (("name" : Text), ("Bob" : Text))]⟩
      ⟨["people", "bob"], [(("name" : Text), ("Bob" : Text)), (("age" : Text), .int 36)]⟩ :=
    ⟨rfl, .rearranged (by decide) (.swap _ _ [])⟩
  have ada : StoredDocument.Alike ⟨["people", "ada"], [(("age" : Text), ("young" : Text))]⟩
      ⟨["people", "ada"], [(("age" : Text), ("young" : Text))]⟩ := ⟨rfl, .refl _⟩
  have turned : bobTurned.documents =
      [⟨["people", "bob"], [(("name" : Text), ("Bob" : Text)), (("age" : Text), .int 36)]⟩,
        ⟨["people", "ada"], [(("age" : Text), ("young" : Text))]⟩] := by rfl
  have second {first last : StoredDocument} : last ∈ [first, last] :=
    List.mem_cons_of_mem _ List.mem_cons_self
  rw [turned]
  constructor
  · exact List.forall_mem_cons.mpr
      ⟨⟨_, List.mem_cons_self, bob⟩, List.forall_mem_singleton.mpr ⟨_, second, ada⟩⟩
  · exact List.forall_mem_cons.mpr
      ⟨⟨_, List.mem_cons_self, bob⟩, List.forall_mem_singleton.mpr ⟨_, second, ada⟩⟩

theorem read_of_same_documents_bob :
    (bobFirst.documents ≠ bobAgain.documents ∧
        bobFirst.read ⟨["people"], [], [⟨("age" : Text), .ascending⟩], none⟩ =
          bobAgain.read ⟨["people"], [], [⟨("age" : Text), .ascending⟩], none⟩) ∧
      Outcome.Alike Snapshot.Alike (bobFirst.read (.plain ["people"]))
        (bobTurned.read (.plain ["people"])) := by
  have swapped : bobAgain.documents = bobFirst.documents.reverse := by rfl
  have same (document : StoredDocument) :
      document ∈ bobFirst.documents ↔ document ∈ bobAgain.documents := by
    rw [swapped, List.mem_reverse]
  exact ⟨⟨by decide, (read_of_same_documents reached_bobFirst reached_bobAgain _).1 same⟩,
    (read_of_same_documents reached_bobFirst reached_bobTurned _).2 alike_bobTurned⟩

end Store

end DocQuery
