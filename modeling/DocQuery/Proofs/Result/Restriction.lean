/-
This file proves what a document has of a snapshot when it is restricted to listed names.

A dotted name leads to a value if each of its keys is in the map that the keys before it lead to,
and stops short if a key is not there, or if there is no map to look for it in. The names are
entered one after the other, and one that was entered before keeps its place, so what is known of a
list is carried over to the list with one more name at its end: the data then has the names that
lead somewhere, in the order in which they are first listed.
-/

import DocQuery.Result
import DocQuery.Text.Separated
import Mathlib.Data.List.Basic
import Mathlib.Data.List.Induction

namespace DocQuery

/-! ### Dotted names -/

/-- A name is cut into keys at every dot. -/
structure Text.CutInto (name : Text) (keys : List Text) : Prop where
  nonempty : keys ≠ []
  undotted : ∀ key ∈ keys, (CodePoint.char '.') ∉ key
  joined : Text.join '.' keys = name

theorem Text.cutInto_iff {name : Text} {keys : List Text} :
    name.CutInto keys ↔ keys = Value.nameParts name := by
  constructor
  · rintro ⟨nonempty, undotted, rfl⟩
    exact (Text.split_join _ _ nonempty undotted).symm
  · rintro rfl
    exact ⟨Text.split_ne_nil _ _, Text.separator_not_mem_of_mem_split _ _, Text.join_split _ _⟩

theorem Entries.lookup_eq_some_iff {entries : Entries} (distinct : entries.Distinct) {name : Text}
    {value : Value} : entries.lookup name = some value ↔ (.text name, value) ∈ entries := by
  induction entries with
  | nil => simp
  | cons entry rest inductionHypothesis =>
    obtain ⟨key, content⟩ := entry
    obtain ⟨apart, restDistinct⟩ := List.pairwise_cons.mp distinct
    rw [lookup, List.mem_cons, Prod.mk.injEq]
    by_cases here : key = .text name
    · subst here
      rw [if_pos ((Key.same_text_iff _ _).mpr rfl), Option.some.injEq]
      refine ⟨fun same => .inl ⟨rfl, same.symm⟩, fun member => ?_⟩
      rcases member with ⟨_, same⟩ | later
      · exact same.symm
      · have twice := apart _ (List.mem_map_of_mem later)
        rw [(Key.same_text_iff _ _).mpr rfl] at twice
        cases twice
    · rw [if_neg (mt (Key.same_text_iff _ _).mp here), inductionHypothesis restDistinct]
      exact ⟨.inr, fun member => member.resolve_left fun same => here same.1.symm⟩

namespace Value

/-- Keys lead from a value to another one: each of them is in the map that is there. -/
inductive Leads : List Text → Value → Value → Prop
  | here (value : Value) : Leads [] value value
  | down {key : Text} {rest : List Text} {entries : Entries} {inner last : Value}
      (entry : (.text key, inner) ∈ entries) (further : Leads rest inner last) :
      Leads (key :: rest) (.map entries) last

/-- Keys run into an end: one of them is absent, or there is no map to look for it in. -/
inductive Stops : List Text → Value → Prop
  | noMap {key : Text} {rest : List Text} {value : Value}
      (noMap : ∀ entries, value ≠ .map entries) : Stops (key :: rest) value
  | absent {key : Text} {rest : List Text} {entries : Entries}
      (absent : .text key ∉ Entries.keys entries) : Stops (key :: rest) (.map entries)
  | down {key : Text} {rest : List Text} {entries : Entries} {inner : Value}
      (entry : (.text key, inner) ∈ entries) (further : Stops rest inner) :
      Stops (key :: rest) (.map entries)

/-- A dotted name leads from a value to another one. -/
def NameLeads (name : Text) (start last : Value) : Prop :=
  ∃ keys, name.CutInto keys ∧ Leads keys start last

/-- A dotted name runs into an end. -/
def NameStops (name : Text) (start : Value) : Prop := ∃ keys, name.CutInto keys ∧ Stops keys start

theorem distinct_of_wellFormed {entries : Entries} (wellFormed : (Value.map entries).WellFormed) :
    entries.Distinct :=
  of_decide_eq_true (Bool.and_eq_true_iff.mp wellFormed).1

/-- What a well-formed map holds is well-formed. -/
theorem wellFormed_of_mem {entries : Entries} (wellFormed : (Value.map entries).WellFormed)
    {key : Key} {value : Value} (member : (key, value) ∈ entries) : value.WellFormed := by
  have each : wellFormedEntries entries = true := (Bool.and_eq_true_iff.mp wellFormed).2
  clear wellFormed
  induction entries with
  | nil => exact absurd member List.not_mem_nil
  | cons entry rest inductionHypothesis =>
    obtain ⟨first, others⟩ := Bool.and_eq_true_iff.mp each
    rcases List.mem_cons.mp member with rfl | later
    · exact first
    · exact inductionHypothesis later others

theorem walk_eq_some_iff {keys : List Text} {start last : Value} (wellFormed : start.WellFormed) :
    start.walk keys = some last ↔ Leads keys start last := by
  induction keys generalizing start with
  | nil =>
    rw [walk, Option.some.injEq]
    constructor
    · rintro rfl
      exact .here start
    · rintro ⟨⟩
      rfl
  | cons key rest inductionHypothesis =>
    cases start with
    | map entries =>
      rw [walk, Option.bind_eq_some_iff]
      constructor
      · rintro ⟨inner, found, further⟩
        have entry := (Entries.lookup_eq_some_iff (distinct_of_wellFormed wellFormed)).mp found
        exact .down entry ((inductionHypothesis (wellFormed_of_mem wellFormed entry)).mp further)
      · rintro (_ | ⟨entry, further⟩)
        exact ⟨_, (Entries.lookup_eq_some_iff (distinct_of_wellFormed wellFormed)).mpr entry,
          (inductionHypothesis (wellFormed_of_mem wellFormed entry)).mpr further⟩
    | _ => constructor <;> intro impossible <;> cases impossible

theorem walk_eq_none_iff {keys : List Text} {start : Value} (wellFormed : start.WellFormed) :
    start.walk keys = none ↔ Stops keys start := by
  induction keys generalizing start with
  | nil => constructor <;> intro impossible <;> cases impossible
  | cons key rest inductionHypothesis =>
    cases start with
    | map entries =>
      have distinct := distinct_of_wellFormed wellFormed
      rw [walk, Option.bind_eq_none_iff]
      constructor
      · intro nowhere
        cases found : Entries.lookup (.text key) entries with
        | none => exact .absent ((Entries.lookup_eq_none_iff key entries).mp found)
        | some inner =>
          have entry := (Entries.lookup_eq_some_iff distinct).mp found
          exact .down entry
            ((inductionHypothesis (wellFormed_of_mem wellFormed entry)).mp (nowhere inner found))
      · intro stops inner found
        have entry := (Entries.lookup_eq_some_iff distinct).mp found
        cases stops with
        | noMap noMap => exact absurd rfl (noMap entries)
        | absent absent => exact absurd (List.mem_map_of_mem entry) absent
        | down other further =>
          rw [(Entries.lookup_eq_some_iff distinct).mpr other] at found
          obtain rfl := Option.some.inj found
          exact (inductionHypothesis (wellFormed_of_mem wellFormed entry)).mpr further
    | _ => exact ⟨fun _ => .noMap (by rintro _ ⟨⟩), fun _ => rfl⟩

/-- A dotted name leads where it is resolved to. -/
theorem resolve_eq_some_iff {name : Text} {start last : Value} (wellFormed : start.WellFormed) :
    start.resolve name = some last ↔ NameLeads name start last := by
  rw [resolve, walk_eq_some_iff wellFormed, NameLeads]
  simp only [Text.cutInto_iff, exists_eq_left]

theorem resolve_eq_none_iff {name : Text} {start : Value} (wellFormed : start.WellFormed) :
    start.resolve name = none ↔ NameStops name start := by
  rw [resolve, walk_eq_none_iff wellFormed, NameStops]
  simp only [Text.cutInto_iff, exists_eq_left]

end Value

/-! ### Selected names -/

namespace Document

theorem select_append (source : Entries) (first second : List Text) (selected : Entries) :
    select source (first ++ second) selected =
      select source second (select source first selected) := by
  induction first generalizing selected with
  | nil => rfl
  | cons name rest inductionHypothesis =>
    rw [List.cons_append, select, select]
    split <;> exact inductionHypothesis _

/-- The selection of one name more. -/
theorem select_concat (source : Entries) (fields : List Text) (name : Text) (selected : Entries) :
    select source (fields ++ [name]) selected =
      match Value.resolve name (.map source) with
      | some value => Entries.insert name value (select source fields selected)
      | none => select source fields selected := by
  rw [select_append, select]
  cases Value.resolve name (.map source) <;> rfl

theorem distinct_select (source : Entries) (fields : List Text) :
    (select source fields []).Distinct := by
  induction fields using List.reverseRecOn with
  | nil => exact List.Pairwise.nil
  | append_singleton fields name inductionHypothesis =>
    rw [select_concat]
    split
    · exact Entries.distinct_insert _ _ inductionHypothesis
    · exact inductionHypothesis

/-- A selection has what the listed names are resolved to. -/
theorem lookup_select (source : Entries) (fields : List Text) (name : Text) :
    (select source fields []).lookup name =
      if name ∈ fields then Value.resolve name (.map source) else none := by
  induction fields using List.reverseRecOn with
  | nil => rfl
  | append_singleton fields last inductionHypothesis =>
    rw [select_concat]
    by_cases same : name = last
    · subst same
      rw [if_pos List.mem_concat_self]
      split
      · next value found => rw [Entries.lookup_insert_self, found]
      · next nowhere => rw [inductionHypothesis, nowhere, ite_self]
    · have listed : name ∈ fields ++ [last] ↔ name ∈ fields := by simp [same]
      rw [if_congr listed rfl rfl, ← inductionHypothesis]
      split
      · exact Entries.lookup_insert_of_ne (fun equal => same (Key.text.inj equal).symm) _ _
      · rfl

/-- The names of a selection: those that are resolved, each once, as they are first listed. -/
theorem exists_keys_select (source : Entries) (fields : List Text) :
    ∃ names : List Text, Entries.keys (select source fields []) = names.map .text ∧
      (∀ name ∈ names, name ∈ fields) ∧
      names.Pairwise fun earlier later => fields.idxOf earlier < fields.idxOf later := by
  induction fields using List.reverseRecOn with
  | nil => exact ⟨[], rfl, nofun, List.Pairwise.nil⟩
  | append_singleton fields last inductionHypothesis =>
    obtain ⟨names, keys, listed, inOrder⟩ := inductionHypothesis
    have further : names.Pairwise fun earlier later =>
        (fields ++ [last]).idxOf earlier < (fields ++ [last]).idxOf later := by
      refine inOrder.imp_of_mem fun {earlier later} inEarlier inLater before => ?_
      rwa [List.idxOf_append_of_mem (listed _ inEarlier),
        List.idxOf_append_of_mem (listed _ inLater)]
    have stillListed (name : Text) (member : name ∈ names) : name ∈ fields ++ [last] :=
      List.mem_append_left [last] (listed name member)
    rw [select_concat]
    split
    · next value found =>
      rw [Entries.keys_insert]
      split
      · exact ⟨names, keys, stillListed, further⟩
      · next new =>
        -- A name that leads somewhere and is not among the keys has not been listed before.
        have unlisted : last ∉ fields := by
          intro before
          have there := lookup_select source fields last
          rw [if_pos before, found] at there
          have among : Key.text last ∈ Entries.keys (select source fields []) := by
            by_contra absent
            rw [(Entries.lookup_eq_none_iff _ _).mpr absent] at there
            cases there
          exact new (List.any_eq_true.mpr ⟨_, among, (Key.same_text_iff _ _).mpr rfl⟩)
        refine ⟨names ++ [last], by rw [keys, List.map_append]; rfl, fun name member => ?_, ?_⟩
        · rcases List.mem_append.mp member with earlier | same
          · exact stillListed name earlier
          · exact List.mem_append_right fields same
        · refine List.pairwise_append.mpr ⟨further, List.pairwise_singleton _ _, ?_⟩
          intro earlier inEarlier later same
          obtain rfl := List.mem_singleton.mp same
          rw [List.idxOf_append_of_mem (listed _ inEarlier), List.idxOf_append_of_notMem unlisted]
          exact Nat.lt_of_lt_of_le (List.idxOf_lt_length_of_mem (listed _ inEarlier))
            (Nat.le_add_right _ _)
    · exact ⟨names, keys, stillListed, further⟩

end Document

/-! ### Restricted documents -/

/-- What a document has of a snapshot with the data of a map, if it is restricted to names. -/
structure Document.Restricts (fields : List Text) (snapshot : DocumentSnapshot) (source : Entries)
    (document : Document) : Prop where
  location : document.location = snapshot.path
  present : document.present = snapshot.present
  /-- The keys are the listed names that lead somewhere, each once, as they are first listed. -/
  keys : ∃ names : List Text, Entries.keys document.data = names.map .text ∧
    (∀ name, name ∈ names ↔ name ∈ fields ∧ ∃ value, Value.NameLeads name (.map source) value) ∧
      names.Pairwise fun earlier later => fields.idxOf earlier < fields.idxOf later
  /-- A name has the value that it leads to, if it is listed. -/
  holds : ∀ name value, (.text name, value) ∈ document.data ↔
    name ∈ fields ∧ Value.NameLeads name (.map source) value
  /-- A listed name is left out if it runs into an end, and only then. -/
  leavesOut : ∀ name ∈ fields, .text name ∉ Entries.keys document.data ↔
    Value.NameStops name (.map source)

namespace Document

theorem namesOf_map (fields : List Text) : namesOf (fields.map .text) = .ok fields := by
  induction fields with
  | nil => rfl
  | cons name rest inductionHypothesis =>
    rw [List.map_cons, namesOf, inductionHypothesis]
    rfl

theorem fields_of_map {snapshot : DocumentSnapshot} {source : Entries}
    (data : snapshot.data = .map source) : snapshot.fields = .ok source := by
  rw [DocumentSnapshot.fields, data]
  cases source <;> rfl

/-- Names that are given as a list of values are taken as they are. -/
theorem ofSnapshotListed_map {snapshot : DocumentSnapshot} {source : Entries}
    (data : snapshot.data = .map source) {fields : List Text} (given : fields ≠ []) :
    ofSnapshotListed (.list (fields.map .text)) snapshot = ofSnapshot fields snapshot := by
  have listed : restrictionOf (.list (fields.map .text)) = .ok fields := by
    have truthy : (Value.list (fields.map .text)).truthy = true := by
      cases fields with
      | nil => exact absurd rfl given
      | cons name rest => rfl
    rw [restrictionOf, if_pos truthy]
    exact namesOf_map fields
  rw [ofSnapshotListed, fields_of_map data, listed]

/-- A snapshot whose data is a map gives the document that is restricted to the listed names. -/
theorem exists_restricts {snapshot : DocumentSnapshot} {source : Entries}
    (data : snapshot.data = .map source) (wellFormed : snapshot.data.WellFormed)
    {fields : List Text} (given : fields ≠ []) :
    ∃ document, ofSnapshot fields snapshot = .ok document ∧
      ofSnapshotListed (.list (fields.map .text)) snapshot = .ok document ∧
        document.Restricts fields snapshot source := by
  rw [data] at wellFormed
  have made : ofSnapshot fields snapshot =
      .ok ⟨snapshot.path, select source fields [], snapshot.present⟩ := by
    rw [ofSnapshot, fields_of_map data]
    cases fields with
    | nil => exact absurd rfl given
    | cons name rest => rfl
  refine ⟨_, made, by rw [ofSnapshotListed_map data given, made], rfl, rfl, ?_, ?_, ?_⟩
  · obtain ⟨names, keys, _, inOrder⟩ := exists_keys_select source fields
    refine ⟨names, keys, fun name => ?_, inOrder⟩
    have among : name ∈ names ↔ (select source fields []).lookup name ≠ none := by
      rw [Ne, Entries.lookup_eq_none_iff, not_not, keys]
      exact (List.mem_map_of_injective fun _ _ => Key.text.inj).symm
    simp only [among, lookup_select, ← Value.resolve_eq_some_iff wellFormed,
      ← Option.ne_none_iff_exists']
    by_cases listed : name ∈ fields <;> simp [listed]
  · intro name value
    rw [← Entries.lookup_eq_some_iff (distinct_select source fields), lookup_select,
      ← Value.resolve_eq_some_iff wellFormed]
    by_cases listed : name ∈ fields <;> simp [listed]
  · intro name listed
    rw [← Entries.lookup_eq_none_iff, lookup_select, if_pos listed,
      Value.resolve_eq_none_iff wellFormed]

/-- Somebody with an address inside a map, and an age. -/
def addressed : DocumentSnapshot :=
  .stored "people/ada" [(("home" : Text), .map [(("city" : Text), (("London" : Text) : Value))]),
    (("age" : Text), .int 36)]

/-- Names that repeat, that start with another one, and that lead nowhere. -/
def listing : List Text :=
  ["age", "home.city", "home", "age", "age.city", "home.city.street", "work"]

theorem exists_restricts_addressed :
    ∃ source, addressed.data = .map source ∧ addressed.data.WellFormed ∧ listing ≠ [] ∧
      ∃ document, ofSnapshot listing addressed = .ok document ∧
        ofSnapshotListed (.list (listing.map .text)) addressed = .ok document ∧
          document.Restricts listing addressed source :=
  ⟨_, rfl, by decide, by decide, exists_restricts rfl (by decide) (by decide)⟩

example : (ofSnapshot listing addressed).map (fun document => Entries.keys document.data) =
    .ok [.text "age", .text "home.city", .text "home"] := by
  decide

end Document

end DocQuery
