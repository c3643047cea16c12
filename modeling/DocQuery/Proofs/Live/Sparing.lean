/-
This file says which recipients are spared.

Some recipients are set apart: no listener of a store tells them, and no live query that watches a
feed does. Whatever goes on then, and whatever listeners do inside the deliveries of others, nothing
is told to those that are set apart, and nobody begins to tell them. Only who calls them directly
does.

With nobody set apart the same says that whoever is called is there.
-/

import DocQuery.Proofs.Live.Leading
import DocQuery.Proofs.Live.Openings
import DocQuery.Proofs.Live.Releasing

namespace DocQuery

namespace World

/-! ### Recipients that are set apart -/

/-- A callback that tells somebody who is there and is not set apart. -/
def Bypasses (apart : Nat → Prop) (world : World) : Callback → Prop
  | .recipient index => index < world.recipients.length ∧ ¬ apart index
  | .live query => ∃ found, world.queries[query]? = some found ∧
      ∀ index, found.sink = .recipient index → ¬ apart index

/-- A state in which neither a store nor a feed tells the recipients that are set apart. -/
structure Secludes (apart : Nat → Prop) (world : World) : Prop where
  there : ∀ index, apart index → index < world.recipients.length
  sinks : ∀ {query : Nat} {found : LiveQuery} {index}, world.queries[query]? = some found →
    found.sink = .recipient index → index < world.recipients.length
  listeners : ∀ {name store entry}, world.store? name = some store → entry ∈ store.listeners →
    world.Bypasses apart entry.2.callback
  watchers : ∀ {label query}, (label, some query) ∈ world.feedNames →
    world.Bypasses apart (.live query)
  told : ∀ {event}, event ∈ world.events → event.recipient < world.recipients.length

/-- What is kept for those that are set apart: nothing is told to them, and nothing of them changes.
-/
structure SparesApart (apart : Nat → Prop) (world later : World) : Prop where
  secludes : later.Secludes apart
  grown : world.recipients.length ≤ later.recipients.length
  queries : ∀ {query : Nat} {found : LiveQuery}, world.queries[query]? = some found →
    ∃ after, later.queries[query]? = some after ∧ after.Continues found
  same : ∀ index, apart index → later.recipients[index]? = world.recipients[index]?
  events : ∀ index, apart index → later.events.filter (·.recipient = index) =
    world.events.filter (·.recipient = index)

/-- To spare those that are set apart, as terms. -/
def sparing (apart : Nat → Prop) : Terms where
  good := Secludes apart
  allowed _ := True
  callable := Bypasses apart
  owed _ sink _ _ := ∀ index, sink = .recipient index → ¬ apart index
  relation := SparesApart apart

variable {apart : Nat → Prop} {world later : World}

theorem Bypasses.mono {callback : Callback} (bypasses : world.Bypasses apart callback)
    (grown : world.recipients.length ≤ later.recipients.length)
    (queries : ∀ {query : Nat} {found : LiveQuery}, world.queries[query]? = some found →
      ∃ after, later.queries[query]? = some after ∧ after.sink = found.sink) :
    later.Bypasses apart callback := by
  cases callback with
  | recipient index => exact ⟨Nat.lt_of_lt_of_le bypasses.1 grown, bypasses.2⟩
  | live query =>
    obtain ⟨found, present, elsewhere⟩ := bypasses
    obtain ⟨after, there, sink⟩ := queries present
    exact ⟨after, there, fun index same => elsewhere index (sink.symm.trans same)⟩

theorem SparesApart.bypasses (spares : world.SparesApart apart later) {callback : Callback}
    (bypasses : world.Bypasses apart callback) : later.Bypasses apart callback :=
  bypasses.mono spares.grown fun present =>
    (spares.queries present).imp fun _ known => ⟨known.1, known.2.sink⟩

/-- Who is bypassed may be told nothing, whatever was read. -/
theorem Bypasses.owes {callback : Callback} (bypasses : world.Bypasses apart callback)
    (occasion : Occasion) (read : Except Failure Snapshot) :
    (sparing apart).Owes callback occasion read world := by
  cases callback with
  | recipient index =>
    intro other same
    cases same
    exact bypasses.2
  | live query =>
    intro found present index same
    obtain ⟨known, there, elsewhere⟩ := bypasses
    obtain rfl := Option.some.inj (present.symm.trans there)
    exact elsewhere index same

namespace Secludes

variable (secludes : world.Secludes apart)

include secludes

/-- What brings no listener, no watcher and no live query but such that bypass who is set apart. -/
theorem spares (grown : world.recipients.length ≤ later.recipients.length)
    (queries : ∀ {query : Nat} {found : LiveQuery}, world.queries[query]? = some found →
      ∃ after, later.queries[query]? = some after ∧ after.Continues found)
    (sinks : ∀ {query : Nat} {found : LiveQuery}, later.queries[query]? = some found →
      (∃ before, world.queries[query]? = some before) ∨
        ∀ index, found.sink = .recipient index → index < later.recipients.length)
    (listeners : ∀ {name store entry}, later.store? name = some store → entry ∈ store.listeners →
      (∃ before, world.store? name = some before ∧ entry ∈ before.listeners) ∨
        later.Bypasses apart entry.2.callback)
    (watchers : ∀ {label query}, (label, some query) ∈ later.feedNames →
      (label, some query) ∈ world.feedNames ∨ later.Bypasses apart (.live query))
    (told : later.events ⊆ world.events)
    (same : ∀ index, apart index → later.recipients[index]? = world.recipients[index]?)
    (events : ∀ index, apart index → later.events.filter (·.recipient = index) =
      world.events.filter (·.recipient = index)) : world.SparesApart apart later := by
  have kept {callback : Callback} (bypasses : world.Bypasses apart callback) :
      later.Bypasses apart callback :=
    bypasses.mono grown fun present =>
      (queries present).imp fun _ known => ⟨known.1, known.2.sink⟩
  refine ⟨⟨fun index set => Nat.lt_of_lt_of_le (secludes.there index set) grown,
    fun {query found index} present sink => ?_, fun there member => ?_, fun watches => ?_,
    fun member => Nat.lt_of_lt_of_le (secludes.told (told member)) grown⟩, grown, queries, same,
    events⟩
  · rcases sinks present with ⟨before, known⟩ | inside
    · obtain ⟨after, there, continues⟩ := queries known
      obtain rfl := Option.some.inj (present.symm.trans there)
      exact Nat.lt_of_lt_of_le (secludes.sinks known (continues.sink.symm.trans sink)) grown
    · exact inside index sink
  · rcases listeners there member with ⟨before, known, old⟩ | bypasses
    · exact kept (secludes.listeners known old)
    · exact bypasses
  · exact (watchers watches).elim (fun old => kept (secludes.watchers old)) id

/-- What leaves recipients, live queries and feeds, adds no listener, and tells nothing. -/
theorem spares_rest (recipients : later.recipients = world.recipients)
    (queries : later.queries = world.queries) (feedNames : later.feedNames = world.feedNames)
    (events : later.events = world.events)
    (listeners : ∀ {name store entry}, later.store? name = some store → entry ∈ store.listeners →
      ∃ before, world.store? name = some before ∧ entry ∈ before.listeners) :
    world.SparesApart apart later :=
  secludes.spares (Nat.le_of_eq (by rw [recipients]))
    (fun {_ found} present => ⟨found, by rwa [queries], .refl found⟩)
    (fun {_ found} present => .inl ⟨found, by rwa [queries] at present⟩)
    (fun there member => .inl (listeners there member))
    (fun watches => .inl (by rwa [feedNames] at watches)) (by rw [events]; exact List.Subset.refl _)
    (fun _ _ => by rw [recipients]) fun _ _ => by rw [events]

theorem refl : world.SparesApart apart world :=
  secludes.spares_rest rfl rfl rfl rfl fun there member => ⟨_, there, member⟩

theorem spares_updateStore {change : Store Callback → Store Callback} (shrinks : Shrinks change)
    (name : Text) : world.SparesApart apart (world.updateStore name change) := by
  obtain ⟨stores, same⟩ := exists_updateStore name change world
  refine secludes.spares_rest (by rw [same]) (by rw [same]) (by rw [same]) (by rw [same])
    fun there member => ?_
  obtain ⟨store, found, ⟨_, rfl⟩ | ⟨_, rfl⟩⟩ := store?_updateStore_cases there
  · exact ⟨store, found, shrinks.listeners store _ member⟩
  · exact ⟨_, found, member⟩

theorem spares_register {name : Text} {reference : Reference} {callback : Callback}
    (bypasses : world.Bypasses apart callback) :
    world.SparesApart apart (world.updateStore name (Store.register ⟨reference, callback⟩)) := by
  obtain ⟨stores, same⟩ := exists_updateStore name (Store.register ⟨reference, callback⟩) world
  refine secludes.spares (Nat.le_of_eq (by rw [same]))
    (fun {_ found} present => ⟨found, by rwa [same], .refl found⟩)
    (fun {_ found} present => .inl ⟨found, by rwa [same] at present⟩)
    (fun there member => ?_) (fun watches => .inl (by rwa [same] at watches))
    (by rw [same]; exact List.Subset.refl _) (fun _ _ => by rw [same]) fun _ _ => by rw [same]
  obtain ⟨store, found, ⟨_, rfl⟩ | ⟨_, rfl⟩⟩ := store?_updateStore_cases there
  · rcases List.mem_append.mp member with old | new
    · exact .inl ⟨store, found, old⟩
    · rw [List.mem_singleton.mp new, same]
      exact .inr bypasses
  · exact .inl ⟨_, found, member⟩

theorem spares_updateHandle (query : Nat)
    {change : Subscription Release → Subscription Release} (steers : Steers change) :
    world.SparesApart apart (world.updateHandle query change) := by
  refine secludes.spares (Nat.le_refl _) (fun present => steers.continues query present)
    (fun {other found} present => .inl ?_) (fun there member => .inl ⟨_, there, member⟩)
    (fun watches => .inl watches) (List.Subset.refl _) (fun _ _ => rfl) fun _ _ => rfl
  rw [queries_updateHandle] at present
  obtain ⟨before, known, _⟩ := Option.map_eq_some_iff.mp present
  exact ⟨before, known⟩

/-- Somebody who is not set apart has one more delivery. -/
theorem spares_countDelivery {recipient : Nat} (other : ¬ apart recipient) :
    world.SparesApart apart (world.countDelivery recipient) := by
  refine secludes.spares (Nat.le_of_eq (List.length_modify ..).symm)
    (fun {_ found} present => ⟨found, present, .refl found⟩)
    (fun {_ found} present => .inl ⟨found, present⟩)
    (fun there member => .inl ⟨_, there, member⟩) (fun watches => .inl watches)
    (List.Subset.refl _) (fun index set => ?_) fun _ _ => rfl
  have different : recipient ≠ index := fun same => other (same ▸ set)
  exact List.getElem?_modify_ne _ _ different

/-- Whoever is told something directly is not told more for that, set apart or not. -/
theorem secludes_tell (recipient : Nat) (occasion : Occasion) (update : Update) :
    (world.tell recipient occasion update).Secludes apart := by
  rw [tell]
  split
  · exact secludes
  · next found present =>
    have length : (world.countDelivery recipient).recipients.length = world.recipients.length :=
      List.length_modify ..
    have inside := (List.getElem?_eq_some_iff.mp present).1
    have kept {callback : Callback} {events : List Event}
        (bypasses : world.Bypasses apart callback) :
        ({ world.countDelivery recipient with events := events } : World).Bypasses apart callback :=
      bypasses.mono (Nat.le_of_eq length.symm) fun present => ⟨_, present, rfl⟩
    refine ⟨fun index set => length ▸ secludes.there index set,
      fun present sink => length ▸ secludes.sinks present sink,
      fun there member => kept (secludes.listeners there member),
      fun watches => kept (secludes.watchers watches), fun {event} member => ?_⟩
    rcases List.mem_append.mp member with old | new
    · exact length ▸ secludes.told old
    · rw [List.mem_singleton.mp new]
      exact length ▸ inside

theorem spares_tell {recipient : Nat} (other : ¬ apart recipient) (occasion : Occasion)
    (update : Update) : world.SparesApart apart (world.tell recipient occasion update) := by
  have secludesThen := secludes.secludes_tell recipient occasion update
  have counted := secludes.spares_countDelivery other
  rw [tell] at secludesThen ⊢
  split at secludesThen
  · exact secludes.refl
  · refine ⟨secludesThen, counted.grown, counted.queries, counted.same, fun index set => ?_⟩
    have different : recipient ≠ index := fun same => other (same ▸ set)
    rw [List.filter_append, List.filter_cons_of_neg (by simpa using different), List.filter_nil,
      List.append_nil]

theorem spares_addRecipient (label : Text) (reactions : List Reaction) :
    world.SparesApart apart (world.addRecipient label reactions).2 := by
  have grown :
      world.recipients.length ≤ (world.addRecipient label reactions).2.recipients.length := by
    rw [addRecipient, List.length_append]
    exact Nat.le_add_right _ _
  refine secludes.spares grown (fun {_ found} present => ⟨found, present, .refl found⟩)
    (fun {_ found} present => .inl ⟨found, present⟩)
    (fun there member => .inl ⟨_, there, member⟩) (fun watches => .inl watches)
    (List.Subset.refl _) (fun index set => List.getElem?_append_left (secludes.there index set))
    fun _ _ => rfl

theorem spares_addQuery {query : LiveQuery}
    (inside : ∀ index, query.sink = .recipient index → index < world.recipients.length) :
    world.SparesApart apart (world.addQuery query).2 := by
  refine secludes.spares (Nat.le_refl _)
    (fun {_ found} present => ⟨found, getElem?_concat_eq_some.mpr (.inl present), .refl found⟩)
    (fun {_ found} present => ?_) (fun there member => .inl ⟨_, there, member⟩)
    (fun watches => .inl watches) (List.Subset.refl _) (fun _ _ => rfl) fun _ _ => rfl
  rcases getElem?_concat_eq_some.mp present with old | ⟨_, rfl⟩
  · exact .inl ⟨found, old⟩
  · exact .inr inside

theorem spares_bindFeed (feed : Feed) {watcher : Option Nat}
    (bypasses : ∀ query, watcher = some query → world.Bypasses apart (.live query)) :
    world.SparesApart apart (world.bindFeed feed watcher) := by
  refine secludes.spares (Nat.le_refl _) (fun {_ found} present => ⟨found, present, .refl found⟩)
    (fun {_ found} present => .inl ⟨found, present⟩)
    (fun there member => .inl ⟨_, there, member⟩) (fun {label query} watches => ?_)
    (List.Subset.refl _) (fun _ _ => rfl) fun _ _ => rfl
  rcases List.mem_cons.mp watches with new | old
  · cases new
    exact .inr (bypasses query rfl)
  · exact .inl old

/-- Whoever is newly there is not set apart. -/
theorem bypasses_addRecipient (label : Text) (reactions : List Reaction) :
    (world.addRecipient label reactions).2.Bypasses apart (.recipient world.recipients.length) := by
  refine ⟨?_, fun set => Nat.lt_irrefl _ (secludes.there _ set)⟩
  rw [addRecipient, List.length_append]
  exact Nat.lt_succ_self _

omit secludes in
theorem bypasses_addQuery {query : LiveQuery}
    (elsewhere : ∀ index, query.sink = .recipient index → ¬ apart index) :
    (world.addQuery query).2.Bypasses apart (.live world.queries.length) :=
  ⟨query, getElem?_addQuery query world, elsewhere⟩

end Secludes

namespace SparesApart

theorem trans {first second third : World} (spares : first.SparesApart apart second)
    (further : second.SparesApart apart third) : first.SparesApart apart third where
  secludes := further.secludes
  grown := Nat.le_trans spares.grown further.grown
  queries present := by
    obtain ⟨between, known, continues⟩ := spares.queries present
    obtain ⟨after, there, later⟩ := further.queries known
    exact ⟨after, there, later.trans continues⟩
  same index set := (further.same index set).trans (spares.same index set)
  events index set := (further.events index set).trans (spares.events index set)

end SparesApart

/-! ### Sparing -/

theorem telling_sparing (apart : Nat → Prop) : (sparing apart).Telling where
  refl := Secludes.refl
  trans := .trans
  good := SparesApart.secludes
  scripts _ _ _ _ _ _ := trivial
  countDelivery secludes other := secludes.spares_countDelivery (other _ rfl)
  tell secludes other := secludes.spares_tell (other _ rfl) _ _
  count query _ secludes := secludes.spares_updateHandle query steers_count
  push secludes _ := secludes.spares_rest rfl rfl rfl rfl fun there member => ⟨_, there, member⟩
  notifyAll _ _ secludes :=
    secludes.spares_rest rfl rfl rfl rfl fun there member => ⟨_, there, member⟩
  counted := id
  noticed := id

theorem releasing_sparing (apart : Nat → Prop) : (sparing apart).Releasing where
  toTelling := telling_sparing apart
  shrink shrinks name _ secludes := secludes.spares_updateStore shrinks name
  steer query _ steers _ secludes := secludes.spares_updateHandle query steers
  release _ _ secludes :=
    secludes.spares_rest rfl rfl rfl rfl fun there member => ⟨_, there, member⟩
  finish _ _ secludes :=
    secludes.spares_rest rfl rfl rfl rfl fun there member => ⟨_, there, member⟩

theorem starting_sparing (apart : Nat → Prop) : (sparing apart).Starting where
  toTelling := telling_sparing apart
  listening _ _ _ _ := trivial
  subscribing _ _ _ _ := trivial
  report secludes there member spares failure :=
    (spares.bypasses (secludes.listeners there member)).owes _ _
  announce secludes watches spares read := (spares.bypasses (secludes.watchers watches)).owes _ read
  read secludes there member spares documents :=
    (spares.bypasses (secludes.listeners there member)).owes _ _
  write name _ _ _ _ _ _ secludes := secludes.spares_updateStore (shrinks_write _ _) name
  remove name _ _ _ _ secludes := secludes.spares_updateStore (shrinks_remove _) name
  close name _ secludes := secludes.spares_updateStore shrinks_close name
  unlisten label _ := (releasing_sparing apart).unlisten label
  cancelQuery query _ := (releasing_sparing apart).cancelQuery query
  closeStream stream _ := (releasing_sparing apart).closeStream stream
  bindFeed feed _ _ bypasses secludes := secludes.spares_bindFeed feed bypasses
  cutShort secludes := secludes.spares_rest rfl rfl rfl rfl fun there member => ⟨_, there, member⟩
  register _ bypasses secludes := secludes.spares_register bypasses
  addRecipient label reactions _ _ secludes := secludes.spares_addRecipient label reactions
  newListener _ _ secludes := secludes.bypasses_addRecipient _ _
  newRecipient label reactions _ aim world secludes := by
    have added := secludes.spares_addRecipient label reactions
    obtain ⟨inside, elsewhere⟩ := secludes.bypasses_addRecipient label reactions
    exact ⟨added.trans (added.secludes.spares_addQuery
        (fun _ same => Sink.recipient.inj same ▸ inside)),
      Secludes.bypasses_addQuery fun _ same => Sink.recipient.inj same ▸ elsewhere⟩
  newStream aim world secludes := by
    have added : world.SparesApart apart world.addStream.2 :=
      secludes.spares_rest rfl rfl rfl rfl fun there member => ⟨_, there, member⟩
    exact ⟨added.trans (added.secludes.spares_addQuery nofun), Secludes.bypasses_addQuery nofun⟩
  attach query release _ := (releasing_sparing apart).attach query release
  names _ _ _ _ secludes :=
    secludes.spares_rest rfl rfl rfl rfl fun there member => ⟨_, there, member⟩

/-- Whatever listeners do, those that are set apart are spared. -/
theorem keptBy_sparing (apart : Nat → Prop) (depth : Nat) :
    (sparing apart).KeptBy (performTo depth) :=
  (starting_sparing apart).running.keptBy_performTo depth

/-- Nor does anything that a caller does tell them something. -/
theorem composes_sparing (apart : Nat → Prop) :
    Composes fun world later => world.Secludes apart → world.SparesApart apart later where
  stay _ secludes := secludes.refl
  further first second secludes := (first secludes).trans (second (first secludes).secludes)
  perform action world := keptBy_sparing apart (world.depthFor action) action world trivial
  ready target _ := (starting_sparing apart).aim target
  close stream _ := (starting_sparing apart).closeStream stream
  take _ _ secludes :=
    secludes.spares_rest rfl rfl rfl rfl fun there member => ⟨_, there, member⟩

/-! ### Nobody set apart -/

/-- Whoever is called, by a store or a feed, is there, and so is whoever a live query delivers to.
-/
abbrev Numbered (world : World) : Prop := world.Secludes fun _ => False

theorem spanning_numbered : (sparing fun _ => False).Spanning where
  toRunning := (starting_sparing _).running
  everything _ := trivial
  everybody callback read world numbered := by
    cases callback with
    | recipient index => exact fun _ _ => id
    | live query => exact fun _ _ _ _ => id
  take _ _ numbered := numbered.spares_rest rfl rfl rfl rfl fun there member => ⟨_, there, member⟩
  remark {world _} fewer _ _ numbered :=
    numbered.spares (Nat.le_refl _) (fun {_ found} present => ⟨found, present, .refl found⟩)
      (fun {_ found} present => .inl ⟨found, present⟩)
      (fun there member => .inl ⟨_, there, member⟩) .inl fewer (fun _ => False.elim)
      fun _ => False.elim

theorem numbered_ofStores {mode : BuildMode} {stores : List (Text × Store Callback)}
    (unheard : ∀ entry ∈ stores, entry.2.listeners = []) : (ofStores mode stores).Numbered where
  there _ := False.elim
  sinks present := absurd (List.mem_of_getElem? present) List.not_mem_nil
  listeners there member := by
    rw [listeners_ofStores unheard there] at member
    cases member
  watchers none := absurd none List.not_mem_nil
  told none := absurd none List.not_mem_nil

/-- Whoever is called tells nobody who is new. -/
theorem Secludes.bypasses_new (numbered : world.Numbered) {callback : Callback}
    (bypasses : world.Bypasses (fun _ => False) callback) (label : Text)
    (reactions : List Reaction) :
    (world.addRecipient label reactions).2.Bypasses (· = world.recipients.length) callback := by
  cases callback with
  | recipient index =>
    refine ⟨?_, Nat.ne_of_lt bypasses.1⟩
    rw [addRecipient, List.length_append]
    exact Nat.lt_succ_of_lt bypasses.1
  | live query =>
    obtain ⟨found, present, _⟩ := bypasses
    exact ⟨found, present, fun index sink => Nat.ne_of_lt (numbered.sinks present sink)⟩

/-- A recipient that is new can be set apart: nobody tells it yet. -/
theorem Secludes.secludes_addRecipient (numbered : world.Numbered) (label : Text)
    (reactions : List Reaction) :
    (world.addRecipient label reactions).2.Secludes (· = world.recipients.length) := by
  have length : (world.addRecipient label reactions).2.recipients.length =
      world.recipients.length + 1 := by
    rw [addRecipient, List.length_append]
    rfl
  exact ⟨fun index same => by rw [length, same]; exact Nat.lt_succ_self _,
    fun present sink => length ▸ Nat.lt_succ_of_lt (numbered.sinks present sink),
    fun there member => numbered.bypasses_new (numbered.listeners there member) label reactions,
    fun watches => numbered.bypasses_new (numbered.watchers watches) label reactions,
    fun member => length ▸ Nat.lt_succ_of_lt (numbered.told member)⟩

end World

end DocQuery
