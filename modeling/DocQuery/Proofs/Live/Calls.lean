/-
This file proves that a store stays a map from locations to data while its listeners act.

A call that writes or deletes changes the store, and then a pass tells listeners, who may call
again before it has ended. So after any number of calls the store is what these calls made of it in
their order, each followed by whatever was called inside its pass; where no listener acts, there is
nothing inside. A call that is refused changes nothing at all and tells nobody.

Everything else that can go on around a store leaves its documents as they are.
-/

import DocQuery.Proofs.Live.Concern
import DocQuery.Proofs.Store.Locations

namespace DocQuery

/-- The action that makes a call on a store. -/
def DocumentCall.action (name : Text) : DocumentCall → Action
  | .set path data => .write name path data
  | .delete path => .remove name path

namespace World

/-- Makes calls on a store one after the other, whatever comes of each. -/
def makeCalls (performer : Performer) (name : Text) (calls : List DocumentCall) (world : World) :
    World :=
  calls.foldl (fun reached call => (reached.performWith performer (call.action name)).2) world

variable {world later : World} {name : Text} {store : Store Callback}

/-! ### Single calls -/

theorem performWith_of_refused (there : world.store? name = some store) {call : DocumentCall}
    {failure : Failure} (refused : call.effect = .error failure) (performer : Performer) :
    world.performWith performer (call.action name) = (.error failure, world) := by
  have known : world.store name = .ok store := by
    rw [World.store, there]
  cases call with
  | set path data =>
    rw [DocumentCall.effect] at refused
    rw [DocumentCall.action, performWith, writeDocument, known]
    cases accepted : Store.acceptWrite path data with
    | error cause =>
      rw [accepted] at refused
      cases refused
      rfl
    | ok written =>
      rw [accepted] at refused
      cases refused
  | delete path =>
    rw [DocumentCall.effect] at refused
    rw [DocumentCall.action, performWith, removeDocument, known]
    cases located : Segments.ofDocumentPath path with
    | error cause =>
      rw [located] at refused
      cases refused
      rfl
    | ok segments =>
      rw [located] at refused
      cases refused

/-- An accepted call that changes nothing in the store leaves everything as it is; any other call
changes the store, and then a pass follows. -/
theorem performWith_of_accepted (there : world.store? name = some store) (performer : Performer)
    {call : DocumentCall} {segments : Segments} {left : Option Entries}
    (accepted : call.effect = .ok (segments, left)) :
    (store.after call = store ∧ (world.performWith performer (call.action name)).2 = world) ∨
      ∃ change, change store = store.after call ∧
        (world.performWith performer (call.action name)).2 =
          ((world.updateStore name change).writePass performer name
            (store.concerned segments)).2 := by
  cases call with
  | set path data =>
    rw [Store.after, accepted]
    rw [DocumentCall.effect] at accepted
    cases written : Store.acceptWrite path data with
    | error failure =>
      rw [written] at accepted
      cases accepted
    | ok entered =>
      rw [written] at accepted
      cases accepted
      have changes : Action.Changes name store (.write name path data) _ _ := .write written
      exact .inr ⟨_, rfl, congrArg Prod.snd (changes.performWith there performer)⟩
  | delete path =>
    rw [Store.after, accepted]
    rw [DocumentCall.effect] at accepted
    cases located : Segments.ofDocumentPath path with
    | error failure =>
      rw [located] at accepted
      cases accepted
    | ok found =>
      rw [located] at accepted
      cases accepted
      by_cases holds : store.holds segments = true
      · have changes : Action.Changes name store (.remove name path) _ _ := .remove located holds
        exact .inr ⟨_, (if_pos holds).symm, congrArg Prod.snd (changes.performWith there performer)⟩
      · have known : world.store name = .ok store := by
          rw [World.store, there]
        refine .inl ⟨if_neg holds, ?_⟩
        rw [DocumentCall.action, performWith, removeDocument, known, located]
        dsimp only
        rw [if_neg holds]

/-- A call leaves everything as it is, or it changes the store, and then a pass follows. -/
theorem performWith_call_cases (there : world.store? name = some store) (performer : Performer)
    (call : DocumentCall) :
    (store.after call = store ∧ (world.performWith performer (call.action name)).2 = world) ∨
      ∃ change segments, change store = store.after call ∧
        (world.performWith performer (call.action name)).2 =
          ((world.updateStore name change).writePass performer name
            (store.concerned segments)).2 := by
  cases made : call.effect with
  | error failure =>
    refine .inl ⟨?_, congrArg Prod.snd (performWith_of_refused there made performer)⟩
    rw [Store.after, made]
  | ok effect =>
    rcases performWith_of_accepted there performer made with unchanged | ⟨change, same, went⟩
    · exact .inl unchanged
    · exact .inr ⟨change, effect.1, same, went⟩

/-! ### Documents that stay -/

theorem documentsAt_carryOutAny (release : Option Release) (world : World) :
    (world.carryOutAny release).documentsAt name = world.documentsAt name := by
  cases release with
  | none => rfl
  | some release =>
    cases release with
    | listener other id =>
      exact documentsAt_updateStore (Store.documents_unregister id) other name world
    | feed path => rfl
    | watch index => rfl

theorem documentsAt_cancelQuery (query : Nat) (world : World) :
    (world.cancelQuery query).documentsAt name = world.documentsAt name := by
  rw [cancelQuery]
  split
  · rfl
  · exact documentsAt_carryOutAny _ _

theorem documentsAt_attach (query : Nat) (release : Release) (world : World) :
    (world.attach query release).documentsAt name = world.documentsAt name := by
  rw [attach]
  split
  · rfl
  · exact documentsAt_carryOutAny _ _

theorem documentsAt_closeStream (stream : Nat) (world : World) :
    (world.closeStream stream).documentsAt name = world.documentsAt name := by
  rw [closeStream]
  split
  · rfl
  · split
    · rfl
    · exact documentsAt_cancelQuery _ world

theorem documentsAt_unlisten (label : Text) (world : World) :
    (world.unlisten label).2.documentsAt name = world.documentsAt name := by
  rw [unlisten]
  split
  · rfl
  · exact documentsAt_updateStore (Store.documents_unregister _) _ name world

theorem documentsAt_tell (index : Nat) (occasion : Occasion) (update : Update) (world : World) :
    (world.tell index occasion update).documentsAt name = world.documentsAt name := by
  rw [tell]
  split <;> rfl

/-! ### Stores on record -/

/-- What goes on puts some calls on the record of a store. -/
def Records (name : Text) (world later : World) : Prop :=
  ∃ made : List DocumentCall, ∀ store, world.store? name = some store →
    ∃ after, later.store? name = some after ∧
      ∀ calls, store.Records calls → after.Records (calls ++ made)

namespace Records

/-- Where the documents stay, no call was made. -/
theorem of_documentsAt (same : later.documentsAt name = world.documentsAt name) :
    world.Records name later := by
  refine ⟨[], fun store there => ?_⟩
  have documents : (later.store? name).map Store.documents = some store.documents := by
    rw [← documentsAt, same, documentsAt, there]
    rfl
  obtain ⟨after, known, kept⟩ := Option.map_eq_some_iff.mp documents
  refine ⟨after, known, fun calls records => ?_⟩
  rw [List.append_nil]
  exact records.of_documents kept

theorem refl (world : World) : world.Records name world := of_documentsAt rfl

theorem trans {first second third : World} (records : first.Records name second)
    (further : second.Records name third) : first.Records name third := by
  obtain ⟨made, before⟩ := records
  obtain ⟨others, behind⟩ := further
  refine ⟨made ++ others, fun store there => ?_⟩
  obtain ⟨middle, known, recorded⟩ := before store there
  obtain ⟨after, found, recording⟩ := behind middle known
  refine ⟨after, found, fun calls kept => ?_⟩
  rw [← List.append_assoc]
  exact recording _ (recorded calls kept)

/-- A change that a call makes of a store puts the call on its record, and on no other. -/
theorem updateStore {change : Store Callback → Store Callback} {call : DocumentCall}
    (puts : ∀ (store : Store Callback) calls, store.Records calls →
      (change store).Records (calls ++ [call])) (other : Text) (world : World) :
    world.Records name (world.updateStore other change) := by
  by_cases same : name = other
  · refine ⟨[call], fun store there => ⟨change store, ?_, puts store⟩⟩
    rw [store?_updateStore, if_pos same, there]
    rfl
  · refine of_documentsAt ?_
    rw [documentsAt, store?_updateStore, if_neg same, documentsAt]

end Records

/-- The terms of a record: listeners may do anything. -/
def recording (name : Text) : Terms where
  good _ := True
  allowed _ := True
  callable _ _ := True
  owed _ _ _ _ := True
  relation world later := world.Records name later

theorem owes_recording (callback : Callback) (occasion : Occasion)
    (read : Except Failure Snapshot) (world : World) :
    (recording name).Owes callback occasion read world := by
  cases callback with
  | recipient index => trivial
  | live query => exact fun _ _ => trivial

theorem starting_recording (name : Text) : (recording name).Starting where
  refl _ := .refl _
  trans := .trans
  good _ := trivial
  scripts _ _ _ _ _ _ := trivial
  countDelivery _ _ := .of_documentsAt rfl
  tell _ _ := .of_documentsAt (documentsAt_tell _ _ _ _)
  count _ _ _ := .of_documentsAt rfl
  push _ _ := .of_documentsAt rfl
  notifyAll _ _ _ := .of_documentsAt rfl
  counted _ := trivial
  noticed _ := trivial
  listening _ _ _ _ := trivial
  subscribing _ _ _ _ := trivial
  report _ _ _ _ _ := owes_recording _ .report _ _
  announce _ _ _ read := owes_recording (.live _) .report read _
  read _ _ _ _ _ := owes_recording _ .standing _ _
  write other {_ _ _ _ world} accepted _ := .updateStore
    (fun _ _ records => records.write (DocumentCall.effect_set accepted)) other world
  remove other {_ _ world} located _ := .updateStore
    (fun _ _ records => records.remove (DocumentCall.effect_delete located)) other world
  close other _ _ := .of_documentsAt (documentsAt_updateStore Store.documents_close other name _)
  unlisten label _ _ := .of_documentsAt (documentsAt_unlisten label _)
  cancelQuery query _ _ := .of_documentsAt (documentsAt_cancelQuery query _)
  closeStream stream _ _ := .of_documentsAt (documentsAt_closeStream stream _)
  bindFeed _ _ _ _ _ := .of_documentsAt rfl
  cutShort _ := .of_documentsAt rfl
  register _ _ _ := .of_documentsAt (documentsAt_updateStore (Store.documents_register _) _ name _)
  addRecipient _ _ _ _ _ := .of_documentsAt rfl
  newListener _ _ _ := trivial
  newRecipient _ _ _ _ _ _ := ⟨.of_documentsAt rfl, trivial⟩
  newStream _ _ _ := ⟨.of_documentsAt rfl, trivial⟩
  attach query release _ _ := .of_documentsAt (documentsAt_attach query release _)
  names _ _ _ _ _ := .of_documentsAt rfl

theorem spanning_recording (name : Text) : (recording name).Spanning where
  toRunning := (starting_recording name).running
  everything _ := trivial
  everybody callback read _ _ := owes_recording callback .report read _
  take _ _ _ := .of_documentsAt rfl
  remark _ _ _ _ := .of_documentsAt rfl

/-- Whatever goes on, a store stays on record. -/
theorem Runs.records {first last : World} (run : first.Runs last) (name : Text) :
    first.Records name last :=
  (spanning_recording name).of_runs run trivial

/-! ### Listeners that do not act -/

/-- Nobody who is told anything carries out an action; all they may do is raise. -/
def IsPassive (world : World) : Prop :=
  ∀ recipient ∈ world.recipients, ∀ position action, .act position action ∉ recipient.reactions

theorem IsPassive.of_reactions (passive : world.IsPassive)
    (same : ∀ recipient ∈ later.recipients, ∃ before ∈ world.recipients,
      recipient.reactions = before.reactions) : later.IsPassive := by
  intro recipient member
  obtain ⟨before, known, reactions⟩ := same recipient member
  rw [reactions]
  exact passive before known

theorem IsPassive.countDelivery (passive : world.IsPassive) (index : Nat) :
    (world.countDelivery index).IsPassive := by
  refine passive.of_reactions fun recipient member => ?_
  obtain ⟨place, found⟩ := List.getElem?_of_mem member
  rw [World.countDelivery, List.getElem?_modify] at found
  obtain ⟨before, known, rfl⟩ := Option.map_eq_some_iff.mp found
  refine ⟨before, List.mem_of_getElem? known, ?_⟩
  split <;> rfl

theorem IsPassive.tell (passive : world.IsPassive) (index : Nat) (occasion : Occasion)
    (update : Update) : (world.tell index occasion update).IsPassive := by
  rw [World.tell]
  split
  · exact passive
  · exact passive.countDelivery index

/-- The terms of listeners that do not act: telling them changes no document. -/
def resting (name : Text) : Terms where
  good := IsPassive
  allowed _ := False
  callable _ _ := True
  owed _ _ _ _ := True
  relation world later := later.IsPassive ∧ later.documentsAt name = world.documentsAt name

theorem telling_resting (name : Text) : (resting name).Telling where
  refl passive := ⟨passive, rfl⟩
  trans before behind := ⟨behind.1, behind.2.trans before.2⟩
  good := And.left
  scripts passive recipient member position action acts :=
    passive recipient member position action acts
  countDelivery {index _ _ _} passive _ := ⟨passive.countDelivery index, rfl⟩
  tell passive _ := ⟨passive.tell _ _ _, documentsAt_tell _ _ _ _⟩
  count _ _ passive := ⟨passive, rfl⟩
  push passive _ := ⟨passive, rfl⟩
  notifyAll _ _ passive := ⟨passive, rfl⟩
  counted _ := trivial
  noticed _ := trivial

theorem owes_resting (callback : Callback) (occasion : Occasion)
    (read : Except Failure Snapshot) (world : World) :
    (resting name).Owes callback occasion read world := by
  cases callback with
  | recipient index => trivial
  | live query => exact fun _ _ => trivial

/-! ### Calls in order -/

/-- A store that was changed is found as what the change made of it. -/
theorem store?_updateStore_of_change (there : world.store? name = some store)
    {change : Store Callback → Store Callback} {after : Store Callback}
    (same : change store = after) : (world.updateStore name change).store? name = some after := by
  rw [store?_updateStore, if_pos rfl, there, ← same]
  rfl

/-- A call goes on record, and behind it what was called inside its pass. -/
theorem exists_records_performWith (there : world.store? name = some store)
    {performer : Performer} (kept : (recording name).KeptBy performer) (call : DocumentCall) :
    ∃ inside after, (world.performWith performer (call.action name)).2.store? name = some after ∧
      ∀ calls, store.Records calls → after.Records (calls ++ call :: inside) := by
  rcases performWith_call_cases there performer call with
    ⟨same, stays⟩ | ⟨change, segments, same, went⟩
  · exact ⟨[], store, stays.symm ▸ there, fun calls records => same ▸ records.after call⟩
  · have told : (world.updateStore name change).Records name
        ((world.updateStore name change).writePass performer name (store.concerned segments)).2 :=
      (starting_recording name).writePass kept name trivial fun _ _ _ _ _ =>
        owes_recording _ _ _ _
    obtain ⟨inside, recorded⟩ := told
    obtain ⟨after, found, further⟩ := recorded _ (store?_updateStore_of_change there same)
    refine ⟨inside, after, went ▸ found, fun calls records => ?_⟩
    rw [← List.singleton_append, ← List.append_assoc]
    exact further _ (records.after call)

/-- Where nobody acts, a call comes to nothing else. -/
theorem IsPassive.performWith_call (passive : world.IsPassive)
    (there : world.store? name = some store) (performer : Performer) (call : DocumentCall) :
    (world.performWith performer (call.action name)).2.IsPassive ∧
      ∃ after, (world.performWith performer (call.action name)).2.store? name = some after ∧
        after.documents = (store.after call).documents := by
  rcases performWith_call_cases there performer call with
    ⟨same, stays⟩ | ⟨change, segments, same, went⟩
  · rw [stays, same]
    exact ⟨passive, store, there, rfl⟩
  · obtain ⟨stores, rest⟩ := exists_updateStore name change world
    have passiveThen : (world.updateStore name change).IsPassive := by
      rw [rest]
      exact passive
    have unused : (resting name).KeptBy performer := fun _ _ none => none.elim
    have told : (resting name).relation (world.updateStore name change)
        ((world.updateStore name change).writePass performer name (store.concerned segments)).2 :=
      (telling_resting name).writePass unused name passiveThen fun _ _ _ _ _ =>
        owes_resting _ _ _ _
    rw [went]
    refine ⟨told.1, Option.map_eq_some_iff.mp (told.2.trans ?_)⟩
    rw [documentsAt, store?_updateStore_of_change there same]
    rfl

theorem exists_records_makeCalls (there : world.store? name = some store)
    {performer : Performer} (kept : (recording name).KeptBy performer) (calls : List DocumentCall) :
    ∃ made after, calls.Sublist made ∧
      (world.makeCalls performer name calls).store? name = some after ∧
        ∀ history, store.Records history → after.Records (history ++ made) := by
  induction calls generalizing world store with
  | nil =>
    exact ⟨[], store, .slnil, there,
      fun history records => (List.append_nil history).symm ▸ records⟩
  | cons call rest inductionHypothesis =>
    obtain ⟨inside, middle, known, recorded⟩ := exists_records_performWith there kept call
    obtain ⟨made, after, sublist, found, further⟩ := inductionHypothesis known
    refine ⟨call :: inside ++ made, after, ?_, found, fun history records => ?_⟩
    · exact (sublist.trans (List.sublist_append_right inside made)).cons_cons call
    · rw [← List.append_assoc]
      exact further _ (recorded history records)

theorem IsPassive.makeCalls (passive : world.IsPassive) (there : world.store? name = some store)
    (performer : Performer) (calls : List DocumentCall) :
    ∃ after, (world.makeCalls performer name calls).store? name = some after ∧
      ∀ history, store.Records history → after.Records (history ++ calls) := by
  induction calls generalizing world store with
  | nil => exact ⟨store, there, fun history records => (List.append_nil history).symm ▸ records⟩
  | cons call rest inductionHypothesis =>
    obtain ⟨passiveThen, middle, known, documents⟩ := passive.performWith_call there performer call
    obtain ⟨after, found, further⟩ := inductionHypothesis passiveThen known
    refine ⟨after, found, fun history records => ?_⟩
    rw [← List.singleton_append, ← List.append_assoc]
    exact further _ ((records.after call).of_documents documents)

/-- That calls make a map of a store which holds what it was seeded with, whoever listens to it: the
map of the calls alone if no listener acts, and else of what was called in all, with the calls in
their order; and that a refused call changes nothing, tells nobody, and is refused for its path or
its data. -/
structure MapsCalls (documents : List (Text × Value)) (name : Text) (world : World) : Prop where
  alone : world.IsPassive → ∀ (performer : Performer) calls, ∃ after,
    (world.makeCalls performer name calls).store? name = some after ∧
      after.MapsPaths (Store.seedCalls documents ++ calls)
  among : ∀ {performer : Performer},
    (∀ action (inside : World), inside.Runs (performer action inside).2) → ∀ calls, ∃ made after,
      calls.Sublist made ∧ (world.makeCalls performer name calls).store? name = some after ∧
        after.MapsPaths (Store.seedCalls documents ++ made)
  refused : ∀ (performer : Performer) (call : DocumentCall) failure (inside : World) here,
    inside.store? name = some here → call.effect = .error failure →
      inside.performWith performer (call.action name) = (.error failure, inside)
  misnamed : ∀ path, (Segments.ofPath path).isDocument = false →
    (∀ data, (DocumentCall.set (.text path) data).effect =
      .error (.store (.notADocumentPath (.text path)) (some path))) ∧
    (DocumentCall.delete (.text path)).effect =
      .error (.store (.notADocumentPath (.text path)) (some path))
  named : ∀ path, (Segments.ofPath path).isDocument = true →
    (∀ data failure, (DocumentCall.set (.text path) data).effect = .error failure →
      failure.IsUnfit) ∧
    (DocumentCall.delete (.text path)).effect = .ok (Segments.ofPath path, none)

/-- Calls make a map of every store that was seeded. -/
theorem mapsCalls_of_seed {documents : List (Text × Value)} {seeded : Store Callback}
    (accepted : Store.ofSeed documents = .ok seeded) (there : world.store? name = some store)
    (same : store.documents = seeded.documents) : world.MapsCalls documents name := by
  have records : store.Records (Store.seedCalls documents) :=
    (Store.records_ofSeed accepted).of_documents same
  refine ⟨fun passive performer calls => ?_, fun plays calls => ?_,
    fun performer call failure inside here known refused =>
      performWith_of_refused known refused performer,
    fun path => DocumentCall.effect_of_misnamed, fun path => DocumentCall.effect_of_named⟩
  · obtain ⟨after, found, further⟩ := passive.makeCalls there performer calls
    exact ⟨after, found, (further _ records).mapsPaths⟩
  · have kept {performer : Performer}
        (plays : ∀ action (inside : World), inside.Runs (performer action inside).2) :
        (recording name).KeptBy performer :=
      fun action inside _ _ => (plays action inside).records name
    obtain ⟨made, after, sublist, found, further⟩ :=
      exists_records_makeCalls there (kept plays) calls
    exact ⟨made, after, sublist, found, (further _ records).mapsPaths⟩

/-- Two people, one of them under a path with stray slashes. -/
def strayPeople : List (Text × Value) :=
  [("people/ada", .map [("age", .int 36)]), ("/people//bob/", .map [("age", .int 41)])]

/-- Calls that write again, delete, and write below a document, under paths with stray slashes, and
among them two that are refused. -/
def strayCalls : List DocumentCall :=
  [.set (.text "people/ada/") (.map [("age", .int 37)]), .set (.text "people") (.map []),
    .delete (.text "//people/bob"), .set (.text "people/cyd") (.int 5),
    .set (.text "people/ada/letters//first") (.map [])]

/-- The state whose store was seeded with the two. -/
def strayWorld : World :=
  ofStores .permissive [("store", .ofDocuments
    [⟨["people", "ada"], [("age", .int 36)]⟩, ⟨["people", "bob"], [("age", .int 41)]⟩])]

/-- What the calls left is found by name. -/
theorem mapsCalls_of_seed_strayPeople :
    Store.ofSeed strayPeople = .ok (.ofDocuments
        [⟨["people", "ada"], [("age", .int 36)]⟩, ⟨["people", "bob"], [("age", .int 41)]⟩] :
          Store Callback) ∧
      strayWorld.IsPassive ∧ ∃ after,
        (strayWorld.makeCalls (performTo 1) "store" strayCalls).store? "store" = some after ∧
          after.paths = ["people/ada", "people/ada/letters/first"] ∧
          after.read (.plain ["people", "ada"]) =
            .ok (.document (.stored "people/ada" [("age", .int 37)])) ∧
          after.read (.plain ["people", "bob"]) = .ok (.document (.missing "people/bob")) := by
  have accepted : Store.ofSeed strayPeople = .ok (.ofDocuments
      [⟨["people", "ada"], [("age", .int 36)]⟩, ⟨["people", "bob"], [("age", .int 41)]⟩] :
        Store Callback) := rfl
  have there : strayWorld.store? "store" = some (.ofDocuments
      [⟨["people", "ada"], [("age", .int 36)]⟩, ⟨["people", "bob"], [("age", .int 41)]⟩]) := rfl
  have passive : strayWorld.IsPassive := fun _ none => absurd none List.not_mem_nil
  obtain ⟨after, found, maps⟩ :=
    (mapsCalls_of_seed accepted there rfl).alone passive (performTo 1) strayCalls
  refine ⟨accepted, passive, after, found, ?_, ?_, ?_⟩
  · cases found
    rfl
  · exact (maps.found [.collection (.text "people"), .document (.text "ada")] _ rfl rfl _).mpr rfl
  · exact (maps.missing [.collection (.text "people"), .document (.text "bob")] _ rfl rfl).mpr rfl

end World

end DocQuery
