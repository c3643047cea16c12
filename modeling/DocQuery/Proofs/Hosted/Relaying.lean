/-
This file proves that a live query on a hosted store relays what its watch is told.

What the client tells the watch waits for the loop, and the calls of the loop are made in the order
in which they were told. Each call that is made while the live query is active is one delivery to
its recipient; once it is not active any more, whoever cancelled it, calls that still wait are
dropped. So what the recipient was told, followed by what the waiting calls will tell it, is what
the watch was told, as long as the live query is active.

The recipient is set apart: only the calls of its own watch tell it something. Whatever listeners
do, and whatever else goes on, can only cancel the live query.
-/

import DocQuery.Proofs.Hosted.Reading
import DocQuery.Proofs.Hosted.Steps

namespace DocQuery

/-- What a live query delivers for what was read, if anything. -/
def LiveQuery.delivery? (query : LiveQuery) (read : Except Failure Snapshot) : Option Update :=
  Update.delivered? (QueryResult.ofRead query.handle.type query.handle.path query.projection read)

theorem LiveQuery.Continues.delivery? {later earlier : LiveQuery}
    (continues : later.Continues earlier) (read : Except Failure Snapshot) :
    later.delivery? read = earlier.delivery? read := by
  rw [LiveQuery.delivery?, LiveQuery.delivery?, continues.type, continues.path,
    continues.projection]

namespace World

/-! ### Tellings -/

/-- What a recipient was told, in order. -/
def toldTo (recipient : Nat) (world : World) : List Update :=
  (world.events.filter (·.recipient = recipient)).map Event.update

/-- A recipient that is set apart is told some updates, and live queries go on. -/
structure Relays (recipient : Nat) (updates : List Update) (world later : World) : Prop where
  secludes : later.Secludes (· = recipient)
  grown : world.recipients.length ≤ later.recipients.length
  queries : ∀ {query : Nat} {found : LiveQuery}, world.queries[query]? = some found →
    ∃ after, later.queries[query]? = some after ∧ after.Continues found
  told : later.toldTo recipient = world.toldTo recipient ++ updates

variable {recipient : Nat} {world later : World}

theorem SparesApart.relays (spares : world.SparesApart (· = recipient) later) :
    world.Relays recipient [] later := by
  refine ⟨spares.secludes, spares.grown, spares.queries, ?_⟩
  rw [toldTo, spares.events recipient rfl, List.append_nil]
  rfl

theorem Relays.trans {first second third : World} {updates more : List Update}
    (relays : first.Relays recipient updates second) (further : second.Relays recipient more third) :
    first.Relays recipient (updates ++ more) third where
  secludes := further.secludes
  grown := Nat.le_trans relays.grown further.grown
  queries present := by
    obtain ⟨between, known, continues⟩ := relays.queries present
    obtain ⟨after, there, later⟩ := further.queries known
    exact ⟨after, there, later.trans continues⟩
  told := by rw [further.told, relays.told, List.append_assoc]

/-- Who calls callbacks keeps them: a callback that others are told by stays so. -/
theorem Relays.bypasses {updates : List Update} (relays : world.Relays recipient updates later)
    {callback : Callback} (bypasses : world.Bypasses (· = recipient) callback) :
    later.Bypasses (· = recipient) callback :=
  bypasses.mono relays.grown fun present =>
    (relays.queries present).imp fun _ known => ⟨known.1, known.2.sink⟩

/-- A live query that is active was active before. -/
theorem Relays.isActive {updates : List Update} (relays : world.Relays recipient updates later)
    {query : Nat} {found : LiveQuery} (present : world.queries[query]? = some found)
    (active : later.IsActive query) : world.IsActive query := by
  obtain ⟨after, there, continues⟩ := relays.queries present
  obtain ⟨known, same, still⟩ := active
  obtain rfl := Option.some.inj (there.symm.trans same)
  exact ⟨found, present, continues.active still⟩

theorem Secludes.relays_tell (secludes : world.Secludes (· = recipient)) (occasion : Occasion)
    (update : Update) : world.Relays recipient [update] (world.tell recipient occasion update) := by
  have inside := secludes.there recipient rfl
  have told := secludes.secludes_tell recipient occasion update
  rw [tell, List.getElem?_eq_getElem inside] at told ⊢
  refine ⟨told, Nat.le_of_eq (List.length_modify ..).symm, fun present => ⟨_, present, .refl _⟩, ?_⟩
  simp [toldTo]

variable {performer : Performer}

/-- A delivery of an active live query is told to its recipient once, whatever that does then. -/
theorem Secludes.relays_deliver (secludes : world.Secludes (· = recipient))
    (kept : (sparing (· = recipient)).KeptBy performer) {query : Nat} {found : LiveQuery}
    (present : world.queries[query]? = some found) (sink : found.sink = .recipient recipient)
    (active : found.handle.active = true) (occasion : Occasion)
    (delivery : Except Failure QueryResult) :
    world.Relays recipient [.ofResult delivery]
      (world.deliver performer query occasion delivery) := by
  have telling := telling_sparing (· = recipient)
  have counted := secludes.spares_updateHandle query steers_count
  have told := counted.secludes.relays_tell occasion (.ofResult delivery)
  have reacted : SparesApart _ _ _ := telling.react kept recipient
    (telling.allows_reactionsOf recipient counted.secludes) told.secludes
  have heard := (counted.relays.trans told).trans reacted.relays
  have examined : (Update.ofResult delivery).examine = .ok () := by cases delivery <;> rfl
  rw [deliver, present]
  dsimp only
  rw [if_pos active, handOver, sink]
  dsimp only
  rw [hear, examined]
  dsimp only
  split
  · next calm =>
    rw [calm] at heard
    exact heard
  · next raised =>
    rw [raised] at heard
    have noticed : SparesApart _ _ _ :=
      telling.notifyAll [.listenerRaised found.handle.path] heard.secludes
    exact heard.trans noticed.relays

/-- What is read for a live query of a recipient that is set apart is delivered, if the live query
is active. -/
theorem Secludes.relays_receive (secludes : world.Secludes (· = recipient))
    (kept : (sparing (· = recipient)).KeptBy performer) {query : Nat} {found : LiveQuery}
    (present : world.queries[query]? = some found) (sink : found.sink = .recipient recipient)
    (occasion : Occasion) (snapshot : Snapshot) :
    world.Relays recipient
      (if found.handle.active then (found.delivery? (.ok snapshot)).toList else [])
      (world.receive performer query occasion snapshot).2 := by
  have delivered (delivery : Except Failure QueryResult) : world.Relays recipient
      (if found.handle.active then [.ofResult delivery] else [])
      (world.deliver performer query occasion delivery) := by
    split
    · next active => exact secludes.relays_deliver kept present sink active occasion delivery
    · next inactive =>
      rw [deliver, present]
      dsimp only
      rw [if_neg inactive]
      exact secludes.refl.relays
  rw [receive, present, LiveQuery.delivery?, QueryResult.ofRead]
  dsimp only [Except.bind]
  cases QueryResult.ofSnapshot found.handle.type found.handle.path found.projection snapshot with
  | ok result => exact delivered (.ok result)
  | error failure =>
    rw [Update.delivered?]
    dsimp only
    cases failure.isDeliverable with
    | true => exact delivered (.error failure)
    | false =>
      simp only [Bool.false_eq_true, if_false, Option.toList_none, ite_self]
      exact secludes.refl.relays

theorem Secludes.relays_receiveFailure (secludes : world.Secludes (· = recipient))
    (kept : (sparing (· = recipient)).KeptBy performer) {query : Nat} {found : LiveQuery}
    (present : world.queries[query]? = some found) (sink : found.sink = .recipient recipient)
    (occasion : Occasion) (failure : Failure) :
    world.Relays recipient (if found.handle.active then [.failure failure] else [])
      (world.receiveFailure performer query occasion failure) := by
  have noticed : SparesApart _ _ _ := (telling_sparing (· = recipient)).notifyAll
    [.storeFailed found.handle.path failure] secludes
  rw [receiveFailure, present]
  split
  · next active =>
    exact noticed.relays.trans
      (noticed.secludes.relays_deliver kept present sink active occasion (.error failure))
  · next inactive =>
    have dropped : (world.notify (.storeFailed found.handle.path failure)).deliver performer query
        occasion (.error failure) = world.notify (.storeFailed found.handle.path failure) := by
      rw [deliver, show (world.notify _).queries[query]? = _ from present]
      dsimp only
      rw [if_neg inactive]
    dsimp only
    rw [dropped]
    exact noticed.relays

end World

namespace HostedWorld

/-! ### Calls that wait -/

/-- What the waiting calls of a live query will tell it, in order. -/
def queuedFor (query : Nat) (dispatches : List Dispatch) : List (Except Failure Snapshot) :=
  (dispatches.filter (·.callback = .live query)).map Dispatch.told

theorem queuedFor_append (query : Nat) (first second : List Dispatch) :
    queuedFor query (first ++ second) = queuedFor query first ++ queuedFor query second := by
  rw [queuedFor, List.filter_append, List.map_append]
  rfl

theorem queuedFor_cons_of_eq {query : Nat} {next : Dispatch} (mine : next.callback = .live query)
    (rest : List Dispatch) : queuedFor query (next :: rest) = next.told :: queuedFor query rest := by
  simp [queuedFor, mine]

theorem queuedFor_cons_of_ne {query : Nat} {next : Dispatch} (other : next.callback ≠ .live query)
    (rest : List Dispatch) : queuedFor query (next :: rest) = queuedFor query rest := by
  simp [queuedFor, other]

/-- A live query of a recipient that is set apart, with what is due to the recipient in all, while
some calls wait. What was told is the beginning of what is due; the waiting calls make up the rest,
unless the live query was cancelled. -/
structure Ledger (recipient query : Nat) (started : LiveQuery) (due : List Update)
    (dispatches : List Dispatch) (world : World) : Prop where
  secludes : world.Secludes (· = recipient)
  present : ∃ found, world.queries[query]? = some found ∧ found.Continues started
  waiting : ∀ dispatch ∈ dispatches,
    (dispatch.callback = .live query ∧
      (world.IsActive query → ∃ update, started.delivery? dispatch.told = some update)) ∨
    world.Bypasses (· = recipient) dispatch.callback
  told : ∃ rest, world.toldTo recipient ++ rest = due ∧
    (world.IsActive query → rest = (queuedFor query dispatches).filterMap started.delivery?)

variable {recipient query : Nat} {started : LiveQuery} {due : List Update} {world : World}

/-- A call for an active live query tells what it delivers. -/
theorem relays_call_of_active (secludes : world.Secludes (· = recipient)) {found : LiveQuery}
    (present : world.queries[query]? = some found) (sink : found.sink = .recipient recipient)
    (active : found.handle.active = true) {told : Except Failure Snapshot} {update : Update}
    (delivers : found.delivery? told = some update) :
    world.Relays recipient [update] (call ⟨.live query, told⟩ world).2 := by
  cases told with
  | ok snapshot =>
    have relays := secludes.relays_receive (keptBy_perform _) present sink .report snapshot
    rw [if_pos active, delivers] at relays
    exact relays
  | error failure =>
    have relays := secludes.relays_receiveFailure (keptBy_perform _) present sink .report failure
    have same : update = .failure failure := by
      rw [LiveQuery.delivery?, QueryResult.ofRead] at delivers
      dsimp only [Except.bind, Update.delivered?] at delivers
      split at delivers <;> cases delivers
      rfl
    rw [if_pos active, ← same] at relays
    exact relays

/-- A call for a live query that is not active any more is dropped. -/
theorem relays_call_of_inactive (secludes : world.Secludes (· = recipient)) {found : LiveQuery}
    (present : world.queries[query]? = some found) (sink : found.sink = .recipient recipient)
    (inactive : ¬ found.handle.active = true) (told : Except Failure Snapshot) :
    world.Relays recipient [] (call ⟨.live query, told⟩ world).2 := by
  cases told with
  | ok snapshot =>
    have relays := secludes.relays_receive (keptBy_perform _) present sink .report snapshot
    rw [if_neg inactive] at relays
    exact relays
  | error failure =>
    have relays := secludes.relays_receiveFailure (keptBy_perform _) present sink .report failure
    rw [if_neg inactive] at relays
    exact relays

namespace Ledger

/-- Who tells others is not the live query. -/
theorem ne_of_bypasses {dispatches : List Dispatch}
    (ledger : Ledger recipient query started due dispatches world)
    (sink : started.sink = .recipient recipient) {callback : Callback}
    (bypasses : world.Bypasses (· = recipient) callback) : callback ≠ .live query := by
  rintro rfl
  obtain ⟨found, present, continues⟩ := ledger.present
  obtain ⟨known, there, elsewhere⟩ := bypasses
  obtain rfl := Option.some.inj (present.symm.trans there)
  exact elsewhere recipient (continues.sink.trans sink) rfl

/-- The next call tells the recipient something only if the live query is active, and then what was
due next. -/
theorem relays (sink : started.sink = .recipient recipient) {next : Dispatch}
    {rest : List Dispatch} (ledger : Ledger recipient query started due (next :: rest) world) :
    ∃ updates, world.Relays recipient updates (HostedWorld.call next world).2 ∧
      (¬ world.IsActive query → updates = []) ∧
      (world.IsActive query →
        (queuedFor query (next :: rest)).filterMap started.delivery? =
          updates ++ (queuedFor query rest).filterMap started.delivery? ∧
        (next.callback = .live query → updates.length = 1)) := by
  obtain ⟨found, present, continues⟩ := ledger.present
  rcases ledger.waiting next List.mem_cons_self with ⟨mine, delivers⟩ | bypasses
  · obtain ⟨callback, told⟩ := next
    cases mine
    by_cases active : found.handle.active = true
    · have isActive : world.IsActive query := ⟨found, present, active⟩
      obtain ⟨update, delivers⟩ := delivers isActive
      refine ⟨[update], relays_call_of_active ledger.secludes present (continues.sink.trans sink)
        active ((continues.delivery? told).trans delivers),
        fun inactive => absurd isActive inactive, fun _ => ?_⟩
      rw [queuedFor_cons_of_eq rfl, List.filterMap_cons_some delivers]
      exact ⟨rfl, fun _ => rfl⟩
    · refine ⟨[], relays_call_of_inactive ledger.secludes present (continues.sink.trans sink)
        active told, fun _ => rfl, ?_⟩
      rintro ⟨known, same, isActive⟩
      rw [← Option.some.inj (present.symm.trans same)] at isActive
      exact absurd isActive active
  · have other := ledger.ne_of_bypasses sink bypasses
    refine ⟨[], (spares_call ledger.secludes bypasses).relays, fun _ => rfl, fun _ =>
      ⟨?_, fun mine => absurd mine other⟩⟩
    rw [queuedFor_cons_of_ne other, List.nil_append]

theorem call (sink : started.sink = .recipient recipient) {next : Dispatch}
    {rest : List Dispatch} (ledger : Ledger recipient query started due (next :: rest) world) :
    Ledger recipient query started due rest (HostedWorld.call next world).2 := by
  obtain ⟨found, present, continues⟩ := ledger.present
  obtain ⟨left, whole, waits⟩ := ledger.told
  obtain ⟨updates, relays, inactive, active⟩ := ledger.relays sink
  obtain ⟨after, there, later⟩ := relays.queries present
  refine ⟨relays.secludes, ⟨after, there, later.trans continues⟩, fun dispatch member =>
    (ledger.waiting dispatch (List.mem_cons_of_mem _ member)).imp
      (And.imp_right fun delivers still => delivers (relays.isActive present still))
      relays.bypasses, ?_⟩
  by_cases now : world.IsActive query
  -- what was told moves from what is left of what is due to its beginning
  · refine ⟨_, ?_, fun _ => rfl⟩
    rw [relays.told, List.append_assoc, ← (active now).1, ← waits now, whole]
  · refine ⟨left, ?_, fun still => absurd (relays.isActive present still) now⟩
    rw [relays.told, inactive now, List.append_nil, whole]

/-- Calls are made one after the other: what was due is told in order. -/
theorem callAll (sink : started.sink = .recipient recipient) {first rest : List Dispatch}
    (ledger : Ledger recipient query started due (first ++ rest) world) :
    Ledger recipient query started due rest (HostedWorld.callAll first world) ∧
      ∃ updates, world.Relays recipient updates (HostedWorld.callAll first world) ∧
        (¬ world.IsActive query → updates = []) := by
  induction first generalizing world with
  | nil => exact ⟨ledger, [], ledger.secludes.refl.relays, fun _ => rfl⟩
  | cons next others inductionHypothesis =>
    obtain ⟨found, present, _⟩ := ledger.present
    obtain ⟨updates, relays, inactive, _⟩ := ledger.relays sink
    obtain ⟨reached, more, further, inactiveThen⟩ := inductionHypothesis (ledger.call sink)
    refine ⟨reached, updates ++ more, relays.trans further, fun now => ?_⟩
    rw [inactive now, inactiveThen fun still => now (relays.isActive present still)]
    rfl

/-- What spares the recipient leaves what is due to it, and can only cancel the live query. -/
theorem of_spares {dispatches : List Dispatch} {later : World}
    (ledger : Ledger recipient query started due dispatches world)
    (spares : world.SparesApart (· = recipient) later) :
    Ledger recipient query started due dispatches later := by
  obtain ⟨found, present, continues⟩ := ledger.present
  obtain ⟨after, there, further⟩ := spares.queries present
  obtain ⟨left, whole, active⟩ := ledger.told
  refine ⟨spares.secludes, ⟨after, there, further.trans continues⟩, fun dispatch member =>
    (ledger.waiting dispatch member).imp
      (And.imp_right fun delivers still => delivers (spares.relays.isActive present still))
      spares.bypasses, left, ?_, fun still => active (spares.relays.isActive present still)⟩
  rw [spares.relays.told, List.append_nil, whole]

/-- What a new call for the live query will tell becomes due. -/
theorem add {dispatches : List Dispatch}
    (ledger : Ledger recipient query started due dispatches world) {told : Except Failure Snapshot}
    {update : Update} (delivers : world.IsActive query → started.delivery? told = some update) :
    Ledger recipient query started (due ++ [update]) (dispatches ++ [⟨.live query, told⟩])
      world := by
  obtain ⟨left, whole, active⟩ := ledger.told
  refine ⟨ledger.secludes, ledger.present, fun dispatch member => ?_, left ++ [update], ?_,
    fun isActive => ?_⟩
  · rcases List.mem_append.mp member with old | new
    · exact ledger.waiting dispatch old
    · rw [List.mem_singleton.mp new]
      exact .inl ⟨rfl, fun isActive => ⟨update, delivers isActive⟩⟩
  · rw [← List.append_assoc, whole]
  · rw [active isActive, queuedFor_append, queuedFor_cons_of_eq rfl, List.filterMap_append,
      List.filterMap_cons_some (delivers isActive)]
    rfl

theorem addOther {dispatches : List Dispatch}
    (ledger : Ledger recipient query started due dispatches world)
    (sink : started.sink = .recipient recipient) {dispatch : Dispatch}
    (bypasses : world.Bypasses (· = recipient) dispatch.callback) :
    Ledger recipient query started due (dispatches ++ [dispatch]) world := by
  obtain ⟨left, whole, active⟩ := ledger.told
  refine ⟨ledger.secludes, ledger.present, fun other member => ?_, left, whole, fun now => ?_⟩
  · rcases List.mem_append.mp member with old | new
    · exact ledger.waiting other old
    · rw [List.mem_singleton.mp new]
      exact .inr bypasses
  · rw [active now, queuedFor_append, queuedFor_cons_of_ne (ledger.ne_of_bypasses sink bypasses)]
    simp [queuedFor]

/-- As long as the live query is active, one call waits for each update that is still due. -/
theorem length_queuedFor {dispatches : List Dispatch}
    (ledger : Ledger recipient query started due dispatches world)
    (sink : started.sink = .recipient recipient) (active : world.IsActive query) :
    due.length = (world.toldTo recipient).length + (queuedFor query dispatches).length := by
  obtain ⟨left, whole, waits⟩ := ledger.told
  have each : ∀ told ∈ queuedFor query dispatches, (started.delivery? told).isSome := by
    intro told member
    obtain ⟨dispatch, mine, rfl⟩ := List.mem_map.mp member
    obtain ⟨there, calls⟩ := List.mem_filter.mp mine
    rcases ledger.waiting dispatch there with ⟨_, delivers⟩ | bypasses
    · obtain ⟨update, delivers⟩ := delivers active
      rw [delivers]
      rfl
    · exact absurd (of_decide_eq_true calls) (ledger.ne_of_bypasses sink bypasses)
  rw [← whole, List.length_append, waits active, List.length_filterMap_eq_countP,
    List.countP_eq_length.mpr each]

end Ledger

/-! ### Live queries and their watches -/

/-- The list that the client tells a watch in a step, if it does. -/
def Step.firedAt (watch : Nat) : Step → Option (List NativeDocument)
  | .fire index documents => if index = watch then some documents else none
  | _ => none

theorem Step.firedAt_of_untold {step : Step}
    (untold : ∀ index documents, step ≠ .fire index documents) (watch : Nat) :
    step.firedAt watch = none := by
  cases step with
  | fire index documents => exact absurd rfl (untold index documents)
  | _ => rfl

/-- The lists that the client tells a watch, in order. -/
def firedAt (watch : Nat) (steps : List Step) : List (List NativeDocument) :=
  steps.filterMap (Step.firedAt watch)

theorem firedAt_cons (watch : Nat) (step : Step) (rest : List Step) :
    firedAt watch (step :: rest) = firedAt watch [step] ++ firedAt watch rest := by
  rw [firedAt, firedAt, firedAt, ← List.filterMap_append]
  rfl

theorem firedAt_fire (watch index : Nat) (documents : List NativeDocument) :
    firedAt watch [.fire index documents] = if index = watch then [documents] else [] := by
  rw [firedAt, List.filterMap_cons, Step.firedAt]
  by_cases same : index = watch
  · rw [if_pos same, if_pos same]
    rfl
  · rw [if_neg same, if_neg same]
    rfl

/-- The live query that is started with a new recipient. -/
def queryOf (type : QueryType) (projection : Projection) (reference : HostedReference)
    (recipient : Nat) : LiveQuery :=
  ⟨.opened type reference.path, projection, none, .recipient recipient⟩

/-- What a live query tells for a list that its watch is told. -/
def updateFor (type : QueryType) (projection : Projection) (reference : HostedReference)
    (documents : List NativeDocument) : Update :=
  .ofResult (reference.outcome type projection documents)

/-- A live query with its watch, the only one that tells its recipient. -/
structure Relaying (type : QueryType) (projection : Projection) (reference : HostedReference)
    (recipient query watch : Nat) (due : List Update) (hosted : HostedWorld) : Prop where
  known : hosted.watches[watch]? = some ⟨reference, .live query⟩
  others : ∀ {index : Nat} {found : Watch}, hosted.watches[index]? = some found →
    index = watch ∨ hosted.world.Bypasses (· = recipient) found.callback
  ledger : Ledger recipient query (queryOf type projection reference recipient) due hosted.waiting
    hosted.world

section Relaying

variable {type : QueryType} {projection : Projection} {reference : HostedReference} {watch : Nat}
  {hosted : HostedWorld}

/-- A list of documents whose data are maps is told, whatever comes of it. -/
theorem delivery?_queryOf {documents : List NativeDocument}
    (plain : ∀ document ∈ documents, document.IsPlain) :
    (queryOf type projection reference recipient).delivery? (reference.told documents) =
      some (updateFor type projection reference documents) :=
  Update.delivered?_eq_some fun _ => HostedReference.isDeliverable_of_outcome plain

namespace Relaying

theorem of_spares (relaying : Relaying type projection reference recipient query watch due hosted)
    {later : HostedWorld} (spares : hosted.SparesApart (· = recipient) later) :
    Relaying type projection reference recipient query watch due later := by
  refine ⟨spares.kept relaying.known, fun present => ?_, ?_⟩
  · rcases spares.watches present with old | bypasses
    · exact (relaying.others old).imp_right spares.world.bypasses
    · exact .inr bypasses
  · rw [spares.waiting]
    exact relaying.ledger.of_spares spares.world

/-- What the client tells a watch becomes due if the watch is that of the live query. -/
theorem enqueue (relaying : Relaying type projection reference recipient query watch due hosted)
    {index : Nat} {found : Watch} (present : hosted.watches[index]? = some found)
    {documents : List NativeDocument}
    (plain : hosted.world.IsActive query → index = watch →
      ∀ document ∈ documents, document.IsPlain) :
    Relaying type projection reference recipient query watch
      (due ++ (firedAt watch [.fire index documents]).map (updateFor type projection reference))
      (hosted.enqueue found documents) := by
  refine ⟨relaying.known, relaying.others, ?_⟩
  rw [firedAt_fire]
  by_cases same : index = watch
  · have known := relaying.known
    rw [← same] at known
    obtain rfl := Option.some.inj (present.symm.trans known)
    rw [if_pos same]
    exact relaying.ledger.add fun active => delivery?_queryOf (plain active same)
  · rw [if_neg same, List.map_nil, List.append_nil]
    exact relaying.ledger.addOther rfl ((relaying.others present).resolve_left same)

/-- Calls that wait are made, which tell what is due. -/
theorem advance (relaying : Relaying type projection reference recipient query watch due hosted)
    (count : Nat) :
    Relaying type projection reference recipient query watch due (hosted.advance count) ∧
      ∃ updates, hosted.world.Relays recipient updates (hosted.advance count).world ∧
        (¬ hosted.world.IsActive query → updates = []) := by
  have ledger := relaying.ledger
  rw [← List.take_append_drop count hosted.waiting] at ledger
  obtain ⟨left, updates, relays, inactive⟩ := ledger.callAll rfl
  exact ⟨⟨relaying.known, fun present => (relaying.others present).imp_right relays.bypasses, left⟩,
    updates, relays, inactive⟩

/-- What the client tells a watch is told at once outside an event loop. -/
theorem fire (relaying : Relaying type projection reference recipient query watch due hosted)
    {looped : Bool} (marshals : hosted.Marshals looped) {index : Nat}
    {documents : List NativeDocument}
    (plain : hosted.world.IsActive query → index = watch →
      ∀ document ∈ documents, document.IsPlain) :
    Relaying type projection reference recipient query watch
        (due ++ (firedAt watch [.fire index documents]).map (updateFor type projection reference))
        (hosted.step (.fire index documents)) ∧
      ∃ updates, hosted.world.Relays recipient updates
        (hosted.step (.fire index documents)).world ∧
        (¬ hosted.world.IsActive query → updates = []) := by
  have still := relaying.ledger.secludes.refl.relays
  cases present : hosted.watches[index]? with
  | none =>
    have other : index ≠ watch := by
      rintro rfl
      cases present.symm.trans relaying.known
    rw [HostedWorld.step, firedAt_fire, if_neg other, present, List.map_nil, List.append_nil]
    exact ⟨relaying, [], still, fun _ => rfl⟩
  | some found =>
    have queued := relaying.enqueue present plain
    rw [HostedWorld.step, present]
    dsimp only
    rw [marshals.fire_eq]
    split
    · exact ⟨queued, [], still, fun _ => rfl⟩
    · exact queued.advance 1

/-- Every step: what the watch is told becomes due, and something is told only as long as the live
query is active. -/
theorem step (relaying : Relaying type projection reference recipient query watch due hosted)
    {looped : Bool} (marshals : hosted.Marshals looped) {step : Step}
    (plain : hosted.world.IsActive query →
      ∀ documents ∈ firedAt watch [step], ∀ document ∈ documents, document.IsPlain) :
    Relaying type projection reference recipient query watch
        (due ++ (firedAt watch [step]).map (updateFor type projection reference))
        (hosted.step step) ∧
      (hosted.step step).Marshals looped ∧
      ∃ updates, hosted.world.Relays recipient updates (hosted.step step).world ∧
        (¬ hosted.world.IsActive query → updates = []) := by
  by_cases told : ∃ index documents, step = .fire index documents
  · obtain ⟨index, documents, rfl⟩ := told
    obtain ⟨fired, updates, relays⟩ := relaying.fire marshals fun active same =>
      plain active documents (by rw [firedAt_fire, if_pos same]; exact List.mem_cons_self)
    exact ⟨fired, marshals.step_fire index documents, updates, relays⟩
  · have untold (index : Nat) (documents : List NativeDocument) : step ≠ .fire index documents :=
      fun same => told ⟨index, documents, same⟩
    have unfired : firedAt watch [step] = [] := by
      rw [firedAt, List.filterMap_cons, Step.firedAt_of_untold untold]
      rfl
    rw [unfired, List.map_nil, List.append_nil]
    by_cases called : ∃ count, step = .advance count
    · obtain ⟨count, rfl⟩ := called
      obtain ⟨advanced, updates, relays⟩ := relaying.advance count
      exact ⟨advanced, marshals.advance count, updates, relays⟩
    · have spares := spares_step relaying.ledger.secludes untold
        fun count same => called ⟨count, same⟩
      exact ⟨relaying.of_spares spares, spares.marshals marshals, [], spares.world.relays,
        fun _ => rfl⟩

/-- In an event loop something is told by calls of the loop only. -/
theorem told_step (relaying : Relaying type projection reference recipient query watch due hosted)
    (marshals : hosted.Marshals true) {step : Step} (uncalled : ∀ count, step ≠ .advance count) :
    (hosted.step step).world.toldTo recipient = hosted.world.toldTo recipient := by
  by_cases told : ∃ index documents, step = .fire index documents
  · obtain ⟨index, documents, rfl⟩ := told
    rw [HostedWorld.step]
    split
    · rfl
    · rw [marshals.fire_eq]
      rfl
  · have spares := spares_step relaying.ledger.secludes
      (fun index documents same => told ⟨index, documents, same⟩) uncalled
    rw [spares.world.relays.told, List.append_nil]

theorem runAll (relaying : Relaying type projection reference recipient query watch due hosted)
    {looped : Bool} (marshals : hosted.Marshals looped) {steps : List Step}
    (plain : ∀ documents ∈ firedAt watch steps, ∀ document ∈ documents, document.IsPlain) :
    Relaying type projection reference recipient query watch
        (due ++ (firedAt watch steps).map (updateFor type projection reference))
        (hosted.runAll steps) ∧
      (hosted.runAll steps).Marshals looped := by
  induction steps generalizing hosted due with
  | nil =>
    rw [firedAt, List.filterMap_nil, List.map_nil, List.append_nil]
    exact ⟨relaying, marshals⟩
  | cons step rest inductionHypothesis =>
    rw [firedAt_cons] at plain ⊢
    obtain ⟨stepped, kept, _⟩ := relaying.step marshals fun _ documents member =>
      plain documents (List.mem_append_left _ member)
    have reached := inductionHypothesis stepped kept fun documents member =>
      plain documents (List.mem_append_right _ member)
    rw [List.append_assoc, ← List.map_append] at reached
    exact reached

/-- Once the live query is cancelled, nothing more is told. -/
theorem silent (relaying : Relaying type projection reference recipient query watch due hosted)
    {looped : Bool} (marshals : hosted.Marshals looped)
    (inactive : ¬ hosted.world.IsActive query) (steps : List Step) :
    (hosted.runAll steps).world.toldTo recipient = hosted.world.toldTo recipient := by
  induction steps generalizing hosted due with
  | nil => rfl
  | cons step rest inductionHypothesis =>
    obtain ⟨reached, kept, updates, relays, quiet⟩ :=
      relaying.step marshals fun active => absurd active inactive
    obtain ⟨found, present, _⟩ := relaying.ledger.present
    have same := inductionHypothesis reached kept
      fun still => inactive (relays.isActive present still)
    rw [relays.told, quiet inactive, List.append_nil] at same
    exact same

end Relaying

end Relaying

/-- What a start comes to that is not refused. -/
theorem exists_of_subscribe {hosted reached : HostedWorld} {name : Text} {reactions : List Reaction}
    {type : QueryType} {projection : Projection} {reference : HostedReference}
    (subscribed : hosted.subscribe name reactions type projection reference = (.ok query, reached)) :
    query = hosted.world.queries.length ∧ ∃ client, reached = { hosted with
      client := client
      watches := hosted.watches ++ [⟨reference, .live hosted.world.queries.length⟩]
      world := (((hosted.world.addRecipient name reactions).2.addQuery (queryOf type projection
        reference hosted.world.recipients.length)).2.attach hosted.world.queries.length
          (.watch hosted.watches.length)) } := by
  rw [subscribe, startQuery] at subscribed
  split at subscribed
  · cases subscribed
  · next watch after made =>
    obtain ⟨rfl, client, rfl⟩ := exists_of_startWatch made
    cases subscribed
    exact ⟨rfl, client, rfl⟩

theorem Numbered.toldTo_addRecipient {hosted : HostedWorld} (numbered : hosted.Numbered)
    (name : Text) (reactions : List Reaction) :
    (hosted.world.addRecipient name reactions).2.toldTo hosted.world.recipients.length = [] := by
  refine List.map_eq_nil_iff.mpr (List.filter_eq_nil_iff.mpr fun event member => ?_)
  simpa using Nat.ne_of_lt (numbered.world.told member)

/-- A live query that was started with a new recipient has its watch, and nothing is due. -/
theorem relaying_of_subscribe {hosted reached : HostedWorld} (numbered : hosted.Numbered)
    {name : Text} {reactions : List Reaction} {type : QueryType} {projection : Projection}
    {reference : HostedReference}
    (subscribed : hosted.subscribe name reactions type projection reference = (.ok query, reached)) :
    Relaying type projection reference hosted.world.recipients.length query hosted.watches.length []
      reached := by
  obtain ⟨rfl, client, rfl⟩ := exists_of_subscribe subscribed
  have apart := numbered.world.secludes_addRecipient name reactions
  have inside := apart.there _ rfl
  have added : (hosted.world.addRecipient name reactions).2.SparesApart _ ((hosted.world.addRecipient
      name reactions).2.addQuery (queryOf type projection reference
        hosted.world.recipients.length)).2 :=
    apart.spares_addQuery fun index same => Sink.recipient.inj same ▸ inside
  have attached : World.SparesApart _ _ _ := (World.releasing_sparing _).attach
    hosted.world.queries.length (.watch hosted.watches.length) added.secludes
  -- whoever was called before does not know the new recipient
  have kept {callback : Callback} (bypasses : hosted.world.Bypasses (fun _ => False) callback) :=
    (added.trans attached).bypasses (numbered.world.bypasses_new bypasses name reactions)
  have present := World.getElem?_addQuery (queryOf type projection reference
    hosted.world.recipients.length) (hosted.world.addRecipient name reactions).2
  obtain ⟨found, there, continues⟩ := attached.queries present
  have unasked : queuedFor hosted.world.queries.length hosted.waiting = [] := by
    refine List.map_eq_nil_iff.mpr (List.filter_eq_nil_iff.mpr fun dispatch member => ?_)
    have bypasses := (numbered.waiting member).resolve_left id
    intro same
    rw [of_decide_eq_true same] at bypasses
    obtain ⟨_, inside, _⟩ := bypasses
    exact absurd (List.getElem?_eq_some_iff.mp inside).1 (Nat.lt_irrefl _)
  refine ⟨List.getElem?_concat_length .., fun {index found} known => ?_, attached.secludes,
    ⟨found, there, continues⟩, fun dispatch member =>
      .inr (kept ((numbered.waiting member).resolve_left id)), [], ?_, fun _ => ?_⟩
  · rcases World.getElem?_concat_eq_some.mp known with old | ⟨same, _⟩
    · exact .inr (kept ((numbered.watches old).resolve_left id))
    · exact .inl same
  · rw [(added.trans attached).relays.told, List.append_nil, List.append_nil]
    exact numbered.toldTo_addRecipient name reactions
  · rw [unasked]
    rfl

/-- Whatever goes on before and after the start of a live query, in an event loop or outside one,
what its watch is told becomes due to its recipient. -/
theorem relaying_runAll {looped : Bool} {mode : BuildMode} {before : List Step} {name : Text}
    {reactions : List Reaction} {type : QueryType} {projection : Projection}
    {reference : HostedReference} {reached : HostedWorld}
    (subscribed : ((start looped mode).runAll before).subscribe name reactions type projection
      reference = (.ok query, reached)) {steps : List Step}
    (plain : ∀ documents ∈ firedAt ((start looped mode).runAll before).watches.length steps,
      ∀ document ∈ documents, document.IsPlain) :
    let hosted := (start looped mode).runAll before
    Relaying type projection reference hosted.world.recipients.length query hosted.watches.length
        ((firedAt hosted.watches.length steps).map (updateFor type projection reference))
        (reached.runAll steps) ∧
      (reached.runAll steps).Marshals looped := by
  intro hosted
  obtain ⟨numbered, marshals⟩ := numbered_runAll looped mode before
  have kept : reached.Marshals looped := by
    obtain ⟨_, client, rfl⟩ := exists_of_subscribe subscribed
    exact ⟨marshals.loop, marshals.idle⟩
  exact (relaying_of_subscribe numbered subscribed).runAll kept plain

/-- How the recipient of a live query stands to what its watch was told. -/
structure Relayed (recipient query : Nat) (due : List Update) (hosted : HostedWorld) : Prop where
  /-- What was told is due, in order, each update once. -/
  ordered : hosted.world.toldTo recipient <+: due
  /-- As long as the live query is active, one call waits for each update that is still due. -/
  waits : hosted.world.IsActive query →
    due.length = (hosted.world.toldTo recipient).length + (queuedFor query hosted.waiting).length
  /-- The next such call that the loop makes then tells the next update. -/
  next : hosted.world.IsActive query → ∀ call rest, hosted.waiting = call :: rest →
    call.callback = .live query →
      (hosted.step (.advance 1)).world.toldTo recipient =
        due.take ((hosted.world.toldTo recipient).length + 1)
  /-- After a turn of the loop nothing is left of what is due, if the live query is still active. -/
  complete : hosted.turn.world.IsActive query → hosted.turn.world.toldTo recipient = due
  /-- Nothing is told but by calls of the loop. -/
  later : ∀ step, (∀ count, step ≠ .advance count) →
    (hosted.step step).world.toldTo recipient = hosted.world.toldTo recipient
  /-- Once the live query is not active any more, nothing is told, whatever goes on. -/
  silent : ¬ hosted.world.IsActive query → ∀ steps,
    (hosted.runAll steps).world.toldTo recipient = hosted.world.toldTo recipient
  cancelled : ¬ (hosted.step (.cancel query)).world.IsActive query

namespace Relaying

variable {type : QueryType} {projection : Projection} {reference : HostedReference} {watch : Nat}
  {hosted : HostedWorld}

theorem ordered (relaying : Relaying type projection reference recipient query watch due hosted) :
    hosted.world.toldTo recipient <+: due := by
  obtain ⟨rest, whole, _⟩ := relaying.ledger.told
  exact ⟨rest, whole⟩

/-- What the next call for an active live query tells. -/
theorem next (relaying : Relaying type projection reference recipient query watch due hosted)
    (active : hosted.world.IsActive query) {call : Dispatch} {rest : List Dispatch}
    (waiting : hosted.waiting = call :: rest) (mine : call.callback = .live query) :
    (hosted.advance 1).world.toldTo recipient =
      due.take ((hosted.world.toldTo recipient).length + 1) := by
  have ledger := relaying.ledger
  rw [waiting] at ledger
  obtain ⟨updates, relays, _, tells⟩ := ledger.relays rfl
  have made : (hosted.advance 1).world = (HostedWorld.call call hosted.world).2 := by
    rw [HostedWorld.advance, waiting]
    rfl
  have told := relays.told
  rw [← made] at told
  have ordered := List.prefix_iff_eq_take.mp (relaying.advance 1).1.ordered
  rw [ordered, told, List.length_append, (tells active).2 mine]

/-- After a turn of the loop nothing is left of what is due to an active live query. -/
theorem complete (relaying : Relaying type projection reference recipient query watch due hosted)
    (active : hosted.turn.world.IsActive query) : hosted.turn.world.toldTo recipient = due := by
  rw [turn_eq_advance] at active ⊢
  obtain ⟨advanced, _⟩ := relaying.advance hosted.waiting.length
  obtain ⟨rest, whole, waits⟩ := advanced.ledger.told
  have nothing : (hosted.advance hosted.waiting.length).waiting = [] := List.drop_length ..
  rw [waits active, nothing] at whole
  exact (List.append_nil _).symm.trans whole

theorem relayed (relaying : Relaying type projection reference recipient query watch due hosted)
    (marshals : hosted.Marshals true) : Relayed recipient query due hosted where
  ordered := relaying.ordered
  waits := relaying.ledger.length_queuedFor rfl
  next active _ _ waiting mine := relaying.next active waiting mine
  complete := relaying.complete
  later _ uncalled := relaying.told_step marshals uncalled
  silent inactive := relaying.silent marshals inactive
  cancelled := by
    rw [HostedWorld.step, world_cancelQuery]
    exact World.not_isActive_cancelQuery query hosted.world

end Relaying

/-- In an event loop, the recipient of every live query on a hosted store is told one update for
each list that its watch is told, in order: what the query makes of the list, which is a store's
failure if the list is corrupt and that of a missing document if there is none. It is told by calls
of the loop only, and never again once the live query is cancelled. -/
theorem relayed_of_subscribe (mode : BuildMode) (before : List Step) (name : Text)
    (reactions : List Reaction) (type : QueryType) (projection : Projection)
    (reference : HostedReference) {query : Nat} {reached : HostedWorld}
    (subscribed : ((start true mode).runAll before).subscribe name reactions type projection
      reference = (.ok query, reached)) (steps : List Step)
    (plain : ∀ documents ∈ firedAt ((start true mode).runAll before).watches.length steps,
      ∀ document ∈ documents, document.IsPlain) :
    let hosted := (start true mode).runAll before
    let update := updateFor type projection reference
    Relayed hosted.world.recipients.length query
        ((firedAt hosted.watches.length steps).map update) (reached.runAll steps) ∧
      (∀ documents cause, reference.watched documents = .error cause →
        update documents = .failure (.badSnapshot reference.path cause) ∧
          (Failure.badSnapshot reference.path cause).isStore = true) ∧
      (type = .document → reference.isDocument = true → ∀ documents,
        (∀ first ∈ documents.head?, NativeDocument.present first = false) →
          update documents = .failure (.notFound reference.path)) := by
  intro hosted update
  obtain ⟨relaying, marshals⟩ := relaying_runAll subscribed plain
  refine ⟨relaying.relayed marshals, fun documents cause corrupt => ⟨?_, rfl⟩, ?_⟩
  · exact congrArg Update.ofResult (HostedReference.outcome_of_corrupt corrupt)
  · rintro rfl isDocument documents missing
    exact congrArg Update.ofResult (HostedReference.outcome_of_missing isDocument missing)

/-- All people of a hosted store. -/
def hostedPeople : HostedReference := ⟨"client/people", .collection, "people"⟩

/-- A person of a hosted store, as the client gives it. -/
def nativeAda : NativeDocument := ⟨"people/ada", .map [("age", .int 36)], none⟩

/-- That person, with data that do not convert. -/
def brokenAda : NativeDocument := { nativeAda with broken := some (.foreign .refused "bad") }

/-- A live query on all people is started, and its recipient cancels it when it is told for the
third time. -/
def hostedStart : HostedWorld :=
  ((start true .permissive).subscribe "watch" [.act 3 (.cancel "watch")] .collection .everything
    hostedPeople).2

/-- The watch is told lists before and between the turns of the loop, one of them corrupt. -/
def hostedDay : List Step :=
  [.name "watch" 0, .fire 0 [nativeAda], .fire 0 [brokenAda], .advance 1,
    .fire 0 [⟨"people/eve", .null, none⟩, nativeAda], .fire 0 [], .advance 9, .fire 0 [nativeAda]]

/-- The fourth list waits when the live query is cancelled, and is dropped. -/
theorem relayed_of_subscribe_hostedPeople :
    let found : Update := .result ⟨[⟨"people/ada", [("age", .int 36)], true⟩], false⟩
    (hostedStart.runAll hostedDay).world.toldTo 0 =
        [found, .failure (.badSnapshot "people" (.foreign .refused "bad")), found] ∧
      ¬ (hostedStart.runAll hostedDay).world.IsActive 0 ∧
      ∀ more, ((hostedStart.runAll hostedDay).runAll more).world.toldTo 0 =
        (hostedStart.runAll hostedDay).world.toldTo 0 := by
  have known : (hostedStart.runAll hostedDay).world.queries[0]?.map (·.handle.active) =
      some false := by decide +kernel
  have inactive : ¬ (hostedStart.runAll hostedDay).world.IsActive 0 := by
    rintro ⟨query, present, active⟩
    rw [present, Option.map_some, active] at known
    cases known
  have ada : nativeAda.IsPlain := .inr ⟨_, rfl⟩
  have broken : brokenAda.IsPlain := .inr ⟨_, rfl⟩
  have eve : NativeDocument.IsPlain ⟨"people/eve", .null, none⟩ := .inl rfl
  have relayed := (relayed_of_subscribe .permissive [] "watch" [.act 3 (.cancel "watch")]
    .collection .everything hostedPeople rfl hostedDay (by
      show ∀ documents ∈ [[nativeAda], [brokenAda], [⟨"people/eve", .null, none⟩, nativeAda], [],
        [nativeAda]], _
      simp [ada, broken, eve])).1
  exact ⟨by decide +kernel, inactive, relayed.silent inactive⟩

end HostedWorld

end DocQuery
