/-
This file proves that starting a live query on names carries freshness on, and serves the new one.

The store is read before the listener is registered, and nothing happens in between. So the first
delivery tells how things stand when the listener begins to take part in passes.
-/

import DocQuery.Proofs.Live.Passes

namespace DocQuery

/-! ### References that are built -/

namespace Reference

theorem isNamed_plain (segments : Segments) : (plain segments).IsNamed := ⟨nofun, nofun⟩

theorem isNamed_of_refine {refinement : Refinement} (field : refinement.IsNamed)
    {reference refined : Reference} (named : reference.IsNamed)
    (accepted : reference.refine refinement = .ok refined) : refined.IsNamed := by
  cases refinement with
  | filter name operator value =>
    rw [refine, filter] at accepted
    split at accepted
    · cases accepted
    · cases accepted
    · split at accepted
      · cases accepted
      · cases accepted
        refine ⟨fun other member => ?_, named.orders⟩
        rcases List.mem_append.mp member with known | new
        · exact named.filters other known
        · rw [List.mem_singleton.mp new]
          exact field
  | limit count =>
    rw [refine, limitTo] at accepted
    split at accepted <;> cases accepted
    exact ⟨named.filters, named.orders⟩
  | order name direction =>
    rw [refine, orderBy] at accepted
    split at accepted <;> cases accepted
    refine ⟨named.filters, fun other member => ?_⟩
    rcases List.mem_append.mp member with known | new
    · exact named.orders other known
    · rw [List.mem_singleton.mp new]
      exact field

theorem isNamed_of_refineAll {refinements : List Refinement}
    (fields : ∀ refinement ∈ refinements, refinement.IsNamed) {reference refined : Reference}
    (named : reference.IsNamed)
    (accepted : (navigation.refineAll refinements reference ()).1 = .ok refined) :
    refined.IsNamed := by
  induction refinements generalizing reference with
  | nil =>
    cases accepted
    exact named
  | cons refinement rest inductionHypothesis =>
    have restFields : ∀ other ∈ rest, other.IsNamed :=
      fun other member => fields other (List.mem_cons_of_mem _ member)
    rw [Navigation.refineAll] at accepted
    split at accepted
    · cases accepted
    · next next state once =>
      have first : reference.refine refinement = .ok next := congrArg Prod.fst once
      exact inductionHypothesis restFields
        (isNamed_of_refine (fields refinement List.mem_cons_self) named first) accepted

theorem isNamed_of_enter {name : Text} {cursor : Cursor Reference} {reached : Reference}
    (accepted : (navigation.enter name cursor ()).1 = .ok reached) : reached.IsNamed := by
  unfold Navigation.enter at accepted
  have opened : ∃ segments, reached = plain segments := by
    split at accepted
    · change cursor.reference.collection (.text name) = .ok reached at accepted
      rw [collection] at accepted
      split at accepted
      · cases accepted
      · split at accepted <;> cases accepted
        exact ⟨_, rfl⟩
    · change cursor.reference.document (.text name) = .ok reached at accepted
      rw [document] at accepted
      split at accepted
      · cases accepted
      · split at accepted <;> cases accepted
        exact ⟨_, rfl⟩
  obtain ⟨segments, rfl⟩ := opened
  exact isNamed_plain segments

theorem reached_of_moved {cursor next : Cursor Reference} {expectingCollection : Bool}
    {reached : Except Failure Reference × Unit}
    (went : (Navigation.moved cursor expectingCollection reached).outcome = .ok next) :
    reached.1 = .ok next.reference := by
  unfold Navigation.moved at went
  split at went <;> cases went
  rfl

theorem isNamed_of_step {mode : BuildMode} {component : Component} (fields : component.IsNamed)
    {cursor next : Cursor Reference} (named : cursor.reference.IsNamed)
    (went : (navigation.step mode component cursor ()).outcome = .ok next) :
    next.reference.IsNamed := by
  cases component with
  | literal name =>
    rw [Navigation.step] at went
    exact isNamed_of_enter (reached_of_moved went)
  | all =>
    cases went
    exact named
  | collectionExpression refinements =>
    rw [Navigation.step] at went
    split at went
    · exact isNamed_of_refineAll fields named (reached_of_moved went)
    · unfold Navigation.misplaced at went
      split at went <;> cases went
      exact named
  | documentExpression kept =>
    cases went
    exact named

theorem isNamed_of_walk {mode : BuildMode} {components : List Component}
    (fields : ∀ component ∈ components, component.IsNamed) {cursor last : Cursor Reference}
    (named : cursor.reference.IsNamed)
    (went : (navigation.walk mode components cursor ()).outcome = .ok last) :
    last.reference.IsNamed := by
  induction components generalizing cursor with
  | nil =>
    cases went
    exact named
  | cons component rest inductionHypothesis =>
    have restFields : ∀ other ∈ rest, other.IsNamed :=
      fun other member => fields other (List.mem_cons_of_mem _ member)
    rw [Navigation.walk] at went
    split at went
    · cases went
    · next next notices state once =>
      have first : (navigation.step mode component cursor ()).outcome = .ok next := by rw [once]
      exact inductionHypothesis restFields
        (isNamed_of_step (fields component List.mem_cons_self) named first) went

/-- A query whose fields are names is built to a reference on names. -/
theorem isNamed_of_build {mode : BuildMode} {components : List Component}
    (fields : ∀ component ∈ components, component.IsNamed) {built : Built Reference}
    (accepted : (build mode components).outcome = .ok built) : built.reference.IsNamed := by
  rw [build, Navigation.build] at accepted
  cases went : (navigation.walk mode components (.start .root) ()).outcome with
  | error failure =>
    rw [went] at accepted
    cases accepted
  | ok last =>
    rw [went] at accepted
    cases accepted
    exact isNamed_of_walk fields (isNamed_plain []) went

end Reference

/-! ### Live queries that start -/

namespace World

variable {performer : Performer} {world : World}

theorem Sound.owns_register (sound : world.Sound) {name : Text} {store : Store Callback}
    (there : world.store? name = some store) (reference : Reference) (query : Nat) :
    (world.updateStore name (Store.register ⟨reference, .live query⟩)).Owns query name
      store.nextListener := by
  intro after found
  rw [store?_updateStore, if_pos rfl, there] at found
  cases found
  refine ⟨Nat.lt_succ_self _, fun listener member => ?_⟩
  rcases List.mem_append.mp member with old | new
  · exact absurd (sound.attended there old).1 (Nat.lt_irrefl _)
  · cases List.mem_singleton.mp new
    rfl

/-- A live query that is installed owns its listener and is served. -/
theorem Sound.carries_installOnStore (sound : world.Sound) (faithful : Faithful performer)
    {name : Text} {reference : Reference} (named : reference.IsNamed) {query : Nat}
    {found : LiveQuery} (present : world.queries[query]? = some found)
    (reads : found.Reads name reference) :
    let installed := world.installOnStore performer query name reference
    world.Carries installed.2 ∧ ∀ release, installed.1 = .ok release →
      ∃ id, release = .listener name id ∧ installed.2.Owns query name id ∧
        installed.2.Served query := by
  have refused (failure : Failure) : world.Carries world ∧
      ∀ release, (.error failure : Except Failure Release) = .ok release →
        ∃ id, release = .listener name id ∧ world.Owns query name id ∧ world.Served query := by
    refine ⟨.refl sound, fun release same => ?_⟩
    cases same
  unfold installOnStore World.store
  cases there : world.store? name with
  | none => exact refused _
  | some store =>
    dsimp only
    unfold Store.acceptListener
    by_cases closed : store.closed = true
    · rw [if_pos closed]
      exact refused _
    · rw [if_neg closed]
      cases answered : store.read reference with
      | error failure => exact refused failure
      | ok snapshot =>
        dsimp only
        have registered := sound.carries_register named present reads
        have known : (world.updateStore name (Store.register ⟨reference, .live query⟩)).store? name =
            some (store.register ⟨reference, .live query⟩) := by
          rw [store?_updateStore, if_pos rfl, there, Option.map_some]
        have member : (store.nextListener, ⟨reference, .live query⟩) ∈
            (store.register ⟨reference, .live query⟩).listeners :=
          List.mem_append_right _ (List.mem_singleton_self _)
        -- The first delivery is what a pass would tell the listener at this point.
        have first : (world.updateStore name (Store.register ⟨reference, .live query⟩)).receive
            performer query .standing snapshot =
              (world.updateStore name (Store.register ⟨reference, .live query⟩)).refresh performer
                (store.register ⟨reference, .live query⟩) ⟨reference, .live query⟩ := by
          have same : (store.register ⟨reference, .live query⟩).read reference = .ok snapshot :=
            answered
          rw [refresh, same]
          rfl
        obtain ⟨after, told, delivered, fresh⟩ :=
          registered.sound.exists_refresh faithful known member
        rw [first, told]
        refine ⟨registered.trans sound delivered, fun release same => ?_⟩
        cases same
        refine ⟨_, rfl, delivered.evolves.owns known (sound.owns_register there reference query), ?_⟩
        obtain ⟨last, later, _⟩ := (registered.trans sound delivered).evolves.queries present
        refine ⟨last, later, fun active => ?_⟩
        have isActive : after.IsActive query := ⟨last, later, active⟩
        exact ⟨name, _, reference, delivered.evolves.kept ⟨_, known, member⟩ isActive,
          fresh isActive⟩

/-- A live query that starts is served. -/
theorem Sound.carries_startQuery (sound : world.Sound) (faithful : Faithful performer)
    (type : QueryType) (projection : Projection) (name : Text) {reference : Reference}
    (named : reference.IsNamed) {recipient : Nat} (there : recipient < world.recipients.length)
    (unused : ∀ {other : Nat} {found : LiveQuery}, world.queries[other]? = some found →
      found.sink ≠ .recipient recipient) :
    let started := world.startQuery performer
      ⟨type, reference.path, projection, .store name reference⟩ (.recipient recipient)
    world.Carries started.2 ∧ ∀ query, started.1 = .ok query → started.2.Served query := by
  let query : LiveQuery := ⟨.opened type reference.path, projection, some (.store name reference),
    .recipient recipient⟩
  have added : world.Carries (world.addQuery query).2 :=
    sound.carries_addQuery rfl there unused rfl
  have present : (world.addQuery query).2.queries[world.queries.length]? = some query :=
    getElem?_concat_eq_some.mpr (.inr ⟨rfl, rfl⟩)
  obtain ⟨carries, served⟩ :=
    added.sound.carries_installOnStore faithful named present ⟨rfl, rfl⟩
  rw [startQuery, install, show (world.addQuery query).1 = world.queries.length from rfl]
  dsimp only
  split
  · next failed =>
    rw [failed] at carries
    exact ⟨added.trans sound carries, nofun⟩
  · next installed =>
    rw [installed] at carries served
    obtain ⟨id, rfl, owned, servedThen⟩ := served _ rfl
    have attached := carries.sound.carries_attach owned
    refine ⟨added.trans sound (carries.trans added.sound attached), fun number same => ?_⟩
    cases same
    exact attached.served servedThen

theorem lt_length_addRecipient (world : World) (label : Text) (reactions : List Reaction) :
    world.recipients.length < (world.addRecipient label reactions).2.recipients.length := by
  rw [addRecipient, List.length_append]
  exact Nat.lt_succ_self _

/-- No live query has a recipient that is not there yet. -/
theorem Sound.sink_ne_newRecipient (sound : world.Sound) {query : Nat} {found : LiveQuery}
    (present : world.queries[query]? = some found) :
    found.sink ≠ .recipient world.recipients.length := by
  obtain ⟨recipient, sink, inside⟩ := sound.sinks present
  rw [sink]
  intro same
  cases same
  exact Nat.lt_irrefl _ inside

/-- A live query that starts with a new recipient, and is bound to a name, is carried on. -/
theorem Sound.carries_subscribeTo (sound : world.Sound) (faithful : Faithful performer)
    (type : QueryType) (projection : Projection) (name label : Text) {reference : Reference}
    (named : reference.IsNamed) {reactions : List Reaction} (live : AreLive reactions) :
    world.Carries ((world.addRecipient label reactions).2.subscribeTo performer label
      ⟨type, reference.path, projection, .store name reference⟩ world.recipients.length).2 := by
  have added := sound.carries_addRecipient label live
  obtain ⟨carries, served⟩ :=
    added.sound.carries_startQuery faithful type projection name named
      (lt_length_addRecipient world label reactions) sound.sink_ne_newRecipient
  unfold subscribeTo
  split
  · next failed =>
    rw [failed] at carries
    exact added.trans sound carries
  · next started =>
    rw [started] at carries served
    exact added.trans sound
      (carries.trans added.sound (carries.sound.carries_bindQuery (served _ rfl)))

end World

end DocQuery
