/-
This file says exactly when a write raises, and that all whom it concerns are told otherwise.

The pass after a write reads for one listener after the other. What a recipient raises does not come
through to it, and a refusal of the store is something to deliver. Any other failure of reading comes
through: it ends the pass, and those whose turn has not come yet are not told. Only a reference with a
field that is no name meets such a failure, but to be listened on it is enough that its collection is
empty at the time.

When the turn of a listener comes, the state is what the listeners before it have made of it. All they
can do is a run, which keeps the listener as long as its live query is active and its store is open,
and which never takes an update back.
-/

import DocQuery.Proofs.Live.Concern

namespace DocQuery

namespace World

variable {world later : World}

/-! ### Updates -/

/-- The number of updates that a live query has had. -/
def updatesOf (query : Nat) (world : World) : Nat :=
  ((world.queries[query]?).map fun found => found.handle.updates).getD 0

/-- No live query has had fewer updates later. -/
def Counts (world later : World) : Prop := ∀ query, world.updatesOf query ≤ later.updatesOf query

theorem counts_of_queries_eq (same : later.queries = world.queries) : Counts world later := by
  intro query
  exact Nat.le_of_eq (by rw [updatesOf, updatesOf, same])

theorem Counts.trans {last : World} (counts : Counts world later) (further : Counts later last) :
    Counts world last := fun query => Nat.le_trans (counts query) (further query)

theorem updatesOf_of_present {query : Nat} {found : LiveQuery}
    (present : world.queries[query]? = some found) :
    world.updatesOf query = found.handle.updates := by
  rw [updatesOf, present]
  rfl

theorem counts_updateHandle {query : Nat} {change : Subscription Release → Subscription Release}
    (more : ∀ {found}, world.queries[query]? = some found →
      found.handle.updates ≤ (change found.handle).updates) :
    Counts world (world.updateHandle query change) := by
  intro other
  rw [updatesOf, updatesOf, queries_updateHandle]
  cases present : world.queries[other]? with
  | none => exact Nat.le_refl _
  | some found =>
    by_cases same : query = other
    · subst same
      simpa using more present
    · simp [same]

theorem counts_updateStore (name : Text) (change : Store Callback → Store Callback) (world : World) :
    Counts world (world.updateStore name change) := by
  obtain ⟨stores, same⟩ := exists_updateStore name change world
  exact counts_of_queries_eq (by rw [same])

theorem counts_carryOutAny (release : Option Release) (world : World) :
    Counts world (world.carryOutAny release) := by
  cases release with
  | none => exact counts_of_queries_eq rfl
  | some release =>
    cases release with
    | listener name id => exact counts_updateStore name _ world
    | feed path => exact counts_of_queries_eq rfl
    | watch index => exact counts_of_queries_eq rfl

theorem counts_cancelQuery (query : Nat) (world : World) :
    Counts world (world.cancelQuery query) := by
  obtain same | ⟨found, _, same⟩ := cancelQuery_cases query world <;> rw [same]
  · exact counts_of_queries_eq rfl
  · exact (counts_updateHandle fun _ => Nat.le_refl _).trans (counts_carryOutAny _ _)

theorem counts_attach (query : Nat) (release : Release) (world : World) :
    Counts world (world.attach query release) := by
  obtain same | same | ⟨_, same⟩ := attach_cases query release world <;> rw [same]
  · exact counts_of_queries_eq rfl
  · exact counts_updateHandle fun _ => Nat.le_refl _
  · exact (counts_updateHandle fun _ => Nat.le_refl _).trans (counts_carryOutAny _ _)

theorem counts_addQuery (query : LiveQuery) (world : World) :
    Counts world (world.addQuery query).2 := by
  intro other
  cases present : world.queries[other]? with
  | none => rw [updatesOf, present]; exact Nat.zero_le _
  | some found =>
    have still : (world.addQuery query).2.queries[other]? = some found :=
      getElem?_concat_eq_some.mpr (.inl present)
    exact Nat.le_of_eq (by rw [updatesOf_of_present present, updatesOf_of_present still])

/-- Nothing takes an update back. -/
theorem stepwise_counts : Stepwise Counts where
  refl _ := counts_of_queries_eq rfl
  trans := .trans
  countDelivery _ _ := counts_of_queries_eq rfl
  tell _ := by
    rw [tell]
    split <;> exact counts_of_queries_eq rfl
  count query world := counts_updateHandle fun _ => Nat.le_succ _
  push _ := counts_of_queries_eq rfl
  take _ _ := counts_of_queries_eq rfl
  remark _ _ _ := counts_of_queries_eq rfl
  write name _ _ := counts_updateStore name _
  remove name _ := counts_updateStore name _
  close name := counts_updateStore name _
  unlisten label world := by
    rw [unlisten]
    split
    · exact counts_of_queries_eq rfl
    · exact counts_updateStore _ _ world
  cancelQuery := counts_cancelQuery
  closeStream stream world := by
    rw [closeStream]
    split
    · exact counts_of_queries_eq rfl
    · split
      · exact counts_of_queries_eq rfl
      · exact (counts_cancelQuery _ world).trans (counts_of_queries_eq rfl)
  bindFeed _ _ _ := counts_of_queries_eq rfl
  register name _ := counts_updateStore name _
  addRecipient _ _ _ := counts_of_queries_eq rfl
  newRecipient label reactions aim world := counts_addQuery _ (world.addRecipient label reactions).2
  newStream aim world := counts_addQuery _ world.addStream.2
  attach := counts_attach
  names _ _ _ _ := counts_of_queries_eq rfl

/-! ### Deliveries that count -/

variable {performer : Performer}

theorem counts_handOver (kept : KeptBy Counts performer) (found : LiveQuery) (occasion : Occasion)
    (delivery : Except Failure QueryResult) (world : World) :
    Counts world (handOver performer found occasion delivery world) := by
  rw [handOver]
  split
  · exact counts_of_queries_eq rfl
  · next recipient _ =>
    have heard : Counts world (world.hear performer recipient occasion (.ofResult delivery)).2 := by
      rw [hear]
      split
      · exact counts_of_queries_eq rfl
      · refine Counts.trans ?_ (stepwise_counts.react kept recipient _ _)
        rw [tell]
        split <;> exact counts_of_queries_eq rfl
    split
    · next returned =>
      rwa [returned] at heard
    · next raised =>
      rw [raised] at heard
      exact heard.trans (counts_of_queries_eq rfl)

/-- A delivery to an active live query counts. -/
theorem updatesOf_lt_deliver (kept : KeptBy Counts performer) {query : Nat}
    (active : world.IsActive query) (occasion : Occasion) (delivery : Except Failure QueryResult) :
    world.updatesOf query < (world.deliver performer query occasion delivery).updatesOf query := by
  obtain ⟨found, present, isActive⟩ := active
  have counted : (world.updateHandle query Subscription.count).updatesOf query =
      world.updatesOf query + 1 := by
    rw [updatesOf, updatesOf, queries_updateHandle, present]
    simp [Subscription.count]
  rw [deliver, present]
  dsimp only
  rw [if_pos isActive]
  have more := counts_handOver kept found occasion delivery
    (world.updateHandle query Subscription.count) query
  omega

theorem not_isActive {query : Nat} (missing : world.queries[query]? = none) :
    ¬ world.IsActive query := by
  rintro ⟨found, known, _⟩
  rw [missing] at known
  cases known

/-- What reading for a live query comes to: a failure that is no refusal comes through, and anything
else is delivered. -/
theorem refresh_live (performer : Performer) (store : Store Callback) (reference : Reference)
    (query : Nat) (world : World) :
    (∃ failure, store.read reference = .error failure ∧ failure.isStore = false ∧
      world.refresh performer store ⟨reference, .live query⟩ = (.error failure, world)) ∨
    ((∀ failure, store.read reference = .error failure → failure.isStore = true) ∧
      ∃ after, world.refresh performer store ⟨reference, .live query⟩ = (.ok (), after) ∧
        (KeptBy Counts performer → world.IsActive query →
          world.updatesOf query < after.updatesOf query)) := by
  rw [refresh]
  cases answered : store.read reference with
  | ok snapshot =>
    refine .inr ⟨fun failure same => (by cases same), ?_⟩
    dsimp only [callSnapshot]
    cases present : world.queries[query]? with
    | none =>
      exact ⟨world, by rw [receive, present], fun _ active => absurd active (not_isActive present)⟩
    | some found =>
      rw [receive_of_read answered present]
      exact ⟨_, rfl, fun kept active => updatesOf_lt_deliver kept active _ _⟩
  | error failure =>
    dsimp only
    cases refused : failure.isStore with
    | false => exact .inl ⟨failure, rfl, refused, if_neg (by simp)⟩
    | true =>
      refine .inr ⟨fun other same => by cases same; exact refused, ?_⟩
      rw [if_pos rfl, callFailure, receiveFailure]
      split
      · next missing =>
        exact ⟨world, rfl, fun _ active => absurd active (not_isActive missing)⟩
      · next found _ =>
        have noticed (active : world.IsActive query) :
            (world.notify (.storeFailed found.handle.path failure)).IsActive query := active
        exact ⟨_, rfl, fun kept active => updatesOf_lt_deliver kept (noticed active) _ _⟩

/-! ### Passes -/

/-- In a pass, the turn of a listener comes in a state. -/
def Turn (performer : Performer) (name : Text) (entries : List (Nat × Listener Callback))
    (entry : Nat × Listener Callback) (world reached : World) : Prop :=
  ∃ before rest, entries = before ++ entry :: rest ∧
    world.writePass performer name before = (.ok (), reached)

/-- In a pass, the turn of a listener comes whose reference the store cannot read, though it does not
refuse to. -/
def Breaks (performer : Performer) (name : Text) (entries : List (Nat × Listener Callback))
    (failure : Failure) (world : World) : Prop :=
  ∃ entry reached store, Turn performer name entries entry world reached ∧
    reached.store? name = some store ∧ store.isRegistered entry.1 = true ∧
      store.read entry.2.reference = .error failure ∧ failure.isStore = false

theorem writePass_of_missing (performer : Performer) {name : Text}
    (missing : world.store? name = none) (entries : List (Nat × Listener Callback)) :
    world.writePass performer name entries = (.ok (), world) := by
  cases entries with
  | nil => rfl
  | cons entry rest =>
    obtain ⟨id, listener⟩ := entry
    rw [writePass, missing]

/-- A pass over more listeners goes on where the pass over the first ones ended well. -/
theorem writePass_append (performer : Performer) (name : Text)
    (before rest : List (Nat × Listener Callback)) (world : World) :
    world.writePass performer name (before ++ rest) =
      match world.writePass performer name before with
      | (.error failure, after) => (.error failure, after)
      | (.ok _, after) => after.writePass performer name rest := by
  induction before generalizing world with
  | nil => rfl
  | cons entry others inductionHypothesis =>
    cases there : world.store? name with
    | none => simp only [writePass_of_missing performer there]
    | some store =>
      obtain ⟨id, listener⟩ := entry
      rw [List.cons_append, writePass, writePass, there]
      dsimp only
      split
      · split
        · rfl
        · exact inductionHypothesis _
      · exact inductionHypothesis world

section

variable {name : Text} {entries : List (Nat × Listener Callback)} {entry : Nat × Listener Callback}

/-- The pass over one listener of a live query breaks, or it ends well and a registered listener of
an active query is told. -/
theorem writePass_live (performer : Performer) (name : Text) {query : Nat}
    (live : entry.2.callback = .live query) (world : World) :
    (∃ store failure, world.store? name = some store ∧ store.isRegistered entry.1 = true ∧
      store.read entry.2.reference = .error failure ∧ failure.isStore = false ∧
        world.writePass performer name [entry] = (.error failure, world)) ∨
    ((∀ {store failure}, world.store? name = some store → store.isRegistered entry.1 = true →
      store.read entry.2.reference = .error failure → failure.isStore = true) ∧
        ∃ after, world.writePass performer name [entry] = (.ok (), after) ∧
          (KeptBy Counts performer → world.IsActive query → world.isRegistered name entry.1 = true →
            world.updatesOf query < after.updatesOf query)) := by
  obtain ⟨id, reference, _⟩ := entry
  obtain rfl := live
  cases there : world.store? name with
  | none =>
    refine .inr ⟨nofun, world, writePass_of_missing performer there _, fun _ _ registered => ?_⟩
    rw [isRegistered, there] at registered
    cases registered
  | some store =>
    have known : world.isRegistered name id = store.isRegistered id := by
      rw [isRegistered, there]
    rw [writePass, there]
    dsimp only
    by_cases registered : store.isRegistered id = true
    · rw [if_pos registered]
      rcases refresh_live performer store reference query world with
        ⟨failure, answered, foreign, met⟩ | ⟨refused, after, told, more⟩
      · rw [met]
        exact .inl ⟨store, failure, rfl, registered, answered, foreign, rfl⟩
      · rw [told]
        refine .inr ⟨fun same _ => ?_, after, rfl, fun kept active _ => more kept active⟩
        cases same
        exact refused _
    · rw [if_neg registered]
      refine .inr ⟨fun same present => ?_, world, rfl, fun _ _ present => ?_⟩
      · cases same
        exact absurd present registered
      · exact absurd (known ▸ present) registered

theorem Turn.cons {next : Nat × Listener Callback} {middle reached : World}
    (first : world.writePass performer name [next] = (.ok (), middle))
    (turn : Turn performer name entries entry middle reached) :
    Turn performer name (next :: entries) entry world reached := by
  obtain ⟨before, rest, rfl, went⟩ := turn
  refine ⟨next :: before, rest, rfl, ?_⟩
  rw [← List.singleton_append, writePass_append, first]
  exact went

/-- A pass over listeners of live queries raises just what it breaks on. -/
theorem fst_writePass_eq_error_iff
    (live : ∀ entry ∈ entries, ∃ query, entry.2.callback = .live query) (failure : Failure) :
    (world.writePass performer name entries).1 = .error failure ↔
      world.Breaks performer name entries failure := by
  refine ⟨fun raised => ?_, ?_⟩
  · induction entries generalizing world with
    | nil => cases raised
    | cons entry rest inductionHypothesis =>
      obtain ⟨⟨query, callback⟩, restLive⟩ := List.forall_mem_cons.mp live
      rw [← List.singleton_append, writePass_append] at raised
      rcases writePass_live performer name callback world with
        ⟨store, met, there, registered, answered, foreign, broke⟩ | ⟨_, after, went, _⟩
      · rw [broke] at raised
        cases raised
        exact ⟨entry, world, store, ⟨[], rest, rfl, rfl⟩, there, registered, answered, foreign⟩
      · rw [went] at raised
        obtain ⟨other, reached, store, turn, broken⟩ := inductionHypothesis restLive raised
        exact ⟨other, reached, store, turn.cons went, broken⟩
  · rintro ⟨entry, reached, store, ⟨before, rest, rfl, went⟩, there, registered, answered, foreign⟩
    obtain ⟨query, callback⟩ := live entry (List.mem_append_right _ List.mem_cons_self)
    rw [writePass_append, went]
    dsimp only
    rw [← List.singleton_append, writePass_append]
    rcases writePass_live performer name callback reached with
      ⟨known, met, same, _, failed, _, broke⟩ | ⟨refused, _⟩
    · obtain rfl := Option.some.inj (there.symm.trans same)
      cases answered.symm.trans failed
      rw [broke]
    · rw [refused there registered answered] at foreign
      cases foreign

/-- In a pass, the turn of the listener of a live query comes when the query is no longer active or
its store no longer open. -/
def Misses (performer : Performer) (name : Text) (entries : List (Nat × Listener Callback))
    (query : Nat) (world : World) : Prop :=
  ∃ id reference reached, Turn performer name entries (id, ⟨reference, .live query⟩) world reached ∧
    ¬ (reached.IsActive query ∧ reached.IsOpen name)

/-- In a pass that ends well every live query is told that does not miss it. -/
theorem Arranged.told_or_misses (arranged : world.Arranged) (settling : KeptBy Settling performer)
    (counting : KeptBy Counts performer) {id : Nat} {reference : Reference} {query : Nat}
    (attends : world.Attends name id reference query)
    (member : (id, (⟨reference, .live query⟩ : Listener Callback)) ∈ entries) {after : World}
    (went : world.writePass performer name entries = (.ok (), after)) :
    world.updatesOf query < after.updatesOf query ∨
      world.Misses performer name entries query := by
  obtain ⟨before, rest, rfl⟩ := List.append_of_mem member
  rw [writePass_append] at went
  have settles := lasting_settling.writePass settling name before world arranged
  have earlier := stepwise_counts.writePass counting name before world query
  generalize passed : world.writePass performer name before = result at went settles earlier
  obtain ⟨_ | _, reached⟩ := result
  · cases went
  have turn : Turn performer name (before ++ (id, ⟨reference, .live query⟩) :: rest)
      (id, ⟨reference, .live query⟩) world reached := ⟨before, rest, rfl, passed⟩
  by_cases present : reached.IsActive query ∧ reached.IsOpen name
  · obtain ⟨active, isOpen⟩ := present
    obtain ⟨store, there, registered⟩ := settles.listeners attends active isOpen
    have known : reached.isRegistered name id = true := by
      rw [isRegistered, there]
      exact isRegistered_of_mem registered
    dsimp only at went
    rw [← List.singleton_append, writePass_append] at went
    have live : (id, (⟨reference, .live query⟩ : Listener Callback)).2.callback = .live query := rfl
    rcases writePass_live performer name live reached with
      ⟨_, failure, _, _, _, _, broke⟩ | ⟨_, told, single, more⟩
    · rw [broke] at went
      cases went
    · rw [single] at went
      have last := stepwise_counts.writePass counting name rest told query
      dsimp only at went
      rw [went] at last
      exact .inl (Nat.lt_of_le_of_lt earlier
        (Nat.lt_of_lt_of_le (more counting active known) last))
  · exact .inr ⟨id, reference, reached, turn, present⟩

end

/-! ### Writes -/

variable {name : Text} {store : Store Callback}

/-- A write raises exactly if its pass breaks, that is, if the turn of a listener comes whose
reference cannot be read for another reason than a refusal of the store, which no reference on names
can do. Otherwise it returns, and every live query it concerns is told, but for those that are
cancelled before their turn or whose store is closed before it. -/
theorem Runs.raises_iff_breaks {mode : BuildMode} {stores : List (Text × Store Callback)}
    (unheard : ∀ entry ∈ stores, entry.2.listeners = []) (run : (ofStores mode stores).Runs world)
    (there : world.store? name = some store)
    (live : ∀ entry ∈ store.listeners, ∃ query, entry.2.callback = .live query)
    {performer : Performer} (plays : ∀ action inside, Runs inside (performer action inside).2)
    {action : Action} (accepted : action.IsAcceptedBy name) :
    (∀ segments change, action.Changes name store segments change →
      (∀ failure, (world.performWith performer action).1 = .error failure ↔
        (world.updateStore name change).Breaks performer name (store.concerned segments) failure) ∧
      ((∀ entry ∈ store.concerned segments, entry.2.reference.IsNamed) → ∀ failure,
        ¬ (world.updateStore name change).Breaks performer name (store.concerned segments) failure) ∧
      ((∀ failure,
        ¬ (world.updateStore name change).Breaks performer name (store.concerned segments) failure) →
          ∃ after, world.performWith performer action = (.ok .done, after) ∧
            ∀ query, world.IsConcerned name segments query → store.closed = false →
              world.updatesOf query < after.updatesOf query ∨
                (world.updateStore name change).Misses performer name (store.concerned segments)
                  query)) ∧
    ((¬ ∃ segments change, action.Changes name store segments change) →
      world.performWith performer action = (.ok .done, world)) := by
  refine ⟨fun segments change changes => ?_, fun unchanged =>
    performWith_of_unchanged there accepted unchanged performer⟩
  have concernedLive : ∀ entry ∈ store.concerned segments, ∃ query, entry.2.callback = .live query :=
    fun entry member => live entry (List.mem_filter.mp member).1
  have raises (failure : Failure) :
      ((world.updateStore name change).writePass performer name (store.concerned segments)).1 =
        .error failure ↔
      (world.updateStore name change).Breaks performer name (store.concerned segments) failure :=
    fst_writePass_eq_error_iff concernedLive failure
  rw [changes.performWith there, afterPass]
  refine ⟨fun failure => ?_, fun named failure => ?_, fun unbroken => ?_⟩
  · rw [← raises]
    cases ((world.updateStore name change).writePass performer name
      (store.concerned segments)).1 <;> simp [Except.map]
  · rintro ⟨entry, reached, known, ⟨before, rest, same, _⟩, _, _, answered, foreign⟩
    have member : entry ∈ store.concerned segments := by
      rw [same]
      exact List.mem_append_right _ List.mem_cons_self
    rw [Query.isStore_of_read (named entry member) answered] at foreign
    cases foreign
  · generalize went : (world.updateStore name change).writePass performer name
      (store.concerned segments) = result at raises
    obtain ⟨failure | _, after⟩ := result
    · exact absurd ((raises failure).mp rfl) (unbroken failure)
    refine ⟨after, rfl, fun query concerned isOpen => ?_⟩
    obtain ⟨arranged, _⟩ := run.arranged unheard
    obtain ⟨⟨id, reference, _⟩, member, called⟩ := List.mem_filterMap.mp
      ((run.mem_called_iff unheard there isOpen changes.isDocument query).mpr concerned)
    obtain rfl := (called?_eq_some.mp called).1
    have attends : (world.updateStore name change).Attends name id reference query := by
      refine ⟨change store, by rw [store?_updateStore, if_pos rfl, there, Option.map_some], ?_⟩
      rw [changes.touches.listeners]
      exact (List.mem_filter.mp member).1
    refine ((changes.settling world arranged).arranged.told_or_misses
      (fun action inside => enduring_settling.of_runs (plays action inside))
      (fun action inside => stepwise_counts.enduring.of_runs (plays action inside))
      attends member went).imp_left ?_
    exact Nat.lt_of_le_of_lt (counts_updateStore name change world query)

/-- Three live queries on an empty store: on people whose field 5, which is no name, is 1, on all
people, and on all towns. -/
def misnamedWatching : World :=
  let literal (name : Text) : Value := .map [("type", .text "literal"), ("value", .text name)]
  let ones : Value := .map [("type", .text "collectionExpression"), ("components", .list
    [.map [("type", .text "where"), ("field", .int 5), ("operator", .text "=="), ("value", .int 1)]])]
  let empty := ofStores .permissive [("store", .empty)]
  let first := (empty.perform
    (.subscribe "misnamed" (.query "store" (.list [literal "people", ones])) [])).2
  let second := (first.perform (.subscribe "people" (.query "store" (.list [literal "people"])) [])).2
  (second.perform (.subscribe "towns" (.query "store" (.list [literal "towns"])) [])).2

/-- A write of a person breaks at the listener on the misnamed field, and raises. A write of a town
returns, and is told. -/
theorem raises_iff_breaks_misnamedWatching :
    (∃ failure, (misnamedWatching.performWith (performTo 0)
      (.write "store" (.text "people/ada") (.map []))).1 = .error failure) ∧
    ∃ after, misnamedWatching.performWith (performTo 0)
      (.write "store" (.text "towns/london") (.map [])) = (.ok .done, after) ∧
        misnamedWatching.updatesOf 2 < after.updatesOf 2 := by
  have unheard : ∀ entry ∈ [(("store" : Text), (Store.empty : Store Callback))],
      entry.2.listeners = [] := fun entry member => by rw [List.mem_singleton.mp member]; rfl
  have run : (ofStores .permissive [("store", .empty)]).Runs misnamedWatching :=
    (runs_performTo _ _ _).further ((runs_performTo _ _ _).further (runs_performTo _ _ _))
  let ones : Reference := { Reference.plain ["people"] with filters := [⟨.int 5, .equal, .int 1⟩] }
  let listeners : List (Nat × Listener Callback) := [(0, ⟨ones, .live 0⟩),
    (1, ⟨Reference.plain ["people"], .live 1⟩), (2, ⟨Reference.plain ["towns"], .live 2⟩)]
  have there : misnamedWatching.store? "store" = some ⟨[], listeners, 3, false⟩ := rfl
  have live : ∀ entry ∈ listeners, ∃ query, entry.2.callback = .live query := by
    simp [listeners]
  obtain ⟨ada, _⟩ := run.raises_iff_breaks unheard there live (runs_performTo 0)
    (show Action.IsAcceptedBy "store" (.write "store" (.text "people/ada") (.map [])) from
      ⟨rfl, _, rfl⟩)
  obtain ⟨london, _⟩ := run.raises_iff_breaks unheard there live (runs_performTo 0)
    (show Action.IsAcceptedBy "store" (.write "store" (.text "towns/london") (.map [])) from
      ⟨rfl, _, rfl⟩)
  refine ⟨?_, ?_⟩
  · obtain ⟨raises, _⟩ := ada ["people", "ada"] _ (.write rfl)
    exact ⟨_, (raises _).mpr ⟨(0, ⟨ones, .live 0⟩), _, _, ⟨[], _, rfl, rfl⟩, rfl, rfl, rfl, rfl⟩⟩
  · obtain ⟨_, unbroken, returns⟩ := london ["towns", "london"] _ (.write rfl)
    have named : ∀ entry ∈ [(2, (⟨Reference.plain ["towns"], .live 2⟩ : Listener Callback))],
        entry.2.reference.IsNamed := fun entry member => by
      rw [List.mem_singleton.mp member]
      exact ⟨nofun, nofun⟩
    obtain ⟨after, performed, _⟩ := returns (unbroken named)
    refine ⟨after, performed, ?_⟩
    obtain rfl := congrArg Prod.snd performed
    decide

/-- A write to a document can raise, and leave a live query on the collection untold: the query before
it cannot be evaluated. -/
theorem exists_raising_write : ∃ failure after,
    (ofStores .permissive [("store", .empty)]).Runs misnamedWatching ∧
    Action.IsAcceptedBy "store" (.write "store" (.text "people/ada") (.map [])) ∧
    misnamedWatching.perform (.write "store" (.text "people/ada") (.map [])) =
      (.error failure, after) ∧
    misnamedWatching.IsConcerned "store" ["people", "ada"] 1 ∧ after.IsActive 1 ∧
    after.updatesOf 1 = misnamedWatching.updatesOf 1 :=
  ⟨_, _, (runs_performTo _ _ _).further ((runs_performTo _ _ _).further (runs_performTo _ _ _)),
    ⟨rfl, _, rfl⟩, rfl, ⟨.inl ⟨"people", List.mem_cons_of_mem _ List.mem_cons_self⟩,
      _, Reference.plain ["people"], rfl, rfl, rfl, .inr rfl⟩, ⟨_, rfl, rfl⟩, rfl⟩

end World

end DocQuery
