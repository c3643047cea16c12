/-
This file says what the failed start of a listener leaves behind.

A listener on a reference is registered before it is told anything. A store that is not there, that
is closed or that cannot read the reference refuses it before that, and stays as it was. But if the
listener raises at what it is told first, it stays registered, under an id that nobody was given: no
name has it, and no live query has a release for it. So nothing unregisters it, whatever goes on,
until its store is closed, and until then every write that concerns it calls it again.

A live query keeps what its listener raises from the store, so the failed start of one leaves no
listener behind.
-/

import DocQuery.Proofs.Live.Handles
import DocQuery.Proofs.Live.Settling
import DocQuery.Proofs.Live.Silence
import DocQuery.Proofs.Live.Writers

namespace DocQuery

namespace World

variable {world later : World} {performer : Performer} {name : Text}

/-! ### Starts that fail -/

/-- A listener on the reference that calls lead to is refused before it is registered. -/
def RefusesListener (name : Text) (calls : List NavigationCall) (failure : Failure)
    (world : World) : Prop :=
  ((world.store name).bind fun store =>
    (Reference.root.callAll calls).bind fun reference => store.acceptListener reference) =
      .error failure

/-- The state in which a new listener has been registered. -/
def withListener (label name : Text) (reference : Reference) (reactions : List Reaction)
    (world : World) : World :=
  (world.addRecipient label reactions).2.updateStore name
    (Store.register ⟨reference, .recipient world.recipients.length⟩)

/-- The start of a listener fails because it is refused, or because it raises at what it is told
first, when it has been registered. -/
theorem listen_eq_error {label : Text} {calls : List NavigationCall} {reactions : List Reaction}
    {failure : Failure} {after : World}
    (failed : world.listen performer label name calls reactions = (.error failure, after)) :
    (world.RefusesListener name calls failure ∧ after.stores = world.stores) ∨
    ∃ store reference snapshot, world.store? name = some store ∧
      Reference.root.callAll calls = .ok reference ∧
      store.acceptListener reference = .ok snapshot ∧
      (world.withListener label name reference reactions).hear performer world.recipients.length
        .standing (.snapshot snapshot) = (.error failure, after) := by
  rw [listen] at failed
  cases known : world.store name with
  | error missing =>
    rw [known] at failed
    cases failed
    exact .inl ⟨by rw [RefusesListener, known]; rfl, rfl⟩
  | ok store =>
    rw [known] at failed
    cases reached : Reference.root.callAll calls with
    | error refused =>
      rw [reached] at failed
      cases failed
      exact .inl ⟨by rw [RefusesListener, known, reached]; rfl, rfl⟩
    | ok reference =>
      rw [reached] at failed
      have same : (world.addRecipient label reactions).2.store name = .ok store := known
      dsimp only at failed
      rw [installRecipient, same] at failed
      dsimp only at failed
      cases accepted : store.acceptListener reference with
      | error refused =>
        rw [accepted] at failed
        cases failed
        exact .inl ⟨by rw [RefusesListener, known, reached]; exact accepted, rfl⟩
      | ok snapshot =>
        rw [accepted] at failed
        refine .inr ⟨store, reference, snapshot, store?_of_store known, rfl, accepted, ?_⟩
        have number : (world.addRecipient label reactions).1 = world.recipients.length := rfl
        dsimp only at failed
        rw [number, ← withListener] at failed
        generalize (world.withListener label name reference reactions).hear performer
          world.recipients.length .standing (.snapshot snapshot) = heard at failed
        obtain ⟨_ | _, _⟩ := heard <;> cases failed
        rfl

/-! ### Listeners that do not act -/

/-- A recipient that carries out nothing, though it may raise, leaves behind no more than that it
was called. -/
theorem snd_hear_of_idle {recipient : Nat}
    (idle : ∀ position action, .act position action ∉ world.reactionsOf recipient)
    (performer : Performer) (occasion : Occasion) (update : Update) :
    (world.hear performer recipient occasion update).2 = world.called recipient occasion update := by
  have shown (reactions : List Reaction) (told : World)
      (idle : ∀ position action, .act position action ∉ reactions) :
      (told.react performer recipient reactions).2 = told := by
    induction reactions with
    | nil => rfl
    | cons reaction rest inductionHypothesis =>
      have restIdle := inductionHypothesis fun position action member =>
        idle position action (List.mem_cons_of_mem _ member)
      rw [react]
      split
      · cases reaction with
        | raise position failure => rfl
        | act position action => exact absurd List.mem_cons_self (idle position action)
      · exact restIdle
  rw [hear, called]
  cases update.examine with
  | error failure => rfl
  | ok _ => exact shown _ _ idle

theorem store?_called (recipient : Nat) (occasion : Occasion) (update : Update) (world : World)
    (name : Text) : (world.called recipient occasion update).store? name = world.store? name := by
  rw [called]
  split
  · rfl
  · rw [tell]
    split <;> rfl

/-! ### Listeners that are left behind -/

/-- A listener that is registered, or whose store is closed, and that nobody can remove: no name has
its id, and no live query has a release for it. -/
structure Forgotten (name : Text) (entry : Nat × Listener Callback) (world : World) : Prop where
  there : ∃ store, world.store? name = some store ∧ entry.1 < store.nextListener ∧
    (store.closed = true ∨ entry ∈ store.listeners)
  unnamed : ∀ {label id}, (label, name, id) ∈ world.listenerNames → id ≠ entry.1
  unreleased : ∀ {query : Nat} {found : LiveQuery} {id}, world.queries[query]? = some found →
    found.handle.release = some (.listener name id) → id ≠ entry.1

/-- A change of a store that keeps a listener, or closes the store. -/
def Keeps (entry : Nat × Listener Callback) (change : Store Callback → Store Callback) : Prop :=
  ∀ store : Store Callback, entry.1 < store.nextListener →
    store.closed = true ∨ entry ∈ store.listeners →
    entry.1 < (change store).nextListener ∧
      ((change store).closed = true ∨ entry ∈ (change store).listeners)

variable {entry : Nat × Listener Callback}

theorem keeps_unregister {id : Nat} (other : id ≠ entry.1) : Keeps entry (Store.unregister id) :=
  fun _ taken kept => ⟨taken, kept.imp_right fun member =>
    List.mem_filter.mpr ⟨member, decide_eq_true (Ne.symm other)⟩⟩

theorem keeps_register (listener : Listener Callback) : Keeps entry (Store.register listener) :=
  fun _ taken kept => ⟨Nat.lt_succ_of_lt taken, kept.imp_right (List.mem_append_left _)⟩

theorem keeps_close : Keeps entry Store.close := fun _ taken _ => ⟨taken, .inl rfl⟩

namespace Forgotten

variable (forgotten : world.Forgotten name entry)

include forgotten

/-- What leaves stores and names alone, and gives nobody a release. -/
theorem of_releases (stores : later.stores = world.stores)
    (names : later.listenerNames = world.listenerNames)
    (releases : ∀ {query : Nat} {found : LiveQuery} {release},
      later.queries[query]? = some found → found.handle.release = some release →
        ∃ before, world.queries[query]? = some before ∧ before.handle.release = some release) :
    later.Forgotten name entry := by
  obtain ⟨store, known, kept⟩ := forgotten.there
  refine ⟨⟨store, by rwa [store?, stores], kept⟩, fun named => forgotten.unnamed (names ▸ named),
    fun present released => ?_⟩
  obtain ⟨before, there, same⟩ := releases present released
  exact forgotten.unreleased there same

theorem of_same (stores : later.stores = world.stores)
    (names : later.listenerNames = world.listenerNames) (queries : later.queries = world.queries) :
    later.Forgotten name entry :=
  forgotten.of_releases stores names fun present released => ⟨_, queries ▸ present, released⟩

theorem updateStore {other : Text} {change : Store Callback → Store Callback}
    (keeps : other = name → Keeps entry change) :
    (world.updateStore other change).Forgotten name entry := by
  obtain ⟨store, known, taken, kept⟩ := forgotten.there
  obtain ⟨stores, same⟩ := exists_updateStore other change world
  refine ⟨?_, fun named => forgotten.unnamed (by rwa [same] at named),
    fun present => forgotten.unreleased (by rwa [queries_updateStore] at present)⟩
  by_cases equal : name = other
  · refine ⟨change store, ?_, keeps equal.symm store taken kept⟩
    rw [store?_updateStore, if_pos equal, known]
    rfl
  · exact ⟨store, by rwa [store?_updateStore, if_neg equal], taken, kept⟩

theorem carryOutAny {release : Option Release} (spared : release ≠ some (.listener name entry.1)) :
    (world.carryOutAny release).Forgotten name entry := by
  cases release with
  | none => exact forgotten
  | some release =>
    cases release with
    | listener other id =>
      refine forgotten.updateStore fun equal => keeps_unregister fun same => spared ?_
      rw [equal, same]
    | feed path => exact forgotten.of_same rfl rfl rfl
    | watch index => exact forgotten

theorem updateHandle {query : Nat} {change : Subscription Release → Subscription Release}
    (releases : ∀ {found release}, world.queries[query]? = some found →
      (change found.handle).release = some release →
        found.handle.release = some release ∨ release ≠ .listener name entry.1) :
    (world.updateHandle query change).Forgotten name entry := by
  refine ⟨forgotten.there, forgotten.unnamed, fun {other found id} present released same => ?_⟩
  rw [queries_updateHandle] at present
  obtain ⟨before, known, rfl⟩ := Option.map_eq_some_iff.mp present
  by_cases equal : query = other
  · rw [if_pos equal] at released
    rcases releases (equal ▸ known) released with old | spared
    · exact forgotten.unreleased known old same
    · exact spared (by rw [same])
  · rw [if_neg equal] at released
    exact forgotten.unreleased known released same

theorem cancelQuery (query : Nat) : (world.cancelQuery query).Forgotten name entry := by
  obtain same | ⟨found, present, same⟩ := cancelQuery_cases query world <;> rw [same]
  · exact forgotten
  · have handled : (world.updateHandle query fun handle =>
        { handle with release := none, cancelled := true }).Forgotten name entry :=
      forgotten.updateHandle fun _ released => by cases released
    exact handled.carryOutAny fun released => forgotten.unreleased present released rfl

theorem attach {query : Nat} {release : Release} (spared : release ≠ .listener name entry.1) :
    (world.attach query release).Forgotten name entry := by
  obtain same | same | ⟨_, same⟩ := attach_cases query release world <;> rw [same]
  · exact forgotten
  · refine forgotten.updateHandle fun _ released => .inr ?_
    rwa [← Option.some.inj released]
  · have handled : (world.updateHandle query fun handle =>
        { handle with release := none }).Forgotten name entry :=
      forgotten.updateHandle fun _ released => by cases released
    exact handled.carryOutAny fun released => spared (Option.some.inj released)

theorem unlisten (label : Text) : (world.unlisten label).2.Forgotten name entry := by
  rw [World.unlisten]
  split
  · exact forgotten
  · next other id named =>
    obtain ⟨before, after, same, _⟩ := List.lookup_eq_some_iff.mp named
    have member : (label, other, id) ∈ world.listenerNames :=
      same ▸ List.mem_append_right _ List.mem_cons_self
    exact forgotten.updateStore fun equal => keeps_unregister (forgotten.unnamed (equal ▸ member))

theorem closeStream (stream : Nat) : (world.closeStream stream).Forgotten name entry := by
  rw [World.closeStream]
  split
  · exact forgotten
  · split
    · exact forgotten
    · exact (forgotten.cancelQuery _).of_same rfl rfl rfl

theorem addQuery {query : LiveQuery} (unreleased : query.handle.release = none) :
    (world.addQuery query).2.Forgotten name entry := by
  refine forgotten.of_releases rfl rfl fun {index found release} present released => ?_
  rcases getElem?_concat_eq_some.mp present with old | ⟨_, rfl⟩
  · exact ⟨found, old, released⟩
  · cases unreleased.symm.trans released

/-- While its store is open, the listener is registered. -/
theorem exists_mem (isOpen : world.IsOpen name) :
    ∃ store, world.store? name = some store ∧ entry ∈ store.listeners := by
  obtain ⟨store, there, _, kept⟩ := forgotten.there
  rw [isOpen store there] at kept
  exact ⟨store, there, kept.resolve_left Bool.false_ne_true⟩

/-- An id that a store gives out is not that of the listener. -/
theorem spares_next {other : Text} {store : Store Callback}
    (there : world.store? other = some store) :
    Release.listener other store.nextListener ≠ .listener name entry.1 := by
  intro same
  obtain ⟨rfl, equal⟩ := Release.listener.inj same
  obtain ⟨found, known, taken, _⟩ := forgotten.there
  obtain rfl := Option.some.inj (known.symm.trans there)
  exact absurd equal (Nat.ne_of_gt taken)

end Forgotten

/-- A listener that is left behind stays so. -/
def Forgetting (name : Text) (entry : Nat × Listener Callback) (world later : World) : Prop :=
  world.Forgotten name entry → later.Forgotten name entry

theorem lasting_forgetting (name : Text) (entry : Nat × Listener Callback) :
    Lasting (Forgetting name entry) where
  refl _ := id
  trans forgetting further := further ∘ forgetting
  countDelivery _ _ forgotten := forgotten.of_same rfl rfl rfl
  tell _ forgotten := by
    rw [tell]
    split
    · exact forgotten
    · exact forgotten.of_same rfl rfl rfl
  count _ _ forgotten := forgotten.updateHandle fun _ => .inl
  push _ forgotten := forgotten.of_same rfl rfl rfl
  take _ _ forgotten := forgotten.of_same rfl rfl rfl
  remark _ _ _ forgotten := forgotten.of_same rfl rfl rfl
  write _ _ _ _ forgotten := forgotten.updateStore fun _ _ taken kept => ⟨taken, kept⟩
  remove _ _ _ forgotten := forgotten.updateStore fun _ _ taken kept => ⟨taken, kept⟩
  close _ _ forgotten := forgotten.updateStore fun _ => keeps_close
  unlisten label _ forgotten := forgotten.unlisten label
  cancelQuery query _ forgotten := forgotten.cancelQuery query
  closeStream stream _ forgotten := forgotten.closeStream stream
  bindFeed _ _ _ forgotten := forgotten.of_same rfl rfl rfl

/-- Whatever is started gets another id. -/
theorem forgetting_startQuery (kept : KeptBy (Forgetting name entry) performer) (aim : Aim)
    (sink : Sink) (world : World) :
    Forgetting name entry world (world.startQuery performer aim sink).2 := by
  intro forgotten
  have lasting := lasting_forgetting name entry
  have added : (world.addQuery (queryFor aim sink)).2.Forgotten name entry := forgotten.addQuery rfl
  have opens := opens_startQuery performer aim sink world
  generalize world.startQuery performer aim sink = result at opens
  cases opens with
  | refused _ _ => exact added
  | @installed other reference store snapshot _ there _ =>
    have registered : ((world.addQuery (queryFor aim sink)).2.updateStore other (Store.register
        ⟨reference, .live world.queries.length⟩)).Forgotten name entry :=
      added.updateStore fun _ => keeps_register _
    have received := lasting.receive kept world.queries.length .standing snapshot _ registered
    exact received.attach (added.spares_next there)
  | @broken feed failure after _ went =>
    have taken := lasting.receiveGives kept world.queries.length feed.first _
      (lasting.bindFeed feed (some world.queries.length) _ added)
    rwa [went] at taken
  | @watching feed after _ went =>
    have taken := lasting.receiveGives kept world.queries.length feed.first _
      (lasting.bindFeed feed (some world.queries.length) _ added)
    rw [went] at taken
    exact taken.attach nofun

theorem forgetting_listen (kept : KeptBy (Forgetting name entry) performer) (label other : Text)
    (calls : List NavigationCall) (reactions : List Reaction) (world : World) :
    Forgetting name entry world (world.listen performer label other calls reactions).2 := by
  intro forgotten
  have added : (world.addRecipient label reactions).2.Forgotten name entry :=
    forgotten.of_same rfl rfl rfl
  obtain same | same | ⟨store, reference, snapshot, there, heard, made, went⟩ :=
    listen_cases performer label other calls reactions world
  · rwa [same]
  · rwa [same]
  · have told : heard.Forgotten name entry := by
      rw [made]
      exact (lasting_forgetting name entry).hear kept nofun
        (added.updateStore fun _ => keeps_register _)
    rcases went with same | same <;> rw [same]
    · exact told
    · refine ⟨told.there, fun named => ?_, told.unreleased⟩
      rcases List.mem_cons.mp named with new | old
      · cases new
        exact fun equal => added.spares_next there (by rw [equal])
      · exact told.unnamed old

theorem enduring_forgetting (name : Text) (entry : Nat × Listener Callback) :
    Enduring (Forgetting name entry) where
  toLasting := lasting_forgetting name entry
  listen := forgetting_listen
  subscribe kept label reactions aim world forgotten := by
    have added : (world.addRecipient label reactions).2.Forgotten name entry :=
      forgotten.of_same rfl rfl rfl
    have started := forgetting_startQuery kept aim (.recipient world.recipients.length) _ added
    rw [subscribeTo]
    split
    · next failed => rwa [failed] at started
    · next done =>
      rw [done] at started
      exact started.of_same rfl rfl rfl
  stream kept label aim world forgotten := by
    have added : world.addStream.2.Forgotten name entry := forgotten.of_same rfl rfl rfl
    have started := forgetting_startQuery kept aim (.stream world.streams.length) _ added
    rw [streamFrom, show world.addStream.1 = world.streams.length from rfl]
    split
    · next failed => rwa [failed] at started
    · next done =>
      rw [done] at started
      exact started.of_same rfl rfl rfl

/-- Nobody was given the id of a listener that has just been registered. -/
theorem Arranged.forgotten_register (arranged : world.Arranged) {store : Store Callback}
    (there : world.store? name = some store) (listener : Listener Callback) :
    (world.updateStore name (Store.register listener)).Forgotten name
      (store.nextListener, listener) := by
  obtain ⟨stores, same⟩ := exists_updateStore name (Store.register listener) world
  refine ⟨⟨store.register listener, ?_, Nat.lt_succ_self _,
    .inr (List.mem_append_right _ List.mem_cons_self)⟩, fun named => ?_, fun present released => ?_⟩
  · rw [store?_updateStore, if_pos rfl, there]
    rfl
  · rw [same] at named
    exact Nat.ne_of_lt (arranged.installed named store there).1
  · rw [queries_updateStore] at present
    exact Nat.ne_of_lt (arranged.releases present released store there).1

/-! ### Deliveries -/

/-- Nobody goes, and nobody has had fewer deliveries later. -/
structure Delivers (world later : World) : Prop where
  grown : world.recipients.length ≤ later.recipients.length
  counts : ∀ recipient, world.deliveriesOf recipient ≤ later.deliveriesOf recipient

theorem delivers_of_recipients_eq (same : later.recipients = world.recipients) :
    Delivers world later :=
  ⟨Nat.le_of_eq (by rw [same]), fun _ => Nat.le_of_eq (by rw [deliveriesOf, deliveriesOf, same])⟩

theorem Delivers.trans {last : World} (delivers : Delivers world later)
    (further : Delivers later last) : Delivers world last :=
  ⟨Nat.le_trans delivers.grown further.grown,
    fun recipient => Nat.le_trans (delivers.counts recipient) (further.counts recipient)⟩

theorem delivers_updateStore (name : Text) (change : Store Callback → Store Callback)
    (world : World) : Delivers world (world.updateStore name change) := by
  obtain ⟨stores, same⟩ := exists_updateStore name change world
  exact delivers_of_recipients_eq (by rw [same])

theorem delivers_carryOutAny (release : Option Release) (world : World) :
    Delivers world (world.carryOutAny release) := by
  cases release with
  | none => exact delivers_of_recipients_eq rfl
  | some release =>
    cases release with
    | listener name id => exact delivers_updateStore name _ world
    | feed path => exact delivers_of_recipients_eq rfl
    | watch index => exact delivers_of_recipients_eq rfl

theorem delivers_updateHandle (query : Nat)
    (change : Subscription Release → Subscription Release) (world : World) :
    Delivers world (world.updateHandle query change) :=
  delivers_of_recipients_eq rfl

theorem delivers_cancelQuery (query : Nat) (world : World) :
    Delivers world (world.cancelQuery query) := by
  obtain same | ⟨found, _, same⟩ := cancelQuery_cases query world <;> rw [same]
  · exact delivers_of_recipients_eq rfl
  · exact (delivers_updateHandle query _ world).trans (delivers_carryOutAny _ _)

theorem delivers_attach (query : Nat) (release : Release) (world : World) :
    Delivers world (world.attach query release) := by
  obtain same | same | ⟨_, same⟩ := attach_cases query release world <;> rw [same]
  · exact delivers_of_recipients_eq rfl
  · exact delivers_of_recipients_eq rfl
  · exact (delivers_updateHandle query _ world).trans (delivers_carryOutAny _ _)

theorem delivers_countDelivery (index : Nat) (world : World) :
    Delivers world (world.countDelivery index) := by
  refine ⟨Nat.le_of_eq (List.length_modify ..).symm, fun recipient => ?_⟩
  rw [deliveriesOf_countDelivery]
  exact Nat.le_add_right _ _

theorem delivers_addRecipient (label : Text) (reactions : List Reaction) (world : World) :
    Delivers world (world.addRecipient label reactions).2 := by
  refine ⟨by rw [addRecipient, List.length_append]; exact Nat.le_add_right _ _, fun recipient => ?_⟩
  by_cases inside : recipient < world.recipients.length
  · exact Nat.le_of_eq (deliveriesOf_addRecipient label reactions inside).symm
  · rw [deliveriesOf, List.getElem?_eq_none (Nat.le_of_not_lt inside)]
    exact Nat.zero_le _

/-- Nothing takes a delivery back. -/
theorem stepwise_delivers : Stepwise Delivers where
  refl _ := delivers_of_recipients_eq rfl
  trans := .trans
  countDelivery := delivers_countDelivery
  tell {index _ _ world} _ := by
    rw [tell]
    split
    · exact delivers_of_recipients_eq rfl
    · exact (delivers_countDelivery index world).trans (delivers_of_recipients_eq rfl)
  count _ _ := delivers_of_recipients_eq rfl
  push _ := delivers_of_recipients_eq rfl
  take _ _ := delivers_of_recipients_eq rfl
  remark _ _ _ := delivers_of_recipients_eq rfl
  write name _ _ := delivers_updateStore name _
  remove name _ := delivers_updateStore name _
  close name := delivers_updateStore name _
  unlisten label world := by
    rw [unlisten]
    split
    · exact delivers_of_recipients_eq rfl
    · exact delivers_updateStore _ _ world
  cancelQuery := delivers_cancelQuery
  closeStream stream world := by
    rw [closeStream]
    split
    · exact delivers_of_recipients_eq rfl
    · split
      · exact delivers_of_recipients_eq rfl
      · exact (delivers_cancelQuery _ world).trans (delivers_of_recipients_eq rfl)
  bindFeed _ _ _ := delivers_of_recipients_eq rfl
  register name _ := delivers_updateStore name _
  addRecipient := delivers_addRecipient
  newRecipient label reactions _ world :=
    (delivers_addRecipient label reactions world).trans (delivers_of_recipients_eq rfl)
  newStream _ _ := delivers_of_recipients_eq rfl
  attach := delivers_attach
  names _ _ _ _ := delivers_of_recipients_eq rfl

theorem deliveriesOf_lt_hear (kept : KeptBy Delivers performer) {recipient : Nat}
    (inside : recipient < world.recipients.length) (occasion : Occasion) (update : Update) :
    world.deliveriesOf recipient <
      (world.hear performer recipient occasion update).2.deliveriesOf recipient := by
  have counted := deliveriesOf_called recipient occasion update world recipient
  rw [if_pos ⟨rfl, inside⟩] at counted
  refine Nat.lt_of_lt_of_le (Nat.lt_of_lt_of_eq (Nat.lt_succ_self _) counted.symm) ?_
  rw [hear, called]
  cases update.examine with
  | error failure => exact Nat.le_refl _
  | ok _ => exact (stepwise_delivers.react kept recipient _ _).counts recipient

/-- To tell a recipient how its reference stands calls it, unless reading fails and comes through. -/
theorem deliveriesOf_lt_refresh (kept : KeptBy Delivers performer) {recipient : Nat}
    (inside : recipient < world.recipients.length) {store : Store Callback}
    {listener : Listener Callback} (callback : listener.callback = .recipient recipient)
    {after : World} (went : world.refresh performer store listener = (.ok (), after)) :
    world.deliveriesOf recipient < after.deliveriesOf recipient := by
  rw [refresh, callback] at went
  split at went
  · next snapshot _ =>
    have heard := deliveriesOf_lt_hear kept inside .standing (.snapshot snapshot)
    rw [callSnapshot] at went
    rwa [went] at heard
  · next failure _ =>
    split at went
    · have heard := deliveriesOf_lt_hear kept inside .standing (.failure failure)
      rw [callFailure] at went
      rwa [went] at heard
    · cases went

/-! ### Writes after a failed start -/

/-- A performer that can do no more than what goes on in a run keeps what every run keeps. -/
theorem Enduring.keptBy {relation : World → World → Prop} (enduring : Enduring relation)
    (plays : ∀ action inside, Runs inside (performer action inside).2) :
    KeptBy relation performer := fun action inside => enduring.of_runs (plays action inside)

/-- The turn of a listener that is left behind calls its recipient, if the store is open then. -/
theorem Forgotten.deliveriesOf_lt_turn (forgotten : world.Forgotten name entry)
    (kept : KeptBy Delivers performer) (isOpen : world.IsOpen name) {recipient : Nat}
    (callback : entry.2.callback = .recipient recipient)
    (inside : recipient < world.recipients.length) {after : World}
    (went : world.writePass performer name [entry] = (.ok (), after)) :
    world.deliveriesOf recipient < after.deliveriesOf recipient := by
  obtain ⟨store, there, member⟩ := forgotten.exists_mem isOpen
  obtain ⟨id, listener⟩ := entry
  have registered := isRegistered_of_mem member
  rw [writePass, there] at went
  dsimp only at went
  rw [if_pos registered] at went
  generalize refreshed : world.refresh performer store listener = told at went
  obtain ⟨_ | _, _⟩ := told <;> cases went
  exact deliveriesOf_lt_refresh kept inside callback refreshed

section

variable (arranged : world.Arranged) (forgotten : world.Forgotten name entry)
  (plays : ∀ action inside, Runs inside (performer action inside).2) {recipient : Nat}
  (callback : entry.2.callback = .recipient recipient)
  (inside : recipient < world.recipients.length)

include arranged forgotten plays callback inside

/-- A pass that ends well calls a recipient that is left behind, if its store is open then. -/
theorem deliveriesOf_lt_writePass {entries : List (Nat × Listener Callback)}
    (member : entry ∈ entries) {after : World}
    (went : world.writePass performer name entries = (.ok (), after)) (isOpen : after.IsOpen name) :
    world.deliveriesOf recipient < after.deliveriesOf recipient := by
  have settling := enduring_settling.keptBy plays
  have delivering := stepwise_delivers.enduring.keptBy plays
  obtain ⟨before, rest, rfl⟩ := List.append_of_mem member
  rw [writePass_append] at went
  have settles := lasting_settling.writePass settling name before world arranged
  have delivers := stepwise_delivers.writePass delivering name before world
  have still := (lasting_forgetting name entry).writePass
    ((enduring_forgetting name entry).keptBy plays) name before world forgotten
  generalize world.writePass performer name before = first at went settles delivers still
  obtain ⟨_ | _, reached⟩ := first
  · cases went
  dsimp only at went settles delivers still
  rw [← List.singleton_append, writePass_append] at went
  have turning := lasting_settling.writePass settling name [entry] reached settles.arranged
  generalize single : reached.writePass performer name [entry] = turn at went turning
  obtain ⟨_ | _, told⟩ := turn
  · cases went
  dsimp only at went turning
  have ending := lasting_settling.writePass settling name rest told turning.arranged
  have more := stepwise_delivers.writePass delivering name rest told
  rw [went] at ending more
  -- the store is open to the end, so it is when the turn of the listener comes
  have called := still.deliveriesOf_lt_turn delivering (turning.isOpen (ending.isOpen isOpen))
    callback (Nat.lt_of_lt_of_le inside delivers.grown) single
  exact Nat.lt_of_le_of_lt (delivers.counts recipient)
    (Nat.lt_of_lt_of_le called (more.counts recipient))

/-- A write that concerns a listener that is left behind and returns calls it, if its store is open
then. -/
theorem deliveriesOf_lt_write {action : Action} {store : Store Callback} {segments : Segments}
    {change : Store Callback → Store Callback} (there : world.store? name = some store)
    (changes : action.Changes name store segments change)
    (covers : entry.2.covers segments = true) {response : Response} {last : World}
    (returned : world.performWith performer action = (.ok response, last))
    (isOpen : last.IsOpen name) :
    world.deliveriesOf recipient < last.deliveriesOf recipient := by
  have settles := changes.settling world arranged
  have kept : (world.updateStore name change).Forgotten name entry := by
    cases changes with
    | write _ => exact (lasting_forgetting name entry).write name _ _ world forgotten
    | remove _ _ => exact (lasting_forgetting name entry).remove name _ world forgotten
  rw [changes.performWith there] at returned
  generalize passed : (world.updateStore name change).writePass performer name
    (store.concerned segments) = pass at returned
  obtain ⟨_ | _, after⟩ := pass
  · cases returned
  cases returned
  have ending := lasting_settling.writePass (enduring_settling.keptBy plays) name
    (store.concerned segments) _ settles.arranged
  rw [passed] at ending
  obtain ⟨found, known, registered⟩ := forgotten.exists_mem (settles.isOpen (ending.isOpen isOpen))
  obtain rfl := Option.some.inj (there.symm.trans known)
  have member : entry ∈ store.concerned segments := List.mem_filter.mpr ⟨registered, covers⟩
  have grown := (delivers_updateStore name change world).grown
  have called := deliveriesOf_lt_writePass settles.arranged kept plays callback
    (Nat.lt_of_lt_of_le inside grown) member passed isOpen
  rwa [deliveriesOf_updateStore] at called

end

/-! ### What a failed start leaves -/

/-- From a state on, a listener stays registered until its store is closed, and every write that
concerns it and returns calls it. -/
structure LeftBehind (name : Text) (entry : Nat × Listener Callback) (recipient : Nat)
    (world : World) : Prop where
  /-- Nobody can remove it. -/
  forgotten : ∀ later, world.Runs later → later.Forgotten name entry
  called : ∀ later, world.Runs later →
    ∀ performer : Performer, (∀ action inside, Runs inside (performer action inside).2) →
    ∀ action store segments change response last, later.store? name = some store →
      action.Changes name store segments change → entry.2.covers segments = true →
      later.performWith performer action = (.ok response, last) → last.IsOpen name →
      later.deliveriesOf recipient < last.deliveriesOf recipient

/-- What a listener does when it is told how its reference stands leaves a store as it is. -/
def LeavesStore (performer : Performer) (recipient : Nat) (name : Text) (world : World) : Prop :=
  ∀ update, (world.hear performer recipient .standing update).2.store? name = world.store? name

/-- A listener that at most raises leaves every store as it is. -/
theorem leavesStore_of_idle {recipient : Nat}
    (idle : ∀ position action, .act position action ∉ world.reactionsOf recipient)
    (performer : Performer) (name : Text) : world.LeavesStore performer recipient name := by
  intro update
  rw [snd_hear_of_idle idle]
  exact store?_called recipient .standing update world name

/-- When a new listener has been told how its reference stands, nobody can remove it yet. -/
theorem hear_withListener (arranged : world.Arranged)
    (plays : ∀ action inside, Runs inside (performer action inside).2) {store : Store Callback}
    (there : world.store? name = some store) (label : Text) (reference : Reference)
    (reactions : List Reaction) (snapshot : Snapshot) :
    let heard := (world.withListener label name reference reactions).hear performer
      world.recipients.length .standing (.snapshot snapshot)
    heard.2.Forgotten name (store.nextListener, ⟨reference, .recipient world.recipients.length⟩) ∧
      world.recipients.length < heard.2.recipients.length := by
  have added := settling_addRecipient label reactions world arranged
  have registered : (world.withListener label name reference reactions).Forgotten name
      (store.nextListener, ⟨reference, .recipient world.recipients.length⟩) :=
    added.arranged.forgotten_register there _
  have enduring := enduring_forgetting name
    (store.nextListener, ⟨reference, .recipient world.recipients.length⟩)
  intro heard
  have delivers : (world.withListener label name reference reactions).Delivers heard.2 :=
    stepwise_delivers.hear (stepwise_delivers.enduring.keptBy plays) nofun
  refine ⟨enduring.hear (enduring.keptBy plays) nofun registered, ?_⟩
  calc world.recipients.length
      < (world.addRecipient label reactions).2.recipients.length := by
        rw [addRecipient, List.length_append]
        exact Nat.lt_succ_self _
    _ ≤ (world.withListener label name reference reactions).recipients.length :=
        (delivers_updateStore name _ _).grown
    _ ≤ heard.2.recipients.length := delivers.grown

/-- In what a run has come to, a recipient with a listener that nobody can remove is left behind. -/
theorem Runs.leftBehind {mode : BuildMode} {stores : List (Text × Store Callback)}
    (unheard : ∀ entry ∈ stores, entry.2.listeners = []) (run : (ofStores mode stores).Runs world)
    (forgotten : world.Forgotten name entry) {recipient : Nat}
    (callback : entry.2.callback = .recipient recipient)
    (inside : recipient < world.recipients.length) : world.LeftBehind name entry recipient where
  forgotten _ further := (enduring_forgetting name entry).of_runs further forgotten
  called later further _ plays action store segments change response last there changes covers
      returned isOpen := by
    have arranged := ((run.further further).arranged unheard).1
    have still := (enduring_forgetting name entry).of_runs further forgotten
    have grown := (stepwise_delivers.enduring.of_runs further).grown
    exact deliveriesOf_lt_write arranged still plays callback (Nat.lt_of_lt_of_le inside grown)
      there changes covers returned isOpen

/-- The start of a listener fails because it is refused, and then all stores stay as they were; or
because the listener raises at what it is told first, and then it is left behind. It is the only
change of its store, if what it does when it is told leaves the store as it is. The failed start of
a live query leaves all stores as they were. -/
theorem Runs.leftBehind_of_failed {mode : BuildMode} {stores : List (Text × Store Callback)}
    (unheard : ∀ entry ∈ stores, entry.2.listeners = []) (run : (ofStores mode stores).Runs world)
    (plays : ∀ action inside, Runs inside (performer action inside).2) (name : Text) :
    (∀ label calls reactions failure after,
      world.listen performer label name calls reactions = (.error failure, after) →
      (world.RefusesListener name calls failure ∧ after.stores = world.stores) ∨
      ∃ store reference snapshot, world.store? name = some store ∧
        Reference.root.callAll calls = .ok reference ∧
        store.acceptListener reference = .ok snapshot ∧
        (world.withListener label name reference reactions).hear performer
          world.recipients.length .standing (.snapshot snapshot) = (.error failure, after) ∧
        after.LeftBehind name
          (store.nextListener, ⟨reference, .recipient world.recipients.length⟩)
          world.recipients.length ∧
        ((world.withListener label name reference reactions).LeavesStore performer
            world.recipients.length name →
          after.store? name =
            some (store.register ⟨reference, .recipient world.recipients.length⟩))) ∧
    ∀ aim reference sink failure, aim.source = .store name reference →
      (world.startQuery performer aim sink).1 = .error failure →
      (world.startQuery performer aim sink).2.stores = world.stores := by
  refine ⟨fun label calls reactions failure after failed => ?_,
    fun aim reference sink failure source failed => stores_startQuery_of_error source failed⟩
  rcases listen_eq_error failed with
    refused | ⟨store, reference, snapshot, there, reached, accepted, heard⟩
  · exact .inl refused
  refine .inr ⟨store, reference, snapshot, there, reached, accepted, heard, ?_, fun leaves => ?_⟩
  · have begun : world.Runs after := by
      have acted := Runs.act plays (.listen label name calls reactions) world
      rwa [performWith, failed] at acted
    obtain ⟨forgotten, inside⟩ :=
      hear_withListener (run.arranged unheard).1 plays there label reference reactions snapshot
    rw [heard] at forgotten inside
    exact (run.further begun).leftBehind unheard forgotten rfl inside
  · have same := leaves (.snapshot snapshot)
    rw [heard] at same
    rw [same, withListener, store?_updateStore, if_pos rfl]
    exact congrArg (Option.map _) there

/-- A listener on people that raises at once stays on the store for good. -/
theorem leftBehind_of_failed_people :
    let start := ofStores .permissive [("store", .empty)]
    let raised : Failure := .foreign .refused "listener"
    ∃ after, start.listen (performTo 0) "watch" "store" [.collection (.text "people")]
        [.raise 1 raised] = (.error raised, after) ∧
      after.LeftBehind "store" (0, ⟨.plain ["people"], .recipient 0⟩) 0 ∧
      after.store? "store" = some (Store.empty.register ⟨.plain ["people"], .recipient 0⟩) := by
  have unheard : ∀ entry ∈ [(("store" : Text), (Store.empty : Store Callback))],
      entry.2.listeners = [] := fun entry member => by rw [List.mem_singleton.mp member]; rfl
  intro start raised
  refine ⟨_, rfl, ?_⟩
  obtain ⟨refused, _⟩ | ⟨store, reference, snapshot, there, reached, _, _, left, kept⟩ :=
    (Runs.leftBehind_of_failed unheard (.stay start) (runs_performTo 0) "store").1 "watch"
      [.collection (.text "people")] [.raise 1 raised] raised _ rfl
  · cases refused
  · obtain rfl := Option.some.inj there
    obtain rfl := Except.ok.inj reached
    refine ⟨left, kept (leavesStore_of_idle (fun position action member => ?_) _ _)⟩
    have only : .act position action ∈ [Reaction.raise 1 raised] := member
    cases List.mem_singleton.mp only

/-- A start that fails can leave one more listener on the store, though the listener does nothing but
raise. -/
theorem exists_listenerLeftBehind :
    ∃ (world after : World) (calls : List NavigationCall) (failure : Failure),
      world.listen perform "watch" "store" calls [.raise 1 failure] = (.error failure, after) ∧
      (world.store? "store").map (·.listeners) = some [] ∧
      (after.store? "store").map (·.listeners) =
        some [(0, ⟨.plain ["people"], .recipient 0⟩)] :=
  ⟨ofStores .permissive [("store", .empty)], _, [.collection (.text "people")],
    .foreign .refused "listener", rfl, rfl, rfl⟩

end World

end DocQuery
