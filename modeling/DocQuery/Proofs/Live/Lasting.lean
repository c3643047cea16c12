/-
This file says what keeps a relation between states that no state is an exception to.

A relation that single operations keep, and that can be composed, is kept by deliveries and passes,
whatever is done inside them, if what is done inside keeps it too. All it may ask for is that a result
that is told could have been made for the sink it is told to. Starts and installations may be left to
the relation: what happens between the registration of a listener and the end of its start may be an
exception to it. A relation that has no such exceptions is kept by them if it is kept by their steps.

These are terms under which every state is good, so every run keeps to them.
-/

import DocQuery.Proofs.Live.Keeping
import DocQuery.Proofs.Live.Tracing

namespace DocQuery

theorem Update.eq_ok_of_ofResult {delivery : Except Failure QueryResult} {result : QueryResult}
    (told : ofResult delivery = .result result) : delivery = .ok result := by
  cases delivery <;> cases told
  rfl

namespace World

/-! ### Relations that last -/

/-- A relation that can be composed, and that every operation keeps which calls nobody or only
tells. -/
structure Lasting (relation : World → World → Prop) : Prop where
  refl (world : World) : relation world world
  trans {first second third : World} :
    relation first second → relation second third → relation first third
  countDelivery (index : Nat) (world : World) : relation world (world.countDelivery index)
  tell {index : Nat} {occasion : Occasion} {update : Update} {world : World}
    (makes : ∀ result, update = .result result → world.Makes (.recipient index) result) :
    relation world (world.tell index occasion update)
  count (query : Nat) (world : World) :
    relation world (world.updateHandle query Subscription.count)
  push {index : Nat} {delivery : Except Failure QueryResult} {world : World}
    (makes : ∀ result, delivery = .ok result → world.Makes (.stream index) result) :
    relation world (world.updateQueue index (Stream.push delivery))
  take {world : World} {streams : List LiveStream}
    (same : streams.length = world.streams.length)
    (fewer : ∀ (index : Nat) (after : LiveStream), streams[index]? = some after →
      ∃ before, world.streams[index]? = some before ∧ after.query = before.query ∧
        after.queue.items ⊆ before.queue.items) :
    relation world { world with streams := streams }
  remark {world : World} {events : List Event} (fewer : events ⊆ world.events)
    (notices : List Notice) (cutShort : Bool) :
    relation world { world with events := events, notices := notices, cutShort := cutShort }
  write (name : Text) (segments : Segments) (data : Entries) (world : World) :
    relation world (world.updateStore name (Store.write segments data))
  remove (name : Text) (segments : Segments) (world : World) :
    relation world (world.updateStore name (Store.remove segments))
  close (name : Text) (world : World) : relation world (world.updateStore name Store.close)
  unlisten (label : Text) (world : World) : relation world (world.unlisten label).2
  cancelQuery (query : Nat) (world : World) : relation world (world.cancelQuery query)
  closeStream (stream : Nat) (world : World) : relation world (world.closeStream stream)
  bindFeed (feed : Feed) (watcher : Option Nat) (world : World) :
    relation world (world.bindFeed feed watcher)

/-- A relation between the state in front of everything that a performer carries out, and the state
behind it. -/
def KeptBy (relation : World → World → Prop) (performer : Performer) : Prop :=
  ∀ action world, relation world (performer action world).2

/-- A lasting relation that installations and starts keep, whatever is done inside their first
deliveries. -/
structure Enduring (relation : World → World → Prop) : Prop extends Lasting relation where
  listen {performer : Performer} (kept : KeptBy relation performer) (label name : Text)
    (calls : List NavigationCall) (reactions : List Reaction) (world : World) :
    relation world (world.listen performer label name calls reactions).2
  subscribe {performer : Performer} (kept : KeptBy relation performer) (label : Text)
    (reactions : List Reaction) (aim : Aim) (world : World) :
    relation world ((world.addRecipient label reactions).2.subscribeTo performer label aim
      world.recipients.length).2
  stream {performer : Performer} (kept : KeptBy relation performer) (label : Text) (aim : Aim)
    (world : World) : relation world (world.streamFrom performer label aim).2

/-- A lasting relation that the single steps of installations and starts keep. A live query is added
together with its sink. -/
structure Stepwise (relation : World → World → Prop) : Prop extends Lasting relation where
  register (name : Text) (listener : Listener Callback) (world : World) :
    relation world (world.updateStore name (Store.register listener))
  addRecipient (label : Text) (reactions : List Reaction) (world : World) :
    relation world (world.addRecipient label reactions).2
  newRecipient (label : Text) (reactions : List Reaction) (aim : Aim) (world : World) :
    relation world ((world.addRecipient label reactions).2.addQuery
      (queryFor aim (.recipient world.recipients.length))).2
  newStream (aim : Aim) (world : World) :
    relation world (world.addStream.2.addQuery (queryFor aim (.stream world.streams.length))).2
  attach (query : Nat) (release : Release) (world : World) :
    relation world (world.attach query release)
  names (listenerNames : List (Text × Text × Nat)) (queryNames streamNames : List (Text × Nat))
    (world : World) : relation world { world with
      listenerNames := listenerNames, queryNames := queryNames, streamNames := streamNames }

/-! ### Lasting relations as terms -/

/-- The terms of a relation that asks only where results come from. -/
def termsOf (relation : World → World → Prop) : Terms where
  good _ := True
  allowed _ := True
  callable _ _ := True
  owed world sink _ update := ∀ result, update = .result result → world.Makes sink result
  relation := relation

/-- What comes of a read could have been made for whom it is told to. -/
theorem owes_termsOf (relation : World → World → Prop) (callback : Callback) (occasion : Occasion)
    (read : Except Failure Snapshot) (world : World) :
    (termsOf relation).Owes callback occasion read world := by
  cases callback with
  | recipient index =>
    intro result told
    cases read <;> cases told
  | live query =>
    intro found present result told
    refine ⟨query, found, present, rfl, ?_⟩
    cases read with
    | error failure => cases told
    | ok snapshot =>
      exact ⟨found.handle.type, found.handle.path, snapshot, Update.eq_ok_of_ofResult told⟩

theorem KeptBy.termsOf {relation : World → World → Prop} {performer : Performer}
    (kept : KeptBy relation performer) : (termsOf relation).KeptBy performer :=
  fun action world _ _ => kept action world

namespace Lasting

variable {relation : World → World → Prop} (lasting : Lasting relation) {performer : Performer}

include lasting

theorem acting : (termsOf relation).Acting where
  refl _ := lasting.refl _
  trans := lasting.trans
  good _ := trivial
  scripts _ _ _ _ _ _ := trivial
  countDelivery _ _ := lasting.countDelivery _ _
  tell _ owed := lasting.tell owed
  count query _ _ := lasting.count query _
  push _ owed := lasting.push fun result made => owed result (made ▸ rfl)
  notifyAll notices world _ :=
    lasting.remark (List.Subset.refl _) (world.notices ++ notices) world.cutShort
  counted owed result told := (leads_updateHandle _ _ _).makes (owed result told)
  noticed owed result told := (leads_notify _ _).makes (owed result told)
  listening _ _ _ _ := trivial
  subscribing _ _ _ _ := trivial
  report _ _ _ _ _ := owes_termsOf relation _ .report _ _
  announce _ _ _ read := owes_termsOf relation (.live _) .report read _
  read _ _ _ _ _ := owes_termsOf relation _ .standing _ _
  write name _ _ _ _ _ _ _ := lasting.write name _ _ _
  remove name _ _ _ _ _ := lasting.remove name _ _
  close name _ _ := lasting.close name _
  unlisten label _ _ := lasting.unlisten label _
  cancelQuery query _ _ := lasting.cancelQuery query _
  closeStream stream _ _ := lasting.closeStream stream _
  bindFeed feed _ _ _ _ := lasting.bindFeed feed _ _
  cutShort {world} _ := lasting.remark (List.Subset.refl _) world.notices true

theorem react (kept : KeptBy relation performer) (recipient : Nat) (reactions : List Reaction)
    (world : World) : relation world (react performer recipient reactions world).2 :=
  lasting.acting.react kept.termsOf recipient (fun _ _ _ => trivial) trivial

theorem hear (kept : KeptBy relation performer) {recipient : Nat} {occasion : Occasion}
    {update : Update} {world : World}
    (makes : ∀ result, update = .result result → world.Makes (.recipient recipient) result) :
    relation world (world.hear performer recipient occasion update).2 :=
  lasting.acting.hear kept.termsOf trivial makes

theorem receive (kept : KeptBy relation performer) (query : Nat) (occasion : Occasion)
    (snapshot : Snapshot) (world : World) :
    relation world (world.receive performer query occasion snapshot).2 :=
  lasting.acting.receive kept.termsOf trivial (owes_termsOf relation _ _ _ _)

theorem receiveGives (kept : KeptBy relation performer) (query : Nat) (gives : List Give)
    (world : World) : relation world (world.receiveGives performer query gives).2 :=
  lasting.acting.receiveGives kept.termsOf trivial fun _ _ _ => owes_termsOf relation _ _ _ _

theorem writePass (kept : KeptBy relation performer) (name : Text)
    (entries : List (Nat × Listener Callback)) (world : World) :
    relation world (world.writePass performer name entries).2 :=
  lasting.acting.writePass kept.termsOf name trivial
    fun _ _ _ _ _ => owes_termsOf relation _ _ _ _

end Lasting

namespace Stepwise

variable {relation : World → World → Prop} (stepwise : Stepwise relation) {performer : Performer}

include stepwise

theorem starting : (termsOf relation).Starting where
  toActing := stepwise.acting
  register _ _ _ := stepwise.register _ _ _
  addRecipient label _ _ _ _ := stepwise.addRecipient label _ _
  newListener _ _ _ := trivial
  newRecipient label _ _ aim _ _ := ⟨stepwise.newRecipient label _ aim _, trivial⟩
  newStream aim _ _ := ⟨stepwise.newStream aim _, trivial⟩
  attach query release _ _ := stepwise.attach query release _
  names listenerNames queryNames streamNames _ _ :=
    stepwise.names listenerNames queryNames streamNames _

theorem subscribeTo (kept : KeptBy relation performer) (label : Text) (aim : Aim)
    (recipient : Nat) (world : World) :
    relation (world.addQuery (queryFor aim (.recipient recipient))).2
      (world.subscribeTo performer label aim recipient).2 :=
  stepwise.starting.subscribeTo kept.termsOf label aim recipient trivial trivial

theorem streamFrom (kept : KeptBy relation performer) (label : Text) (aim : Aim)
    (world : World) :
    relation (world.addStream.2.addQuery (queryFor aim (.stream world.streams.length))).2
      (world.streamFrom performer label aim).2 :=
  stepwise.starting.streamFrom kept.termsOf label aim trivial trivial

theorem enduring : Enduring relation where
  toLasting := stepwise.toLasting
  listen kept _ _ _ _ _ := stepwise.starting.listen kept.termsOf trivial trivial
  subscribe kept label _ aim _ :=
    stepwise.starting.running.subscribe kept.termsOf label (fun _ _ _ => trivial) aim trivial
  stream kept label aim _ := stepwise.starting.running.stream kept.termsOf label aim trivial

end Stepwise

namespace Enduring

variable {relation : World → World → Prop} (enduring : Enduring relation)

include enduring

theorem spanning : (termsOf relation).Spanning where
  toActing := enduring.acting
  listen kept label name calls reactions _ _ _ :=
    enduring.listen (fun action world => kept action world trivial trivial) label name calls
      reactions _
  subscribe kept label reactions _ aim _ _ :=
    enduring.subscribe (fun action world => kept action world trivial trivial) label reactions aim _
  stream kept label aim _ _ :=
    enduring.stream (fun action world => kept action world trivial trivial) label aim _
  everything _ := trivial
  everybody callback read _ _ := owes_termsOf relation callback .report read _
  take same fewer _ := enduring.take same fewer
  remark fewer notices cutShort _ := enduring.remark fewer notices cutShort

/-- An enduring relation holds between the ends of every run. -/
theorem of_runs {first last : World} (run : first.Runs last) : relation first last :=
  enduring.spanning.of_runs run trivial

end Enduring

end World

end DocQuery
