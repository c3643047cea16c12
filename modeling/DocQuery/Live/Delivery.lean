/-
This file says how updates reach listeners.

A recipient that is told something may react, and a reaction may be an action of any kind, which
in turn tells other recipients. How actions are carried out is therefore a parameter of
everything here, the `Performer`; `Live.Perform` supplies it.

A live query stands between a store and its listener. It turns snapshots into results, drops
everything once it is cancelled, and keeps what its listener raises from the store. A listener
that is installed on a reference itself has no such guard: what it raises ends the pass it was
called in.

A pass tells listeners one after the other, in the order of registration. A pass that follows a
write skips those that were removed while it went on, and reads the store anew for each; a pass
that reports a failure skips none.
-/

import DocQuery.Live.World

namespace DocQuery

/-- How actions are carried out. -/
abbrev Performer := Action → World → Except Failure Response × World

namespace World

/-! ### Recipients -/

def showReaction (performer : Performer) (reaction : Reaction) (world : World) :
    Except Failure Unit × World :=
  match reaction with
  | .raise _ failure => (.error failure, world)
  | .act _ action =>
    let performed := performer action world
    (performed.1.map fun _ => (), performed.2)

/-- Goes through reactions in order and shows those whose position is the number of deliveries
that the recipient has had by then; the first that raises ends it. -/
def react (performer : Performer) (recipient : Nat) :
    List Reaction → World → Except Failure Unit × World
  | [], world => (.ok (), world)
  | reaction :: rest, world =>
    if reaction.position = world.deliveriesOf recipient then
      match world.showReaction performer reaction with
      | (.error failure, after) => (.error failure, after)
      | (.ok _, after) => react performer recipient rest after
    else react performer recipient rest world

/-- Tells a recipient something and lets it react. It looks at what it is told first; where that
fails, the delivery is counted, but nothing of it is kept and nothing follows. -/
def hear (performer : Performer) (recipient : Nat) (occasion : Occasion) (update : Update)
    (world : World) : Except Failure Unit × World :=
  match update.examine with
  | .error failure => (.error failure, world.countDelivery recipient)
  | .ok _ =>
    react performer recipient (world.reactionsOf recipient) (world.tell recipient occasion update)

/-! ### Live queries -/

/-- Hands a delivery to where a live query delivers to. What a recipient raises is dropped with a
notice. -/
def handOver (performer : Performer) (found : LiveQuery) (occasion : Occasion)
    (delivery : Except Failure QueryResult) (world : World) : World :=
  match found.sink with
  | .stream stream => world.updateQueue stream (Stream.push delivery)
  | .recipient recipient =>
    match world.hear performer recipient occasion (.ofResult delivery) with
    | (.ok _, after) => after
    | (.error _, after) => after.notify (.listenerRaised found.handle.path)

/-- Makes a delivery of a live query, if it is active. -/
def deliver (performer : Performer) (query : Nat) (occasion : Occasion)
    (delivery : Except Failure QueryResult) (world : World) : World :=
  match world.queries[query]? with
  | none => world
  | some found =>
    if found.handle.active then
      handOver performer found occasion delivery (world.updateHandle query Subscription.count)
    else world

/-- Takes in a snapshot for a live query. A missing document and a store's refusal are delivered;
any other failure comes through. -/
def receive (performer : Performer) (query : Nat) (occasion : Occasion) (snapshot : Snapshot)
    (world : World) : Except Failure Unit × World :=
  match world.queries[query]? with
  | none => (.ok (), world)
  | some found =>
    match QueryResult.ofSnapshot found.handle.type found.handle.path found.projection snapshot with
    | .ok result => (.ok (), world.deliver performer query occasion (.ok result))
    | .error failure =>
      if failure.isDeliverable then
        (.ok (), world.deliver performer query occasion (.error failure))
      else (.error failure, world)

/-- Takes in a failure for a live query, with a notice. -/
def receiveFailure (performer : Performer) (query : Nat) (occasion : Occasion)
    (failure : Failure) (world : World) : World :=
  match world.queries[query]? with
  | none => world
  | some found =>
    (world.notify (.storeFailed found.handle.path failure)).deliver performer query occasion
      (.error failure)

/-- Takes in what a feed hands out. -/
def receiveGive (performer : Performer) (query : Nat) (give : Give) (world : World) :
    Except Failure Unit × World :=
  match give with
  | .snapshot content => world.receive performer query .report content
  | .failure cause => (.ok (), world.receiveFailure performer query .report cause)
  | .unusable fault => (.error fault, world)

/-- Takes in, in order, what a feed hands out; the first failure that comes through ends it. -/
def receiveGives (performer : Performer) (query : Nat) :
    List Give → World → Except Failure Unit × World
  | [], world => (.ok (), world)
  | give :: rest, world =>
    match world.receiveGive performer query give with
    | (.error failure, after) => (.error failure, after)
    | (.ok _, after) => receiveGives performer query rest after

/-! ### Callbacks and passes -/

def callSnapshot (performer : Performer) (callback : Callback) (occasion : Occasion)
    (snapshot : Snapshot) (world : World) : Except Failure Unit × World :=
  match callback with
  | .recipient index => world.hear performer index occasion (.snapshot snapshot)
  | .live query => world.receive performer query occasion snapshot

def callFailure (performer : Performer) (callback : Callback) (occasion : Occasion)
    (failure : Failure) (world : World) : Except Failure Unit × World :=
  match callback with
  | .recipient index => world.hear performer index occasion (.failure failure)
  | .live query => (.ok (), world.receiveFailure performer query occasion failure)

/-- Tells a listener how its reference stands in a store. A store's refusal is told too; any
other failure of reading comes through. -/
def refresh (performer : Performer) (store : Store Callback) (listener : Listener Callback)
    (world : World) : Except Failure Unit × World :=
  match store.read listener.reference with
  | .ok snapshot => world.callSnapshot performer listener.callback .standing snapshot
  | .error failure =>
    if failure.isStore then world.callFailure performer listener.callback .standing failure
    else (.error failure, world)

/-- The pass that follows a write. -/
def writePass (performer : Performer) (name : Text) :
    List (Nat × Listener Callback) → World → Except Failure Unit × World
  | [], world => (.ok (), world)
  | (id, listener) :: rest, world =>
    match world.store? name with
    | none => (.ok (), world)
    | some store =>
      if store.isRegistered id then
        match world.refresh performer store listener with
        | (.error failure, after) => (.error failure, after)
        | (.ok _, after) => writePass performer name rest after
      else writePass performer name rest world

def reportPass (performer : Performer) (failure : Failure) :
    List (Nat × Listener Callback) → World → Except Failure Unit × World
  | [], world => (.ok (), world)
  | (_, listener) :: rest, world =>
    match world.callFailure performer listener.callback .report failure with
    | (.error raised, after) => (.error raised, after)
    | (.ok _, after) => reportPass performer failure rest after

end World

end DocQuery
