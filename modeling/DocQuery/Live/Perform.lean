/-
This file carries out actions.

Carrying out an action may tell recipients, which may react with actions of their own before the
first has ended. `World.performWith` says what an action does, given a performer for the actions
inside; `World.performTo` ties the two together up to a depth, and `World.perform` takes a depth
that suffices: every action inside is a reaction that is shown, and only so many ever are.

An action that is refused for its own arguments changes nothing. One that fails later, because
something raised, keeps what it did before.
-/

import DocQuery.Component.Decode
import DocQuery.Live.Delivery

namespace DocQuery

/-! ### Aims -/

/-- A query that is ready to be asked. -/
structure Aim where
  type : QueryType
  path : Text
  projection : Projection
  source : Source
  deriving DecidableEq, Repr

def Aim.ofBuilt (store : Text) (components : List Component) (built : Built Reference) : Aim :=
  ⟨classify components, built.reference.path, built.projection, .store store built.reference⟩

def Aim.ofFeed (feed : Feed) : Aim := ⟨feed.type, feed.path, feed.projection, .feed feed⟩

namespace World

/-- Makes a target ready, with the notices of building. Nothing is built, and so nothing noticed,
where the store is not there. -/
def aim (target : Target) (world : World) : Except Failure Aim × World :=
  match target with
  | .feed feed => (.ok (.ofFeed feed), world.bindFeed feed none)
  | .query store value =>
    match decodeQuery Json.nestingLimit value, world.store store with
    | .error failure, _ => (.error failure, world)
    | .ok _, .error failure => (.error failure, world)
    | .ok components, .ok _ =>
      let walked := Reference.build world.mode components
      (walked.outcome.map (Aim.ofBuilt store components), world.notifyAll walked.notices)

/-- Reads once where a query reads. Of a feed, this is the first thing it hands out, and it is
waited for. -/
def fetch (aim : Aim) (world : World) : Except Failure Snapshot :=
  match aim.source with
  | .store name reference => (world.store name).bind fun store => store.read reference
  | .feed feed =>
    match feed.first with
    | [] => .error (.foreign (.named "IndexError") "the feed has nothing to hand out")
    | .snapshot content :: _ => .ok content
    | .failure cause :: _ => .error cause.awaited
    | .unusable fault :: _ => .error fault

def askOnce (aim : Aim) (world : World) : Except Failure QueryResult :=
  QueryResult.ofRead aim.type aim.path aim.projection (world.fetch aim)

/-! ### Starting live queries -/

/-- Installs the listener of a live query on a store. The store is read before the listener is
registered, and told after. -/
def installOnStore (performer : Performer) (query : Nat) (name : Text) (reference : Reference)
    (world : World) : Except Failure Release × World :=
  match world.store name with
  | .error failure => (.error failure, world)
  | .ok store =>
    match store.acceptListener reference with
    | .error failure => (.error failure, world)
    | .ok snapshot =>
      match (world.updateStore name (Store.register ⟨reference, .live query⟩)).receive performer
          query .standing snapshot with
      | (.error failure, after) => (.error failure, after)
      | (.ok _, after) => (.ok (.listener name store.nextListener), after)

/-- Installs a live query where it reads. -/
def install (performer : Performer) (query : Nat) (source : Source) (world : World) :
    Except Failure Release × World :=
  match source with
  | .store name reference => world.installOnStore performer query name reference
  | .feed feed =>
    match (world.bindFeed feed (some query)).receiveGives performer query feed.first with
    | (.error failure, after) => (.error failure, after)
    | (.ok _, after) => (.ok (.feed feed.path), after)

/-- Starts a live query that delivers to a sink, and gives its number. -/
def startQuery (performer : Performer) (aim : Aim) (sink : Sink) (world : World) :
    Except Failure Nat × World :=
  let added := world.addQuery ⟨.opened aim.type aim.path, aim.projection, some aim.source, sink⟩
  match added.2.install performer added.1 aim.source with
  | (.error failure, after) => (.error failure, after)
  | (.ok release, after) => (.ok added.1, after.attach added.1 release)

/-- Binds the name of a live query. -/
def bindQuery (name : Text) (query : Nat) (world : World) : World :=
  { world with queryNames := (name, query) :: world.queryNames }

def bindStream (name : Text) (stream : Nat) (world : World) : World :=
  { world with streamNames := (name, stream) :: world.streamNames }

/-- Starts a live query with a recipient. -/
def subscribeTo (performer : Performer) (name : Text) (aim : Aim) (recipient : Nat)
    (world : World) : Except Failure Response × World :=
  match world.startQuery performer aim (.recipient recipient) with
  | (.error failure, after) => (.error failure, after)
  | (.ok query, after) => (.ok .done, after.bindQuery name query)

/-- Starts a live query with a stream. -/
def streamFrom (performer : Performer) (name : Text) (aim : Aim) (world : World) :
    Except Failure Response × World :=
  let added := world.addStream
  match added.2.startQuery performer aim (.stream added.1) with
  | (.error failure, after) => (.error failure, after)
  | (.ok _, after) => (.ok .done, after.bindStream name added.1)

/-! ### Listeners on references -/

/-- Installs a recipient as a listener on a reference, and gives the id of the listener. -/
def installRecipient (performer : Performer) (recipient : Nat) (name : Text)
    (reference : Reference) (world : World) : Except Failure Nat × World :=
  match world.store name with
  | .error failure => (.error failure, world)
  | .ok store =>
    match store.acceptListener reference with
    | .error failure => (.error failure, world)
    | .ok snapshot =>
      match (world.updateStore name (Store.register ⟨reference, .recipient recipient⟩)).hear
          performer recipient .standing (.snapshot snapshot) with
      | (.error failure, after) => (.error failure, after)
      | (.ok _, after) => (.ok store.nextListener, after)

/-- Installs a new recipient on the reference that calls lead to, in a store that has to be
there. -/
def listen (performer : Performer) (name store : Text) (calls : List NavigationCall)
    (reactions : List Reaction) (world : World) : Except Failure Response × World :=
  match world.store store, Reference.root.callAll calls with
  | .error failure, _ => (.error failure, world)
  | .ok _, .error failure => (.error failure, world)
  | .ok _, .ok reference =>
    let added := world.addRecipient name reactions
    match added.2.installRecipient performer added.1 store reference with
    | (.error failure, after) => (.error failure, after)
    | (.ok id, after) =>
      (.ok .done, { after with listenerNames := (name, store, id) :: after.listenerNames })

/-- Removes the listener of a name. -/
def unlisten (name : Text) (world : World) : Response × World :=
  match world.listenerNames.lookup name with
  | none => (.unknown, world)
  | some (store, id) => (.done, world.updateStore store (Store.unregister id))

/-! ### Writes -/

def afterPass (pass : Except Failure Unit × World) : Except Failure Response × World :=
  (pass.1.map fun _ => .done, pass.2)

/-- Writes a document and tells the listeners it concerns. -/
def writeDocument (performer : Performer) (name : Text) (path data : Value) (world : World) :
    Except Failure Response × World :=
  match world.store name, Store.acceptWrite path data with
  | .error failure, _ => (.error failure, world)
  | .ok _, .error failure => (.error failure, world)
  | .ok store, .ok (segments, entries) =>
    afterPass <| (world.updateStore name (Store.write segments entries)).writePass performer name
      (store.concerned segments)

/-- Removes a document, if it is there, and tells the listeners it concerned. -/
def removeDocument (performer : Performer) (name : Text) (path : Value) (world : World) :
    Except Failure Response × World :=
  match world.store name, Segments.ofDocumentPath path with
  | .error failure, _ => (.error failure, world)
  | .ok _, .error failure => (.error failure, world)
  | .ok store, .ok segments =>
    if store.holds segments then
      afterPass <| (world.updateStore name (Store.remove segments)).writePass performer name
        (store.concerned segments)
    else (.ok .done, world)

/-- Reports a failure to the listeners on a path. -/
def reportFailure (performer : Performer) (name : Text) (path : Value) (failure : Failure)
    (world : World) : Except Failure Response × World :=
  match world.store name, path.toName with
  | .error missing, _ => (.error missing, world)
  | .ok _, .error refused => (.error refused, world)
  | .ok store, .ok given =>
    afterPass <| world.reportPass performer failure (store.listenersAt (Segments.ofPath given))

/-! ### Actions -/

/-- What an action does, given a performer for the actions of the recipients it tells. -/
def performWith (performer : Performer) (action : Action) (world : World) :
    Except Failure Response × World :=
  match action with
  | .write store path data => world.writeDocument performer store path data
  | .remove store path => world.removeDocument performer store path
  | .report store path failure => world.reportFailure performer store path failure
  | .closeStore store =>
    ((world.store store).map fun _ => .done, world.updateStore store Store.close)
  | .describe store => ((world.standing store).map .store, world)
  | .listen name store calls reactions => world.listen performer name store calls reactions
  | .unlisten name =>
    let unlistened := world.unlisten name
    (.ok unlistened.1, unlistened.2)
  | .subscribe name target reactions =>
    match world.aim target with
    | (.error failure, after) => (.error failure, after)
    | (.ok aim, after) =>
      let added := after.addRecipient name reactions
      added.2.subscribeTo performer name aim added.1
  | .cancel name =>
    match world.queryNames.lookup name with
    | none => (.ok .unknown, world)
    | some query => (.ok .done, world.cancelQuery query)
  | .leave name =>
    match (world.queryNames.lookup name).bind fun query => world.queries[query]?.map (query, ·) with
    | none => (.ok .unknown, world)
    | some (query, found) => (.ok (.active found.handle.active), world.cancelQuery query)
  | .inspect name =>
    match (world.queryNames.lookup name).bind world.queryStanding? with
    | none => (.ok .unknown, world)
    | some standing => (.ok (.query standing), world)
  | .announce name give =>
    match world.feedNames.lookup name with
    | none => (.ok .unknown, world)
    | some none => (.error (.foreign .unsuitable "nobody watches the feed"), world)
    | some (some query) => afterPass (world.receiveGive performer query give)
  | .openStream name target =>
    match world.aim target with
    | (.error failure, after) => (.error failure, after)
    | (.ok aim, after) => after.streamFrom performer name aim
  | .closeStream name =>
    match world.streamNames.lookup name with
    | none => (.ok .unknown, world)
    | some stream => (.ok .done, world.closeStream stream)
  | .inspectStream name =>
    match (world.streamNames.lookup name).bind world.streamStanding? with
    | none => (.ok .unknown, world)
    | some standing => (.ok (.stream standing), world)

/-- Carries out an action up to a depth of actions inside actions. An action that lies deeper is
left out, which is marked. -/
def performTo : Nat → Performer
  | 0, _, world => (.ok .done, { world with cutShort := true })
  | depth + 1, action, world => world.performWith (performTo depth) action

/-- A depth that no action goes beyond: one for the action itself, and one for each reaction that
can be shown. -/
def depthFor (action : Action) (world : World) : Nat := world.weight + action.weight + 1

/-- Carries out an action. -/
def perform (action : Action) (world : World) : Except Failure Response × World :=
  performTo (world.depthFor action) action world

end World

end DocQuery
