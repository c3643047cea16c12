/-
This file defines the state in which live queries run, and the ways it changes that call nobody.

Stores are known by name. Recipients, live queries and streams are kept in tables that only grow,
so that their numbers stay good. Names are bound only when the call that created a thing has
returned, but for those of feeds, which are bound at once; a name that is bound again stands for
the newer thing. What listeners were told and what notices were given is kept in order.
-/

import DocQuery.Builder
import DocQuery.Live.Script
import DocQuery.Live.Stream
import DocQuery.Live.Subscription
import DocQuery.Result
import DocQuery.Store.Documents

namespace DocQuery

/-! ### Parts -/

/-- The callback of a store's listener: a recipient that is told snapshots, or a live query. -/
inductive Callback
  | recipient (index : Nat)
  | live (query : Nat)
  deriving DecidableEq, Repr

/-- What stops the updates of a live query. -/
inductive Release
  | listener (store : Text) (id : Nat)
  | feed (path : Text)
  /-- A watch of a hosted store, which only the store's client can stop. -/
  | watch (index : Nat)
  deriving DecidableEq, Repr

/-- Where a query reads: a reference into a store, or a feed. -/
inductive Source
  | store (name : Text) (reference : Reference)
  | feed (source : Feed)
  deriving DecidableEq, Repr

/-- Where a live query delivers to. -/
inductive Sink
  | recipient (index : Nat)
  | stream (index : Nat)
  deriving DecidableEq, Repr

/-- A listener that is told things: its name, how many deliveries it has had, and its reactions. -/
structure Recipient where
  name : Text
  deliveries : Nat
  reactions : List Reaction

/-- A live query: its handle, its projection, where it reads, and where it delivers to. -/
structure LiveQuery where
  handle : Subscription Release
  projection : Projection
  /-- None for a reference into a hosted store, which keeps its references itself. -/
  source : Option Source
  sink : Sink
  deriving DecidableEq, Repr

structure LiveStream where
  queue : Stream (Except Failure QueryResult)
  query : Nat

/-- What a recipient is told. -/
inductive Update
  | snapshot (content : Snapshot)
  | result (content : QueryResult)
  | failure (cause : Failure)
  deriving DecidableEq, Repr

/-- What a delivery of a live query tells. -/
def Update.ofResult : Except Failure QueryResult → Update
  | .ok content => .result content
  | .error cause => .failure cause

/-- What looking at an update meets. Results and failures can always be looked at. -/
def Update.examine : Update → Except Failure Unit
  | .snapshot content => content.examine
  | .result _ | .failure _ => .ok ()

/-- Why something is told. -/
inductive Occasion
  /-- A listener is new, or a write concerns it: it is told how its reference stands. -/
  | standing
  /-- A failure is reported, or a source outside the stores hands something out. -/
  | report
  deriving DecidableEq, Repr

/-- A delivery that was made: the recipient, its name, which of its deliveries it was, on which
occasion, and what it was told. -/
structure Event where
  recipient : Nat
  name : Text
  position : Nat
  occasion : Occasion
  update : Update
  deriving DecidableEq, Repr

/-- The state of stores and live queries. -/
structure World where
  /-- How queries are built. -/
  mode : BuildMode
  stores : List (Text × Store Callback)
  recipients : List Recipient
  queries : List LiveQuery
  streams : List LiveStream
  /-- The feeds that were released, by path. -/
  released : List Text
  /-- The listeners that were installed on references: store and id. -/
  listenerNames : List (Text × Text × Nat)
  queryNames : List (Text × Nat)
  streamNames : List (Text × Nat)
  /-- The feeds, each with the live query that watches it, if there is one. -/
  feedNames : List (Text × Option Nat)
  events : List Event
  notices : List Notice
  /-- Whether a script went deeper than it was allowed to. -/
  cutShort : Bool

namespace World

/-- A state with stores and nothing else. -/
def ofStores (mode : BuildMode) (stores : List (Text × Store Callback)) : World :=
  { mode := mode, stores := stores, recipients := [], queries := [], streams := [],
    released := [], listenerNames := [], queryNames := [], streamNames := [], feedNames := [],
    events := [], notices := [], cutShort := false }

/-- The state with nothing told and no notice given yet. -/
def fresh (world : World) : World := { world with events := [], notices := [] }

/-! ### Stores -/

def replaceStore (name : Text) (store : Store Callback) :
    List (Text × Store Callback) → List (Text × Store Callback)
  | [] => []
  | (found, old) :: rest =>
    if found = name then (found, store) :: rest else (found, old) :: replaceStore name store rest

def store? (name : Text) (world : World) : Option (Store Callback) := world.stores.lookup name

/-- The store of a name that has to be there. -/
def store (name : Text) (world : World) : Except Failure (Store Callback) :=
  match world.store? name with
  | some found => .ok found
  | none => .error (.foreign .absentKey name)

def updateStore (name : Text) (change : Store Callback → Store Callback) (world : World) :
    World :=
  match world.store? name with
  | some found => { world with stores := replaceStore name (change found) world.stores }
  | none => world

/-- Whether a listener is registered with a store. -/
def isRegistered (name : Text) (id : Nat) (world : World) : Bool :=
  match world.store? name with
  | some found => found.isRegistered id
  | none => false

def standing (name : Text) (world : World) : Except Failure StoreStanding :=
  (world.store name).map fun found =>
    ⟨found.paths, found.listeners.length, found.closed, world.released⟩

/-! ### Telling -/

/-- Gives a notice. -/
def notify (notice : Notice) (world : World) : World :=
  { world with notices := world.notices ++ [notice] }

/-- Gives notices in order. -/
def notifyAll (notices : List Notice) (world : World) : World :=
  { world with notices := world.notices ++ notices }

/-- Adds a recipient under the next number. -/
def addRecipient (name : Text) (reactions : List Reaction) (world : World) : Nat × World :=
  (world.recipients.length,
    { world with recipients := world.recipients ++ [⟨name, 0, reactions⟩] })

/-- Counts a delivery of a recipient. -/
def countDelivery (index : Nat) (world : World) : World :=
  { world with
    recipients :=
      world.recipients.modify index fun recipient =>
        { recipient with deliveries := recipient.deliveries + 1 } }

/-- Tells a recipient something: the delivery is counted and kept. -/
def tell (index : Nat) (occasion : Occasion) (update : Update) (world : World) : World :=
  match world.recipients[index]? with
  | none => world
  | some recipient =>
    { world.countDelivery index with
      events :=
        world.events ++ [⟨index, recipient.name, recipient.deliveries + 1, occasion, update⟩] }

/-- The number of deliveries that a recipient has had. -/
def deliveriesOf (index : Nat) (world : World) : Nat :=
  match world.recipients[index]? with
  | none => 0
  | some recipient => recipient.deliveries

/-- The reactions of a recipient. -/
def reactionsOf (index : Nat) (world : World) : List Reaction :=
  match world.recipients[index]? with
  | none => []
  | some recipient => recipient.reactions

/-- How many reactions the recipients can still show, at most. -/
def weight (world : World) : Nat :=
  world.recipients.foldr (fun recipient total => reactionWeight recipient.reactions + total) 0

/-! ### Feeds -/

/-- Binds the name of a feed that is watched by a live query, or by nobody. -/
def bindFeed (feed : Feed) (watcher : Option Nat) (world : World) : World :=
  { world with feedNames := (feed.name, watcher) :: world.feedNames }

/-! ### Live queries -/

/-- Adds a live query under the next number. -/
def addQuery (query : LiveQuery) (world : World) : Nat × World :=
  (world.queries.length, { world with queries := world.queries ++ [query] })

/-- Changes the handle of a live query. -/
def updateHandle (query : Nat) (change : Subscription Release → Subscription Release)
    (world : World) : World :=
  { world with
    queries :=
      world.queries.modify query fun found => { found with handle := change found.handle } }

/-- Carries out a release, as far as it concerns stores and feeds. -/
def carryOut (release : Release) (world : World) : World :=
  match release with
  | .listener name id => world.updateStore name (Store.unregister id)
  | .feed path => { world with released := world.released ++ [path] }
  | .watch _ => world

/-- Carries out a release, if there is one. -/
def carryOutAny (release : Option Release) (world : World) : World :=
  match release with
  | some found => world.carryOut found
  | none => world

/-- Gives a live query its release. -/
def attach (query : Nat) (release : Release) (world : World) : World :=
  match world.queries[query]? with
  | none => world
  | some found =>
    let attached := found.handle.attach release
    (world.updateHandle query fun _ => attached.2).carryOutAny attached.1

/-- Cancels a live query. -/
def cancelQuery (query : Nat) (world : World) : World :=
  match world.queries[query]? with
  | none => world
  | some found =>
    let cancelled := found.handle.cancel
    (world.updateHandle query fun _ => cancelled.2).carryOutAny cancelled.1

/-- How a live query stands. -/
def queryStanding? (query : Nat) (world : World) : Option QueryStanding :=
  world.queries[query]?.map fun found =>
    ⟨found.handle.active, found.handle.updates, found.handle.type, found.handle.path,
      found.handle.shown⟩

/-! ### Streams -/

/-- Adds a stream under the next number, for the live query that is added next. -/
def addStream (world : World) : Nat × World :=
  (world.streams.length,
    { world with streams := world.streams ++ [⟨.empty, world.queries.length⟩] })

def updateQueue (stream : Nat)
    (change : Stream (Except Failure QueryResult) → Stream (Except Failure QueryResult))
    (world : World) : World :=
  { world with
    streams := world.streams.modify stream fun found => { found with queue := change found.queue } }

/-- Closes a stream and cancels its live query. -/
def closeStream (stream : Nat) (world : World) : World :=
  match world.streams[stream]? with
  | none => world
  | some found =>
    if found.queue.closed then world
    else (world.cancelQuery found.query).updateQueue stream Stream.close

def streamStanding? (stream : Nat) (world : World) : Option StreamStanding :=
  match world.streams[stream]? with
  | none => none
  | some found =>
    (world.queryStanding? found.query).map fun query =>
      ⟨found.queue.closed, query.active, query.updates⟩

end World

end DocQuery
