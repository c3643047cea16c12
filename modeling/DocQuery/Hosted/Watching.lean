/-
This file says how watches of a hosted store tell their callbacks.

The client tells a watch lists of documents, whenever it likes and even after the watch was
stopped. What it tells becomes a snapshot or a bad snapshot at once. Inside an event loop the
callback is called only when the loop goes on, first told first called, and what it raises then
is dropped; outside one it is called there and then, and what it raises comes through. A listener
may react with actions of its own. They reach feeds and the live queries on them; there is no store
in memory beside a hosted one.

Live queries watch through the same callbacks. A cancelled one drops what still waits for it.
-/

import DocQuery.Hosted.Reading
import DocQuery.Live.Perform

namespace DocQuery

/-! ### States -/

/-- A watch: what it watches, and the callback to call. -/
structure Watch where
  reference : HostedReference
  callback : Callback
  deriving DecidableEq, Repr

/-- A call of a callback that waits for the loop: with a snapshot, or with a failure. -/
structure Dispatch where
  callback : Callback
  told : Except Failure Snapshot

/-- The state around a hosted store: whether an event loop runs, the client, the recipients and
live queries, the watches, and the calls that wait for the loop, oldest first. -/
structure HostedWorld where
  looped : Bool
  client : NativeClient
  world : World
  watches : List Watch
  waiting : List Dispatch

namespace HostedWorld

/-- The state in which nothing has happened yet. -/
def start (looped : Bool) (mode : BuildMode) : HostedWorld :=
  ⟨looped, .willing, .ofStores mode [], [], []⟩

/-! ### Callbacks -/

/-- Calls a callback with what it is told. -/
def call (dispatch : Dispatch) (world : World) : Except Failure Unit × World :=
  match dispatch.told with
  | .ok snapshot => world.callSnapshot World.perform dispatch.callback .report snapshot
  | .error failure => world.callFailure World.perform dispatch.callback .report failure

/-- Passes on a call: at once, or to the loop. -/
def dispatch (call : Dispatch) (hosted : HostedWorld) : Except Failure Unit × HostedWorld :=
  if hosted.looped then (.ok (), { hosted with waiting := hosted.waiting ++ [call] })
  else
    let called := HostedWorld.call call hosted.world
    (called.1, { hosted with world := called.2 })

/-- The client tells a watch a list of documents. -/
def fire (watch : Watch) (documents : List NativeDocument) (hosted : HostedWorld) :
    Except Failure Unit × HostedWorld :=
  hosted.dispatch ⟨watch.callback, watch.reference.told documents⟩

/-- Makes waiting calls in order. What they raise is dropped. -/
def callAll : List Dispatch → World → World
  | [], world => world
  | next :: rest, world => callAll rest (call next world).2

/-- The loop goes on: all waiting calls are made. -/
def turn (hosted : HostedWorld) : HostedWorld :=
  { hosted with
    world := callAll hosted.waiting hosted.world
    waiting := [] }

/-! ### Watches -/

/-- Starts a watch with a callback, and gives its number. -/
def startWatch (reference : HostedReference) (callback : Callback) (hosted : HostedWorld) :
    Except Failure Nat × HostedWorld :=
  match reference.watch hosted.client with
  | (.error failure, client) => (.error failure, { hosted with client := client })
  | (.ok _, client) =>
    (.ok hosted.watches.length,
      { hosted with client := client, watches := hosted.watches ++ [⟨reference, callback⟩] })

/-- Stops a watch. The client is asked each time. -/
def stopWatch (watch : Watch) (hosted : HostedWorld) : Except Failure Unit × HostedWorld :=
  let asked := hosted.client.invoke ⟨watch.reference.handle, "unsubscribe", []⟩
  (asked.1, { hosted with client := asked.2 })

/-- Starts a watch with a new recipient, and gives the number of the watch. -/
def listen (name : Text) (reactions : List Reaction) (reference : HostedReference)
    (hosted : HostedWorld) : Except Failure Nat × HostedWorld :=
  let added := hosted.world.addRecipient name reactions
  { hosted with world := added.2 }.startWatch reference (.recipient added.1)

/-! ### Live queries -/

/-- Starts a live query on a reference that delivers to a sink, and gives its number. -/
def startQuery (type : QueryType) (projection : Projection) (sink : Sink)
    (reference : HostedReference) (hosted : HostedWorld) : Except Failure Nat × HostedWorld :=
  let added := hosted.world.addQuery ⟨.opened type reference.path, projection, none, sink⟩
  match ({ hosted with world := added.2 } : HostedWorld).startWatch reference (.live added.1) with
  | (.error failure, after) => (.error failure, after)
  | (.ok watch, after) =>
    (.ok added.1, { after with world := after.world.attach added.1 (.watch watch) })

/-- Starts a live query with a new stream, and gives its number. -/
def stream (type : QueryType) (projection : Projection) (reference : HostedReference)
    (hosted : HostedWorld) : Except Failure Nat × HostedWorld :=
  let added := hosted.world.addStream
  { hosted with world := added.2 }.startQuery type projection (.stream added.1) reference

/-- Cancels a live query and stops its watch. -/
def cancelQuery (query : Nat) (hosted : HostedWorld) : Except Failure Unit × HostedWorld :=
  match hosted.world.queries[query]? with
  | none => (.ok (), hosted)
  | some found =>
    let cancelled := { hosted with world := hosted.world.cancelQuery query }
    match found.handle.cancel.1 with
    | some (.watch index) =>
      match hosted.watches[index]? with
      | some watch => cancelled.stopWatch watch
      | none => (.ok (), cancelled)
    | _ => (.ok (), cancelled)

end HostedWorld

end DocQuery
