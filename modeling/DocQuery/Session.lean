/-
This file defines sessions: queries asked as texts, against the current project.

A query text goes through fixed stages. A parser turns it into components, the current project is
looked up, the pool gives the project's connection, and the reference is built on it. Whatever fails
first is the answer, and nothing after it is tried. A prepared query is then asked once, or becomes a
live query with a listener or a stream. A listener is told of a failure before its live query was
started, too; only then is the failure raised, and if the listener raises something itself, that is
raised instead.

The pool may have no connection yet, and then a request waits. So a request is a task: it goes on in
a turn of its own once the pool has an answer for it, and much can happen before. If the answer is a
cancellation, the task ends with that, and nobody is told.

Parser, projects and connections come from outside. They answer as they like, and may answer
differently each time, so they are functions of a state of their own.
-/

import DocQuery.Hosted.Watching
import DocQuery.Live.Program
import DocQuery.Pool.Basic

namespace DocQuery

/-! ### Surroundings -/

/-- What a parser makes of a query text: a sequence, in which some members may be components already,
or some other value. -/
inductive Parsed
  | sequence (members : List Component.Mixed)
  | value (content : Value)

def Parsed.decode : Parsed → Except Failure (List Component)
  | .sequence members => Component.decodeMixedAll Json.nestingLimit members
  | .value content => decodeQuery Json.nestingLimit content

/-- A connection, to a store in memory, known by its name, or to a hosted store. Hosted stores share
one client, to which each is known by the handle of its root. -/
inductive Connection
  | memory (store : Text)
  | hosted (handle : Text)
  deriving DecidableEq, Repr

/-- What comes of making a connection. -/
inductive Production
  | made (connection : Connection)
  | failed (failure : Failure)
  /-- A cancellation comes out of it. -/
  | interrupted
  /-- It has to be waited for. -/
  | pending
  deriving DecidableEq, Repr

/-- What a session is given from outside. Each part may change the state that the parts share, and
answer by it. -/
structure Surroundings (σ : Type) where
  /-- Reads a query text. -/
  parse : Text → σ → Except Failure Parsed × σ
  /-- Says which project is the current one. -/
  project : σ → Except Failure Text × σ
  /-- Begins to make the connection to a project. -/
  connect : Text → σ → Production × σ
  /-- Closes the connection to a hosted store. -/
  disconnect : Text → σ → Except Failure Unit × σ
  /-- What the client of hosted stores gives for a fetch. -/
  fetched : HostedReference → σ → NativeAnswer × σ

/-! ### Tasks -/

/-- What was built, and on which kind of connection. -/
inductive BuiltOn
  | memory (store : Text) (built : Built Reference)
  | hosted (built : Built HostedReference)
  deriving DecidableEq, Repr

/-- A query that is ready to be asked. -/
structure Prepared where
  query : Text
  project : Text
  components : List Component
  built : BuiltOn
  deriving DecidableEq, Repr

/-- What is to become of a query text. -/
inductive Purpose
  /-- It is prepared, without being asked. -/
  | prepare
  /-- It is asked once. -/
  | ask
  /-- It becomes a live query of a name, with a recipient. -/
  | live (name : Text) (recipient : Nat)
  /-- It becomes a live query with a stream of a name. -/
  | watch (name : Text)
  deriving DecidableEq, Repr

/-- What a request answers. -/
inductive SessionAnswer
  | prepared (content : Prepared)
  | result (content : QueryResult)
  | started
  deriving DecidableEq, Repr

/-- How far a request has come. -/
inductive Stage
  /-- It waits as a caller of the pool, with what it will go on with. -/
  | waiting (caller : Nat) (components : List Component) (project : Text)
  | answered (answer : Except Failure SessionAnswer)
  | cancelled

/-- A request that was made. -/
structure Task where
  purpose : Purpose
  query : Text
  stage : Stage

/-- A session: the state of its surroundings, the pool, the state of live queries, the client of the
hosted stores with its watches and the calls of callbacks that wait for the loop, and the requests in
the order they were made. -/
structure Session (σ : Type) where
  outside : σ
  pool : Pool Connection
  program : Program
  client : NativeClient
  watches : List Watch
  waiting : List Dispatch
  tasks : List Task

namespace Session

variable {σ : Type} (surroundings : Surroundings σ)

/-- The session that has done nothing yet, on stores in memory and a client of hosted stores. -/
def opened (outside : σ) (client : NativeClient) (mode : BuildMode)
    (stores : List (Text × Store Callback)) : Session σ :=
  ⟨outside, .empty, .start (.ofStores mode stores), client, [], [], []⟩

/-- The state that live queries run in. -/
def world (session : Session σ) : World := session.program.world

/-- The session with another such state. -/
def withWorld (world : World) (session : Session σ) : Session σ :=
  { session with program := { session.program with world := world } }

/-- What goes on around the hosted stores. Sessions run in an event loop. -/
def hosted (session : Session σ) : HostedWorld :=
  ⟨true, session.client, session.world, session.watches, session.waiting⟩

/-- The session with something else going on there. -/
def withHosted (hosted : HostedWorld) (session : Session σ) : Session σ :=
  { session.withWorld hosted.world with
    client := hosted.client, watches := hosted.watches, waiting := hosted.waiting }

/-! ### Connections -/

/-- Reads a query text, and looks up the project to ask. -/
def choose (query : Text) (session : Session σ) :
    Except Failure (List Component × Text) × Session σ :=
  match surroundings.parse query session.outside with
  | (.error failure, after) => (.error failure, { session with outside := after })
  | (.ok parsed, after) =>
    match parsed.decode with
    | .error failure => (.error failure, { session with outside := after })
    | .ok components =>
      let chosen := surroundings.project after
      (chosen.1.map fun project => (components, project), { session with outside := chosen.2 })

/-- Something comes of a creation of the pool. -/
def produce (creation : Nat) (production : Production) (session : Session σ) : Session σ :=
  match production with
  | .made connection => { session with pool := session.pool.succeed creation connection }
  | .failed failure => { session with pool := session.pool.fail creation failure }
  | .interrupted => { session with pool := session.pool.interrupt creation }
  | .pending => session

/-- Lets a caller ask the pool for a project, and gives the number of the caller. The one that begins
a creation begins to make the connection. -/
def call (project : Text) (session : Session σ) : Nat × Session σ :=
  let asked := session.pool.ask project
  let after := { session with pool := asked.2 }
  (session.pool.callers.length,
    match asked.1 with
    | none => after
    | some creation =>
      let produced := surroundings.connect project session.outside
      { after with outside := produced.2 }.produce creation produced.1)

/-! ### Built queries -/

/-- Builds the reference of a query on a connection. -/
def build (connection : Connection) (components : List Component) (session : Session σ) :
    Except Failure BuiltOn × Session σ :=
  match connection with
  | .memory store =>
    let walked := Reference.build session.world.mode components
    (walked.outcome.map (.memory store),
      session.withWorld (session.world.notifyAll walked.notices))
  | .hosted handle =>
    let walked := HostedReference.navigation.build session.world.mode ⟨handle, .root, ""⟩
      components session.client
    (walked.outcome.map .hosted,
      { session.withWorld (session.world.notifyAll walked.notices) with client := walked.state })

/-- Asks a query once. -/
def askOnce (components : List Component) (built : BuiltOn) (session : Session σ) :
    Except Failure QueryResult × Session σ :=
  match built with
  | .memory store built =>
    (session.world.askOnce (.ofBuilt store components built), session)
  | .hosted built =>
    let answer := surroundings.fetched built.reference session.outside
    let asked := built.reference.askOnce (classify components) built.projection answer.1
      session.client
    (asked.1, { session with outside := answer.2, client := asked.2 })

/-- How actions are carried out, given what the recipients can still show. -/
def performer (world : World) : Performer := World.performTo (world.weight + 1)

/-- Starts a live query with a recipient. -/
def install (name : Text) (recipient : Nat) (components : List Component) (built : BuiltOn)
    (session : Session σ) : Except Failure Unit × Session σ :=
  match built with
  | .memory store built =>
    let started := session.world.subscribeTo (performer session.world) name
      (.ofBuilt store components built) recipient
    (started.1.map fun _ => (), session.withWorld started.2)
  | .hosted built =>
    match session.hosted.startQuery (classify components) built.projection (.recipient recipient)
      built.reference with
    | (.error failure, after) => (.error failure, session.withHosted after)
    | (.ok query, after) =>
      (.ok (), session.withHosted { after with world := after.world.bindQuery name query })

/-- Starts a live query with a stream. -/
def stream (name : Text) (components : List Component) (built : BuiltOn) (session : Session σ) :
    Except Failure Unit × Session σ :=
  match built with
  | .memory store built =>
    let started := session.world.streamFrom (performer session.world) name
      (.ofBuilt store components built)
    (started.1.map fun _ => (), session.withWorld started.2)
  | .hosted built =>
    let number := session.world.streams.length
    match session.hosted.stream (classify components) built.projection built.reference with
    | (.error failure, after) => (.error failure, session.withHosted after)
    | (.ok _, after) =>
      (.ok (), session.withHosted { after with world := after.world.bindStream name number })

/-! ### Requests -/

/-- Tells a recipient that its live query was not started, and raises why. -/
def refuse (recipient : Nat) (failure : Failure) (session : Session σ) :
    Except Failure SessionAnswer × Session σ :=
  match session.world.hear (performer session.world) recipient .report (.failure failure) with
  | (.error raised, after) => (.error raised.awaited, session.withWorld after)
  | (.ok _, after) => (.error failure.awaited, session.withWorld after)

/-- A request comes to nothing. -/
def reject (purpose : Purpose) (failure : Failure) (session : Session σ) :
    Except Failure SessionAnswer × Session σ :=
  match purpose with
  | .live _ recipient => session.refuse recipient failure
  | _ => (.error failure.awaited, session)

/-- A request goes on with a query that is prepared. -/
def goOn (purpose : Purpose) (prepared : Prepared) (session : Session σ) :
    Except Failure SessionAnswer × Session σ :=
  match purpose with
  | .prepare => (.ok (.prepared prepared), session)
  | .ask =>
    let asked := session.askOnce surroundings prepared.components prepared.built
    (asked.1.map .result, asked.2)
  | .live name recipient =>
    match session.install name recipient prepared.components prepared.built with
    | (.error failure, after) => after.refuse recipient failure
    | (.ok _, after) => (.ok .started, after)
  | .watch name =>
    let opened := session.stream name prepared.components prepared.built
    (opened.1.map fun _ => .started, opened.2)

/-- A request goes on with its connection. What preparing raises passes through one who waits for
it. -/
def finish (task : Task) (components : List Component) (project : Text) (connection : Connection)
    (session : Session σ) : Except Failure SessionAnswer × Session σ :=
  match session.build connection components with
  | (.error failure, after) => after.reject task.purpose failure.awaited
  | (.ok built, after) =>
    after.goOn surroundings task.purpose ⟨task.query, project, components, built⟩

/-- Makes a request, and lets it ask the pool. -/
def start (purpose : Purpose) (query : Text) (session : Session σ) : Session σ :=
  match session.choose surroundings query with
  | (.error failure, after) =>
    let rejected := after.reject purpose failure.awaited
    { rejected.2 with tasks := rejected.2.tasks ++ [⟨purpose, query, .answered rejected.1⟩] }
  | (.ok (components, project), after) =>
    let called := after.call surroundings project
    { called.2 with
      tasks := called.2.tasks ++ [⟨purpose, query, .waiting called.1 components project⟩] }

/-- Asks for a live query with a new recipient. -/
def live (name query : Text) (reactions : List Reaction) (session : Session σ) : Session σ :=
  let added := session.world.addRecipient name reactions
  (session.withWorld added.2).start surroundings (.live name added.1) query

/-- A request comes to a stage. -/
def conclude (task : Nat) (stage : Stage) (session : Session σ) : Session σ :=
  { session with tasks := session.tasks.modify task fun found => { found with stage := stage } }

/-- A request has its turn. If the pool has an answer for it, it goes on to its end. -/
def turn (task : Nat) (session : Session σ) : Session σ :=
  match session.tasks[task]? with
  | some ⟨purpose, query, .waiting caller components project⟩ =>
    match session.pool.callerEnding caller with
    | none => session
    | some .cancelled => session.conclude task .cancelled
    | some (.failed failure) =>
      let rejected := session.reject purpose failure
      rejected.2.conclude task (.answered rejected.1)
    | some (.connected connection) =>
      let finished := session.finish surroundings
        ⟨purpose, query, .waiting caller components project⟩ components project connection
      finished.2.conclude task (.answered finished.1)
  | _ => session

/-- Cancels a request that waits for its connection. One whose answer is already there keeps it: a
cancellation that still reaches it is one that came before the answer. -/
def cancel (task : Nat) (session : Session σ) : Session σ :=
  match session.tasks[task]? with
  | some ⟨_, _, .waiting caller _ _⟩ => { session with pool := session.pool.cancel caller }
  | _ => session

/-- Requests have their turns, in the order they were made. -/
def turnAll : List Nat → Session σ → Session σ
  | [], session => session
  | task :: rest, session => turnAll rest (session.turn surroundings task)

/-- Lets everything go on that can go on without the caller: requests that have their answer, calls
that wait for the loop, and readers that were woken. -/
def settle (session : Session σ) : Session σ :=
  let turned := session.turnAll surroundings (List.range session.tasks.length)
  let looped := turned.withHosted turned.hosted.turn
  { looped with program := looped.program.settle }

/-! ### Closing -/

/-- Closes a connection. A store in memory never refuses. -/
def disconnect (connection : Connection) (state : σ × World) :
    Except Failure Unit × σ × World :=
  match connection with
  | .memory store => (.ok (), state.1, state.2.updateStore store Store.close)
  | .hosted handle =>
    let closed := surroundings.disconnect handle state.1
    (closed.1, closed.2, state.2)

/-- Closes every connection of the pool. -/
def close (session : Session σ) : Except Failure Unit × Session σ :=
  let shut := session.pool.shut (disconnect surroundings) (session.outside, session.world)
  (shut.1, { session with outside := shut.2.2.1, pool := shut.2.1 }.withWorld shut.2.2.2)

end Session

end DocQuery
