/-
This file says how a connection to a hosted store is made and closed.

Connecting takes a project's credentials through three stages: a certificate is made of them, an
app is started under the project's name, and a client is made for the app. A refusal at any stage
ends it; the refusals that the service is known to give are reported as a failed connection.
Closing a connection deletes its app, once. A pool connects to a project when it is asked for it
first, and closes the connections that it has when it is closed.
-/

import DocQuery.Credentials.Load
import DocQuery.Hosted.Client
import DocQuery.Pool.Basic

namespace DocQuery

/-! ### Services -/

/-- A call to the hosting service. -/
inductive ServiceCall
  | certificate (account : Entries)
  | start (options : Entries) (name : Value)
  | client
  | delete
  deriving DecidableEq, Repr

/-- The kinds of calls to the hosting service. -/
inductive ServiceStage
  | certificate
  | start
  | client
  | delete
  deriving DecidableEq, Repr

/-- The stage that a call belongs to. -/
def ServiceCall.stage : ServiceCall → ServiceStage
  | .certificate _ => .certificate
  | .start _ _ => .start
  | .client => .client
  | .delete => .delete

/-- The hosting service: the calls it was given, the names of the apps that are live, in the order
in which they were started, and what it refuses, given the calls before, the live apps, and the
call. -/
structure HostingService where
  calls : List ServiceCall
  liveApps : List Value
  refusal : List ServiceCall → List Value → ServiceCall → Option Failure

namespace HostingService

/-- A service that refuses every call of one stage. -/
def refusing (stage : Option ServiceStage) (failure : Failure) : HostingService :=
  ⟨[], [], fun _ _ call => if stage = some call.stage then some failure else none⟩

/-- Makes a call. It is kept whether it is refused or not; if not, it changes the live apps. -/
def invoke (call : ServiceCall) (change : List Value → List Value) (service : HostingService) :
    Except Failure Unit × HostingService :=
  let kept := { service with calls := service.calls ++ [call] }
  match service.refusal service.calls service.liveApps call with
  | some failure => (.error failure, kept)
  | none => (.ok (), { kept with liveApps := change service.liveApps })

def certify (account : Entries) : HostingService → Except Failure Unit × HostingService :=
  invoke (.certificate account) id

def start (options : Entries) (name : Value) :
    HostingService → Except Failure Unit × HostingService :=
  invoke (.start options name) fun apps => apps ++ [name]

def makeClient : HostingService → Except Failure Unit × HostingService := invoke .client id

/-- Deletes an app. -/
def delete (app : Value) : HostingService → Except Failure Unit × HostingService :=
  invoke .delete fun apps => apps.erase app

end HostingService

/-! ### Connections -/

/-- A connection to a hosted store; it holds its app, known by its name, until it is closed. -/
structure HostedConnection where
  app : Option Value
  deriving DecidableEq, Repr

namespace HostedConnection

/-- The options of an app: the address of the database, if the credentials give one. -/
def optionsOf (account : Entries) : Entries :=
  match account.lookup "databaseURL" with
  | some address => if address.truthy then [("databaseURL", address)] else []
  | none => []

/-- The failure that a refused connection is reported as. -/
def refused (project : Value) (failure : Failure) : Failure :=
  match failure with
  | .foreign kind _ =>
    if kind.isConnectRefusal then .connectionFailed project (.reported failure.message) failure
    else failure
  | _ => failure

/-- Goes through the stages of connecting; the first refusal ends it. -/
def initialise (account : Entries) (project : Value) (service : HostingService) :
    Except Failure Unit × HostingService :=
  match service.certify account with
  | (.error failure, after) => (.error failure, after)
  | (.ok _, certified) =>
    match certified.start (optionsOf account) project with
    | (.error failure, after) => (.error failure, after)
    | (.ok _, started) => started.makeClient

/-- Connects to the hosted store of a project. -/
def connect (settings : Settings) (files : FileTree) (project : Value)
    (service : HostingService) : Except Failure HostedConnection × HostingService :=
  match Credentials.load Json.nestingLimit settings files project with
  | .error failure => (.error failure, service)
  | .ok account =>
    match initialise account project service with
    | (.error failure, after) => (.error (refused project failure), after)
    | (.ok _, after) => (.ok ⟨some project⟩, after)

/-- Closes a connection. If deleting the app is refused, the connection keeps it. -/
def close (connection : HostedConnection) (service : HostingService) :
    Except Failure Unit × HostedConnection × HostingService :=
  match connection.app with
  | none => (.ok (), connection, service)
  | some app =>
    match service.delete app with
    | (.error failure, after) => (.error failure, connection, after)
    | (.ok _, after) => (.ok (), ⟨none⟩, after)

/-- Closes a connection so many times; the first refusal ends it. -/
def closeTimes : Nat → HostedConnection → HostingService →
    Except Failure Unit × HostedConnection × HostingService
  | 0, connection, service => (.ok (), connection, service)
  | times + 1, connection, service =>
    match connection.close service with
    | (.error failure, closing) => (.error failure, closing)
    | (.ok _, closing) => closeTimes times closing.1 closing.2

end HostedConnection

/-! ### Pooled connections -/

/-- A pool whose connections are made by connecting: the pool, which knows connections by number,
the connections in the order they were made, and the service. -/
structure HostedPool where
  pool : Pool Nat
  connections : List HostedConnection
  service : HostingService

namespace HostedPool

/-- The pool that nobody has asked yet. -/
def ofService (service : HostingService) : HostedPool := ⟨.empty, [], service⟩

/-- Makes the next connection. -/
def create (settings : Settings) (files : FileTree) (project : Text)
    (state : List HostedConnection × HostingService) :
    Except Failure Nat × List HostedConnection × HostingService :=
  match HostedConnection.connect settings files (.text project) state.2 with
  | (.error failure, after) => (.error failure, state.1, after)
  | (.ok connection, after) => (.ok state.1.length, state.1 ++ [connection], after)

/-- Lets a caller ask for the connection to a project. -/
def get (settings : Settings) (files : FileTree) (project : Text) (hosted : HostedPool) :
    Option (Ending Nat) × HostedPool :=
  let got := hosted.pool.obtain (create settings files) project (hosted.connections, hosted.service)
  (got.1, ⟨got.2.1, got.2.2.1, got.2.2.2⟩)

/-- Closes the connection of a number, if there is one. -/
def shutNumber (number : Nat) (state : List HostedConnection × HostingService) :
    Except Failure Unit × List HostedConnection × HostingService :=
  match state.1[number]? with
  | none => (.ok (), state)
  | some connection =>
    let closing := connection.close state.2
    (closing.1, state.1.set number closing.2.1, closing.2.2)

/-- Lets a caller close the connection of a number. -/
def closeNumber (number : Nat) (hosted : HostedPool) : Except Failure Unit × HostedPool :=
  let shut := shutNumber number (hosted.connections, hosted.service)
  (shut.1, ⟨hosted.pool, shut.2.1, shut.2.2⟩)

/-- Closes the pool. -/
def close (hosted : HostedPool) : Except Failure Unit × HostedPool :=
  let shut := hosted.pool.shut shutNumber (hosted.connections, hosted.service)
  (shut.1, ⟨shut.2.1, shut.2.2.1, shut.2.2.2⟩)

end HostedPool

end DocQuery
