/-
This file defines a pool together with a factory that makes its connections.

The factory keeps what it was called for. It hands out a connection there and then, or lets its
caller wait for it, and if it is gated, each call also waits for a gate to be opened from outside.
Whenever it comes to make a connection, its script says whether that fails; a script that has run
out lets everything succeed. Connections are numbered in the order they are made. A call that waits
for its gate lets a cancellation through at once.
-/

import DocQuery.Pool.Basic

namespace DocQuery

/-! ### Scripted factories -/

/-- How a factory answers a call. -/
inductive FactoryMode
  /-- With the connection itself. -/
  | prompt
  /-- With something to wait for, which is ready at once. -/
  | awaited
  /-- With something to wait for, which is ready when the gate of the call is opened. -/
  | gated
  deriving DecidableEq, Repr

/-- The script of a factory: how it answers, which of the next makings fail, and the projects it
was called for. -/
structure FactoryScript where
  mode : FactoryMode
  outcomes : List (Option Failure)
  calls : List Text
  deriving DecidableEq, Repr

namespace FactoryScript

/-- The script under which everything succeeds at once. -/
def plain : FactoryScript := ⟨.prompt, [], []⟩

def call (project : Text) (script : FactoryScript) : FactoryScript :=
  { script with calls := script.calls ++ [project] }

/-- A failure of the script, as it reaches the caller. -/
def reached (failure : Failure) (script : FactoryScript) : Failure :=
  match script.mode with
  | .prompt => failure
  | .awaited | .gated => failure.awaited

/-- The factory comes to make what was given, unless the script lets it fail. -/
def make {κ : Type} (given : Except Failure κ) (script : FactoryScript) :
    Except Failure κ × FactoryScript :=
  match script.outcomes with
  | [] => (given, script)
  | none :: rest => (given, { script with outcomes := rest })
  | some failure :: rest => (.error (script.reached failure), { script with outcomes := rest })

/-- The factory is called and makes what was given at once. -/
def callAndMake {κ : Type} (project : Text) (given : Except Failure κ)
    (script : FactoryScript) : Except Failure κ × FactoryScript :=
  (script.call project).make given

end FactoryScript

/-! ### Workshops -/

/-- A call of a gated factory that waits: its project, and the creation it is for. -/
structure Gate where
  project : Text
  creation : Nat
  deriving DecidableEq, Repr

/-- A pool with its factory: the script, the gates that are still shut, oldest first, the number
of connections made so far, and the callers that have names. -/
structure Workshop where
  pool : Pool Nat
  script : FactoryScript
  gates : List Gate
  made : Nat
  callers : List (Text × Nat)
  deriving DecidableEq, Repr

/-- What becomes of opening a gate. -/
inductive Opening
  /-- A creation went on. -/
  | opened
  /-- There was no gate. -/
  | absent
  /-- The creation had been cancelled. -/
  | abandoned
  deriving DecidableEq, Repr

/-- How a pool and its factory stand. -/
structure PoolStanding where
  projects : List Text
  contains : List Bool
  calls : List Text
  closed : List Bool
  deriving DecidableEq, Repr

namespace Workshop

/-- A workshop in which nothing has happened yet. -/
def start (script : FactoryScript) : Workshop := ⟨.empty, script, [], 0, []⟩

/-- A creation comes to make its connection. -/
def finish (creation : Nat) (workshop : Workshop) : Workshop :=
  match workshop.script.make (.ok workshop.made) with
  | (.ok connection, script) =>
    { workshop with
      pool := workshop.pool.succeed creation connection
      script := script
      made := workshop.made + 1 }
  | (.error failure, script) =>
    { workshop with pool := workshop.pool.fail creation failure, script := script }

/-- A creation begins: the factory is called, and waits for a gate or goes on. -/
def carryOut (project : Text) (creation : Nat) (workshop : Workshop) : Workshop :=
  let called := { workshop with script := workshop.script.call project }
  if workshop.script.mode = .gated then
    { called with gates := called.gates ++ [⟨project, creation⟩] }
  else called.finish creation

/-- Lets the next caller ask for a project; the first component is the number of the caller. -/
def ask (project : Text) (workshop : Workshop) : Nat × Workshop :=
  let asked := workshop.pool.ask project
  let after := { workshop with pool := asked.2 }
  (workshop.pool.callers.length,
    match asked.1 with
    | some creation => after.carryOut project creation
    | none => after)

/-- Lets a caller with a name ask for a project. -/
def askAs (name project : Text) (workshop : Workshop) : Nat × Workshop :=
  let asked := workshop.ask project
  (asked.1, { asked.2 with callers := (name, asked.1) :: asked.2.callers })

/-- Cancels a caller. If it waits for a gate, the cancellation comes out of its creation at once. -/
def cancel (caller : Nat) (workshop : Workshop) : Workshop :=
  let cancelled := workshop.pool.cancel caller
  match workshop.pool.callers[caller]? with
  | some ⟨creation, true, none⟩ => { workshop with pool := cancelled.interrupt creation }
  | _ => { workshop with pool := cancelled }

/-- Lets a caller ask that does not wait: if it has not ended when everything has gone on, it is
cancelled. The first component is how it had ended by then, if it had. -/
def askOnly (project : Text) (workshop : Workshop) : Option (Ending Nat) × Workshop :=
  let asked := workshop.ask project
  match asked.2.pool.callerEnding asked.1 with
  | some ending => (some ending, asked.2)
  | none => (none, asked.2.cancel asked.1)

/-- Lets callers ask one after the other; the first component is their numbers. -/
def askAll : List Text → Workshop → List Nat × Workshop
  | [], workshop => ([], workshop)
  | project :: rest, workshop =>
    let asked := workshop.ask project
    let others := askAll rest asked.2
    (asked.1 :: others.1, others.2)

/-- Lets callers ask that do not wait, one after the other: those that have not ended when
everything has gone on are cancelled. The first component is how they had ended by then, if all
had. -/
def askAllOnly (projects : List Text) (workshop : Workshop) :
    Option (List (Ending Nat)) × Workshop :=
  let asked := askAll projects workshop
  match asked.1.mapM fun caller => asked.2.pool.callerEnding caller with
  | some endings => (some endings, asked.2)
  | none => (none, asked.1.foldl (fun after caller => after.cancel caller) asked.2)

/-- Removes the first gate of a project; the first component is its creation. -/
def takeGate (project : Text) : List Gate → Option Nat × List Gate
  | [] => (none, [])
  | gate :: rest =>
    if gate.project = project then (some gate.creation, rest)
    else
      let taken := takeGate project rest
      (taken.1, gate :: taken.2)

/-- Opens the oldest gate of a project. -/
def openGate (project : Text) (workshop : Workshop) : Opening × Workshop :=
  let taken := takeGate project workshop.gates
  let after := { workshop with gates := taken.2 }
  match taken.1 with
  | none => (.absent, workshop)
  | some creation =>
    match workshop.pool.underWay? creation with
    | some _ => (.opened, after.finish creation)
    | none => (.abandoned, after)

/-- Closes the pool. None of the connections refuses. -/
def close (workshop : Workshop) : Workshop :=
  { workshop with pool := (workshop.pool.close fun _ => none).2 }

/-- How things stand for given projects. -/
def standing (projects : List Text) (workshop : Workshop) : PoolStanding where
  projects := workshop.pool.projects
  contains := projects.map fun project => workshop.pool.contains project
  calls := workshop.script.calls
  closed :=
    (List.range workshop.made).map fun connection => workshop.pool.closed.contains connection

end Workshop

end DocQuery
