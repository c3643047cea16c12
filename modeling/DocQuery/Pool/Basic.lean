/-
This file defines the pool of connections, one for each project.

The first caller that asks for a project begins a creation, and those that ask meanwhile join it.
A creation ends once: with a connection, with a failure, or cancelled, and whatever it ends with,
all callers of it end with. A connection stays in the pool, so later callers get the same one;
after a failure or a cancellation the next caller begins a new creation. Cancelling a caller that
joined ends that caller only. Cancelling the one that began a creation is handed on to whoever makes
the connection, and that decides what comes of it: it can go on and succeed, fail, or let the
cancellation through, which cancels the creation. A cancellation can also come out of it unasked.

A pool knows projects by name only, and this shows when a pool is closed while a creation is under
way: a creation that fails then takes out whatever the pool has for its project by now.

What connections are is left open, and so is who makes them: the pool says when a creation has
to begin, and is told how it ends.
-/

import DocQuery.Failure

namespace DocQuery

/-! ### States -/

/-- How a creation, or a caller, ends. -/
inductive Ending (κ : Type)
  | connected (connection : κ)
  | failed (failure : Failure)
  | cancelled
  deriving DecidableEq, Repr

/-- A creation of a connection; it is under way as long as it has no ending. -/
structure Creation (κ : Type) where
  project : Text
  ending : Option (Ending κ)
  deriving DecidableEq, Repr

/-- A caller: the creation it began or joined, which of both, and how it ended. -/
structure Caller (κ : Type) where
  creation : Nat
  began : Bool
  ending : Option (Ending κ)
  deriving DecidableEq, Repr

/-- A pool. Creations and callers are numbered in the order they came; the entries, in the order
they were made, name the creation of each project; connections that were closed are kept in the
order of closing. -/
structure Pool (κ : Type) where
  creations : List (Creation κ)
  entries : List (Text × Nat)
  callers : List (Caller κ)
  closed : List κ
  deriving DecidableEq, Repr

namespace Pool

variable {κ : Type}

/-- The pool that nobody has asked yet. -/
def empty : Pool κ := ⟨[], [], [], []⟩

/-! ### What a pool has -/

/-- How a creation ended, if it did. -/
def endingOf (creation : Nat) (pool : Pool κ) : Option (Ending κ) :=
  pool.creations[creation]?.bind Creation.ending

/-- How a caller ended, if it did. -/
def callerEnding (caller : Nat) (pool : Pool κ) : Option (Ending κ) :=
  pool.callers[caller]?.bind Caller.ending

/-- Whether the creation of an entry has come to an end that is no cancellation. -/
def isSettled (creation : Nat) (pool : Pool κ) : Bool :=
  match pool.endingOf creation with
  | some (.connected _) => true
  | some (.failed _) => true
  | _ => false

/-- Whether a pool has a connection to a project. -/
def contains (project : Text) (pool : Pool κ) : Bool :=
  match pool.entries.lookup project with
  | some creation => pool.isSettled creation
  | none => false

/-- The projects that a pool has a connection to, in the order they were first asked for. -/
def projects (pool : Pool κ) : List Text :=
  (pool.entries.map Prod.fst).filter fun project => pool.contains project

/-! ### Asking -/

/-- Adds a caller under the next number. -/
def addCaller (caller : Caller κ) (pool : Pool κ) : Pool κ :=
  { pool with callers := pool.callers ++ [caller] }

/-- Begins a creation, with its caller. -/
def begin (project : Text) (pool : Pool κ) : Pool κ :=
  addCaller ⟨pool.creations.length, true, none⟩
    { pool with
      creations := pool.creations ++ [⟨project, none⟩]
      entries := pool.entries ++ [(project, pool.creations.length)] }

/-- Lets a caller join a creation. If it has ended, the caller ends at once. -/
def join (creation : Nat) (pool : Pool κ) : Pool κ :=
  pool.addCaller ⟨creation, false, pool.endingOf creation⟩

/-- Lets the next caller ask for a project. The first component is the creation that has to be
carried out now, if this began one. -/
def ask (project : Text) (pool : Pool κ) : Option Nat × Pool κ :=
  match pool.entries.lookup project with
  | some creation => (none, pool.join creation)
  | none => (some pool.creations.length, pool.begin project)

/-! ### Endings -/

/-- Takes a project out of the pool. -/
def forget (project : Text) (pool : Pool κ) : Pool κ :=
  { pool with entries := pool.entries.filter fun entry => entry.1 ≠ project }

/-- Ends a creation, and with it all its callers that have not ended. -/
def settle (creation : Nat) (ending : Ending κ) (pool : Pool κ) : Pool κ :=
  { pool with
    creations := pool.creations.modify creation fun found => { found with ending := some ending }
    callers := pool.callers.map fun caller =>
      if caller.creation = creation ∧ caller.ending = none then
        { caller with ending := some ending }
      else caller }

/-- The project of a creation that is under way. -/
def underWay? (creation : Nat) (pool : Pool κ) : Option Text :=
  match pool.creations[creation]? with
  | some ⟨project, none⟩ => some project
  | _ => none

def succeed (creation : Nat) (connection : κ) (pool : Pool κ) : Pool κ :=
  match pool.underWay? creation with
  | some _ => pool.settle creation (.connected connection)
  | none => pool

/-- A creation ends without a connection: its project is taken out of the pool. -/
def abandon (creation : Nat) (ending : Ending κ) (pool : Pool κ) : Pool κ :=
  match pool.underWay? creation with
  | some project => (pool.forget project).settle creation ending
  | none => pool

/-- The failure that callers see: one of the library's own as it is, any other as the reason
why there is no connection. -/
def reported (project : Text) (failure : Failure) : Failure :=
  if failure.isOwn then failure
  else .connectionFailed (.text project) (.reported failure.message) failure

def fail (creation : Nat) (failure : Failure) (pool : Pool κ) : Pool κ :=
  match pool.underWay? creation with
  | some project => pool.abandon creation (.failed (reported project failure))
  | none => pool

/-- A creation ends by a cancellation, which nobody reports as a failure. -/
def interrupt (creation : Nat) (pool : Pool κ) : Pool κ := pool.abandon creation .cancelled

/-- Cancels a caller. One that has ended stays as it is, and so does one that began a creation: it
waits for what the creation comes to. -/
def cancel (caller : Nat) (pool : Pool κ) : Pool κ :=
  match pool.callers[caller]? with
  | some ⟨_, false, none⟩ =>
    { pool with
      callers := pool.callers.modify caller fun found => { found with ending := some .cancelled } }
  | _ => pool

/-! ### Closing -/

/-- The connections in a pool, in the order of the entries. -/
def connections (pool : Pool κ) : List κ :=
  pool.entries.filterMap fun entry =>
    match pool.endingOf entry.2 with
    | some (.connected connection) => some connection
    | _ => none

/-- Closes connections in order; one that refuses ends it. The first component is what was asked
to close, the refusing one included. -/
def closeAll (refusal : κ → Option Failure) : List κ → List κ × Except Failure Unit
  | [] => ([], .ok ())
  | connection :: rest =>
    match refusal connection with
    | some failure => ([connection], .error failure)
    | none =>
      let others := closeAll refusal rest
      (connection :: others.1, others.2)

/-- Closes a pool: its connections are closed, and it is empty. If one refuses, the rest stay
open and the pool keeps everything. -/
def close (refusal : κ → Option Failure) (pool : Pool κ) : Except Failure Unit × Pool κ :=
  let (asked, outcome) := closeAll refusal pool.connections
  match outcome with
  | .error failure => (.error failure, { pool with closed := pool.closed ++ asked })
  | .ok _ => (.ok (), { pool with entries := [], closed := pool.closed ++ asked })

/-! ### Immediate factories -/

/-- Lets a caller ask a pool whose connections are made at once by a factory over a state `σ`.
The answer is the connection, or the failure that the caller sees. -/
def obtain {σ : Type} (factory : Text → σ → Except Failure κ × σ) (project : Text)
    (pool : Pool κ) (state : σ) : Option (Ending κ) × Pool κ × σ :=
  let caller := pool.callers.length
  match pool.ask project with
  | (none, asked) => (asked.callerEnding caller, asked, state)
  | (some creation, asked) =>
    match factory project state with
    | (.ok connection, after) =>
      let ended := asked.succeed creation connection
      (ended.callerEnding caller, ended, after)
    | (.error failure, after) =>
      let ended := asked.fail creation failure
      (ended.callerEnding caller, ended, after)

/-- Closes connections in order, each by what that does to a state; one that refuses ends it. The
first component is what was asked to close, the refusing one included. -/
def shutAll {σ : Type} (shut : κ → σ → Except Failure Unit × σ) :
    List κ → σ → List κ × Except Failure Unit × σ
  | [], state => ([], .ok (), state)
  | connection :: rest, state =>
    match shut connection state with
    | (.error failure, after) => ([connection], .error failure, after)
    | (.ok _, after) =>
      let others := shutAll shut rest after
      (connection :: others.1, others.2)

/-- Closes a pool whose connections are closed by what that does to a state. -/
def shut {σ : Type} (shut : κ → σ → Except Failure Unit × σ) (pool : Pool κ) (state : σ) :
    Except Failure Unit × Pool κ × σ :=
  match shutAll shut pool.connections state with
  | (asked, .error failure, after) =>
    (.error failure, { pool with closed := pool.closed ++ asked }, after)
  | (asked, .ok _, after) =>
    (.ok (), { pool with entries := [], closed := pool.closed ++ asked }, after)

end Pool

/-! ### Events -/

/-- What can happen to a pool. -/
inductive PoolEvent (κ : Type)
  /-- A caller asks for a project. -/
  | ask (project : Text)
  /-- A creation succeeds. -/
  | succeed (creation : Nat) (connection : κ)
  /-- A creation fails. -/
  | fail (creation : Nat) (failure : Failure)
  /-- A cancellation comes out of a creation. -/
  | interrupt (creation : Nat)
  /-- A caller is cancelled. -/
  | cancel (caller : Nat)
  /-- The pool is closed; some connections may refuse. -/
  | close (refusal : κ → Option Failure)

/-- A pool after an event. -/
def Pool.apply {κ : Type} (event : PoolEvent κ) (pool : Pool κ) : Pool κ :=
  match event with
  | .ask project => (pool.ask project).2
  | .succeed creation connection => pool.succeed creation connection
  | .fail creation failure => pool.fail creation failure
  | .interrupt creation => pool.interrupt creation
  | .cancel caller => pool.cancel caller
  | .close refusal => (pool.close refusal).2

end DocQuery
