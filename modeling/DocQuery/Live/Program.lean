/-
This file defines programs: what a caller outside all listeners does, step by step.

Besides the actions that listeners can carry out too, a caller can read, ask once, and read
streams. A reader that finds nothing waits; a wait can be taken back or kept under a name, and
asked about later. A stream that is read, and a wait that is asked about, has to be there. After
every step all that can go on without the caller goes on: readers that were woken have their turns.
-/

import DocQuery.Live.Perform

namespace DocQuery

/-- A step of a caller. -/
inductive ProgramStep
  /-- Something that listeners can do too. -/
  | act (action : Action)
  /-- Reads the reference that calls lead to. -/
  | read (store : Text) (calls : List NavigationCall)
  /-- Asks a target once. -/
  | ask (target : Target)
  /-- Asks a target once, for JSON text. -/
  | askText (target : Target)
  /-- Takes the next delivery of a stream. A wait is kept under a name, or taken back. -/
  | next (stream : Text) (keep : Option Text)
  /-- Asks what a wait came to. -/
  | poll (name : Text)
  /-- Counts the documents of up to so many deliveries of a stream, and closes it. With zero it
  goes on to the end of the stream. -/
  | drain (stream : Text) (most : Nat)
  /-- Closes a stream, which has to be there. -/
  | finish (stream : Text)

/-- What a step answers. -/
inductive ProgramAnswer
  | response (content : Response)
  | snapshot (content : Snapshot)
  | result (content : QueryResult)
  | text (content : String)
  | counts (content : List Nat)
  | pending
  deriving DecidableEq, Repr

/-- What a reader of a live query comes to. -/
abbrev ResultReading := Reading (Except Failure QueryResult)

/-- The state of a program: the world, what readers came to, the number the next reader gets, and
the reader of each wait that was kept. -/
structure Program where
  world : World
  readings : List (Nat × ResultReading)
  nextReader : Nat
  waits : List (Text × Nat)

namespace Program

/-- The program that has done nothing yet. -/
def start (world : World) : Program := ⟨world, [], 0, []⟩

/-! ### Turns of readers -/

/-- Gives the woken readers of streams their turns. -/
def turnAll : List LiveStream → List (Nat × ResultReading) × List LiveStream
  | [] => ([], [])
  | stream :: rest =>
    let turned := stream.queue.turn
    let others := turnAll rest
    (turned.1 ++ others.1, { stream with queue := turned.2 } :: others.2)

/-- Lets everything go on that can go on without the caller. -/
def settle (program : Program) : Program :=
  let turned := turnAll program.world.streams
  { program with
    world := { program.world with streams := turned.2 }
    readings := turned.1 ++ program.readings }

/-! ### Reading streams -/

/-- The answer of a reader: a result, or the failure that was delivered; the end of a stream is
a failure too. -/
def answerOf : ResultReading → Except Failure ProgramAnswer
  | .delivered (.ok content) => .ok (.result content)
  | .delivered (.error failure) => .error failure.awaited
  | .ended => .error (.foreign .exhausted "the stream has ended")

/-- Lets a reader have the next delivery of a stream, or wait for it. -/
def readNext (stream reader : Nat) (world : World) : Option ResultReading × World :=
  match world.streams[stream]? with
  | none => (none, world)
  | some found =>
    let read := found.queue.next reader
    (read.1, world.updateQueue stream fun _ => read.2)

/-- Takes the next delivery of a stream for a new reader. -/
def takeNext (stream : Nat) (keep : Option Text) (program : Program) :
    Except Failure ProgramAnswer × Program :=
  let reader := program.nextReader
  let read := readNext stream reader program.world
  let after := { program with world := read.2, nextReader := reader + 1 }
  let named :=
    match keep with
    | some name => { after with waits := (name, reader) :: after.waits }
    | none => after
  match read.1 with
  | some reading =>
    (answerOf reading, { named with readings := (reader, reading) :: named.readings })
  | none =>
    match keep with
    | some _ => (.ok .pending, named)
    | none =>
      (.ok .pending,
        { named with world := named.world.updateQueue stream (Stream.withdraw reader) })

/-- What a wait came to. -/
def poll (name : Text) (program : Program) : Except Failure ProgramAnswer :=
  match program.waits.lookup name with
  | none => .error (.foreign .absentKey name)
  | some reader =>
    match program.readings.lookup reader with
    | some reading => answerOf reading
    | none => .ok .pending

/-- Takes up to so many deliveries and counts the documents of each; the end of the stream ends
it early, and so do a failure and an empty queue. A delivered failure that says the same as the end
of a stream counts as the end. -/
def countNext (stream reader : Nat) : Nat → World → Except Failure (Option (List Nat)) × World
  | 0, world => (.ok (some []), world)
  | left + 1, world =>
    match readNext stream reader world with
    | (none, after) => (.ok none, after.updateQueue stream (Stream.withdraw reader))
    | (some .ended, after) => (.ok (some []), after)
    | (some (.delivered (.error failure)), after) =>
      if failure.isEnd then (.ok (some []), after) else (.error failure.awaited, after)
    | (some (.delivered (.ok result)), after) =>
      match countNext stream reader left after with
      | (.error failure, last) => (.error failure, last)
      | (.ok counts, last) => (.ok (counts.map (result.count :: ·)), last)

/-- The number of items that wait in the queue of a stream. -/
def queued (stream : Nat) (world : World) : Nat :=
  match world.streams[stream]? with
  | none => 0
  | some found => found.queue.items.length

/-- Reads a stream in its scope: it is closed at the end, however that comes. Without a bound all
that waits is taken, and one more is asked for. -/
def drain (stream most : Nat) (program : Program) : Except Failure ProgramAnswer × Program :=
  let bound := if most = 0 then queued stream program.world + 1 else most
  let counted := countNext stream program.nextReader bound program.world
  (counted.1.map fun counts =>
      match counts with
      | some found => .counts found
      | none => .pending,
    { program with
      world := counted.2.closeStream stream
      nextReader := program.nextReader + 1 })

/-- Closes a stream. -/
def finish (stream : Nat) (program : Program) : Except Failure ProgramAnswer × Program :=
  (.ok (.response .done), { program with world := program.world.closeStream stream })

/-! ### Steps -/

/-- Does something to the stream of a name, which has to be there. -/
def withStream (name : Text) (program : Program)
    (use : Nat → Except Failure ProgramAnswer × Program) : Except Failure ProgramAnswer × Program :=
  match program.world.streamNames.lookup name with
  | none => (.error (.foreign .absentKey name), program)
  | some stream => use stream

/-- Asks a target once. -/
def ask (target : Target) (program : Program) : Except Failure QueryResult × Program :=
  match program.world.aim target with
  | (.error failure, after) => (.error failure, { program with world := after })
  | (.ok aim, after) => (after.askOnce aim, { program with world := after })

/-- Carries out an action. -/
def act (action : Action) (program : Program) : Except Failure ProgramAnswer × Program :=
  let performed := program.world.perform action
  (performed.1.map .response, { program with world := performed.2 })

/-- What a step does before the others have their turns. -/
def step (step : ProgramStep) (program : Program) : Except Failure ProgramAnswer × Program :=
  match step with
  | .act action => program.act action
  | .read name calls =>
    (match program.world.store name, Reference.root.callAll calls with
      | .error failure, _ => .error failure
      | .ok _, .error failure => .error failure
      | .ok store, .ok reference => (store.read reference).map .snapshot,
      program)
  | .ask target =>
    let asked := program.ask target
    (asked.1.map .result, asked.2)
  | .askText target =>
    let asked := program.ask target
    ((asked.1.bind (QueryResult.toJson Json.nestingLimit)).map .text, asked.2)
  | .next name keep => program.withStream name fun stream => program.takeNext stream keep
  | .poll name => (program.poll name, program)
  | .drain name most => program.withStream name fun stream => program.drain stream most
  | .finish name => program.withStream name fun stream => program.finish stream

/-- Runs a step to the end. What is told and noticed on the way is found in the world. -/
def run (step : ProgramStep) (program : Program) : Except Failure ProgramAnswer × Program :=
  let stepped := ({ program with world := program.world.fresh } : Program).step step
  (stepped.1, stepped.2.settle)

end Program

end DocQuery
