/-
This file defines streams: the deliveries of a live query as a queue that readers take from.

Deliveries queue up until the stream is closed; those that come later are dropped. Closing puts
one mark behind what is queued, and a reader that takes the mark learns that the stream has
ended. A reader that finds the queue empty waits. Each new item wakes the reader that has waited
longest, but a woken reader takes its item only in its turn; if somebody else took the item
first, it waits again, behind the others. There is one mark only, so it wakes one reader only.

Readers are known by numbers. What deliveries are is left open.
-/

namespace DocQuery

/-- What stands in the queue of a stream. -/
inductive StreamItem (α : Type)
  | delivery (content : α)
  | closing
  deriving DecidableEq, Repr

/-- What a reader comes to. -/
inductive Reading (α : Type)
  | delivered (content : α)
  | ended
  deriving DecidableEq, Repr

/-- What a reader that takes an item comes to. -/
def StreamItem.reading {α : Type} : StreamItem α → Reading α
  | .delivery content => .delivered content
  | .closing => .ended

/-- A stream: its queue, the readers that wait, the readers that are woken and have not had
their turn yet, and whether it is closed. The longest waiting come first. -/
structure Stream (α : Type) where
  items : List (StreamItem α)
  waiting : List Nat
  woken : List Nat
  closed : Bool
  deriving DecidableEq, Repr

namespace Stream

variable {α : Type}

/-- A new stream. -/
def empty : Stream α := ⟨[], [], [], false⟩

/-! ### Deliveries -/

/-- Wakes the reader that has waited longest. -/
def wake (stream : Stream α) : Stream α :=
  match stream.waiting with
  | [] => stream
  | reader :: rest => { stream with waiting := rest, woken := stream.woken ++ [reader] }

/-- Puts an item behind the others and wakes a reader. -/
def enqueue (item : StreamItem α) (stream : Stream α) : Stream α :=
  wake { stream with items := stream.items ++ [item] }

/-- Takes in a delivery; a closed stream drops it. -/
def push (content : α) (stream : Stream α) : Stream α :=
  if stream.closed then stream else enqueue (.delivery content) stream

/-- Closes a stream. Closing it again changes nothing. -/
def close (stream : Stream α) : Stream α :=
  if stream.closed then stream else enqueue .closing { stream with closed := true }

/-! ### Readers -/

/-- Lets a reader have the first item, or wait for one. A closed stream with an empty queue has
ended for every reader. -/
def next (reader : Nat) (stream : Stream α) : Option (Reading α) × Stream α :=
  match stream.items with
  | item :: rest => (some item.reading, { stream with items := rest })
  | [] =>
    if stream.closed then (some .ended, stream)
    else (none, { stream with waiting := stream.waiting ++ [reader] })

/-- Takes back the wait of a reader. If it was woken for an item that is still there, the next
reader is woken instead. -/
def withdraw (reader : Nat) (stream : Stream α) : Stream α :=
  let remaining :=
    { stream with
      waiting := stream.waiting.filter (· ≠ reader)
      woken := stream.woken.filter (· ≠ reader) }
  if reader ∈ stream.woken ∧ stream.items ≠ [] then wake remaining else remaining

/-- Gives woken readers their turns, in order. A reader that finds nothing waits again. -/
def serve : List Nat → Stream α → List (Nat × Reading α) × Stream α
  | [], stream => ([], stream)
  | reader :: rest, stream =>
    match stream.items with
    | item :: others =>
      let (readings, after) := serve rest { stream with items := others }
      ((reader, item.reading) :: readings, after)
    | [] => serve rest { stream with waiting := stream.waiting ++ [reader] }

/-- The turn of all woken readers: what they come to, and the stream afterwards. -/
def turn (stream : Stream α) : List (Nat × Reading α) × Stream α :=
  serve stream.woken { stream with woken := [] }

/-! ### Laws -/

@[simp] theorem closed_wake (stream : Stream α) : stream.wake.closed = stream.closed := by
  rw [wake]
  split <;> rfl

@[simp] theorem items_wake (stream : Stream α) : stream.wake.items = stream.items := by
  rw [wake]
  split <;> rfl

theorem items_enqueue (item : StreamItem α) (stream : Stream α) :
    (stream.enqueue item).items = stream.items ++ [item] := by
  rw [enqueue, items_wake]

theorem items_push (content : α) (stream : Stream α) :
    (stream.push content).items =
      if stream.closed then stream.items else stream.items ++ [.delivery content] := by
  rw [push]
  split
  · rfl
  · rw [items_enqueue]

theorem closed_push (content : α) (stream : Stream α) :
    (stream.push content).closed = stream.closed := by
  rw [push]
  split
  · rfl
  · rw [enqueue, closed_wake]

theorem closed_close (stream : Stream α) : stream.close.closed = true := by
  rw [close]
  split
  · next already => exact already
  · rw [enqueue, closed_wake]

/-- Closing a stream again changes nothing. -/
theorem close_close (stream : Stream α) : stream.close.close = stream.close := by
  rw [close, if_pos (closed_close stream)]

/-- A closed stream drops deliveries. -/
theorem push_of_closed (content : α) {stream : Stream α} (closed : stream.closed = true) :
    stream.push content = stream := by
  rw [push, if_pos closed]

@[simp] theorem items_withdraw (reader : Nat) (stream : Stream α) :
    (stream.withdraw reader).items = stream.items := by
  rw [withdraw]
  split
  · exact items_wake _
  · rfl

@[simp] theorem closed_withdraw (reader : Nat) (stream : Stream α) :
    (stream.withdraw reader).closed = stream.closed := by
  rw [withdraw]
  split
  · exact closed_wake _
  · rfl

end Stream

end DocQuery
