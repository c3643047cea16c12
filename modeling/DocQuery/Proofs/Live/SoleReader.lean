/-
This file proves what a sole reader of a stream is handed.

Deliveries, calls of the reader, calls it takes back, turns of the readers that were woken, and
closings come in any order. The account of a run has two pages. As long as the closing mark has not
been taken, what was handed out and what is queued are together what was delivered before the stream
was closed, and the mark is the last in the queue if it is there. Once it has been taken, everything
was handed out, the queue stays empty, and all that is handed out from then on is the end. Whether
the reader waits does not enter into the account: a reader that waits is either in line, in front of
an empty queue that is open, or woken in front of one that is not empty, so its turn hands it what a
call would have.
-/

import DocQuery.Live.Program
import Mathlib.Data.List.Induction

namespace DocQuery

/-! ### Runs with one reader -/

/-- What happens to a stream that has one reader. -/
inductive StreamEvent (α : Type)
  /-- The subscription delivers. -/
  | deliver (content : α)
  /-- The reader asks for the next delivery; it asks for one at a time. -/
  | call
  /-- The call that waits is taken back. -/
  | withdraw
  /-- What was woken goes on. -/
  | turn
  /-- The stream is closed, for the first time or again. -/
  | close
  deriving DecidableEq, Repr

namespace StreamEvent

variable {α : Type}

/-- What an event delivers. -/
def content? : StreamEvent α → Option α
  | .deliver content => some content
  | _ => none

def isClose : StreamEvent α → Bool
  | .close => true
  | _ => false

/-- What is delivered before the first closing. -/
def accepted : List (StreamEvent α) → List α
  | [] => []
  | .close :: _ => []
  | .deliver content :: rest => content :: accepted rest
  | _ :: rest => accepted rest

/-- Whether the stream is closed by some event. -/
def closes (events : List (StreamEvent α)) : Bool := events.any isClose

theorem closes_concat (events : List (StreamEvent α)) (event : StreamEvent α) :
    closes (events ++ [event]) = (closes events || event.isClose) := by
  simp [closes]

/-- A delivery counts if the stream was not closed before. -/
theorem accepted_concat (events : List (StreamEvent α)) (event : StreamEvent α) :
    accepted (events ++ [event]) =
      accepted events ++ if closes events then [] else event.content?.toList := by
  induction events with
  | nil => cases event <;> rfl
  | cons first rest inductionHypothesis =>
    cases first with
    | close => rfl
    | deliver content => exact congrArg (content :: ·) inductionHypothesis
    | call | withdraw | turn => exact inductionHypothesis

end StreamEvent

/-- A stream with one reader: the number of the reader's call that waits, how many calls it made,
and what it was handed so far. -/
structure SoleReader (α : Type) where
  stream : Stream α
  pending : Option Nat
  calls : Nat
  outcomes : List (Reading α)

namespace SoleReader

variable {α : Type}

/-- A new stream, of which nothing was read. -/
def start : SoleReader α := ⟨.empty, none, 0, []⟩

/-- A call of the reader, if none waits: it is handed an outcome, or waits. -/
def call (reader : SoleReader α) : SoleReader α :=
  match reader.pending with
  | some _ => reader
  | none =>
    match reader.stream.next reader.calls with
    | (some reading, after) => ⟨after, none, reader.calls + 1, reader.outcomes ++ [reading]⟩
    | (none, after) => ⟨after, some reader.calls, reader.calls + 1, reader.outcomes⟩

/-- Takes back the call that waits. -/
def withdraw (reader : SoleReader α) : SoleReader α :=
  match reader.pending with
  | some number => { reader with stream := reader.stream.withdraw number, pending := none }
  | none => reader

/-- The turn of what was woken. Every outcome is kept, whoever it is for. -/
def turn (reader : SoleReader α) : SoleReader α :=
  let turned := reader.stream.turn
  { reader with
    stream := turned.2
    pending := reader.pending.filter fun number => (turned.1.lookup number).isNone
    outcomes := reader.outcomes ++ turned.1.map Prod.snd }

def apply (event : StreamEvent α) (reader : SoleReader α) : SoleReader α :=
  match event with
  | .deliver content => { reader with stream := reader.stream.push content }
  | .call => reader.call
  | .withdraw => reader.withdraw
  | .turn => reader.turn
  | .close => { reader with stream := reader.stream.close }

/-- What becomes of a stream and its reader. -/
def run (events : List (StreamEvent α)) (reader : SoleReader α) : SoleReader α :=
  events.foldl (fun reached event => reached.apply event) reader

theorem run_concat (events : List (StreamEvent α)) (event : StreamEvent α)
    (reader : SoleReader α) : reader.run (events ++ [event]) = (reader.run events).apply event := by
  rw [run, List.foldl_append]
  rfl

/-! ### What is handed out -/

/-- What a call that finds the stream so is handed, if it need not wait. -/
def due (stream : Stream α) : Option (Reading α) :=
  match stream.items with
  | item :: _ => some item.reading
  | [] => if stream.closed then some .ended else none

/-- How what was handed out and what is queued account for what was delivered. -/
inductive Account (delivered : List α) (closed : Bool) (outcomes : List (Reading α))
    (items : List (StreamItem α)) : Prop
  /-- The closing mark was not taken: it is the last in the queue if the stream is closed. -/
  | going (handed queued : List α) (all : handed ++ queued = delivered)
      (out : outcomes = handed.map .delivered)
      (rest : items = queued.map .delivery ++ if closed then [.closing] else [])
  /-- The closing mark was taken: nothing is left. -/
  | done (ends : Nat) (final : closed = true)
      (out : outcomes = delivered.map .delivered ++ List.replicate (ends + 1) .ended)
      (rest : items = [])

variable {delivered : List α} {closed : Bool} {outcomes : List (Reading α)}
  {items : List (StreamItem α)}

/-- Taking the first item hands it out. -/
theorem Account.take {item : StreamItem α}
    (account : Account delivered closed outcomes (item :: items)) :
    Account delivered closed (outcomes ++ [item.reading]) items := by
  cases account with
  | done ends final out rest => cases rest
  | going handed queued all out rest =>
    cases queued with
    | cons content others =>
      obtain ⟨rfl, rfl⟩ := List.cons.inj rest
      refine .going (handed ++ [content]) others ?_ ?_ rfl
      · rw [← all, List.append_assoc, List.singleton_append]
      · rw [out, List.map_append]
        rfl
    | nil =>
      cases closed with
      | false => cases rest
      | true =>
        obtain ⟨rfl, rfl⟩ := List.cons.inj rest
        refine .done 0 rfl ?_ rfl
        rw [out, ← all, List.append_nil]
        rfl

/-- A closed stream with an empty queue has handed out everything, and the end is all that comes. -/
theorem Account.finish (account : Account delivered true outcomes []) :
    Account delivered true (outcomes ++ [.ended]) [] := by
  cases account with
  | going handed queued all out rest => cases queued <;> cases rest
  | done ends final out rest =>
    refine .done (ends + 1) rfl ?_ rfl
    rw [out, List.append_assoc, ← List.replicate_succ']

theorem Account.push (account : Account delivered false outcomes items) (content : α) :
    Account (delivered ++ [content]) false outcomes (items ++ [.delivery content]) := by
  cases account with
  | done ends final out rest => cases final
  | going handed queued all out rest =>
    refine .going handed (queued ++ [content]) ?_ out ?_
    · rw [← all, List.append_assoc]
    · rw [rest, List.map_append]
      simp

theorem Account.close (account : Account delivered false outcomes items) :
    Account delivered true outcomes (items ++ [.closing]) := by
  cases account with
  | done ends final out rest => cases final
  | going handed queued all out rest =>
    refine .going handed queued all out ?_
    rw [rest]
    simp

/-! ### The reader's place -/

/-- A reader that does not wait is nowhere in line; one that waits is in line, in front of an empty
queue that is open, or woken, in front of one that is not empty. -/
inductive Waits (reader : SoleReader α) : Prop
  | free (pending : reader.pending = none) (waiting : reader.stream.waiting = [])
      (woken : reader.stream.woken = [])
  | inLine (number : Nat) (pending : reader.pending = some number)
      (waiting : reader.stream.waiting = [number]) (woken : reader.stream.woken = [])
      (empty : reader.stream.items = []) (isOpen : reader.stream.closed = false)
  | called (number : Nat) (pending : reader.pending = some number)
      (waiting : reader.stream.waiting = []) (woken : reader.stream.woken = [number])
      (first : StreamItem α) (rest : List (StreamItem α))
      (items : reader.stream.items = first :: rest)

/-- An item that is put into the queue calls a reader that is in line. -/
theorem Waits.enqueue {reader : SoleReader α} (waits : reader.Waits) (item : StreamItem α)
    (closed : Bool) :
    Waits { reader with
      stream := Stream.enqueue item { reader.stream with closed := closed } } := by
  cases waits with
  | free pending waiting woken =>
    refine .free pending ?_ ?_
    · simp [Stream.enqueue, Stream.wake, waiting]
    · simp [Stream.enqueue, Stream.wake, waiting, woken]
  | inLine number pending waiting woken empty isOpen =>
    refine .called number pending ?_ ?_ item [] ?_
    · simp [Stream.enqueue, Stream.wake, waiting]
    · simp [Stream.enqueue, Stream.wake, waiting, woken]
    · simp [Stream.items_enqueue, empty]
  | called number pending waiting woken first rest items =>
    refine .called number pending ?_ ?_ first (rest ++ [item]) ?_
    · simp [Stream.enqueue, Stream.wake, waiting]
    · simp [Stream.enqueue, Stream.wake, waiting, woken]
    · simp [Stream.items_enqueue, items]

/-- A call that was taken back leaves nobody in line. -/
theorem Waits.withdraw {reader : SoleReader α} (waits : reader.Waits) : reader.withdraw.Waits := by
  cases waits with
  | free pending waiting woken =>
    rw [SoleReader.withdraw, pending]
    exact .free pending waiting woken
  | inLine number pending waiting woken empty isOpen =>
    rw [SoleReader.withdraw, pending]
    exact .free rfl (by simp [Stream.withdraw, waiting, woken])
      (by simp [Stream.withdraw, waiting, woken])
  | called number pending waiting woken first rest items =>
    rw [SoleReader.withdraw, pending]
    exact .free rfl (by simp [Stream.withdraw, Stream.wake, waiting, woken])
      (by simp [Stream.withdraw, Stream.wake, waiting, woken])

/-! ### One event more -/

/-- Where a run stands after some events. -/
structure Sound (events : List (StreamEvent α)) (reader : SoleReader α) : Prop where
  closed : reader.stream.closed = StreamEvent.closes events
  account : Account (StreamEvent.accepted events) (StreamEvent.closes events) reader.outcomes
    reader.stream.items
  waits : reader.Waits

theorem sound_start : Sound [] (start : SoleReader α) where
  closed := rfl
  account := .going [] [] rfl rfl rfl
  waits := .free rfl rfl rfl

/-- What a reader comes to that is handed what is due, or waits. -/
structure Obtains (reader after : SoleReader α) : Prop where
  outcomes : after.outcomes = reader.outcomes ++ (due reader.stream).toList
  items : after.stream.items = reader.stream.items.tail
  closed : after.stream.closed = reader.stream.closed
  pending : after.pending = none ↔ (due reader.stream).isSome = true
  waits : after.Waits

variable {reader : SoleReader α}

/-- A reader that does not wait is handed what is due by its next call. -/
theorem obtains_call (waits : reader.Waits) (idle : reader.pending = none) :
    reader.Obtains reader.call := by
  obtain ⟨⟨items, waiting, woken, closed⟩, pending, calls, outcomes⟩ := reader
  cases waits with
  | inLine number busy => exact nomatch idle.symm.trans busy
  | called number busy => exact nomatch idle.symm.trans busy
  | free free nobody noOne =>
    obtain rfl : pending = none := free
    obtain rfl : waiting = [] := nobody
    obtain rfl : woken = [] := noOne
    cases items with
    | cons item rest => exact ⟨rfl, rfl, rfl, iff_of_true rfl rfl, .free rfl rfl rfl⟩
    | nil =>
      cases closed with
      | true => exact ⟨rfl, rfl, rfl, iff_of_true rfl rfl, .free rfl rfl rfl⟩
      | false =>
        exact ⟨(List.append_nil outcomes).symm, rfl, rfl, iff_of_false nofun nofun,
          .inLine calls rfl rfl rfl rfl rfl⟩

/-- A reader that waits is handed what is due at its turn. -/
theorem obtains_turn (waits : reader.Waits) (busy : reader.pending ≠ none) :
    reader.Obtains reader.turn := by
  obtain ⟨⟨items, waiting, woken, closed⟩, pending, calls, outcomes⟩ := reader
  cases waits with
  | free free => exact absurd free busy
  | inLine number waits line noOne empty isOpen =>
    obtain rfl : pending = some number := waits
    obtain rfl : waiting = [number] := line
    obtain rfl : woken = [] := noOne
    obtain rfl : items = [] := empty
    obtain rfl : closed = false := isOpen
    exact ⟨rfl, rfl, rfl, iff_of_false nofun nofun, .inLine number rfl rfl rfl rfl rfl⟩
  | called number waits nobody one first rest queued =>
    obtain rfl : pending = some number := waits
    obtain rfl : waiting = [] := nobody
    obtain rfl : woken = [number] := one
    obtain rfl : items = first :: rest := queued
    have idle : (some number).filter (fun other =>
        ([(number, first.reading)].lookup other).isNone) = none := by
      simp
    exact ⟨rfl, rfl, rfl, iff_of_true idle rfl, .free idle rfl rfl⟩

/-- Being handed what is due keeps the account. -/
theorem Account.obtain {after : SoleReader α}
    (account : Account delivered reader.stream.closed reader.outcomes reader.stream.items)
    (obtains : reader.Obtains after) :
    Account delivered reader.stream.closed after.outcomes after.stream.items := by
  rw [obtains.outcomes, obtains.items, due]
  cases items : reader.stream.items with
  | cons item rest =>
    rw [items] at account
    exact account.take
  | nil =>
    rw [items] at account
    cases closed : reader.stream.closed with
    | true =>
      rw [closed] at account
      exact account.finish
    | false =>
      rw [closed] at account
      exact (List.append_nil reader.outcomes).symm ▸ account

/-- A turn of nobody changes nothing. -/
theorem turn_of_idle (waits : reader.Waits) (idle : reader.pending = none) :
    reader.turn = reader := by
  obtain ⟨⟨items, waiting, woken, closed⟩, pending, calls, outcomes⟩ := reader
  cases waits with
  | inLine number busy => exact nomatch idle.symm.trans busy
  | called number busy => exact nomatch idle.symm.trans busy
  | free free nobody noOne =>
    obtain rfl : pending = none := free
    obtain rfl : woken = [] := noOne
    exact congrArg (SoleReader.mk _ _ _) (List.append_nil outcomes)

/-- An event that neither delivers nor closes, and keeps the account, keeps a run sound. -/
theorem Sound.idle {events : List (StreamEvent α)} {event : StreamEvent α}
    (sound : Sound events reader) (nothing : event.content? = none) (opened : event.isClose = false)
    {after : SoleReader α} (closed : after.stream.closed = reader.stream.closed)
    (account : Account (StreamEvent.accepted events) reader.stream.closed after.outcomes
      after.stream.items) (waits : after.Waits) : Sound (events ++ [event]) after := by
  have same : StreamEvent.closes (events ++ [event]) = StreamEvent.closes events := by
    rw [StreamEvent.closes_concat, opened, Bool.or_false]
  have accepted : StreamEvent.accepted (events ++ [event]) = StreamEvent.accepted events := by
    rw [StreamEvent.accepted_concat, nothing, Option.toList_none, ite_self, List.append_nil]
  refine ⟨by rw [closed, sound.closed, same], ?_, waits⟩
  rw [same, accepted, ← sound.closed]
  exact account

theorem Sound.account_here {events : List (StreamEvent α)} (sound : Sound events reader) :
    Account (StreamEvent.accepted events) reader.stream.closed reader.outcomes
      reader.stream.items :=
  sound.closed ▸ sound.account

/-- What one event preserves. -/
theorem Sound.apply {events : List (StreamEvent α)} (sound : Sound events reader)
    (event : StreamEvent α) : Sound (events ++ [event]) (reader.apply event) := by
  cases event with
  | call =>
    cases pending : reader.pending with
    | none =>
      have obtains := obtains_call sound.waits pending
      exact sound.idle rfl rfl obtains.closed (sound.account_here.obtain obtains) obtains.waits
    | some number =>
      have same : reader.apply .call = reader := by rw [SoleReader.apply, call, pending]
      rw [same]
      exact sound.idle rfl rfl rfl sound.account_here sound.waits
  | turn =>
    cases pending : reader.pending with
    | none =>
      rw [SoleReader.apply, turn_of_idle sound.waits pending]
      exact sound.idle rfl rfl rfl sound.account_here sound.waits
    | some number =>
      have busy : reader.pending ≠ none := by simp [pending]
      have obtains := obtains_turn sound.waits busy
      exact sound.idle rfl rfl obtains.closed (sound.account_here.obtain obtains) obtains.waits
  | withdraw =>
    have kept : reader.withdraw.stream.closed = reader.stream.closed ∧
        reader.withdraw.stream.items = reader.stream.items ∧
        reader.withdraw.outcomes = reader.outcomes := by
      rw [withdraw]
      cases reader.pending with
      | none => exact ⟨rfl, rfl, rfl⟩
      | some number =>
        dsimp only
        rw [Stream.withdraw]
        split
        · exact ⟨Stream.closed_wake _, Stream.items_wake _, rfl⟩
        · exact ⟨rfl, rfl, rfl⟩
    obtain ⟨closed, items, outcomes⟩ := kept
    refine sound.idle rfl rfl closed ?_ sound.waits.withdraw
    rw [SoleReader.apply, items, outcomes]
    exact sound.account_here
  | deliver content =>
    cases closed : reader.stream.closed with
    | true =>
      have known : StreamEvent.closes events = true := sound.closed ▸ closed
      have same : reader.apply (.deliver content) = reader := by
        rw [SoleReader.apply, Stream.push_of_closed content closed]
      have still :
          StreamEvent.closes (events ++ [.deliver content]) = StreamEvent.closes events := by
        rw [StreamEvent.closes_concat, known, Bool.true_or]
      rw [same]
      refine ⟨by rw [sound.closed, still], ?_, sound.waits⟩
      rw [still, StreamEvent.accepted_concat, known, if_pos rfl, List.append_nil, ← known]
      exact sound.account
    | false =>
      have known : StreamEvent.closes events = false := sound.closed ▸ closed
      have pushed :
          reader.stream.push content = Stream.enqueue (.delivery content) reader.stream := by
        rw [Stream.push, closed, if_neg Bool.false_ne_true]
      have still : StreamEvent.closes (events ++ [.deliver content]) = false := by
        rw [StreamEvent.closes_concat, known]
        rfl
      rw [SoleReader.apply, pushed]
      refine ⟨?_, ?_, sound.waits.enqueue (.delivery content) reader.stream.closed⟩
      · rw [still, Stream.enqueue, Stream.closed_wake]
        exact closed
      · rw [still, StreamEvent.accepted_concat, known, if_neg Bool.false_ne_true,
          Stream.items_enqueue]
        exact (known ▸ sound.account).push content
  | close =>
    have still : StreamEvent.closes (events ++ [.close]) = true := by
      rw [StreamEvent.closes_concat]
      exact Bool.or_true _
    have accepted : StreamEvent.accepted (events ++ [.close]) = StreamEvent.accepted events := by
      have nothing : (StreamEvent.close : StreamEvent α).content? = none := rfl
      rw [StreamEvent.accepted_concat, nothing, Option.toList_none, ite_self, List.append_nil]
    cases closed : reader.stream.closed with
    | true =>
      have known : StreamEvent.closes events = true := sound.closed ▸ closed
      have same : reader.apply .close = reader := by
        rw [SoleReader.apply, Stream.close, closed, if_pos rfl]
      rw [same]
      refine ⟨by rw [closed, still], ?_, sound.waits⟩
      rw [still, accepted, ← known]
      exact sound.account
    | false =>
      have known : StreamEvent.closes events = false := sound.closed ▸ closed
      have shut : reader.stream.close =
          Stream.enqueue .closing { reader.stream with closed := true } := by
        rw [Stream.close, closed, if_neg Bool.false_ne_true]
      rw [SoleReader.apply, shut]
      refine ⟨?_, ?_, sound.waits.enqueue .closing true⟩
      · rw [still, Stream.enqueue, Stream.closed_wake]
      · rw [still, accepted, Stream.items_enqueue]
        exact (known ▸ sound.account).close

/-- What a whole run comes to. -/
theorem sound_run (events : List (StreamEvent α)) : Sound events (start.run events) := by
  induction events using List.reverseRecOn with
  | nil => exact sound_start
  | append_singleton events event inductionHypothesis =>
    rw [run_concat]
    exact inductionHypothesis.apply event

/-- So many items behind others are enough to take so many. -/
theorem take_append_replicate {β : Type} (items : List β) (last : β) {count more : Nat}
    (enough : count ≤ more) : (items ++ List.replicate more last).take count =
      (items ++ List.replicate count last).take count := by
  have first : min (count - items.length) more = count - items.length := by omega
  have second : min (count - items.length) count = count - items.length := by omega
  rw [List.take_append, List.take_append, List.take_replicate, List.take_replicate, first, second]

/-- Calls on a closed stream are handed what is queued, and then the end. -/
theorem outcomes_calls (waits : reader.Waits) (idle : reader.pending = none)
    (closed : reader.stream.closed = true) (count : Nat) :
    (reader.run (List.replicate count .call)).outcomes = reader.outcomes ++
      (reader.stream.items.map StreamItem.reading ++ List.replicate count Reading.ended).take
        count := by
  induction count generalizing reader with
  | zero => exact (List.append_nil _).symm
  | succ count inductionHypothesis =>
    have obtains := obtains_call waits idle
    have some : (due reader.stream).isSome = true := by
      rw [due, closed]
      split <;> rfl
    have further := inductionHypothesis obtains.waits (obtains.pending.mpr some)
      (obtains.closed.trans closed)
    have first : reader.run (List.replicate (count + 1) .call) =
        reader.call.run (List.replicate count .call) := rfl
    rw [first, further, obtains.outcomes, obtains.items, List.append_assoc, due, closed]
    cases reader.stream.items with
    | nil => simp [List.replicate_succ]
    | cons item rest =>
      rw [List.map_cons, List.cons_append, List.take_succ_cons,
        take_append_replicate _ _ (Nat.le_succ count)]
      rfl

/-! ### Fidelity -/

/-- What a run hands out, and what it still holds, for each delivery that counts. -/
structure Faithful (events : List (StreamEvent α)) (reader : SoleReader α) (handed queued : List α)
    (ends : Nat) : Prop where
  /-- Nothing is lost, doubled or moved, and nothing that came after the closing is among it. -/
  all : handed ++ queued = StreamEvent.accepted events
  /-- Every outcome is a delivery or, behind all of them, the end. -/
  outcomes : reader.outcomes = handed.map .delivered ++ List.replicate ends .ended
  /-- The end comes only of a stream that was closed, and only when nothing is queued. -/
  ended : ends ≠ 0 → StreamEvent.closes events = true ∧ queued = []
  /-- A reader that does not wait is handed by its next call what is queued first, or the end of a
  closed stream, and waits if there is neither. -/
  called : reader.pending = none →
    reader.call.outcomes = reader.outcomes ++ ((queued.head?.map Reading.delivered).or
        (if StreamEvent.closes events then some .ended else none)).toList ∧
      (reader.call.pending = none ↔ queued ≠ [] ∨ StreamEvent.closes events = true)
  /-- A reader that waits is handed the same at its turn. -/
  woken : reader.pending ≠ none →
    reader.turn.outcomes = reader.outcomes ++ ((queued.head?.map Reading.delivered).or
        (if StreamEvent.closes events then some .ended else none)).toList ∧
      (reader.turn.pending = none ↔ queued ≠ [] ∨ StreamEvent.closes events = true)
  /-- Calls on a closed stream are handed what is queued first, and then nothing but the end. -/
  after : StreamEvent.closes events = true → reader.pending = none → ∀ count,
    (reader.run (List.replicate count .call)).outcomes = reader.outcomes ++
      (queued.map Reading.delivered ++ List.replicate count Reading.ended).take count

theorem Obtains.of_due {after : SoleReader α} (obtains : reader.Obtains after) {queued : List α}
    {closed : Bool} (same : due reader.stream = (queued.head?.map .delivered).or
      (if closed then some .ended else none)) :
    after.outcomes = reader.outcomes ++ ((queued.head?.map Reading.delivered).or
        (if closed then some .ended else none)).toList ∧
      (after.pending = none ↔ queued ≠ [] ∨ closed = true) := by
  refine ⟨same ▸ obtains.outcomes, ?_⟩
  rw [obtains.pending, same]
  cases queued <;> cases closed <;> simp

/-- Every run is faithful. -/
theorem Sound.exists_faithful {events : List (StreamEvent α)} (sound : Sound events reader) :
    ∃ handed queued ends, Faithful events reader handed queued ends := by
  have closed := sound.closed
  have calls (idle : reader.pending = none) := obtains_call sound.waits idle
  have turns (busy : reader.pending ≠ none) := obtains_turn sound.waits busy
  cases sound.account with
  | going handed queued all out rest =>
    have dues : due reader.stream = (queued.head?.map .delivered).or
        (if StreamEvent.closes events then some .ended else none) := by
      rw [due, rest, closed]
      cases queued with
      | cons content others => rfl
      | nil => cases StreamEvent.closes events <;> rfl
    refine ⟨handed, queued, 0, all, out.trans (List.append_nil _).symm, nofun,
      fun idle => (calls idle).of_due dues, fun busy => (turns busy).of_due dues,
      fun final idle count => ?_⟩
    have readings : (queued.map StreamItem.delivery ++ [StreamItem.closing]).map
        StreamItem.reading ++ List.replicate count Reading.ended =
        queued.map Reading.delivered ++ List.replicate (count + 1) Reading.ended := by
      rw [List.map_append, List.map_map, List.append_assoc]
      rfl
    rw [outcomes_calls sound.waits idle (closed.trans final), rest, final, if_pos rfl, readings,
      take_append_replicate _ _ (Nat.le_succ count)]
  | done ends final out rest =>
    have dues : due reader.stream = some .ended := by
      rw [due, rest, closed, final]
      rfl
    have none : due reader.stream = (([] : List α).head?.map .delivered).or
        (if StreamEvent.closes events then some .ended else none) := by
      rw [dues, final]
      rfl
    refine ⟨StreamEvent.accepted events, [], ends + 1, List.append_nil _, out,
      fun _ => ⟨final, rfl⟩,
      fun idle => (calls idle).of_due none, fun busy => (turns busy).of_due none,
      fun _ idle count => ?_⟩
    rw [outcomes_calls sound.waits idle (closed.trans final), rest, List.map_nil, List.map_nil]

/-- A waiting reader that is woken by a delivery takes it at its turn, what was queued when the
stream was closed comes before the end, and what came later never does. -/
example : ((start : SoleReader Nat).run [.call, .deliver 1, .deliver 2, .turn, .close, .deliver 3,
    .close, .call, .call, .call]).outcomes = [.delivered 1, .delivered 2, .ended, .ended] := rfl

/-! ### What a caller sees -/

/-- What comes of the calls of a reader, which return results and raise failures. -/
def answers (reader : SoleReader (Except Failure QueryResult)) :
    List (Except Failure ProgramAnswer) := reader.outcomes.map Program.answerOf

/-- What comes of a call that returns the result it is handed, or raises the failure. -/
def seen (delivery : Except Failure QueryResult) : Except Failure ProgramAnswer :=
  Program.answerOf (.delivered delivery)

/-- A failure that no coroutine lets out: the end of an iteration would read as its own end. -/
def IsUnraisable (delivery : Except Failure QueryResult) : Prop :=
  ∃ message, delivery = .error (.foreign .finished message)

/-- Results are returned and failures raised as they were delivered. -/
theorem seen_of_raisable {delivery : Except Failure QueryResult}
    (raisable : ¬ IsUnraisable delivery) : seen delivery = delivery.map .result := by
  cases delivery with
  | ok result => rfl
  | error failure =>
    have same : failure.awaited = failure := by
      unfold Failure.awaited Failure.unlessEnd
      split
      · next message => exact absurd ⟨message, rfl⟩ raisable
      · rfl
    exact congrArg Except.error same

theorem seen_of_unraisable {delivery : Except Failure QueryResult}
    (unraisable : IsUnraisable delivery) :
    seen delivery = .error (.foreign .running "coroutine raised StopIteration") := by
  obtain ⟨message, rfl⟩ := unraisable
  rfl

end SoleReader

end DocQuery
