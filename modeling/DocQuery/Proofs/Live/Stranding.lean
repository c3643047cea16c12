/-
This file finds out when a closed stream leaves readers waiting for ever.

Closing puts one mark into the queue, whatever the number of readers that wait. Nothing comes into the
queue after it, so there is one item less for those that wait with each that one of them takes, and with
each that is taken by somebody who calls later; and nobody begins to wait. So while a stream is closed,
the readers that wait, with those that went away, and the items, with those that went to later callers,
keep their balance: readers are left over in the end exactly if they were more than the items from the
beginning, all that counted. A reader that is left over stays so, since nothing wakes it any more.

What was woken goes on one reader at a time here, so that anything else can happen in between.
-/

import DocQuery.Live.Stream
import Mathlib.Data.List.Nodup
import Mathlib.Data.List.Perm.Subperm

namespace DocQuery

namespace Stream

variable {α : Type}

/-- The readers that have asked and not been answered. -/
def readers (stream : Stream α) : List Nat := stream.waiting ++ stream.woken

/-- Waking a reader lets it keep its place among the unanswered. -/
theorem perm_readers_wake (stream : Stream α) : stream.wake.readers.Perm stream.readers := by
  rw [wake]
  split
  · exact .refl _
  · next reader rest waits =>
    rw [readers, readers, waits, ← List.append_assoc]
    exact List.perm_append_singleton _ _

theorem perm_readers_enqueue (item : StreamItem α) (stream : Stream α) :
    (stream.enqueue item).readers.Perm stream.readers :=
  perm_readers_wake { stream with items := stream.items ++ [item] }

theorem perm_readers_push (content : α) (stream : Stream α) :
    (stream.push content).readers.Perm stream.readers := by
  rw [push]
  split
  · exact .refl _
  · exact perm_readers_enqueue _ stream

theorem perm_readers_close (stream : Stream α) : stream.close.readers.Perm stream.readers := by
  rw [close]
  split
  · exact .refl _
  · exact perm_readers_enqueue _ { stream with closed := true }

/-- A reader that withdraws is among the unanswered no more. -/
theorem perm_readers_withdraw (reader : Nat) (stream : Stream α) :
    (stream.withdraw reader).readers.Perm (stream.readers.filter (· ≠ reader)) := by
  rw [readers.eq_def stream, List.filter_append, withdraw]
  split
  · exact perm_readers_wake _
  · exact .refl _

/-- A reader that withdraws makes the unanswered one less, if it was among them. -/
theorem length_filter_ne {readers : List Nat} (apart : readers.Nodup) (reader : Nat) :
    (readers.filter (· ≠ reader)).length + (if reader ∈ readers then 1 else 0) =
      readers.length := by
  by_cases member : reader ∈ readers
  · have erased : readers.erase reader = readers.filter (· ≠ reader) :=
      (apart.erase_eq_filter reader).trans <| List.filter_congr fun other _ =>
        Bool.eq_iff_iff.mpr (by simp)
    have positive := List.length_pos_of_mem member
    rw [if_pos member, ← erased, List.length_erase_of_mem member]
    omega
  · have kept : readers.filter (· ≠ reader) = readers :=
      List.filter_eq_self.mpr fun other within =>
        decide_eq_true fun same => member (same ▸ within)
    rw [if_neg member, kept, Nat.add_zero]

/-! ### Items and the readers woken for them -/

/-- While somebody stands in line, each item in the queue has a reader that was woken for it. -/
def Attended (stream : Stream α) : Prop :=
  stream.waiting ≠ [] → stream.items.length ≤ stream.woken.length

/-- Whoever is woken for a new item makes up for it. -/
theorem attended_wake {stream : Stream α}
    (short : stream.waiting ≠ [] → stream.items.length ≤ stream.woken.length + 1) :
    stream.wake.Attended := by
  intro someone
  rw [items_wake]
  cases waits : stream.waiting with
  | nil =>
    rw [wake, waits] at someone
    exact absurd waits someone
  | cons reader rest =>
    rw [wake, waits]
    simpa using short (waits ▸ List.cons_ne_nil reader rest)

theorem attended_enqueue {stream : Stream α} (attended : stream.Attended) (item : StreamItem α) :
    (stream.enqueue item).Attended :=
  attended_wake fun someone => by
    simpa using attended someone

theorem attended_withdraw {stream : Stream α} (attended : stream.Attended)
    (apart : stream.woken.Nodup) (reader : Nat) : (stream.withdraw reader).Attended := by
  have fewer := length_filter_ne apart reader
  have before : stream.waiting.filter (· ≠ reader) ≠ [] →
      stream.items.length ≤ stream.woken.length := fun someone =>
    attended fun none => someone (by rw [none, List.filter_nil])
  rw [withdraw]
  split
  · next replaced =>
    rw [if_pos replaced.1] at fewer
    exact attended_wake fun someone => fewer ▸ before someone
  · next unreplaced =>
    intro someone
    by_cases empty : stream.items = []
    · exact le_of_eq_of_le (congrArg List.length empty) (Nat.zero_le _)
    · rw [if_neg fun woken => unreplaced ⟨woken, empty⟩, Nat.add_zero] at fewer
      exact fewer ▸ before someone

/-! ### Readers that are left over -/

/-- A closed stream strands readers: they wait, nothing is queued for them, and nobody goes on. -/
structure Strands (stream : Stream α) : Prop where
  closed : stream.closed = true
  empty : stream.items = []
  still : stream.woken = []
  waits : stream.waiting ≠ []

/-- A closed stream with nothing left to run strands readers exactly if they are more than its items. -/
theorem strands_iff_of_attended {stream : Stream α} (attended : stream.Attended)
    (closed : stream.closed = true) :
    stream.Strands ↔ stream.woken = [] ∧ stream.items.length < stream.readers.length where
  mp strands := by
    refine ⟨strands.still, ?_⟩
    rw [strands.empty, readers, strands.still, List.append_nil]
    exact List.length_pos_iff.mpr strands.waits
  mpr := by
    rintro ⟨still, more⟩
    rw [readers, still, List.append_nil] at more
    have waits : stream.waiting ≠ [] := List.ne_nil_of_length_pos (Nat.zero_lt_of_lt more)
    have few := attended waits
    rw [still] at few
    exact ⟨closed, List.eq_nil_of_length_eq_zero (Nat.le_zero.mp few), still, waits⟩

end Stream

/-! ### Runs with any number of readers -/

/-- What happens to a stream that has any number of readers. -/
inductive AudienceEvent (α : Type)
  /-- The subscription delivers. -/
  | deliver (content : α)
  /-- Another reader asks for the next delivery. -/
  | call
  /-- A reader takes back its call. -/
  | withdraw (reader : Nat)
  /-- The reader that was woken first goes on. -/
  | resume
  /-- The stream is closed, for the first time or again. -/
  | close
  deriving DecidableEq, Repr

/-- A stream with its readers, which are numbered as they call: how many called, and who was handed
what. -/
structure Audience (α : Type) where
  stream : Stream α
  calls : Nat
  handed : List (Nat × Reading α)
  deriving DecidableEq, Repr

namespace Audience

variable {α : Type}

/-- A new stream, of which nobody has asked anything. -/
def start : Audience α := ⟨.empty, 0, []⟩

def call (audience : Audience α) : Audience α :=
  match audience.stream.next audience.calls with
  | (some reading, after) =>
    ⟨after, audience.calls + 1, audience.handed ++ [(audience.calls, reading)]⟩
  | (none, after) => ⟨after, audience.calls + 1, audience.handed⟩

/-- The turn of the reader that was woken first. -/
def resume (audience : Audience α) : Audience α :=
  match audience.stream.woken with
  | [] => audience
  | reader :: rest =>
    let served := Stream.serve [reader] { audience.stream with woken := rest }
    { audience with stream := served.2, handed := audience.handed ++ served.1 }

def apply (event : AudienceEvent α) (audience : Audience α) : Audience α :=
  match event with
  | .deliver content => { audience with stream := audience.stream.push content }
  | .call => audience.call
  | .withdraw reader => { audience with stream := audience.stream.withdraw reader }
  | .resume => audience.resume
  | .close => { audience with stream := audience.stream.close }

/-- What becomes of a stream and its readers. -/
def run : List (AudienceEvent α) → Audience α → Audience α
  | [], audience => audience
  | event :: rest, audience => run rest (audience.apply event)

theorem run_append (first second : List (AudienceEvent α)) (audience : Audience α) :
    audience.run (first ++ second) = (audience.run first).run second := by
  induction first generalizing audience with
  | nil => rfl
  | cons event rest inductionHypothesis => exact inductionHypothesis (audience.apply event)

/-- The turn of all that were woken is one turn after the other. -/
theorem run_resume (audience : Audience α) :
    audience.run (List.replicate audience.stream.woken.length .resume) =
      { audience with
        stream := audience.stream.turn.2
        handed := audience.handed ++ audience.stream.turn.1 } := by
  obtain ⟨⟨items, waiting, woken, closed⟩, calls, handed⟩ := audience
  induction woken generalizing items waiting handed with
  | nil => exact congrArg (mk _ _) (List.append_nil handed).symm
  | cons reader rest inductionHypothesis =>
    cases items with
    | nil =>
      refine (inductionHypothesis (handed ++ []) [] (waiting ++ [reader])).trans ?_
      rw [List.append_nil]
      rfl
    | cons item others =>
      refine (inductionHypothesis (handed ++ [(reader, item.reading)]) others waiting).trans ?_
      rw [List.append_assoc]
      rfl

/-! ### Who is where -/

/-- The readers that wait, and those that were handed something. -/
def seats (audience : Audience α) : List Nat :=
  audience.stream.readers ++ audience.handed.map Prod.fst

/-- No reader is in two places, and only those are somewhere that have called. -/
structure Orderly (audience : Audience α) : Prop where
  apart : audience.seats.Nodup
  known : ∀ reader ∈ audience.seats, reader < audience.calls

theorem orderly_start : (start : Audience α).Orderly := ⟨List.nodup_nil, nofun⟩

/-- Readers that go away or change their seats leave the others in order. -/
theorem Orderly.of_subperm {audience after : Audience α} (orderly : audience.Orderly)
    (calls : after.calls = audience.calls) (seats : after.seats.Subperm audience.seats) :
    after.Orderly where
  apart := by
    obtain ⟨kept, same, sublist⟩ := seats
    exact same.nodup_iff.mp (orderly.apart.sublist sublist)
  known reader member := calls ▸ orderly.known reader (seats.subset member)

/-- A reader that calls has the next seat. -/
theorem Orderly.of_perm_concat {audience after : Audience α} (orderly : audience.Orderly)
    (calls : after.calls = audience.calls + 1)
    (seats : after.seats.Perm (audience.seats ++ [audience.calls])) : after.Orderly where
  apart := by
    rw [seats.nodup_iff, List.nodup_append]
    refine ⟨orderly.apart, List.nodup_singleton _, fun reader member last final => ?_⟩
    rw [List.mem_singleton.mp final]
    exact Nat.ne_of_lt (orderly.known reader member)
  known reader member := by
    rw [calls]
    rcases List.mem_append.mp (seats.subset member) with earlier | last
    · exact Nat.lt_succ_of_lt (orderly.known reader earlier)
    · exact List.mem_singleton.mp last ▸ Nat.lt_succ_self _

theorem Orderly.apply {audience : Audience α} (orderly : audience.Orderly)
    (event : AudienceEvent α) : (audience.apply event).Orderly := by
  cases event with
  | deliver content =>
    exact orderly.of_subperm rfl ((Stream.perm_readers_push _ _).append_right _).subperm
  | close => exact orderly.of_subperm rfl ((Stream.perm_readers_close _).append_right _).subperm
  | withdraw reader =>
    refine orderly.of_subperm rfl
      (((Stream.perm_readers_withdraw reader _).append_right _).subperm.trans ?_)
    exact (List.filter_sublist.append_right _).subperm
  | call =>
    obtain ⟨⟨items, waiting, woken, closed⟩, calls, handed⟩ := audience
    cases items with
    | cons item rest =>
      refine orderly.of_perm_concat rfl ?_
      simp [Audience.apply, call, Stream.next, seats, Stream.readers]
    | nil =>
      cases closed with
      | true =>
        refine orderly.of_perm_concat rfl ?_
        simp [Audience.apply, call, Stream.next, seats, Stream.readers]
      | false =>
        have moved : (calls :: (woken ++ handed.map Prod.fst)).Perm
            (woken ++ handed.map Prod.fst ++ [calls]) := (List.perm_append_singleton _ _).symm
        refine orderly.of_perm_concat rfl ?_
        simpa [Audience.apply, call, Stream.next, seats, Stream.readers] using
          moved.append_left waiting
  | resume =>
    obtain ⟨⟨items, waiting, woken, closed⟩, calls, handed⟩ := audience
    cases woken with
    | nil => exact orderly
    | cons reader rest =>
      refine orderly.of_subperm rfl (List.Perm.subperm ?_)
      cases items with
      | nil => simp [Audience.apply, resume, Stream.serve, seats, Stream.readers]
      | cons item others =>
        have moved : (rest ++ handed.map Prod.fst ++ [reader]).Perm
            (reader :: (rest ++ handed.map Prod.fst)) := List.perm_append_singleton _ _
        simpa [Audience.apply, resume, Stream.serve, seats, Stream.readers] using
          moved.append_left waiting

theorem Orderly.run {audience : Audience α} (orderly : audience.Orderly)
    (events : List (AudienceEvent α)) : (audience.run events).Orderly := by
  induction events generalizing audience with
  | nil => exact orderly
  | cons event rest inductionHypothesis => exact inductionHypothesis (orderly.apply event)

/-! ### The balance of a closed stream -/

/-- Whether an event is a call that finds something in the queue, as a number. -/
def takes (event : AudienceEvent α) (audience : Audience α) : Nat :=
  match event with
  | .call => if audience.stream.items = [] then 0 else 1
  | _ => 0

/-- Whether an event is the withdrawal of a reader that waits, as a number. -/
def leaves (event : AudienceEvent α) (audience : Audience α) : Nat :=
  match event with
  | .withdraw reader => if reader ∈ audience.stream.readers then 1 else 0
  | _ => 0

/-- What the events of a run count together. -/
def total (count : AudienceEvent α → Audience α → Nat) :
    List (AudienceEvent α) → Audience α → Nat
  | [], _ => 0
  | event :: rest, audience => count event audience + total count rest (audience.apply event)

/-- Closing closes a stream for good, and nothing else does. -/
theorem closed_apply_iff (event : AudienceEvent α) (audience : Audience α) :
    (audience.apply event).stream.closed = true ↔
      audience.stream.closed = true ∨ event = .close := by
  cases event with
  | close => exact iff_of_true (Stream.closed_close _) (.inr rfl)
  | deliver content => simp [apply, Stream.closed_push]
  | withdraw reader => simp [apply]
  | call =>
    obtain ⟨⟨items, waiting, woken, isClosed⟩, calls, handed⟩ := audience
    cases items <;> cases isClosed <;> simp [apply, call, Stream.next]
  | resume =>
    obtain ⟨⟨items, waiting, woken, isClosed⟩, calls, handed⟩ := audience
    cases woken with
    | nil => simp [apply, resume]
    | cons reader rest => cases items <;> simp [apply, resume, Stream.serve]

theorem closed_run {audience : Audience α} (closed : audience.stream.closed = true)
    (events : List (AudienceEvent α)) : (audience.run events).stream.closed = true := by
  induction events generalizing audience with
  | nil => exact closed
  | cons event rest inductionHypothesis =>
    exact inductionHypothesis ((closed_apply_iff event audience).mpr (.inl closed))

/-- One event keeps the balance: the readers that wait and those that go away, with the items there
were, are as many as the readers that waited, with the items that are left and those that are taken by a
call. -/
theorem balance_apply {audience : Audience α} (orderly : audience.Orderly)
    (closed : audience.stream.closed = true) (event : AudienceEvent α) :
    (audience.apply event).stream.readers.length + leaves event audience +
        audience.stream.items.length =
      audience.stream.readers.length + takes event audience +
        (audience.apply event).stream.items.length := by
  cases event with
  | withdraw reader =>
    have apart : audience.stream.readers.Nodup := orderly.apart.of_append_left
    have others := (Stream.perm_readers_withdraw reader audience.stream).length_eq
    have fewer := Stream.length_filter_ne apart reader
    simp only [Audience.apply, leaves, takes, Stream.items_withdraw]
    omega
  | deliver content =>
    rw [Audience.apply, Stream.push_of_closed content closed]
    rfl
  | close =>
    rw [Audience.apply, Stream.close, if_pos closed]
    rfl
  | call =>
    obtain ⟨⟨items, waiting, woken, isClosed⟩, calls, handed⟩ := audience
    obtain rfl : isClosed = true := closed
    cases items with
    | nil => rfl
    | cons item rest =>
      simp only [Audience.apply, call, Stream.next, takes, leaves, Stream.readers, List.length_cons,
        reduceCtorEq, if_false]
      omega
  | resume =>
    obtain ⟨⟨items, waiting, woken, isClosed⟩, calls, handed⟩ := audience
    cases woken with
    | nil => rfl
    | cons reader rest =>
      cases items with
      | nil =>
        simp only [Audience.apply, resume, Stream.serve, takes, leaves, Stream.readers,
          List.length_append, List.length_cons, List.length_nil]
        omega
      | cons item others =>
        simp only [Audience.apply, resume, Stream.serve, takes, leaves, Stream.readers,
          List.length_append, List.length_cons]
        omega

/-- A whole run keeps the balance, with all that go away and all that is taken. -/
theorem balance_run {audience : Audience α} (orderly : audience.Orderly)
    (closed : audience.stream.closed = true) (events : List (AudienceEvent α)) :
    (audience.run events).stream.readers.length + total leaves events audience +
        audience.stream.items.length =
      audience.stream.readers.length + total takes events audience +
        (audience.run events).stream.items.length := by
  induction events generalizing audience with
  | nil => simp [run, total]
  | cons event rest inductionHypothesis =>
    have first := balance_apply orderly closed event
    have others := inductionHypothesis (orderly.apply event)
      ((closed_apply_iff event audience).mpr (.inl closed))
    simp only [run, total]
    omega

/-! ### Closing -/

/-- What is closed in the end was closed by some event for the first time. -/
theorem exists_closing {audience : Audience α} {events : List (AudienceEvent α)}
    (opened : audience.stream.closed = false)
    (closed : (audience.run events).stream.closed = true) :
    ∃ earlier later, events = earlier ++ .close :: later ∧
      (audience.run earlier).stream.closed = false := by
  induction events generalizing audience with
  | nil => exact absurd (opened.symm.trans closed) Bool.false_ne_true
  | cons event rest inductionHypothesis =>
    cases still : (audience.apply event).stream.closed with
    | true =>
      obtain before | rfl := (closed_apply_iff event audience).mp still
      · exact absurd (opened.symm.trans before) Bool.false_ne_true
      · exact ⟨[], rest, rfl, opened⟩
    | false =>
      obtain ⟨earlier, later, same, before⟩ := inductionHypothesis still closed
      exact ⟨event :: earlier, later, by rw [same, List.cons_append], before⟩

/-- Where an open stream is closed, its readers are more than its items and the mark; those that go away
later count as items, and what later calls take counts as readers. -/
def Outnumbered (later : List (AudienceEvent α)) (audience : Audience α) : Prop :=
  audience.stream.items.length + 1 + total leaves later (audience.apply .close) <
    audience.stream.readers.length + total takes later (audience.apply .close)

/-- After an open stream was closed, the readers are more than the items exactly if they were
outnumbering them when it was closed. -/
theorem outnumbered_iff {audience : Audience α} (orderly : audience.Orderly)
    (opened : audience.stream.closed = false) (later : List (AudienceEvent α)) :
    audience.Outnumbered later ↔
      ((audience.apply .close).run later).stream.items.length <
        ((audience.apply .close).run later).stream.readers.length := by
  have closed : (audience.apply .close).stream.closed = true := Stream.closed_close _
  have balance := balance_run (orderly.apply .close) closed later
  have same : (audience.apply .close).stream.readers.length = audience.stream.readers.length :=
    (Stream.perm_readers_close _).length_eq
  have marked : (audience.apply .close).stream.items.length = audience.stream.items.length + 1 := by
    rw [apply, Stream.close, if_neg (by simp [opened]), Stream.items_enqueue, List.length_append]
    rfl
  rw [Outnumbered]
  omega

/-- While somebody stands in line, each item keeps a reader that was woken for it, whatever happens. -/
theorem attended_apply {audience : Audience α} (orderly : audience.Orderly)
    (attended : audience.stream.Attended) (event : AudienceEvent α) :
    (audience.apply event).stream.Attended := by
  cases event with
  | deliver content =>
    rw [apply, Stream.push]
    split
    · exact attended
    · exact Stream.attended_enqueue attended _
  | close =>
    rw [apply, Stream.close]
    split
    · exact attended
    · have marked : Stream.Attended { audience.stream with closed := true } := attended
      exact Stream.attended_enqueue marked _
  | withdraw reader =>
    exact Stream.attended_withdraw attended orderly.apart.of_append_left.of_append_right reader
  | call =>
    obtain ⟨⟨items, waiting, woken, isClosed⟩, calls, handed⟩ := audience
    cases items with
    | cons item rest =>
      exact fun someone => Nat.le_of_succ_le (attended someone)
    | nil => cases isClosed <;> exact fun _ => Nat.zero_le _
  | resume =>
    obtain ⟨⟨items, waiting, woken, isClosed⟩, calls, handed⟩ := audience
    cases woken with
    | nil => exact attended
    | cons reader rest =>
      cases items with
      | nil => exact fun _ => Nat.zero_le _
      | cons item others => exact fun someone => Nat.le_of_succ_le_succ (attended someone)

theorem attended_run {audience : Audience α} (orderly : audience.Orderly)
    (attended : audience.stream.Attended) (events : List (AudienceEvent α)) :
    (audience.run events).stream.Attended := by
  induction events generalizing audience with
  | nil => exact attended
  | cons event rest inductionHypothesis =>
    exact inductionHypothesis (orderly.apply event) (attended_apply orderly attended event)

/-! ### Readers that are stranded -/

/-- Nothing that happens helps a reader that is stranded, unless it withdraws. -/
theorem stranded_apply {audience : Audience α} {reader : Nat} (strands : audience.stream.Strands)
    (waits : reader ∈ audience.stream.waiting) {event : AudienceEvent α}
    (stays : event ≠ .withdraw reader) :
    (audience.apply event).stream.Strands ∧ reader ∈ (audience.apply event).stream.waiting := by
  obtain ⟨⟨items, waiting, woken, isClosed⟩, calls, handed⟩ := audience
  obtain ⟨rfl, rfl, rfl, -⟩ := id strands
  cases event with
  | deliver content => exact ⟨strands, waits⟩
  | close => exact ⟨strands, waits⟩
  | call => exact ⟨strands, waits⟩
  | resume => exact ⟨strands, waits⟩
  | withdraw other =>
    have kept : reader ∈ waiting.filter (· ≠ other) :=
      List.mem_filter.mpr ⟨waits, decide_eq_true fun same => stays (same ▸ rfl)⟩
    exact ⟨⟨rfl, rfl, rfl, List.ne_nil_of_mem kept⟩, kept⟩

theorem stranded_run {audience : Audience α} {reader : Nat} (strands : audience.stream.Strands)
    (waits : reader ∈ audience.stream.waiting) {events : List (AudienceEvent α)}
    (stays : .withdraw reader ∉ events) :
    (audience.run events).stream.Strands ∧ reader ∈ (audience.run events).stream.waiting := by
  induction events generalizing audience with
  | nil => exact ⟨strands, waits⟩
  | cons event rest inductionHypothesis =>
    have first := stranded_apply strands waits (List.ne_of_not_mem_cons stays).symm
    exact inductionHypothesis first.1 first.2 (List.not_mem_of_not_mem_cons stays)

/-- Whoever waits has been handed nothing. -/
theorem Orderly.unserved {audience : Audience α} (orderly : audience.Orderly) {reader : Nat}
    (waits : reader ∈ audience.stream.waiting) (reading : Reading α) :
    (reader, reading) ∉ audience.handed := fun served =>
  List.disjoint_of_nodup_append orderly.apart
    (List.mem_append_left _ waits) (List.mem_map_of_mem served)

/-- What any number of readers make of a stream, in whatever order they call, withdraw and go on. It
strands readers exactly if it was closed, nothing is left to run, and those that waited when it was
closed were more than its items and the closing mark; those that go away later count as items, and what
later calls take counts as readers. A reader that is stranded waits on, whatever happens, and is never
handed anything, until it withdraws. -/
theorem strands_iff_outnumbered (events : List (AudienceEvent α)) :
    ((start.run events).stream.Strands ↔
      (start.run events).stream.woken = [] ∧
        ∃ earlier later, events = earlier ++ .close :: later ∧
          (start.run earlier).stream.closed = false ∧ (start.run earlier).Outnumbered later) ∧
    ((start.run events).stream.Strands →
      ∀ reader ∈ (start.run events).stream.waiting, ∀ more, .withdraw reader ∉ more →
        reader ∈ (start.run (events ++ more)).stream.waiting ∧
        ∀ reading, (reader, reading) ∉ (start.run (events ++ more)).handed) := by
  have attended : (start.run events).stream.Attended :=
    attended_run orderly_start (fun _ => Nat.zero_le _) events
  refine ⟨⟨fun strands => ⟨strands.still, ?_⟩, ?_⟩, fun strands reader waits more stays => ?_⟩
  · obtain ⟨earlier, later, rfl, opened⟩ := exists_closing rfl strands.closed
    have orderly : (start.run earlier).Orderly := orderly_start.run earlier
    refine ⟨earlier, later, rfl, opened, (outnumbered_iff orderly opened later).mpr ?_⟩
    rw [run_append] at attended strands
    exact ((Stream.strands_iff_of_attended attended strands.closed).mp strands).2
  · rintro ⟨still, earlier, later, rfl, opened, outnumbered⟩
    have orderly : (start.run earlier).Orderly := orderly_start.run earlier
    rw [run_append] at attended still ⊢
    exact (Stream.strands_iff_of_attended attended (closed_run (Stream.closed_close _) later)).mpr
      ⟨still, (outnumbered_iff orderly opened later).mp outnumbered⟩
  · have remains : reader ∈ (start.run (events ++ more)).stream.waiting := by
      rw [run_append]
      exact (stranded_run strands waits stays).2
    exact ⟨remains, (orderly_start.run (events ++ more)).unserved remains⟩

/-- Two readers wait for the next delivery of a stream that is closed. The first learns that it has
ended; the second waits for ever. -/
theorem exists_stranded :
    (start.run [.call, .call, .close, .resume] : Audience Unit) =
        ⟨⟨[], [1], [], true⟩, 2, [(0, .ended)]⟩ ∧
      (start.run [.call, .call, .close, .resume] : Audience Unit).stream.Strands :=
  ⟨rfl, rfl, rfl, rfl, List.cons_ne_nil 1 []⟩

end Audience

end DocQuery
