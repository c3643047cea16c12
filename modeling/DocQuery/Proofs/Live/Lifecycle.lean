/-
This file follows one handle of a live query through whatever is asked of it.

A handle is asked to take a release, to cancel, and to pass on what a source hands out, in any order
and from anywhere: by whoever holds it, by its listener, by a release that is under way, and by a
source that goes on after it was released. It calls somebody at most once for each request, and only
when it has nothing left to do itself: the release is forgotten and the delivery is counted before
the call. So a call that comes back, or raises, or never ends changes nothing for the handle, and
requests that are nested in each other leave the same trace as the same requests one after the
other.

Of such a row of requests an invariant says what the handle holds: until it is cancelled the release
that was attached last, and nothing from then on.
-/

import DocQuery.Proofs.Live.Steps
import Mathlib.Data.List.Induction

namespace DocQuery

namespace Subscription

/-! ### Requests -/

/-- What a handle can be asked to do. -/
inductive Call (α : Type)
  | attach (release : α)
  /-- It is cancelled by hand. -/
  | cancel
  /-- The block that it belongs to is left. -/
  | leave
  | snapshot (content : Snapshot)
  | failure (cause : Failure)

/-- Whom a handle calls. -/
inductive Callee (α : Type)
  | release (release : α)
  | listener (delivery : Except Failure QueryResult)

variable {α : Type}

/-- Whether a request cancels. -/
def Call.cancels : Call α → Bool
  | .cancel | .leave => true
  | _ => false

/-- The release that a request attaches. -/
def Call.attached? : Call α → Option α
  | .attach release => some release
  | _ => none

theorem Call.attached?_of_cancels {call : Call α} (cancels : call.cancels = true) :
    call.attached? = none := by
  cases call <;> trivial

/-- Makes a delivery, which is counted before the listener is called. -/
def deliver (delivery : Except Failure QueryResult) (handle : Subscription α) :
    Option (Callee α) × Subscription α :=
  if handle.active then (some (.listener delivery), handle.count) else (none, handle)

/-- Carries out a request: whom the handle calls, and how it stands by then. -/
def ask (projection : Projection) (call : Call α) (handle : Subscription α) :
    Option (Callee α) × Subscription α :=
  match call with
  | .attach release => ((handle.attach release).1.map .release, (handle.attach release).2)
  | .cancel | .leave => (handle.cancel.1.map .release, handle.cancel.2)
  | .snapshot content =>
    match QueryResult.ofSnapshot handle.type handle.path projection content with
    | .ok result => handle.deliver (.ok result)
    | .error failure =>
      if failure.isDeliverable then handle.deliver (.error failure) else (none, handle)
  | .failure cause => handle.deliver (.error cause)

/-- All that can come of a request. -/
inductive Answers (handle : Subscription α) : Call α → Option (Callee α) → Subscription α → Prop
  | holds (active : handle.active = true) (release : α) :
      Answers handle (.attach release) none { handle with release := some release }
  | passes (inactive : handle.active = false) (release : α) :
      Answers handle (.attach release) (some (.release release)) { handle with release := none }
  | ends (active : handle.active = true) {call : Call α} (cancels : call.cancels = true) :
      Answers handle call (handle.release.map .release)
        { handle with release := none, cancelled := true }
  | ended (inactive : handle.active = false) {call : Call α} (cancels : call.cancels = true) :
      Answers handle call none handle
  | tells (active : handle.active = true) {call : Call α} (cancels : call.cancels = false)
      (attaches : call.attached? = none) (delivery : Except Failure QueryResult) :
      Answers handle call (some (.listener delivery)) handle.count
  | drops {call : Call α} (cancels : call.cancels = false)
      (attaches : call.attached? = none) : Answers handle call none handle

theorem answers_deliver {call : Call α} (cancels : call.cancels = false)
    (attaches : call.attached? = none) (delivery : Except Failure QueryResult)
    (handle : Subscription α) :
    handle.Answers call (handle.deliver delivery).1 (handle.deliver delivery).2 := by
  rw [deliver]
  split
  · next active => exact .tells active cancels attaches delivery
  · exact .drops cancels attaches

theorem answers_cancel {call : Call α} (cancels : call.cancels = true) (handle : Subscription α) :
    handle.Answers call (handle.cancel.1.map .release) handle.cancel.2 := by
  rw [Subscription.cancel]
  split
  · next already => exact .ended (by rw [active, already]; rfl) cancels
  · next not => exact .ends (by rw [active, eq_false_of_ne_true not]; rfl) cancels

theorem answers_ask (projection : Projection) (call : Call α) (handle : Subscription α) :
    handle.Answers call (handle.ask projection call).1 (handle.ask projection call).2 := by
  cases call with
  | attach release =>
    rw [ask, Subscription.attach]
    split
    · next already => exact .passes (by rw [active, already]; rfl) release
    · next not => exact .holds (by rw [active, eq_false_of_ne_true not]; rfl) release
  | cancel => exact answers_cancel rfl handle
  | leave => exact answers_cancel rfl handle
  | snapshot content =>
    rw [ask]
    split
    · exact answers_deliver rfl rfl _ handle
    · split
      · exact answers_deliver rfl rfl _ handle
      · exact .drops rfl rfl
  | failure cause => exact answers_deliver rfl rfl _ handle

/-! ### Traces -/

/-- A moment in the life of a handle, with the handle as it stands then: something is asked of it,
or it calls somebody. -/
inductive Moment (α : Type)
  | asked (call : Call α) (handle : Subscription α)
  | called (callee : Callee α) (handle : Subscription α)

namespace Moment

def cancels : Moment α → Bool
  | .asked call _ => call.cancels
  | .called _ _ => false

def attached? : Moment α → Option α
  | .asked call _ => call.attached?
  | .called _ _ => none

def released? : Moment α → Option α
  | .called (.release release) _ => some release
  | _ => none

def told? : Moment α → Option (Except Failure QueryResult)
  | .called (.listener delivery) _ => some delivery
  | _ => none

end Moment

/-- The releases that are attached in a trace. -/
def attached (trace : List (Moment α)) : List α := trace.filterMap Moment.attached?

/-- The releases that are called in a trace. -/
def released (trace : List (Moment α)) : List α := trace.filterMap Moment.released?

/-- What the listener is told in a trace. -/
def told (trace : List (Moment α)) : List (Except Failure QueryResult) :=
  trace.filterMap Moment.told?

section Lists

variable (first second : List (Moment α)) (call : Call α) (handle : Subscription α)
  (release : α) (delivery : Except Failure QueryResult)

@[simp] theorem attached_nil : attached ([] : List (Moment α)) = [] := rfl

@[simp] theorem released_nil : released ([] : List (Moment α)) = [] := rfl

@[simp] theorem told_nil : told ([] : List (Moment α)) = [] := rfl

@[simp] theorem attached_append : attached (first ++ second) = attached first ++ attached second :=
  List.filterMap_append

@[simp] theorem released_append : released (first ++ second) = released first ++ released second :=
  List.filterMap_append

@[simp] theorem told_append : told (first ++ second) = told first ++ told second :=
  List.filterMap_append

@[simp] theorem attached_asked :
    attached (.asked call handle :: second) = call.attached?.toList ++ attached second := by
  rw [attached, List.filterMap_cons, Moment.attached?]
  cases call.attached? <;> rfl

@[simp] theorem attached_called (callee : Callee α) :
    attached (.called callee handle :: second) = attached second := rfl

@[simp] theorem released_asked : released (.asked call handle :: second) = released second := rfl

@[simp] theorem released_release :
    released (.called (.release release) handle :: second) = release :: released second := rfl

@[simp] theorem released_listener :
    released (.called (.listener delivery) handle :: second) = released second := rfl

@[simp] theorem told_asked : told (.asked call handle :: second) = told second := rfl

@[simp] theorem told_release :
    told (.called (.release release) handle :: second) = told second := rfl

@[simp] theorem told_listener :
    told (.called (.listener delivery) handle :: second) = delivery :: told second := rfl

end Lists

/-- How a handle fares: a request that calls nobody is over at once, and whoever is called may ask
anything of the handle before its call ends, if it ends. -/
inductive Course (projection : Projection) :
    Subscription α → List (Moment α) → Subscription α → Prop
  | done (handle : Subscription α) : Course projection handle [] handle
  | quiet {handle after last : Subscription α} {call : Call α} {rest : List (Moment α)}
      (answer : handle.ask projection call = (none, after))
      (further : Course projection after rest last) :
      Course projection handle (.asked call handle :: rest) last
  | calling {handle after back last : Subscription α} {call : Call α} {callee : Callee α}
      {inner rest : List (Moment α)}
      (answer : handle.ask projection call = (some callee, after))
      (body : Course projection after inner back) (further : Course projection back rest last) :
      Course projection handle (.asked call handle :: .called callee after :: (inner ++ rest)) last

/-! ### Requests in a row -/

/-- What a handle does for a request. -/
def calls (projection : Projection) (call : Call α) (handle : Subscription α) : List (Moment α) :=
  ((handle.ask projection call).1.map fun callee =>
    .called callee (handle.ask projection call).2).toList

/-- Carries out requests one after the other: the trace, and the handle at the end. -/
def replay (projection : Projection) : List (Call α) → Subscription α →
    List (Moment α) × Subscription α
  | [], handle => ([], handle)
  | call :: rest, handle =>
    let further := replay projection rest (handle.ask projection call).2
    (.asked call handle :: (handle.calls projection call ++ further.1), further.2)

variable {projection : Projection}

theorem replay_append (first second : List (Call α)) (handle : Subscription α) :
    replay projection (first ++ second) handle =
      ((replay projection first handle).1 ++
          (replay projection second (replay projection first handle).2).1,
        (replay projection second (replay projection first handle).2).2) := by
  induction first generalizing handle with
  | nil => rfl
  | cons call rest inductionHypothesis =>
    rw [List.cons_append, replay, replay, inductionHypothesis]
    simp only [List.cons_append, List.append_assoc]

/-- Nested requests leave the trace of the same requests in a row, since a handle does nothing after
it has called somebody. -/
theorem Course.exists_replay {handle last : Subscription α} {trace : List (Moment α)}
    (course : Course projection handle trace last) :
    ∃ requests, replay projection requests handle = (trace, last) := by
  induction course with
  | done handle => exact ⟨[], rfl⟩
  | @quiet handle after last call rest answer _ furtherHypothesis =>
    obtain ⟨requests, same⟩ := furtherHypothesis
    refine ⟨call :: requests, ?_⟩
    rw [replay, calls, answer]
    dsimp only
    rw [same]
    rfl
  | @calling handle after back last call callee inner rest answer _ _ bodyHypothesis
      furtherHypothesis =>
    obtain ⟨nested, inside⟩ := bodyHypothesis
    obtain ⟨requests, same⟩ := furtherHypothesis
    refine ⟨call :: (nested ++ requests), ?_⟩
    rw [replay, calls, answer]
    dsimp only
    rw [replay_append, inside]
    dsimp only
    rw [same]
    rfl

theorem asked_not_mem_calls (projection : Projection) (call other : Call α)
    (handle found : Subscription α) : .asked other found ∉ handle.calls projection call := by
  rw [calls]
  cases (handle.ask projection call).1 <;> simp

/-- A trace can be cut at every request: what is before it is the trace of the requests before it,
and what is behind it starts with what the handle does for it. -/
theorem exists_cut {requests : List (Call α)} {start handle : Subscription α} {call : Call α}
    {before after : List (Moment α)}
    (cut : (replay projection requests start).1 = before ++ .asked call handle :: after) :
    ∃ earlier later, replay projection earlier start = (before, handle) ∧
      after = handle.calls projection call ++
        (replay projection later (handle.ask projection call).2).1 := by
  induction requests generalizing start before with
  | nil => cases before <;> cases cut
  | cons first rest inductionHypothesis =>
    rw [replay] at cut
    cases before with
    | nil =>
      obtain ⟨same, behind⟩ := List.cons_eq_cons.mp cut
      cases same
      exact ⟨[], rest, rfl, behind.symm⟩
    | cons moment others =>
      rw [List.cons_append] at cut
      obtain ⟨rfl, behind⟩ := List.cons_eq_cons.mp cut
      -- The request is not among what the handle does for the first one, so it is behind that.
      obtain ⟨remaining, rfl, further⟩ : ∃ remaining,
          others = start.calls projection first ++ remaining ∧
            (replay projection rest (start.ask projection first).2).1 =
              remaining ++ .asked call handle :: after := by
        rcases List.append_eq_append_iff.mp behind with
          ⟨remaining, same, behind⟩ | ⟨remaining, same, behind⟩
        · exact ⟨remaining, same, behind⟩
        · cases remaining with
          | nil => exact ⟨[], by rw [same, List.append_nil, List.append_nil], behind.symm⟩
          | cons moment more =>
            obtain ⟨rfl, _⟩ := List.cons_eq_cons.mp behind
            refine absurd ?_ (asked_not_mem_calls projection first call start handle)
            rw [same]
            exact List.mem_append_right others List.mem_cons_self
      obtain ⟨earlier, later, same, rest⟩ := inductionHypothesis further
      refine ⟨first :: earlier, later, ?_, rest⟩
      rw [replay, same]

/-! ### What a handle keeps -/

/-- What the trace of a new handle says about how the handle stands. -/
structure Accounts (trace : List (Moment α)) (handle : Subscription α) : Prop where
  active : handle.active = !trace.any Moment.cancels
  updates : handle.updates = (told trace).length
  /-- No release is called while the handle is active. -/
  idle : ∀ release found, .called (.release release) found ∈ trace → found.active = false
  /-- Releases are called in the order in which they were attached, each of them once at most. -/
  once : (released trace).Sublist (attached trace)
  waiting : handle.active = true → released trace = [] ∧ handle.release = (attached trace).getLast?
  latest : handle.active = false → (released trace).getLast? = (attached trace).getLast?

theorem accounts_opened (type : QueryType) (path : Value) :
    Accounts [] (opened type path : Subscription α) :=
  ⟨rfl, rfl, nofun, .refl [], fun _ => ⟨rfl, rfl⟩, nofun⟩

theorem called_inactive {release : α} {handle : Subscription α} (inactive : handle.active = false) :
    ∀ other found,
      Moment.called (.release other) found ∈ [Moment.called (.release release) handle] →
        found.active = false := by
  intro other found member
  cases List.mem_singleton.mp member
  exact inactive

/-- A request leads from one account to the next. -/
theorem Accounts.ask {trace : List (Moment α)} {handle : Subscription α}
    (accounts : Accounts trace handle) (projection : Projection) (call : Call α) :
    Accounts (trace ++ .asked call handle :: handle.calls projection call)
      (handle.ask projection call).2 := by
  have answers := answers_ask projection call handle
  rw [calls]
  generalize handle.ask projection call = answer at answers ⊢
  obtain ⟨callee, after⟩ := answer
  have idle {moments : List (Moment α)}
      (apart : ∀ release found, .called (.release release) found ∈ moments → found.active = false) :
      ∀ release found, .called (.release release) found ∈ trace ++ .asked call handle :: moments →
        found.active = false := by
    intro release found member
    rcases List.mem_append.mp member with before | now
    · exact accounts.idle release found before
    · rcases List.mem_cons.mp now with same | later
      · cases same
      · exact apart release found later
  cases answers with
  | holds active release =>
    have stands : handle.active = !trace.any Moment.cancels := accounts.active
    obtain ⟨nothing, _⟩ := accounts.waiting active
    refine ⟨?_, ?_, idle nofun, ?_, fun _ => ⟨?_, ?_⟩, fun inactive => ?_⟩
    · show handle.active = _
      simp [stands, Moment.cancels, Call.cancels]
    · simpa using accounts.updates
    · simp [nothing]
    · simp [nothing]
    · simp [Call.attached?]
    · exact absurd (active.symm.trans inactive) nofun
  | passes inactive release =>
    have stands : handle.active = !trace.any Moment.cancels := accounts.active
    refine ⟨?_, ?_, idle (called_inactive inactive), ?_, fun active => ?_, fun _ => ?_⟩
    · show handle.active = _
      simp [stands, Moment.cancels, Call.cancels]
    · simpa using accounts.updates
    · simpa [Call.attached?] using accounts.once.append (List.Sublist.refl [release])
    · exact absurd (active.symm.trans inactive) nofun
    · simp [Call.attached?]
  | ends active cancels =>
    obtain ⟨nothing, waiting⟩ := accounts.waiting active
    cases held : handle.release with
    | none =>
      refine ⟨?_, ?_, idle nofun, ?_, nofun, fun _ => ?_⟩
      · show false = _
        simp [Moment.cancels, cancels]
      · simpa using accounts.updates
      · simp [nothing]
      · simp [nothing, Call.attached?_of_cancels cancels, ← waiting, held]
    | some release =>
      have known : release ∈ attached trace := List.mem_of_getLast? (waiting.symm.trans held)
      refine ⟨?_, ?_, idle (called_inactive rfl), ?_, nofun, fun _ => ?_⟩
      · show false = _
        simp [Moment.cancels, cancels]
      · simpa using accounts.updates
      · simpa [nothing, Call.attached?_of_cancels cancels] using known
      · simp [nothing, Call.attached?_of_cancels cancels, ← waiting, held]
  | ended inactive cancels =>
    refine ⟨?_, ?_, idle nofun, ?_, fun active => ?_, fun _ => ?_⟩
    · rw [inactive]
      simp [Moment.cancels, cancels]
    · simpa using accounts.updates
    · simpa [Call.attached?_of_cancels cancels] using accounts.once
    · exact absurd (active.symm.trans inactive) nofun
    · simpa [Call.attached?_of_cancels cancels] using accounts.latest inactive
  | tells active cancels attaches delivery =>
    refine ⟨?_, ?_, idle nofun, ?_, fun _ => ?_, fun inactive => ?_⟩
    · show handle.active = _
      simp [accounts.active, Moment.cancels, cancels]
    · simpa [count] using accounts.updates
    · simpa [attaches] using accounts.once
    · simpa [attaches] using accounts.waiting active
    · exact absurd (active.symm.trans inactive) nofun
  | drops cancels attaches =>
    refine ⟨?_, ?_, idle nofun, ?_, fun active => ?_, fun inactive => ?_⟩
    · simp [accounts.active, Moment.cancels, cancels]
    · simpa using accounts.updates
    · simpa [attaches] using accounts.once
    · simpa [attaches] using accounts.waiting active
    · simpa [attaches] using accounts.latest inactive

theorem accounts_replay (projection : Projection) (type : QueryType) (path : Value)
    (requests : List (Call α)) :
    Accounts (replay projection requests (opened type path)).1
      (replay projection requests (opened type path)).2 := by
  induction requests using List.reverseRecOn with
  | nil => exact accounts_opened type path
  | append_singleton requests call inductionHypothesis =>
    have step := inductionHypothesis.ask projection call
    rw [replay_append]
    simpa [replay] using step

/-- A cancelled handle tells nobody anything, and calls every release at once. -/
theorem spent_replay (projection : Projection) {handle : Subscription α}
    (inactive : handle.active = false) (requests : List (Call α)) :
    told (replay projection requests handle).1 = [] ∧
      released (replay projection requests handle).1 =
        attached (replay projection requests handle).1 := by
  induction requests generalizing handle with
  | nil => exact ⟨rfl, rfl⟩
  | cons call rest inductionHypothesis =>
    have answers := answers_ask projection call handle
    rw [replay, calls]
    generalize handle.ask projection call = answer at answers ⊢
    obtain ⟨callee, after⟩ := answer
    cases answers with
    | holds active => exact absurd (active.symm.trans inactive) nofun
    | ends active => exact absurd (active.symm.trans inactive) nofun
    | tells active => exact absurd (active.symm.trans inactive) nofun
    | passes _ release =>
      obtain ⟨silent, each⟩ := @inductionHypothesis { handle with release := none } inactive
      exact ⟨by simpa using silent, by simpa [Call.attached?] using each⟩
    | ended _ cancels =>
      obtain ⟨silent, each⟩ := inductionHypothesis inactive
      exact ⟨by simpa using silent, by simpa [Call.attached?_of_cancels cancels] using each⟩
    | drops _ attaches =>
      obtain ⟨silent, each⟩ := inductionHypothesis inactive
      exact ⟨by simpa using silent, by simpa [attaches] using each⟩

/-- What becomes of a request to cancel, given what was before it and what comes after. -/
structure Ends (before : List (Moment α)) (handle : Subscription α) (after : List (Moment α)) :
    Prop where
  /-- The listener is not called any more. -/
  silent : told after = []
  /-- From then on the release that was attached last is called, if the handle was active, and all
  that are attached later. -/
  released : released after =
    (if handle.active = true then (attached before).getLast?.toList else []) ++ attached after
  /-- The release that was attached last has been called already, or is called before anything else
  happens. -/
  latest : ∀ release, (attached before).getLast? = some release →
    release ∈ Subscription.released before ∨
      ∃ found rest, after = .called (.release release) found :: rest

/-- The life of a handle. -/
structure Lifecycle (trace : List (Moment α)) (last : Subscription α) : Prop where
  accounts : Accounts trace last
  whenever : ∀ before call handle after, trace = before ++ .asked call handle :: after →
    Accounts before handle
  /-- A release that comes too late is called before anything else happens. -/
  atOnce : ∀ before release handle after,
    trace = before ++ .asked (.attach release) handle :: after → handle.active = false →
      ∃ found rest, after = .called (.release release) found :: rest
  ends : ∀ before call handle after, trace = before ++ .asked call handle :: after →
    call.cancels = true → Ends before handle after

/-- A request to cancel ends what is told, and leads to the last release. -/
theorem Accounts.ends {before : List (Moment α)} {handle : Subscription α}
    (accounts : Accounts before handle) (projection : Projection) {call : Call α}
    (cancels : call.cancels = true) (later : List (Call α)) :
    Ends before handle (handle.calls projection call ++
      (replay projection later (handle.ask projection call).2).1) := by
  have answers := answers_ask projection call handle
  rw [calls]
  generalize handle.ask projection call = answer at answers ⊢
  obtain ⟨callee, after⟩ := answer
  cases answers with
  | holds => cases cancels
  | passes => cases cancels
  | tells _ others => exact absurd (cancels.symm.trans others) nofun
  | drops others => exact absurd (cancels.symm.trans others) nofun
  | ends active =>
    obtain ⟨_, waiting⟩ := accounts.waiting active
    have closed : ({ handle with release := none, cancelled := true } : Subscription α).active =
        false := rfl
    obtain ⟨silent, each⟩ := spent_replay projection closed later
    cases held : handle.release with
    | none =>
      rw [held] at waiting
      refine ⟨by simpa using silent, by simpa [active, ← waiting] using each, ?_⟩
      intro release known
      rw [← waiting] at known
      cases known
    | some release =>
      rw [held] at waiting
      refine ⟨by simpa using silent, by simpa [active, ← waiting] using each, fun other known => ?_⟩
      rw [← waiting] at known
      obtain rfl := Option.some.inj known
      exact .inr ⟨_, _, rfl⟩
  | ended inactive =>
    obtain ⟨silent, each⟩ := spent_replay projection inactive later
    refine ⟨by simpa using silent, by simpa [inactive] using each, fun release known => ?_⟩
    exact .inl (List.mem_of_getLast? ((accounts.latest inactive).trans known))

/-- Every course of a new handle is a life: no release is called while the handle is active or
twice, a request to cancel leads to the last release and to all that come later, and ends what is told. -/
theorem Course.lifecycle {type : QueryType} {path : Value} {trace : List (Moment α)}
    {last : Subscription α} (course : Course projection (opened type path) trace last) :
    Lifecycle trace last := by
  obtain ⟨requests, same⟩ := course.exists_replay
  have accountsOf (earlier : List (Call α)) {before : List (Moment α)} {handle : Subscription α}
      (replayed : replay projection earlier (opened type path) = (before, handle)) :
      Accounts before handle := by
    have accounts := accounts_replay projection type path earlier
    rwa [replayed] at accounts
  have cutAt {before after : List (Moment α)} {call : Call α} {handle : Subscription α}
      (cut : trace = before ++ .asked call handle :: after) :
      Accounts before handle ∧ ∃ later, after = handle.calls projection call ++
        (replay projection later (handle.ask projection call).2).1 := by
    obtain ⟨earlier, later, replayed, behind⟩ :=
      exists_cut ((congrArg Prod.fst same).trans cut)
    exact ⟨accountsOf earlier replayed, later, behind⟩
  refine ⟨accountsOf requests same, fun _ _ _ _ cut => (cutAt cut).1, ?_, ?_⟩
  · intro before release handle after cut inactive
    obtain ⟨_, later, behind⟩ := cutAt cut
    have now : handle.calls projection (.attach release) =
        [.called (.release release) (handle.attach release).2] := by
      rw [calls, ask, attach_fst, inactive]
      rfl
    rw [now] at behind
    exact ⟨_, _, behind⟩
  · intro before call handle after cut cancels
    obtain ⟨accounts, later, behind⟩ := cutAt cut
    rw [behind]
    exact accounts.ends projection cancels later

/-- Two releases are attached, and the listener cancels the handle when it is told of a failure. The
second release cancels it too, another failure comes too late, and so does a third release, which
leaves the block once more. -/
theorem lifecycle_of_nested_cancels :
    ∃ (trace : List (Moment Nat)) (last : Subscription Nat),
      Course .everything (opened .document .null) trace last ∧ released trace = [1, 2] ∧
        (told trace).length = 1 ∧ Lifecycle trace last := by
  have course : Course .everything (opened .document .null : Subscription Nat) _ _ :=
    @Course.quiet _ _ _ _ _ (.attach 0) _ rfl <|
    @Course.quiet _ _ _ _ _ (.attach 1) _ rfl <|
    @Course.calling _ _ _ _ _ _ (.failure (.store .closed none)) _ _ _ rfl
      (@Course.calling _ _ _ _ _ _ .cancel _ _ _ rfl
        (@Course.quiet _ _ _ _ _ .cancel _ rfl (.done _)) (.done _)) <|
    @Course.quiet _ _ _ _ _ (.failure (.store .closed none)) _ rfl <|
    @Course.calling _ _ _ _ _ _ (.attach 2) _ _ _ rfl
      (@Course.quiet _ _ _ _ _ .leave _ rfl (.done _)) (.done _)
  exact ⟨_, _, course, rfl, rfl, course.lifecycle⟩

end Subscription

/-! ### Live queries -/

namespace World

/-- Changes the handle of a live query to what a request has made of it, and calls whom it calls. -/
def comply (performer : Performer) (query : Nat) (found : LiveQuery) (occasion : Occasion)
    (answered : Option (Subscription.Callee Release) × Subscription Release) (world : World) :
    World :=
  let changed := world.updateHandle query fun _ => answered.2
  match answered.1 with
  | none => changed
  | some (.release release) => changed.carryOut release
  | some (.listener delivery) => changed.handOver performer found occasion delivery

section Requests

variable {world : World} {query : Nat} {found : LiveQuery}
  (present : world.queries[query]? = some found) (performer : Performer) (occasion : Occasion)
include present

theorem updateHandle_same : (world.updateHandle query fun _ => found.handle) = world :=
  calc world.updateHandle query (fun _ => found.handle)
      = world.updateHandle query id := updateHandle_of_eq present rfl
    _ = world := updateHandle_id query world

/-- A release is attached to a live query as its handle is asked to take it. -/
theorem attach_eq_comply (release : Release) :
    world.attach query release = world.comply performer query found occasion
      (found.handle.ask found.projection (.attach release)) := by
  have attached : world.attach query release =
      (world.updateHandle query fun _ => (found.handle.attach release).2).carryOutAny
        (found.handle.attach release).1 := by
    rw [attach, present]
  rw [attached, Subscription.ask, comply]
  cases (found.handle.attach release).1 <;> rfl

/-- A live query is cancelled as its handle is asked to cancel. -/
theorem cancelQuery_eq_comply :
    world.cancelQuery query = world.comply performer query found occasion
      (found.handle.ask found.projection .cancel) := by
  have cancelled : world.cancelQuery query =
      (world.updateHandle query fun _ => found.handle.cancel.2).carryOutAny
        found.handle.cancel.1 := by
    rw [cancelQuery, present]
  rw [cancelled, Subscription.ask, comply]
  cases found.handle.cancel.1 <;> rfl

theorem deliver_eq_comply (delivery : Except Failure QueryResult) :
    world.deliver performer query occasion delivery = world.comply performer query found occasion
      (found.handle.deliver delivery) := by
  rw [deliver, present, Subscription.deliver]
  by_cases active : found.handle.active = true
  · have counted : world.updateHandle query Subscription.count =
        world.updateHandle query fun _ => found.handle.count := updateHandle_of_eq present rfl
    simp only [if_pos active, counted]
    rfl
  · simp only [if_neg active]
    exact (updateHandle_same present).symm

/-- A live query takes in a snapshot as its handle is asked to pass it on. -/
theorem receive_eq_comply (content : Snapshot) :
    (world.receive performer query occasion content).2 = world.comply performer query found occasion
      (found.handle.ask found.projection (.snapshot content)) := by
  rw [receive, present, Subscription.ask]
  dsimp only
  cases QueryResult.ofSnapshot found.handle.type found.handle.path found.projection content with
  | ok result => exact deliver_eq_comply present performer occasion (.ok result)
  | error failure =>
    by_cases deliverable : failure.isDeliverable = true
    · simp only [if_pos deliverable]
      exact deliver_eq_comply present performer occasion (.error failure)
    · simp only [if_neg deliverable]
      exact (updateHandle_same present).symm

/-- A live query takes in a failure, with a notice, as its handle is asked to pass it on. -/
theorem receiveFailure_eq_comply (cause : Failure) :
    world.receiveFailure performer query occasion cause =
      (world.notify (.storeFailed found.handle.path cause)).comply performer query found occasion
        (found.handle.ask found.projection (.failure cause)) := by
  have notified : (world.notify (.storeFailed found.handle.path cause)).queries[query]? =
      some found := present
  rw [receiveFailure, present]
  exact deliver_eq_comply notified performer occasion (.error cause)

end Requests

end World

end DocQuery
