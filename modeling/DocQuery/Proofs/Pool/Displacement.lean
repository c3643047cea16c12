/-
This file says how long a pool that is not closed again stays with a connection.

A creation that began after the last close keeps its entry, and with it every caller of its project,
until another creation of the project ends without a connection. While nobody closes the pool there
is no such creation: a project has one at a time. But a close leaves those that are under way
without an entry, so a second one of the same project can begin beside them, and when one of the
first then fails, it takes out the entry of the second. This is the only way in which a connection
is displaced, and one that is displaced does not come back.
-/

import DocQuery.Proofs.Pool.Sharing

namespace DocQuery

namespace Pool

variable {κ : Type}

/-- The next caller that asks for a project joins a creation, and gets its connection at once. -/
structure Serves (project : Text) (creation : Nat) (connection : κ) (pool : Pool κ) : Prop where
  joined : pool.ask project = (none, pool.join creation)
  answered : (pool.ask project).2.callerEnding pool.callers.length = some (.connected connection)

theorem Serves.of_entered {project : Text} {creation : Nat} {connection : κ} {pool : Pool κ}
    (sound : pool.Sound) (entered : (project, creation) ∈ pool.entries)
    (connected : pool.IsConnected creation project connection) :
    pool.Serves project creation connection := by
  have joined := ask_of_lookup (sound.lookup_eq_some_iff.mpr entered)
  refine ⟨joined, ?_⟩
  rw [joined, callerEnding_join, endingOf_eq, connected]
  rfl

/-- A caller joins the creation of the entry and no other. -/
theorem Serves.entered {project : Text} {creation : Nat} {connection : κ} {pool : Pool κ}
    (serves : pool.Serves project creation connection) : (project, creation) ∈ pool.entries := by
  have joined := serves.joined
  rw [ask] at joined
  split at joined
  · next other found =>
    have callers := congrArg callers (Prod.mk.inj joined).2
    rw [callers_join, callers_join] at callers
    have last := List.singleton_inj.mp (List.append_cancel_left callers)
    rw [← (Caller.mk.inj last).1]
    exact Sound.mem_of_lookup found
  · cases (Prod.mk.inj joined).1

/-- The entry of a creation stays through a run without a close in which nothing displaces it. -/
theorem holds_run {earlier later : List (PoolEvent κ)} {creation : Nat}
    (begun : (run earlier empty).creations.length ≤ creation)
    (unclosed : ∀ event ∈ later, event.isClose = false)
    (undisplaced : ∀ before event rest, later = before ++ event :: rest →
      ¬ (run (earlier ++ before) empty).Displaces creation event) :
    (run (earlier ++ later) empty).Holds creation := by
  induction later using List.reverseRecOn with
  | nil =>
    intro project alive
    rw [List.append_nil, isAlive_iff] at alive
    obtain ⟨_, found, _⟩ := alive
    rw [List.getElem?_eq_none begun] at found
    cases found
  | append_singleton before event inductionHypothesis =>
    rw [← List.append_assoc, run_append]
    refine Holds.apply ?_ (unclosed event (by simp)) (undisplaced before event [] rfl)
    refine inductionHypothesis (fun other member => unclosed other (List.mem_append_left _ member))
      fun first other rest split => undisplaced first other (rest ++ [event]) ?_
    rw [split, List.append_assoc, List.cons_append]

theorem Displaces.unlisted {creation : Nat} {pool : Pool κ} {event : PoolEvent κ}
    (displaces : pool.Displaces creation event) (sound : pool.Sound) :
    (pool.apply event).Unlisted creation := by
  obtain ⟨other, project, abandoned, _, alive, present⟩ := displaces
  obtain ⟨_, found, _⟩ := isAlive_iff.mp alive
  exact unlisted_of_abandoned sound abandoned present found

/-- A connection whose creation began after the last close is what every caller of its project
gets, without a further creation, exactly as long as no other creation of the project that was
under way meanwhile has failed or was cancelled. -/
theorem serves_iff_undisplaced {earlier later : List (PoolEvent κ)} {project : Text}
    {creation : Nat} {connection : κ} (unclosed : ∀ event ∈ later, event.isClose = false)
    (begun : (run earlier empty).creations.length ≤ creation)
    (made : (run (earlier ++ later) empty).IsConnected creation project connection) :
    (run (earlier ++ later) empty).Serves project creation connection ↔
      ¬ ∃ before event rest, later = before ++ event :: rest ∧
        (run (earlier ++ before) empty).Displaces creation event := by
  constructor
  · rintro serves ⟨before, event, rest, rfl, displaces⟩
    have unlisted := displaces.unlisted (sound_run _)
    have after := run_induction (motive := Unlisted creation)
      (fun next _ known => known.apply next) rest unlisted
    rw [← List.append_assoc, run_append] at serves
    exact after.absent project serves.entered
  · intro undisplaced
    have holds := holds_run begun unclosed fun before event rest split displaces =>
      undisplaced ⟨before, event, rest, split, displaces⟩
    exact .of_entered (sound_run _) (holds project made.isAlive) made

/-- What happens before and after a close with a creation under way: a second creation of the
project comes to a connection, and then the first one fails. -/
def overtaken : List (PoolEvent Nat) × List (PoolEvent Nat) :=
  ([.ask "alpha", .close fun _ => none],
    [.ask "alpha", .succeed 1 7, .fail 0 (.foreign .system "unreachable")])

/-- Until the first creation fails, the connection of the second is served. -/
theorem serves_iff_undisplaced_overtaken :
    (∀ event ∈ overtaken.2.take 2, event.isClose = false) ∧
      (run overtaken.1 empty).creations.length ≤ 1 ∧
        (run (overtaken.1 ++ overtaken.2.take 2) empty).IsConnected 1 "alpha" 7 ∧
          ((run (overtaken.1 ++ overtaken.2.take 2) empty).Serves "alpha" 1 7 ↔
            ¬ ∃ before event rest, overtaken.2.take 2 = before ++ event :: rest ∧
              (run (overtaken.1 ++ before) empty).Displaces 1 event) := by
  have unclosed : ∀ event ∈ overtaken.2.take 2, event.isClose = false := by
    simp [overtaken, PoolEvent.isClose]
  have begun : (run overtaken.1 empty).creations.length ≤ 1 := by decide
  have made : (run (overtaken.1 ++ overtaken.2.take 2) empty).IsConnected 1 "alpha" 7 := rfl
  exact ⟨unclosed, begun, made, serves_iff_undisplaced unclosed begun made⟩

/-- A connection can be displaced though the pool was not closed since its creation began: the next
caller begins another creation. -/
theorem exists_displaced :
    (run overtaken.1 empty).creations.length ≤ 1 ∧
      (∀ event ∈ overtaken.2, event.isClose = false) ∧
        (run (overtaken.1 ++ overtaken.2) empty).IsConnected 1 "alpha" 7 ∧
          ((run (overtaken.1 ++ overtaken.2) empty).ask "alpha").1 = some 2 := by
  refine ⟨by decide, ?_, rfl, rfl⟩
  simp [overtaken, PoolEvent.isClose]

end Pool

end DocQuery
