/-
This file proves that callers share: a project has one connection for as long as its pool is open.

As long as nobody closes the pool, a creation that is under way or has a connection keeps its entry.
Entries name one creation for each project, the latest one, and everything about sharing follows
from that. No second creation of a project begins while the first is under way, none begins once
it has a connection, and one begins as soon as it was abandoned. That callers end alike is not a
matter of entries: it is what `Told` says of them.

Projects do not disturb each other. An event that concerns one project leaves all that the pool has
of another: its entry, its creations, and its callers.
-/

import DocQuery.Proofs.Pool.Running

namespace DocQuery

/-- Whether an event closes the pool. -/
def PoolEvent.isClose {κ : Type} : PoolEvent κ → Bool
  | .close _ => true
  | _ => false

namespace Pool

variable {κ : Type}

/-! ### Entries of an open pool -/

/-- Whether a creation is under way or has a connection. -/
def IsAlive (creation : Nat) (project : Text) (pool : Pool κ) : Prop :=
  pool.creations[creation]? = some ⟨project, none⟩ ∨
    ∃ connection, pool.creations[creation]? = some ⟨project, some (.connected connection)⟩

/-- Every creation that is under way or has a connection has its entry. -/
def Complete (pool : Pool κ) : Prop :=
  ∀ project creation, pool.IsAlive creation project → (project, creation) ∈ pool.entries

theorem isAlive_iff {creation : Nat} {project : Text} {pool : Pool κ} :
    pool.IsAlive creation project ↔ ∃ ending, pool.creations[creation]? = some ⟨project, ending⟩ ∧
      (ending = none ∨ ∃ connection, ending = some (.connected connection)) := by
  constructor
  · rintro (underWay | ⟨connection, connected⟩)
    · exact ⟨none, underWay, .inl rfl⟩
    · exact ⟨_, connected, .inr ⟨connection, rfl⟩⟩
  · rintro ⟨ending, found, rfl | ⟨connection, rfl⟩⟩
    · exact .inl found
    · exact .inr ⟨connection, found⟩

/-- A creation that is alive after another one was settled was alive before. -/
theorem isAlive_of_settle {creation other : Nat} {project owner : Text} {pool : Pool κ}
    {ending : Ending κ} (present : pool.creations[other]? = some ⟨owner, none⟩)
    (alive : (pool.settle other ending).IsAlive creation project) :
    pool.IsAlive creation project := by
  by_cases equal : creation = other
  · subst equal
    rw [isAlive_iff, creations_settle_self present] at alive
    obtain ⟨_, found, _⟩ := alive
    obtain ⟨rfl, -⟩ := Creation.mk.inj (Option.some.inj found)
    exact .inl present
  · rwa [IsAlive, creations_settle_of_ne equal] at alive

/-- A creation that ended without a connection is not alive. -/
theorem not_isAlive_settle {creation : Nat} {project owner : Text} {pool : Pool κ}
    {ending : Ending κ} (present : pool.creations[creation]? = some ⟨project, none⟩)
    (ends : ∀ connection, ending ≠ .connected connection) :
    ¬ (pool.settle creation ending).IsAlive creation owner := by
  rw [isAlive_iff, creations_settle_self present]
  rintro ⟨_, found, unended | ⟨connection, connected⟩⟩
  · simp [unended] at found
  · rw [connected] at found
    have same : ending = .connected connection := by simpa using (Creation.mk.inj
      (Option.some.inj found)).2
    exact ends connection same

theorem endingBy_ne_connected (event : PoolEvent κ) (project : Text) (connection : κ) :
    endingBy event project ≠ .connected connection := by
  cases event <;> simp [endingBy]

/-- A creation that is under way or has a connection has its entry. -/
def Holds (creation : Nat) (pool : Pool κ) : Prop :=
  ∀ project, pool.IsAlive creation project → (project, creation) ∈ pool.entries

/-- Another creation of the project of a creation that is alive ends without a connection. -/
def Displaces (creation : Nat) (pool : Pool κ) (event : PoolEvent κ) : Prop :=
  ∃ other project, pool.abandoned? event = some other ∧ other ≠ creation ∧
    pool.IsAlive creation project ∧ pool.creations[other]? = some ⟨project, none⟩

namespace Holds

variable {creation : Nat} {pool : Pool κ}

theorem begin (holds : pool.Holds creation) (project : Text) :
    (pool.begin project).Holds creation := by
  intro owner alive
  rw [isAlive_iff, creations_begin] at alive
  obtain ⟨ending, found, living⟩ := alive
  rw [entries_begin, List.mem_append, List.mem_singleton]
  rcases Nat.lt_or_ge creation pool.creations.length with inside | outside
  · rw [List.getElem?_append_left inside] at found
    exact .inl (holds owner (isAlive_iff.mpr ⟨ending, found, living⟩))
  · rw [List.getElem?_append_right outside] at found
    obtain ⟨bound, _⟩ := List.getElem?_eq_some_iff.mp found
    have last : creation = pool.creations.length := by
      rw [List.length_singleton] at bound
      omega
    have same := List.mem_singleton.mp (List.mem_of_getElem? found)
    obtain ⟨rfl, -⟩ := Creation.mk.inj same
    exact .inr (by rw [last])

/-- Only a close, or another creation of the project that ends without a connection, takes out the
entry of a creation that is alive. -/
theorem apply (holds : pool.Holds creation) {event : PoolEvent κ}
    (unclosed : event.isClose = false) (undisplaced : ¬ pool.Displaces creation event) :
    (pool.apply event).Holds creation := by
  have moves := moves_apply event pool
  generalize pool.apply event = after at moves
  cases moves with
  | idle => exact holds
  | join _ => exact holds
  | begin _ => exact holds.begin _
  | succeed present => exact fun owner alive => holds owner (isAlive_of_settle present alive)
  | @abandon _ other project abandoned present =>
    intro owner alive
    have underWay : (pool.forget project).creations[other]? = some ⟨project, none⟩ := present
    have before : pool.IsAlive creation owner := isAlive_of_settle underWay alive
    refine mem_entries_forget.mpr ⟨holds owner before, ?_⟩
    rintro rfl
    refine undisplaced ⟨other, owner, abandoned, ?_, before, present⟩
    rintro rfl
    exact not_isAlive_settle underWay (endingBy_ne_connected _ _) alive
  | leave _ => exact holds
  | refuse _ => cases unclosed
  | close _ => cases unclosed

end Holds

/-- A creation that the pool has seen has no entry. -/
structure Unlisted (creation : Nat) (pool : Pool κ) : Prop where
  known : creation < pool.creations.length
  absent : ∀ project, (project, creation) ∉ pool.entries

/-- New entries are for new creations, so without an entry a creation stays without. -/
theorem Unlisted.apply {creation : Nat} {pool : Pool κ} (unlisted : pool.Unlisted creation)
    (event : PoolEvent κ) : (pool.apply event).Unlisted creation := by
  have moves := moves_apply event pool
  generalize pool.apply event = after at moves
  cases moves with
  | idle => exact unlisted
  | join _ => exact ⟨unlisted.known, unlisted.absent⟩
  | begin _ =>
    refine ⟨?_, fun owner member => ?_⟩
    · rw [creations_begin, List.length_append]
      exact Nat.lt_add_right _ unlisted.known
    · rw [entries_begin, List.mem_append, List.mem_singleton] at member
      rcases member with earlier | new
      · exact unlisted.absent owner earlier
      · exact absurd (Prod.mk.inj new).2 (Nat.ne_of_lt unlisted.known)
  | succeed _ => exact ⟨by simpa using unlisted.known, unlisted.absent⟩
  | abandon _ _ =>
    refine ⟨by simpa using unlisted.known, fun owner member => ?_⟩
    exact unlisted.absent owner (mem_entries_forget.mp member).1
  | leave _ => exact ⟨unlisted.known, unlisted.absent⟩
  | refuse _ => exact ⟨unlisted.known, unlisted.absent⟩
  | close _ => exact ⟨unlisted.known, fun _ => List.not_mem_nil⟩

/-- A creation that ends without a connection takes out the entry of every creation of its
project. -/
theorem unlisted_of_abandoned {pool : Pool κ} (sound : pool.Sound) {event : PoolEvent κ}
    {other : Nat} {project : Text} (abandoned : pool.abandoned? event = some other)
    (present : pool.creations[other]? = some ⟨project, none⟩) {creation : Nat}
    {ending : Option (Ending κ)} (found : pool.creations[creation]? = some ⟨project, ending⟩) :
    (pool.apply event).Unlisted creation := by
  rw [apply_of_abandoned abandoned present]
  have known := (List.getElem?_eq_some_iff.mp found).1
  refine ⟨by simpa using known, fun owner member => ?_⟩
  obtain ⟨owned, apart⟩ := mem_entries_forget.mp member
  obtain ⟨_, same, _⟩ := sound.entered owner creation owned
  rw [found] at same
  exact apart (Creation.mk.inj (Option.some.inj same)).1.symm

namespace Complete

variable {pool : Pool κ}

theorem empty : Complete (Pool.empty : Pool κ) := by
  rintro project creation (underWay | ⟨_, connected⟩) <;> simp [Pool.empty] at *

/-- A project has one entry, so if all are there that are wanted, none is displaced. -/
theorem not_displaces (complete : pool.Complete) (sound : pool.Sound) (creation : Nat)
    (event : PoolEvent κ) : ¬ pool.Displaces creation event := by
  rintro ⟨other, project, _, different, alive, present⟩
  exact different (sound.entry_unique (complete project other (.inl present))
    (complete project creation alive))

/-- Every event but a close keeps all entries that are wanted. -/
theorem apply (complete : pool.Complete) (sound : pool.Sound) {event : PoolEvent κ}
    (unclosed : event.isClose = false) : (pool.apply event).Complete := by
  intro project creation
  have holds : pool.Holds creation := fun owner => complete owner creation
  exact holds.apply unclosed (complete.not_displaces sound creation event) project

end Complete

/-- In a run without a close, every creation that is under way or has a connection has its
entry. -/
theorem complete_run {events : List (PoolEvent κ)}
    (unclosed : ∀ event ∈ events, event.isClose = false) : (run events empty).Complete := by
  induction events using List.reverseRecOn with
  | nil => exact .empty
  | append_singleton earlier event inductionHypothesis =>
    rw [run_append]
    refine Complete.apply ?_ (sound_run earlier) (unclosed event (by simp))
    exact inductionHypothesis fun other member => unclosed other (List.mem_append_left _ member)

/-! ### Projects apart -/

/-- Whether an event concerns a project: it asks for it, ends one of its creations, cancels one of
its callers, or closes the pool. -/
def Concerns (project : Text) (pool : Pool κ) : PoolEvent κ → Prop
  | .ask asked => asked = project
  | .succeed creation _ | .fail creation _ | .interrupt creation =>
    ∃ ending, pool.creations[creation]? = some ⟨project, ending⟩
  | .cancel caller => ∃ found ending, pool.callers[caller]? = some found ∧
    pool.creations[found.creation]? = some ⟨project, ending⟩
  | .close _ => True

/-- Two pools have the same of a project: the entry, the creations, and the callers. -/
structure SameFor (project : Text) (pool after : Pool κ) : Prop where
  entry : after.entries.lookup project = pool.entries.lookup project
  creations : ∀ (creation : Nat) (ending : Option (Ending κ)),
    after.creations[creation]? = some ⟨project, ending⟩ ↔
      pool.creations[creation]? = some ⟨project, ending⟩
  callers : ∀ (index : Nat) (caller : Caller κ) (ending : Option (Ending κ)),
    pool.creations[caller.creation]? = some ⟨project, ending⟩ →
      (after.callers[index]? = some caller ↔ pool.callers[index]? = some caller)

theorem SameFor.refl (project : Text) (pool : Pool κ) : SameFor project pool pool :=
  ⟨rfl, fun _ _ => Iff.rfl, fun _ _ _ _ => Iff.rfl⟩

/-- One more caller of another project's creation changes nothing for a project. -/
theorem callers_append_iff {pool : Pool κ} {new caller : Caller κ} {index : Nat}
    (different : caller ≠ new) :
    (pool.callers ++ [new])[index]? = some caller ↔ pool.callers[index]? = some caller := by
  rcases Nat.lt_or_ge index pool.callers.length with inside | outside
  · rw [List.getElem?_append_left inside]
  · rw [List.getElem?_append_right outside, List.getElem?_eq_none outside]
    refine ⟨fun found => ?_, fun found => by cases found⟩
    exact absurd (List.mem_singleton.mp (List.mem_of_getElem? found)) different

/-- Settling a creation of one project changes nothing for another. -/
theorem sameFor_settle {project owner : Text} (different : owner ≠ project) {creation : Nat}
    {pool : Pool κ} (present : pool.creations[creation]? = some ⟨owner, none⟩)
    (ending : Ending κ) : SameFor project pool (pool.settle creation ending) where
  entry := rfl
  creations other known := by
    by_cases equal : other = creation
    · subst equal
      rw [creations_settle_self present, present]
      simp [different]
    · rw [creations_settle_of_ne equal]
  callers index caller known there := by
    have apart : caller.creation ≠ creation := by
      intro same
      rw [same, present] at there
      exact different (Creation.mk.inj (Option.some.inj there)).1
    rw [settle, List.getElem?_map]
    constructor
    · intro found
      obtain ⟨earlier, before, same⟩ := Option.map_eq_some_iff.mp found
      split at same
      · next hit =>
        subst same
        exact absurd hit.1 apart
      · rw [before, same]
    · intro found
      simp [found, apart]

theorem sameFor_forget {project owner : Text} (different : owner ≠ project) (pool : Pool κ) :
    SameFor project pool (pool.forget owner) where
  entry := by
    rw [forget]
    induction pool.entries with
    | nil => rfl
    | cons entry rest inductionHypothesis =>
      obtain ⟨found, creation⟩ := entry
      rw [List.filter_cons]
      split
      · rw [List.lookup_cons, List.lookup_cons, inductionHypothesis]
      · next dropped =>
        have equal : found = owner := by simpa using dropped
        rw [inductionHypothesis, List.lookup_cons]
        have unequal : (project == found) = false := by simpa [equal] using Ne.symm different
        rw [unequal]
  creations _ _ := Iff.rfl
  callers _ _ _ _ := Iff.rfl

theorem SameFor.trans {project : Text} {pool middle after : Pool κ}
    (first : SameFor project pool middle) (second : SameFor project middle after) :
    SameFor project pool after where
  entry := second.entry.trans first.entry
  creations creation ending := (second.creations creation ending).trans
    (first.creations creation ending)
  callers index caller ending there :=
    (second.callers index caller ending ((first.creations _ _).mpr there)).trans
      (first.callers index caller ending there)

/-- Ending a creation without a connection concerns its project. -/
theorem concerns_of_abandoned {pool : Pool κ} {event : PoolEvent κ} {creation : Nat}
    (abandoned : pool.abandoned? event = some creation) {project : Text}
    {ending : Option (Ending κ)} (present : pool.creations[creation]? = some ⟨project, ending⟩) :
    pool.Concerns project event := by
  rcases eq_of_abandoned abandoned with ⟨failure, rfl⟩ | rfl
  · exact ⟨ending, present⟩
  · exact ⟨ending, present⟩

theorem sameFor_leave {pool : Pool κ} {project : Text} {caller : Nat}
    (apart : ¬ pool.Concerns project (.cancel caller)) :
    SameFor project pool (pool.leave caller) where
  entry := rfl
  creations _ _ := Iff.rfl
  callers index found ending there := by
    rw [leave, List.getElem?_modify]
    by_cases equal : caller = index
    · subst equal
      refine ⟨fun known => ?_, fun known => absurd ⟨found, ending, known, there⟩ apart⟩
      obtain ⟨earlier, before, rfl⟩ := Option.map_eq_some_iff.mp known
      rw [if_pos rfl] at there
      exact absurd ⟨earlier, ending, before, there⟩ apart
    · simp [equal]

/-- An event that does not concern a project leaves all that a pool has of it. -/
theorem sameFor_apply {pool : Pool κ} (sound : pool.Sound) {project : Text}
    {event : PoolEvent κ} (apart : ¬ pool.Concerns project event) :
    SameFor project pool (pool.apply event) := by
  have moves := moves_apply event pool
  generalize pool.apply event = after at moves
  cases moves with
  | idle => exact .refl project pool
  | join entered =>
    rename_i asked creation
    have owned := Sound.mem_of_lookup entered
    refine ⟨rfl, fun _ _ => Iff.rfl, fun index caller ending there => ?_⟩
    refine callers_append_iff fun same => apart ?_
    obtain ⟨_, found, _⟩ := sound.entered asked creation owned
    rw [same, found] at there
    exact (Creation.mk.inj (Option.some.inj there)).1
  | begin absent =>
    rename_i asked
    have different : asked ≠ project := apart
    refine ⟨?_, fun creation ending => ?_, fun index caller ending there => ?_⟩
    · rw [entries_begin, List.lookup_append]
      have unequal : (project == asked) = false := by simpa using Ne.symm different
      simp [List.lookup_cons, unequal]
    · rw [creations_begin]
      rcases Nat.lt_or_ge creation pool.creations.length with inside | outside
      · rw [List.getElem?_append_left inside]
      · rw [List.getElem?_append_right outside, List.getElem?_eq_none outside]
        refine ⟨fun found => ?_, fun found => by cases found⟩
        have same := List.mem_singleton.mp (List.mem_of_getElem? found)
        exact absurd (Creation.mk.inj same).1.symm different
    · refine callers_append_iff fun same => ?_
      rw [same, List.getElem?_eq_none (Nat.le_refl _)] at there
      cases there
  | succeed present =>
    refine sameFor_settle (fun same => apart ?_) present _
    exact ⟨none, same ▸ present⟩
  | abandon abandoned present =>
    rename_i creation owner
    have different : owner ≠ project := by
      rintro rfl
      exact apart (concerns_of_abandoned abandoned present)
    have underWay : (pool.forget owner).creations[creation]? = some ⟨owner, none⟩ := present
    exact (sameFor_forget different pool).trans (sameFor_settle different underWay _)
  | leave _ => exact sameFor_leave apart
  | refuse _ => exact absurd trivial apart
  | close _ => exact absurd trivial apart

/-! ### Sharing -/

/-- The creation of a project has come to a connection. -/
def IsConnected (creation : Nat) (project : Text) (connection : κ) (pool : Pool κ) : Prop :=
  pool.creations[creation]? = some ⟨project, some (.connected connection)⟩

/-- The creation that a caller began or joined is one of a project. -/
def IsCallerOf (project : Text) (caller : Caller κ) (pool : Pool κ) : Prop :=
  ∃ ending, pool.creations[caller.creation]? = some ⟨project, ending⟩

/-- What callers of an open pool can rely on after given events. -/
structure Shares (events : List (PoolEvent κ)) (pool : Pool κ) : Prop where
  /-- At most one creation of a project is under way. -/
  one_under_way : ∀ project first second, pool.underWay? first = some project →
    pool.underWay? second = some project → first = second
  /-- Behind a creation with a connection there is no further one of its project. -/
  none_later : ∀ project creation connection, pool.IsConnected creation project connection →
    ∀ (later : Nat) (found : Creation κ), creation < later →
      pool.creations[later]? = some found → found.project ≠ project
  /-- A caller that asks for a connected project begins nothing and gets the connection at
  once. -/
  answered : ∀ project creation connection, pool.IsConnected creation project connection →
    (pool.ask project).1 = none ∧
      (pool.ask project).2.callerEnding pool.callers.length = some (.connected connection)
  /-- All callers of a connected project that get a connection get this one. -/
  one_connection : ∀ project creation connection, pool.IsConnected creation project connection →
    ∀ caller ∈ pool.callers, pool.IsCallerOf project caller →
      ∀ other, caller.ending = some (.connected other) → other = connection
  /-- All callers of a creation that failed end with its failure, but for those that joined and
  were cancelled before. -/
  one_failure : ∀ (index : Nat) (caller : Caller κ) (failure : Failure),
    pool.callers[index]? = some caller →
      pool.endingOf caller.creation = some (.failed failure) →
        caller.ending = some (.failed failure) ∨
          caller.began = false ∧ caller.ending = some .cancelled ∧ .cancel index ∈ events
  /-- A caller begins a creation exactly if the project has none that is under way or
  connected. -/
  begins : ∀ project, (pool.ask project).1.isSome ↔
    ∀ creation, ¬ pool.IsAlive creation project
  /-- No entry names a creation that failed or was cancelled. -/
  no_dead_entry : ∀ project creation, (project, creation) ∈ pool.entries →
    pool.IsAlive creation project
  /-- An event leaves all of the projects that it does not concern. -/
  apart : ∀ project event, ¬ pool.Concerns project event →
    SameFor project pool (pool.apply event)

theorem IsConnected.isAlive {creation : Nat} {project : Text} {connection : κ} {pool : Pool κ}
    (connected : pool.IsConnected creation project connection) :
    pool.IsAlive creation project := .inr ⟨connection, connected⟩

/-- A project has one creation at most that is under way or connected. -/
theorem Complete.alive_unique {pool : Pool κ} (complete : pool.Complete) (sound : pool.Sound)
    {project : Text} {first second : Nat} (one : pool.IsAlive first project)
    (other : pool.IsAlive second project) : first = second :=
  sound.entry_unique (complete project first one) (complete project second other)

theorem ask_of_lookup {pool : Pool κ} {project : Text} {creation : Nat}
    (entered : pool.entries.lookup project = some creation) :
    pool.ask project = (none, pool.join creation) := by
  rw [ask, entered]

/-- A caller that joins stands at once as the creation does. -/
theorem callerEnding_join (creation : Nat) (pool : Pool κ) :
    (pool.join creation).callerEnding pool.callers.length = pool.endingOf creation := by
  rw [callerEnding, callers_join]
  simp

/-- Asking begins a creation exactly if there is no entry. -/
theorem isSome_ask_iff (project : Text) (pool : Pool κ) :
    (pool.ask project).1.isSome ↔ pool.entries.lookup project = none := by
  rw [ask]
  cases pool.entries.lookup project <;> simp

theorem Complete.lookup_eq_none_iff {pool : Pool κ} (complete : pool.Complete)
    (sound : pool.Sound) (project : Text) :
    pool.entries.lookup project = none ↔ ∀ creation, ¬ pool.IsAlive creation project := by
  constructor
  · intro absent creation alive
    have entered := sound.lookup_eq_some_iff.mpr (complete project creation alive)
    rw [absent] at entered
    cases entered
  · intro nobody
    by_contra entered
    obtain ⟨creation, found⟩ := Option.ne_none_iff_exists'.mp entered
    refine nobody creation (isAlive_iff.mpr ?_)
    exact sound.entered project creation (Sound.mem_of_lookup found)

/-- As long as nobody closes a pool, callers share: one creation of a project is under way at a
time, a connection is made once and everyone gets it, everyone who waited for a creation that
fails sees the failure and the next caller begins anew, and no project disturbs another. -/
theorem shares_run (events : List (PoolEvent κ))
    (unclosed : ∀ event ∈ events, event.isClose = false) : Shares events (run events empty) := by
  have sound := sound_run events
  have complete := complete_run unclosed
  have told := told_run events
  generalize run events empty = pool at sound complete told
  refine ⟨?_, ?_, ?_, ?_, ?_, ?_, ?_, fun project event => sameFor_apply sound⟩
  · intro project first second one other
    exact complete.alive_unique sound (.inl (underWay?_eq_some_iff.mp one))
      (.inl (underWay?_eq_some_iff.mp other))
  · intro project creation connection connected
    exact sound.latest project creation (complete project creation connected.isAlive)
  · intro project creation connection connected
    have entered := sound.lookup_eq_some_iff.mpr (complete project creation connected.isAlive)
    rw [ask_of_lookup entered, callerEnding_join, endingOf_eq, connected]
    exact ⟨rfl, rfl⟩
  · intro project creation connection connected caller member called other got
    obtain ⟨index, present⟩ := List.getElem?_of_mem member
    obtain ⟨ending, found⟩ := called
    -- Nobody gets a connection by being cancelled, so the creation got it.
    have given : ending = some (.connected other) := by
      rcases told index caller present with same | ⟨_, gone, _⟩
      · rw [got, endingOf_eq, found] at same
        exact same.symm
      · simp [got] at gone
    subst given
    have same := complete.alive_unique sound connected.isAlive (.inr ⟨other, found⟩)
    rw [← same, connected] at found
    simpa using found.symm
  · intro index caller failure present failed
    rcases told index caller present with same | gone
    · exact .inl (same.trans failed)
    · exact .inr gone
  · intro project
    rw [isSome_ask_iff, complete.lookup_eq_none_iff sound]
  · intro project creation entered
    exact isAlive_iff.mpr (sound.entered project creation entered)

/-- A run with a failure that two callers share, one caller that does not wait for it, and a second
creation that others join. -/
def retried : List (PoolEvent Nat) :=
  [.ask "alpha", .ask "alpha", .ask "alpha", .ask "beta", .cancel 2,
    .fail 0 (.foreign .system "unreachable"), .ask "alpha", .ask "alpha", .succeed 2 7,
    .ask "alpha"]

/-- The failure reaches the callers that waited, and the callers after it share a connection. -/
theorem shares_run_retried :
    (∀ event ∈ retried, event.isClose = false) ∧ Shares retried (run retried empty) ∧
      (run retried empty).IsConnected 2 "alpha" 7 ∧ (run retried empty).underWay? 1 = some "beta" ∧
        (run retried empty).callers.map Caller.ending =
          let failed := some (.failed (reported "alpha" (.foreign .system "unreachable")))
          let connected := some (.connected 7)
          [failed, failed, some .cancelled, none, connected, connected, connected] := by
  have unclosed : ∀ event ∈ retried, event.isClose = false := by simp [retried, PoolEvent.isClose]
  exact ⟨unclosed, shares_run retried unclosed, rfl, rfl, rfl⟩

end Pool

end DocQuery
