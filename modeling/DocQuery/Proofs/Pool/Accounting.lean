/-
This file accounts for the connections that a pool was given.

A connection is accounted for while the pool holds it for its project or once it was closed. Two
things spoil this. A close that goes through forgets the creations that are under way, and what
they come to later has no place. And a creation that outlived a close and then fails takes out
whatever its project has by then, which can be a newer creation, even a connected one. `Forgets`
names both, and nothing else loses a connection: one is accounted for exactly if its creation was
never forgotten.
-/

import DocQuery.Proofs.Pool.Sharing

namespace DocQuery

namespace Pool

variable {κ : Type}

/-! ### Closing -/

/-- Only connections that are given are asked to close. -/
theorem closeAll_subset (refusal : κ → Option Failure) (connections : List κ) :
    (closeAll refusal connections).1 ⊆ connections := by
  induction connections with
  | nil => exact List.Subset.refl _
  | cons connection rest inductionHypothesis =>
    rw [closeAll]
    split
    · exact List.cons_subset_cons connection (List.nil_subset rest)
    · exact List.cons_subset_cons connection inductionHypothesis

/-- If none refuses, all are asked to close. -/
theorem closeAll_of_ok {refusal : κ → Option Failure} {connections : List κ}
    (done : (closeAll refusal connections).2 = .ok ()) :
    (closeAll refusal connections).1 = connections := by
  induction connections with
  | nil => rfl
  | cons connection rest inductionHypothesis =>
    rw [closeAll] at done ⊢
    split
    · next failure refused => simp [refused] at done
    · next willing =>
      simp only [willing] at done
      exact congrArg (connection :: ·) (inductionHypothesis done)

/-- The connections in a pool are those of the creations that its entries name. -/
theorem mem_connections {connection : κ} {pool : Pool κ} :
    connection ∈ pool.connections ↔ ∃ project creation, (project, creation) ∈ pool.entries ∧
      pool.endingOf creation = some (.connected connection) := by
  rw [connections, List.mem_filterMap]
  constructor
  · rintro ⟨⟨project, creation⟩, entered, found⟩
    refine ⟨project, creation, entered, ?_⟩
    split at found
    · next other connected =>
      rw [← Option.some.inj found]
      exact connected
    · cases found
  · rintro ⟨project, creation, entered, connected⟩
    exact ⟨(project, creation), entered, by simp [connected]⟩

theorem Sound.isConnected_of_endingOf {pool : Pool κ} (sound : pool.Sound) {project : Text}
    {creation : Nat} {connection : κ} (entered : (project, creation) ∈ pool.entries)
    (connected : pool.endingOf creation = some (.connected connection)) :
    pool.IsConnected creation project connection := by
  obtain ⟨ending, found, _⟩ := sound.entered project creation entered
  rw [endingOf_eq, found] at connected
  have same : ending = some (.connected connection) := connected
  rw [IsConnected, found, same]

theorem IsConnected.endingOf {creation : Nat} {project : Text} {connection : κ} {pool : Pool κ}
    (connected : pool.IsConnected creation project connection) :
    pool.endingOf creation = some (.connected connection) := by
  rw [endingOf_eq, connected]
  rfl

/-- A connection stays with its creation. -/
theorem IsConnected.apply {creation : Nat} {project : Text} {connection : κ} {pool : Pool κ}
    (connected : pool.IsConnected creation project connection) (event : PoolEvent κ) :
    (pool.apply event).IsConnected creation project connection :=
  creations_run_of_ended connected [event]

/-! ### Forgetting -/

/-- The events by which a pool loses a creation whose connection it has not closed. -/
inductive Forgets (creation : Nat) (pool : Pool κ) : PoolEvent κ → Prop
  /-- The pool is closed while the creation is under way. -/
  | close {project : Text} {refusal : κ → Option Failure}
      (entered : (project, creation) ∈ pool.entries)
      (present : pool.creations[creation]? = some ⟨project, none⟩)
      (done : (closeAll refusal pool.connections).2 = .ok ()) :
      Forgets creation pool (.close refusal)
  /-- Another creation of the project ends without a connection, and takes out the entry. -/
  | abandon {event : PoolEvent κ} {other : Nat} {project : Text}
      (abandoned : pool.abandoned? event = some other) (different : other ≠ creation)
      (present : pool.creations[other]? = some ⟨project, none⟩)
      (entered : (project, creation) ∈ pool.entries)
      (unclosed : ∀ connection, pool.IsConnected creation project connection →
        connection ∉ pool.closed) :
      Forgets creation pool event

/-- A creation that is under way or connected has its entry, or its connection was closed. -/
def Keeps (creation : Nat) (pool : Pool κ) : Prop :=
  ∀ project, pool.IsAlive creation project → (project, creation) ∈ pool.entries ∨
    ∃ connection, pool.IsConnected creation project connection ∧ connection ∈ pool.closed

namespace Keeps

variable {creation : Nat} {pool : Pool κ}

/-- An event that changes entries and closed connections only for the better keeps a creation. -/
theorem of_same_creations (keeps : pool.Keeps creation) {after : Pool κ}
    (creations : after.creations = pool.creations) (entries : pool.entries ⊆ after.entries)
    (closed : pool.closed ⊆ after.closed) : after.Keeps creation := by
  intro project alive
  rw [IsAlive, creations] at alive
  rcases keeps project alive with entered | ⟨connection, connected, known⟩
  · exact .inl (entries entered)
  · exact .inr ⟨connection, by rwa [IsConnected, creations], closed known⟩

theorem begin (keeps : pool.Keeps creation) (project : Text) :
    (pool.begin project).Keeps creation := by
  intro owner alive
  rw [isAlive_iff, creations_begin] at alive
  obtain ⟨ending, found, living⟩ := alive
  rcases Nat.lt_or_ge creation pool.creations.length with inside | outside
  · rw [List.getElem?_append_left inside] at found
    rcases keeps owner (isAlive_iff.mpr ⟨ending, found, living⟩) with entered | known
    · exact .inl (List.mem_append_left _ entered)
    · obtain ⟨connection, connected, closed⟩ := known
      refine .inr ⟨connection, ?_, closed⟩
      rw [IsConnected, creations_begin, List.getElem?_append_left inside, connected]
  · have bound := (List.getElem?_eq_some_iff.mp found).1
    have last : creation = pool.creations.length := by
      simp only [List.length_append, List.length_singleton] at bound
      omega
    subst last
    have owned : project = owner := by simpa using congrArg (Option.map Creation.project) found
    exact .inl (by simp [owned])

/-- Settling a creation keeps every creation that keeps its entry through it. -/
theorem settle (keeps : pool.Keeps creation) {other : Nat} {owner : Text}
    (present : pool.creations[other]? = some ⟨owner, none⟩) {ending : Ending κ}
    {entries : List (Text × Nat)}
    (held : ∀ project, (project, creation) ∈ pool.entries →
      (({ pool with entries := entries } : Pool κ).settle other ending).IsAlive creation project →
        (project, creation) ∈ entries ∨ ∃ connection,
          pool.IsConnected creation project connection ∧ connection ∈ pool.closed) :
    (({ pool with entries := entries } : Pool κ).settle other ending).Keeps creation := by
  intro project alive
  have underWay : ({ pool with entries := entries } : Pool κ).creations[other]? =
      some ⟨owner, none⟩ := present
  have before : pool.IsAlive creation project := isAlive_of_settle underWay alive
  have kept : (project, creation) ∈ entries ∨ ∃ connection,
      pool.IsConnected creation project connection ∧ connection ∈ pool.closed := by
    rcases keeps project before with entered | known
    · exact held project entered alive
    · exact .inr known
  refine kept.imp_right fun ⟨connection, connected, closed⟩ => ⟨connection, ?_, closed⟩
  have different : creation ≠ other := by
    rintro rfl
    rw [IsConnected, present] at connected
    cases connected
  rw [IsConnected, creations_settle_of_ne different]
  exact connected

/-- An event that does not forget a creation keeps it. -/
theorem apply (keeps : pool.Keeps creation) {event : PoolEvent κ}
    (unforgotten : ¬ pool.Forgets creation event) : (pool.apply event).Keeps creation := by
  have moves := moves_apply event pool
  generalize pool.apply event = after at moves
  cases moves with
  | idle => exact keeps
  | join _ => exact keeps
  | begin _ => exact keeps.begin _
  | succeed present => exact keeps.settle present fun project entered _ => .inl entered
  | abandon abandoned present =>
    refine keeps.settle present fun project entered alive => ?_
    rename_i other owner
    by_cases same : project = owner
    · subst same
      by_contra lost
      rw [not_or] at lost
      refine unforgotten (.abandon abandoned ?_ present entered ?_)
      · rintro rfl
        have underWay : (pool.forget project).creations[other]? = some ⟨project, none⟩ :=
          present
        exact not_isAlive_settle underWay (endingBy_ne_connected _ _) alive
      · intro connection connected closed
        exact lost.2 ⟨connection, connected, closed⟩
    · exact .inl (List.mem_filter.mpr ⟨entered, by simpa using same⟩)
  | leave _ => exact keeps
  | refuse _ =>
    exact keeps.of_same_creations rfl (List.Subset.refl _) (List.subset_append_left _ _)
  | close done =>
    intro project alive
    rcases keeps project alive with entered | ⟨connection, connected, closed⟩
    · rcases alive with underWay | ⟨connection, connected⟩
      · exact absurd (.close entered underWay done) unforgotten
      · refine .inr ⟨connection, connected, List.mem_append_right _ ?_⟩
        rw [closeAll_of_ok done, mem_connections]
        exact ⟨project, creation, entered, IsConnected.endingOf connected⟩
    · exact .inr ⟨connection, connected, List.mem_append_left _ closed⟩

end Keeps

/-- In a run that never forgets a creation, the creation is kept. -/
theorem keeps_run {creation : Nat} {events : List (PoolEvent κ)}
    (unforgotten : ∀ before event rest, events = before ++ event :: rest →
      ¬ (run before empty).Forgets creation event) : (run events empty).Keeps creation := by
  induction events using List.reverseRecOn with
  | nil =>
    intro project alive
    rcases alive with underWay | ⟨_, connected⟩ <;> simp [run, empty] at *
  | append_singleton earlier event inductionHypothesis =>
    rw [run_append]
    refine Keeps.apply ?_ (unforgotten earlier event [] rfl)
    refine inductionHypothesis fun before other rest split => unforgotten before other
      (rest ++ [event]) ?_
    rw [split, List.append_assoc, List.cons_append]

/-! ### What is forgotten stays away -/

/-- Every closed connection was made by a creation. -/
def IsSourced (pool : Pool κ) : Prop :=
  ∀ connection ∈ pool.closed, ∃ creation project, pool.IsConnected creation project connection

theorem IsSourced.apply {pool : Pool κ} (sourced : pool.IsSourced) (sound : pool.Sound)
    (event : PoolEvent κ) : (pool.apply event).IsSourced := by
  intro connection known
  have source : ∃ creation project, pool.IsConnected creation project connection := by
    have asked (refusal : κ → Option Failure)
        (member : connection ∈ pool.closed ++ (closeAll refusal pool.connections).1) :
        ∃ creation project, pool.IsConnected creation project connection := by
      rcases List.mem_append.mp member with earlier | new
      · exact sourced connection earlier
      · obtain ⟨project, creation, entered, connected⟩ :=
          mem_connections.mp (closeAll_subset refusal _ new)
        exact ⟨creation, project, sound.isConnected_of_endingOf entered connected⟩
    have moves := moves_apply event pool
    generalize pool.apply event = after at moves known
    cases moves with
    | refuse _ => exact asked _ known
    | close _ => exact asked _ known
    | _ => exact sourced connection known
  obtain ⟨creation, project, connected⟩ := source
  exact ⟨creation, project, connected.apply event⟩

theorem isSourced_run (events : List (PoolEvent κ)) : (run events empty).IsSourced := by
  induction events using List.reverseRecOn with
  | nil => simp [IsSourced, run, empty]
  | append_singleton earlier event inductionHypothesis =>
    rw [run_append]
    exact IsSourced.apply inductionHypothesis (sound_run earlier) event

/-- A pool has lost a creation that comes to a connection: it has no entry, and the connection
was not closed. -/
structure Loses (creation : Nat) (connection : κ) (pool : Pool κ) : Prop where
  known : creation < pool.creations.length
  absent : ∀ project, (project, creation) ∉ pool.entries
  unclosed : connection ∉ pool.closed

/-- What a close does that no connection refuses. -/
theorem apply_close_of_ok {pool : Pool κ} {refusal : κ → Option Failure}
    (done : (closeAll refusal pool.connections).2 = .ok ()) :
    pool.apply (.close refusal) =
      { pool with entries := [], closed := pool.closed ++ pool.connections } := by
  have all := closeAll_of_ok done
  rw [apply, close]
  generalize closeAll refusal pool.connections = closing at done all
  obtain ⟨asked, outcome⟩ := closing
  cases done
  cases all
  rfl

section Lost

variable {creation : Nat} {connection : κ} {pool : Pool κ} {event : PoolEvent κ}

/-- A connection that only one creation makes is not closed before that creation has it. -/
theorem Forgets.unclosed (forgets : pool.Forgets creation event) (sound : pool.Sound)
    (sourced : pool.IsSourced)
    (single : ∀ other owner, pool.IsConnected other owner connection → other = creation) :
    connection ∉ pool.closed := by
  intro known
  obtain ⟨other, owner, connected⟩ := sourced connection known
  obtain rfl := single other owner connected
  cases forgets with
  | close _ present _ =>
    rw [IsConnected, present] at connected
    cases connected
  | abandon _ _ _ entered unclosed =>
    exact unclosed connection (sound.isConnected_of_endingOf entered connected.endingOf) known

theorem Forgets.loses (forgets : pool.Forgets creation event) (sound : pool.Sound)
    (sourced : pool.IsSourced)
    (single : ∀ other owner, pool.IsConnected other owner connection → other = creation) :
    (pool.apply event).Loses creation connection := by
  have unclosed := forgets.unclosed sound sourced single
  cases forgets with
  | close entered present done =>
    rw [apply_close_of_ok done]
    refine ⟨(List.getElem?_eq_some_iff.mp present).1, fun _ => List.not_mem_nil, fun known => ?_⟩
    refine (List.mem_append.mp known).elim unclosed fun new => ?_
    obtain ⟨owner, other, owned, connected⟩ := mem_connections.mp new
    have source := sound.isConnected_of_endingOf owned connected
    obtain rfl := single other owner source
    rw [endingOf_eq, present] at connected
    cases connected
  | @abandon _ other project abandoned different present entered _ =>
    obtain ⟨_, found, _⟩ := sound.entered project creation entered
    have unlisted := unlisted_of_abandoned sound abandoned present found
    refine ⟨unlisted.known, unlisted.absent, ?_⟩
    rwa [apply_of_abandoned abandoned present]

/-- What is lost stays lost. -/
theorem Loses.apply (lost : pool.Loses creation connection) (sound : pool.Sound)
    (single : ∀ other owner, pool.IsConnected other owner connection → other = creation) :
    (pool.apply event).Loses creation connection := by
  have unasked (refusal : κ → Option Failure) :
      connection ∉ pool.closed ++ (closeAll refusal pool.connections).1 := by
    intro known
    refine (List.mem_append.mp known).elim lost.unclosed fun new => ?_
    obtain ⟨owner, other, owned, connected⟩ := mem_connections.mp (closeAll_subset refusal _ new)
    obtain rfl := single other owner (sound.isConnected_of_endingOf owned connected)
    exact lost.absent owner owned
  have unlisted : (pool.apply event).Unlisted creation :=
    Unlisted.apply ⟨lost.known, lost.absent⟩ event
  refine ⟨unlisted.known, unlisted.absent, ?_⟩
  have moves := moves_apply event pool
  generalize pool.apply event = after at moves
  cases moves with
  | refuse _ => exact unasked _
  | close _ => exact unasked _
  | _ => exact lost.unclosed

/-- What is lost stays lost along a run, if no other creation makes the same connection. -/
theorem Loses.run {creation : Nat} {connection : κ} {events : List (PoolEvent κ)}
    {pool : Pool κ} (lost : pool.Loses creation connection) (sound : pool.Sound)
    (single : ∀ other owner, (run events pool).IsConnected other owner connection →
      other = creation) :
    (run events pool).Loses creation connection := by
  induction events generalizing pool with
  | nil => exact lost
  | cons event rest inductionHypothesis =>
    refine inductionHypothesis (lost.apply sound fun other owner connected => ?_)
      (sound.apply event) single
    exact single other owner (creations_run_of_ended connected (event :: rest))

end Lost

/-- What a run forgot is lost in the end, if no other creation makes the same connection. -/
theorem Forgets.loses_run {creation : Nat} {connection : κ} {before rest : List (PoolEvent κ)}
    {event : PoolEvent κ} (forgets : (run before empty).Forgets creation event)
    (single : ∀ other owner, (run (before ++ event :: rest) empty).IsConnected other owner connection →
      other = creation) :
    (run (before ++ event :: rest) empty).Loses creation connection := by
  rw [run_append] at single ⊢
  have early (other : Nat) (owner : Text)
      (connected : (run before empty).IsConnected other owner connection) : other = creation :=
    single other owner (creations_run_of_ended connected (event :: rest))
  exact (forgets.loses (sound_run before) (isSourced_run before) early).run
    ((sound_run before).apply event) single

/-! ### Exactly when a connection is accounted for -/

/-- A connection that a pool once held for its creation is accounted for, in every reachable state,
exactly if no event forgot the creation: the pool was not closed while the creation was under way,
and no older creation of the project failed or was cancelled while the newer one had the entry and
its connection was not closed. The connection has to be the creation's own. -/
theorem accounted_iff_unforgotten (events : List (PoolEvent κ)) {creation : Nat} {project : Text}
    {connection : κ} (made : (run events empty).IsConnected creation project connection)
    (single : ∀ other owner, (run events empty).IsConnected other owner connection →
      other = creation) :
    ((project, creation) ∈ (run events empty).entries ∨
        connection ∈ (run events empty).closed) ↔
      ¬ ∃ before event rest, events = before ++ event :: rest ∧
        (run before empty).Forgets creation event := by
  constructor
  · rintro accounted ⟨before, event, rest, rfl, forgets⟩
    have lost := forgets.loses_run single
    exact accounted.elim (lost.absent project) lost.unclosed
  · intro unforgotten
    have keeps : (run events empty).Keeps creation := keeps_run fun before event rest split forgets =>
      unforgotten ⟨before, event, rest, split, forgets⟩
    refine (keeps project made.isAlive).imp_right fun ⟨other, connected, closed⟩ => ?_
    rw [IsConnected, made] at connected
    have same : connection = other := by simpa using connected
    rwa [same]

/-- A run in which the pool is closed while its only creation is under way. -/
def closedUnderWay : List (PoolEvent Nat) :=
  [.ask "alpha", .close fun _ => none, .succeed 0 7]

/-- The connection that is made after the close has been forgotten. -/
theorem accounted_iff_unforgotten_closedUnderWay :
    (run closedUnderWay empty).IsConnected 0 "alpha" 7 ∧
      (((("alpha" : Text), 0) ∈ (run closedUnderWay empty).entries ∨
          7 ∈ (run closedUnderWay empty).closed) ↔
        ¬ ∃ before event rest, closedUnderWay = before ++ event :: rest ∧
          (run before empty).Forgets 0 event) := by
  have made : (run closedUnderWay empty).IsConnected 0 "alpha" 7 := rfl
  refine ⟨made, accounted_iff_unforgotten closedUnderWay made fun other owner connected => ?_⟩
  have bound := (List.getElem?_eq_some_iff.mp connected).1
  have count : (run closedUnderWay empty).creations.length = 1 := rfl
  omega

/-- A connection can be lost: nothing is under way, it is neither in the pool nor closed. -/
theorem exists_unaccounted : ∃ events : List (PoolEvent Nat),
    (∀ creation, (run events empty).underWay? creation = none) ∧
      (run events empty).IsConnected 0 "alpha" 7 ∧
        (("alpha" : Text), 0) ∉ (run events empty).entries ∧ 7 ∉ (run events empty).closed := by
  refine ⟨closedUnderWay, fun creation => ?_, rfl, by decide, by decide⟩
  rcases creation with _ | creation
  · rfl
  · rfl

end Pool

end DocQuery
