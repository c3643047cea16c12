/-
This file finds out when closing a pool reaches every connection.

A close goes through the connections in the pool in order, and forgets them when it is through. One that
refuses ends it: those behind it are not asked, and the pool keeps all, so that the next close asks those
before it again. What the pool has forgotten without closing it, as `Forgets` says, no close reaches. Both
apart, a close asks each connection once and leaves nothing for the next.

A connection has to be its creation's own here; a connection made twice is in the pool twice, and is asked
twice.
-/

import DocQuery.Proofs.Pool.Accounting

namespace DocQuery

namespace Pool

variable {κ : Type}

/-! ### Refusals -/

/-- A close goes through exactly if no connection refuses. -/
theorem closeAll_eq_ok_iff {refusal : κ → Option Failure} {connections : List κ} :
    (closeAll refusal connections).2 = .ok () ↔
      ∀ connection ∈ connections, refusal connection = none := by
  induction connections with
  | nil => exact iff_of_true rfl nofun
  | cons connection rest inductionHypothesis =>
    rw [closeAll, List.forall_mem_cons]
    cases answer : refusal connection with
    | some failure => simp
    | none => simpa using inductionHypothesis

/-- The first connection that refuses is the last that is asked. -/
theorem closeAll_of_refusal {refusal : κ → Option Failure} {earlier : List κ} {refuser : κ}
    {failure : Failure} (willing : ∀ connection ∈ earlier, refusal connection = none)
    (refused : refusal refuser = some failure) (rest : List κ) :
    closeAll refusal (earlier ++ refuser :: rest) = (earlier ++ [refuser], .error failure) := by
  induction earlier with
  | nil => rw [List.nil_append, closeAll, refused, List.nil_append]
  | cons connection others inductionHypothesis =>
    obtain ⟨first, remaining⟩ := List.forall_mem_cons.mp willing
    rw [List.cons_append, closeAll, first, inductionHypothesis remaining, List.cons_append]

/-- A close that some connection refuses ends with the first that does: it has asked those up to it, and
changes nothing else. -/
theorem exists_refuser {refusal : κ → Option Failure} {connection : κ} {pool : Pool κ}
    (member : connection ∈ pool.connections) (unwilling : refusal connection ≠ none) :
    ∃ earlier refuser rest failure, pool.connections = earlier ++ refuser :: rest ∧
      (∀ other ∈ earlier, refusal other = none) ∧ refusal refuser = some failure ∧
      pool.close refusal =
        (.error failure, { pool with closed := pool.closed ++ (earlier ++ [refuser]) }) := by
  cases first : pool.connections.findSome? refusal with
  | none => exact absurd (List.findSome?_eq_none_iff.mp first connection member) unwilling
  | some failure =>
    obtain ⟨earlier, refuser, rest, connections, refused, willing⟩ :=
      List.findSome?_eq_some_iff.mp first
    refine ⟨earlier, refuser, rest, failure, connections, willing, refused, ?_⟩
    rw [close, connections, closeAll_of_refusal willing refused]

/-- A refused close forgets nothing. -/
theorem entries_close_of_error {refusal : κ → Option Failure} {failure : Failure} {pool : Pool κ}
    (refused : (closeAll refusal pool.connections).2 = .error failure) :
    (pool.close refusal).2.entries = pool.entries := by
  rw [close]
  generalize closeAll refusal pool.connections = closing at refused
  obtain ⟨asked, outcome⟩ := closing
  cases refused
  rfl

/-! ### Connections of their own -/

/-- No two creations have the same connection. -/
def HasOwnConnections (pool : Pool κ) : Prop :=
  ∀ creation project other owner connection, pool.IsConnected creation project connection →
    pool.IsConnected other owner connection → other = creation

/-- Connections that are their creations' own are in the pool once each. -/
theorem HasOwnConnections.nodup_connections {pool : Pool κ} (own : pool.HasOwnConnections)
    (sound : pool.Sound) : pool.connections.Nodup := by
  have apart : pool.entries.Pairwise fun one other => one.1 ≠ other.1 :=
    List.pairwise_map.mp sound.single
  refine List.pairwise_filterMap.mpr (apart.imp_of_mem fun first second different => ?_)
  rintro one foundOne other foundOther rfl
  split at foundOne
  · next connection ended =>
    split at foundOther
    · next again endedAgain =>
      rw [Option.some.inj foundOne] at ended
      rw [Option.some.inj foundOther] at endedAgain
      have left := sound.isConnected_of_endingOf first ended
      have right := sound.isConnected_of_endingOf second endedAgain
      have same := own _ _ _ _ _ left right
      rw [IsConnected, same, left] at right
      exact different (Creation.mk.inj (Option.some.inj right)).1
    · cases foundOther
  · cases foundOne

/-! ### What a close reaches -/

/-- A close reaches all it has to: it asks each connection in the pool once, all that were ever made have
been closed by then, and the pool is empty, so that another close asks none. -/
structure Reaches (refusal : κ → Option Failure) (pool : Pool κ) : Prop where
  asks : ∀ connection ∈ pool.connections, connection ∈ (closeAll refusal pool.connections).1
  once : (closeAll refusal pool.connections).1.Nodup
  closes : ∀ creation project connection, pool.IsConnected creation project connection →
    connection ∈ (pool.close refusal).2.closed
  empties : (pool.close refusal).2.entries = []
  leaves : ∀ other, (closeAll other (pool.close refusal).2.connections).1 = []

/-- A close that empties a pool was refused by nobody. -/
theorem Reaches.willing {refusal : κ → Option Failure} {pool : Pool κ}
    (reaches : pool.Reaches refusal) :
    ∀ connection ∈ pool.connections, refusal connection = none := by
  cases outcome : (closeAll refusal pool.connections).2 with
  | ok _ => exact closeAll_eq_ok_iff.mp outcome
  | error failure =>
    have none : pool.entries = [] := (entries_close_of_error outcome).symm.trans reaches.empties
    rw [connections, none]
    exact fun _ member => absurd member List.not_mem_nil

section Run

variable {events : List (PoolEvent κ)} {refusal : κ → Option Failure}

/-- A close that reaches all has nothing to miss that was forgotten before. -/
theorem Reaches.unforgotten (reaches : (run events empty).Reaches refusal)
    (own : (run events empty).HasOwnConnections) {creation : Nat} {project : Text} {connection : κ}
    (made : (run events empty).IsConnected creation project connection) :
    ¬ ∃ before event rest, events = before ++ event :: rest ∧
      (run before empty).Forgets creation event := by
  rintro ⟨before, event, rest, rfl, forgets⟩
  have single := fun other owner => own creation project other owner connection made
  have lost : ((run (before ++ event :: rest) empty).apply (.close refusal)).Loses creation connection :=
    (forgets.loses_run single).apply (sound_run _) single
  exact lost.unclosed (reaches.closes creation project connection made)

/-- A close that nobody refuses reaches all that was not forgotten before. -/
theorem Reaches.of_willing (own : (run events empty).HasOwnConnections)
    (willing : ∀ connection ∈ (run events empty).connections, refusal connection = none)
    (unforgotten : ∀ creation project connection,
      (run events empty).IsConnected creation project connection →
        ¬ ∃ before event rest, events = before ++ event :: rest ∧
          (run before empty).Forgets creation event) : (run events empty).Reaches refusal := by
  have done := closeAll_eq_ok_iff.mpr willing
  have asked := closeAll_of_ok done
  have after : ((run events empty).close refusal).2 = _ := apply_close_of_ok done
  refine ⟨?_, ?_, fun creation project connection made => ?_, ?_, fun other => ?_⟩
  · rw [asked]
    exact fun _ member => member
  · rw [asked]
    exact own.nodup_connections (sound_run events)
  · have keeps : (run events empty).Keeps creation :=
      keeps_run fun before event rest split forgets =>
        unforgotten creation project connection made ⟨before, event, rest, split, forgets⟩
    rw [after]
    rcases keeps project made.isAlive with entered | ⟨same, connected, closed⟩
    · exact List.mem_append_right _ (mem_connections.mpr ⟨project, creation, entered, made.endingOf⟩)
    · rw [IsConnected, made] at connected
      have equal : connection = same := by simpa using connected
      exact List.mem_append_left _ (equal ▸ closed)
  · rw [after]
  · rw [after]
    rfl

end Run

/-- A close reaches everything exactly if no connection in the pool refuses and no creation was forgotten
before. If some connection refuses, the close asks those up to the first that does and changes nothing
else: the pool is not empty, those behind are not asked, and another close asks those before again. -/
theorem reaches_iff_willing_and_unforgotten (events : List (PoolEvent κ))
    (refusal : κ → Option Failure) (own : (run events empty).HasOwnConnections) :
    ((run events empty).Reaches refusal ↔
      (∀ connection ∈ (run events empty).connections, refusal connection = none) ∧
        ∀ creation project connection, (run events empty).IsConnected creation project connection →
          ¬ ∃ before event rest, events = before ++ event :: rest ∧
            (run before empty).Forgets creation event) ∧
    ∀ connection ∈ (run events empty).connections, refusal connection ≠ none →
      ∃ earlier refuser rest failure, (run events empty).connections = earlier ++ refuser :: rest ∧
        (∀ other ∈ earlier, refusal other = none) ∧ refusal refuser = some failure ∧
        (run events empty).close refusal = (.error failure,
          { run events empty with
            closed := (run events empty).closed ++ (earlier ++ [refuser]) }) :=
  ⟨⟨fun reaches => ⟨reaches.willing, fun _ _ _ made => reaches.unforgotten own made⟩,
    fun ⟨willing, unforgotten⟩ => .of_willing own willing unforgotten⟩,
  fun _ member unwilling => exists_refuser member unwilling⟩

/-- A run in which two projects get their connections. -/
def twoProjects : List (PoolEvent Nat) :=
  [.ask "alpha", .ask "beta", .succeed 0 7, .succeed 1 8]

/-- The refusal of one connection, and of no other. -/
def refusing (connection : Nat) : Nat → Option Failure := fun other =>
  if other = connection then some (.foreign .system "unreachable") else none

theorem hasOwnConnections_twoProjects : (run twoProjects empty).HasOwnConnections := by
  intro creation project other owner connection made same
  have creations : (run twoProjects empty).creations =
      [⟨"alpha", some (.connected 7)⟩, ⟨"beta", some (.connected 8)⟩] := rfl
  rw [IsConnected, creations] at made same
  rcases creation with _ | _ | creation <;> rcases other with _ | _ | other <;>
    simp at made same ⊢ <;> omega

/-- A close that the second of two connections refuses does not reach everything: it ends with the
refusal, and leaves the pool as it was but for what was asked. -/
theorem reaches_iff_refused_close :
    (run twoProjects empty).HasOwnConnections ∧ ¬ (run twoProjects empty).Reaches (refusing 8) ∧
      ∃ asked failure, (run twoProjects empty).close (refusing 8) =
        (.error failure, { run twoProjects empty with
          closed := (run twoProjects empty).closed ++ asked }) := by
  have own := hasOwnConnections_twoProjects
  obtain ⟨reached, refused⟩ := reaches_iff_willing_and_unforgotten twoProjects (refusing 8) own
  have member : 8 ∈ (run twoProjects empty).connections := by decide
  have unwilling : refusing 8 8 ≠ none := by decide
  obtain ⟨earlier, refuser, rest, failure, _, _, _, closing⟩ := refused 8 member unwilling
  exact ⟨own, fun reaches => unwilling ((reached.mp reaches).1 8 member), _, failure, closing⟩

/-- The first of two connections refuses: the second is not asked, both stay in the pool, and another
close asks both. -/
theorem exists_unreached :
    (run twoProjects empty).connections = [7, 8] ∧
      ((run twoProjects empty).close (refusing 7)).1 =
        .error (.foreign .system "unreachable") ∧
      (run (twoProjects ++ [.close (refusing 7)]) empty).closed = [7] ∧
      (run (twoProjects ++ [.close (refusing 7)]) empty).connections = [7, 8] ∧
      (run (twoProjects ++ [.close (refusing 7), .close fun _ => none]) empty).closed = [7, 7, 8] :=
  ⟨rfl, rfl, rfl, rfl, rfl⟩

end Pool

end DocQuery
