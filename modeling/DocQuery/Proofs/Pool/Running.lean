/-
This file says what a pool goes through: runs of events, and what every run keeps.

A pool moves in few ways. A caller joins a creation or begins one; a creation succeeds, or is
abandoned; a caller that joined leaves; a close is refused half way or goes through. `Moves` lists
them with all that decides between them, and everything later goes by cases on it, so that no
proof looks into `Pool.apply` again.

Every run keeps two things. A pool is `Sound`: an entry names the latest creation of its project,
one that is under way or has a connection. And callers are `Told`: each stands where its creation
stands, unless it joined and was cancelled by itself.
-/

import DocQuery.Pool.Basic
import Mathlib.Data.List.Induction
import Mathlib.Data.List.Nodup

namespace DocQuery

namespace Pool

variable {κ : Type}

/-! ### Runs -/

/-- A pool after events, in order. -/
def run : List (PoolEvent κ) → Pool κ → Pool κ
  | [], pool => pool
  | event :: rest, pool => run rest (pool.apply event)

theorem run_append (first second : List (PoolEvent κ)) (pool : Pool κ) :
    run (first ++ second) pool = run second (run first pool) := by
  induction first generalizing pool with
  | nil => rfl
  | cons event rest inductionHypothesis => exact inductionHypothesis (pool.apply event)

/-- What every event keeps, every run keeps. -/
theorem run_induction {motive : Pool κ → Prop}
    (step : ∀ event pool, motive pool → motive (pool.apply event))
    (events : List (PoolEvent κ)) {pool : Pool κ} (start : motive pool) :
    motive (run events pool) := by
  induction events generalizing pool with
  | nil => exact start
  | cons event rest inductionHypothesis => exact inductionHypothesis (step event pool start)

/-! ### What the operations do to creations and callers -/

theorem endingOf_eq (creation : Nat) (pool : Pool κ) :
    pool.endingOf creation = pool.creations[creation]?.bind Creation.ending := rfl

theorem underWay?_eq_some_iff {creation : Nat} {pool : Pool κ} {project : Text} :
    pool.underWay? creation = some project ↔
      pool.creations[creation]? = some ⟨project, none⟩ := by
  rw [underWay?]
  constructor
  · intro found
    split at found
    · next present => rw [present, Option.some.inj found]
    · cases found
  · intro present
    rw [present]

@[simp] theorem length_creations_settle (creation : Nat) (ending : Ending κ) (pool : Pool κ) :
    (pool.settle creation ending).creations.length = pool.creations.length := by
  rw [settle, List.length_modify]

/-- The creation that is settled gets its ending. -/
theorem creations_settle_self {creation : Nat} {pool : Pool κ} {found : Creation κ}
    (present : pool.creations[creation]? = some found) (ending : Ending κ) :
    (pool.settle creation ending).creations[creation]? =
      some { found with ending := some ending } := by
  rw [settle, List.getElem?_modify, present]
  simp

theorem creations_settle_of_ne {creation other : Nat} (different : other ≠ creation)
    (ending : Ending κ) (pool : Pool κ) :
    (pool.settle creation ending).creations[other]? = pool.creations[other]? := by
  rw [settle, List.getElem?_modify]
  simp [Ne.symm different]

@[simp] theorem creations_forget (project : Text) (pool : Pool κ) :
    (pool.forget project).creations = pool.creations := rfl

theorem mem_entries_forget {entry : Text × Nat} {project : Text} {pool : Pool κ} :
    entry ∈ (pool.forget project).entries ↔ entry ∈ pool.entries ∧ entry.1 ≠ project := by
  simp [forget]

@[simp] theorem entries_begin (project : Text) (pool : Pool κ) :
    (pool.begin project).entries = pool.entries ++ [(project, pool.creations.length)] := rfl

@[simp] theorem creations_begin (project : Text) (pool : Pool κ) :
    (pool.begin project).creations = pool.creations ++ [⟨project, none⟩] := rfl

@[simp] theorem callers_begin (project : Text) (pool : Pool κ) :
    (pool.begin project).callers =
      pool.callers ++ [⟨pool.creations.length, true, none⟩] := rfl

@[simp] theorem callers_join (creation : Nat) (pool : Pool κ) :
    (pool.join creation).callers =
      pool.callers ++ [⟨creation, false, pool.endingOf creation⟩] := rfl

/-! ### Moves -/

/-- A caller that joined goes away. -/
def leave (caller : Nat) (pool : Pool κ) : Pool κ :=
  { pool with
    callers := pool.callers.modify caller fun found => { found with ending := some .cancelled } }

/-- The creation that an event ends without a connection: one that fails, or one that a
cancellation comes out of. -/
def abandoned? (event : PoolEvent κ) (pool : Pool κ) : Option Nat :=
  match event with
  | .fail creation _ | .interrupt creation => (pool.underWay? creation).map fun _ => creation
  | _ => none

/-- An event that ends a creation without a connection is its failure or its cancellation. -/
theorem eq_of_abandoned {pool : Pool κ} {event : PoolEvent κ} {creation : Nat}
    (abandoned : pool.abandoned? event = some creation) :
    (∃ failure, event = .fail creation failure) ∨ event = .interrupt creation := by
  cases event with
  | fail failed failure =>
    rw [abandoned?, Option.map_eq_some_iff] at abandoned
    obtain ⟨_, _, rfl⟩ := abandoned
    exact .inl ⟨failure, rfl⟩
  | interrupt interrupted =>
    rw [abandoned?, Option.map_eq_some_iff] at abandoned
    obtain ⟨_, _, rfl⟩ := abandoned
    exact .inr rfl
  | ask _ => cases abandoned
  | succeed _ _ => cases abandoned
  | cancel _ => cases abandoned
  | close _ => cases abandoned

/-- The ending that an event gives to the creation that it ends without a connection. -/
def endingBy (event : PoolEvent κ) (project : Text) : Ending κ :=
  match event with
  | .fail _ failure => .failed (reported project failure)
  | _ => .cancelled

/-- What an event that ends a creation without a connection does. -/
theorem apply_of_abandoned {pool : Pool κ} {event : PoolEvent κ} {creation : Nat}
    {project : Text} (abandoned : pool.abandoned? event = some creation)
    (present : pool.creations[creation]? = some ⟨project, none⟩) :
    pool.apply event = (pool.forget project).settle creation (endingBy event project) := by
  have underWay := underWay?_eq_some_iff.mpr present
  rcases eq_of_abandoned abandoned with ⟨failure, rfl⟩ | rfl
  · simp only [apply, fail, underWay, abandon, endingBy]
  · simp only [apply, interrupt, underWay, abandon, endingBy]

/-- What can become of a pool by an event. -/
inductive Moves (pool : Pool κ) : PoolEvent κ → Pool κ → Prop
  /-- The event concerns nothing that is under way. -/
  | idle (event : PoolEvent κ) : Moves pool event pool
  | join {project : Text} {creation : Nat}
      (entered : pool.entries.lookup project = some creation) :
      Moves pool (.ask project) (pool.join creation)
  | begin {project : Text} (absent : pool.entries.lookup project = none) :
      Moves pool (.ask project) (pool.begin project)
  | succeed {creation : Nat} {project : Text} {connection : κ}
      (present : pool.creations[creation]? = some ⟨project, none⟩) :
      Moves pool (.succeed creation connection) (pool.settle creation (.connected connection))
  | abandon {event : PoolEvent κ} {creation : Nat} {project : Text}
      (abandoned : pool.abandoned? event = some creation)
      (present : pool.creations[creation]? = some ⟨project, none⟩) :
      Moves pool event ((pool.forget project).settle creation (endingBy event project))
  | leave {caller creation : Nat}
      (present : pool.callers[caller]? = some ⟨creation, false, none⟩) :
      Moves pool (.cancel caller) (pool.leave caller)
  | refuse {refusal : κ → Option Failure} {failure : Failure}
      (refused : (closeAll refusal pool.connections).2 = .error failure) :
      Moves pool (.close refusal)
        { pool with closed := pool.closed ++ (closeAll refusal pool.connections).1 }
  | close {refusal : κ → Option Failure}
      (done : (closeAll refusal pool.connections).2 = .ok ()) :
      Moves pool (.close refusal)
        { pool with entries := [], closed := pool.closed ++ (closeAll refusal pool.connections).1 }

/-- Every event is one of the moves. -/
theorem moves_apply (event : PoolEvent κ) (pool : Pool κ) :
    pool.Moves event (pool.apply event) := by
  cases event with
  | ask project =>
    rw [apply, ask]
    split
    · next creation entered => exact .join entered
    · next absent => exact .begin absent
  | succeed creation connection =>
    rw [apply, succeed]
    split
    · next present => exact .succeed (underWay?_eq_some_iff.mp present)
    · exact .idle _
  | fail creation failure =>
    rw [apply, fail]
    split
    · next project present =>
      rw [abandon, present]
      exact .abandon (by rw [abandoned?, present]; rfl) (underWay?_eq_some_iff.mp present)
    · exact .idle _
  | interrupt creation =>
    rw [apply, interrupt, abandon]
    split
    · next project present =>
      exact .abandon (by rw [abandoned?, present]; rfl) (underWay?_eq_some_iff.mp present)
    · exact .idle _
  | cancel caller =>
    rw [apply, cancel]
    split
    · next present => exact .leave present
    · exact .idle _
  | close refusal =>
    rw [apply, close]
    generalize asked : closeAll refusal pool.connections = closing
    obtain ⟨connections, outcome⟩ := closing
    cases outcome with
    | error failure =>
      have refused : (closeAll refusal pool.connections).2 = .error failure := by rw [asked]
      have refuse : pool.Moves (.close refusal) _ := .refuse refused
      rwa [asked] at refuse
    | ok _ =>
      have close : pool.Moves (.close refusal) _ := .close (by rw [asked])
      rwa [asked] at close

/-! ### Creations along a run -/

/-- A move keeps the creations that are there: their projects, and the endings they have. -/
theorem creations_of_moves {pool after : Pool κ} {event : PoolEvent κ}
    (moves : pool.Moves event after) {creation : Nat} {found : Creation κ}
    (present : pool.creations[creation]? = some found) :
    ∃ ending, after.creations[creation]? = some ⟨found.project, ending⟩ ∧
      (found.ending = none ∨ ending = found.ending) := by
  have kept : ∃ ending, pool.creations[creation]? = some ⟨found.project, ending⟩ ∧
      (found.ending = none ∨ ending = found.ending) := ⟨found.ending, present, .inr rfl⟩
  have settled (forgotten : Pool κ) (same : forgotten.creations = pool.creations) (other : Nat)
      (project : Text) (underWay : pool.creations[other]? = some ⟨project, none⟩)
      (ending : Ending κ) :
      ∃ ending', (forgotten.settle other ending).creations[creation]? =
          some ⟨found.project, ending'⟩ ∧ (found.ending = none ∨ ending' = found.ending) := by
    by_cases equal : creation = other
    · subst equal
      rw [underWay] at present
      obtain rfl := Option.some.inj present
      exact ⟨_, creations_settle_self (same ▸ underWay) ending, .inl rfl⟩
    · exact ⟨found.ending, by rw [creations_settle_of_ne equal, same, present], .inr rfl⟩
  cases moves with
  | idle => exact kept
  | join _ => exact kept
  | begin _ =>
    refine ⟨found.ending, ?_, .inr rfl⟩
    rw [creations_begin, List.getElem?_append_left (List.getElem?_eq_some_iff.mp present).1]
    exact present
  | succeed underWay => exact settled pool rfl _ _ underWay _
  | abandon _ underWay => exact settled (pool.forget _) rfl _ _ underWay _
  | leave _ => exact kept
  | refuse _ => exact kept
  | close _ => exact kept

/-- A creation that has ended stays as it is. -/
theorem creations_run_of_ended {pool : Pool κ} {creation : Nat} {project : Text}
    {ending : Ending κ} (present : pool.creations[creation]? = some ⟨project, some ending⟩)
    (events : List (PoolEvent κ)) :
    (run events pool).creations[creation]? = some ⟨project, some ending⟩ := by
  refine run_induction (motive := fun after =>
    after.creations[creation]? = some ⟨project, some ending⟩) (fun event after ended => ?_)
    events present
  obtain ⟨ending', found, unended | same⟩ := creations_of_moves (moves_apply event after) ended
  · cases unended
  · rw [found, same]

/-! ### What every run keeps -/

/-- The state of a pool that has come about by events: entries name the latest creation of their
project, one that is under way or has a connection, and every caller has a creation. -/
structure Sound (pool : Pool κ) : Prop where
  entered : ∀ project creation, (project, creation) ∈ pool.entries →
    ∃ ending, pool.creations[creation]? = some ⟨project, ending⟩ ∧
      (ending = none ∨ ∃ connection, ending = some (.connected connection))
  single : (pool.entries.map Prod.fst).Nodup
  latest : ∀ project creation, (project, creation) ∈ pool.entries → ∀ later found,
    creation < later → pool.creations[later]? = some found → found.project ≠ project
  placed : ∀ caller ∈ pool.callers, caller.creation < pool.creations.length

namespace Sound

theorem empty : Sound (Pool.empty : Pool κ) where
  entered := by simp [Pool.empty]
  single := by simp [Pool.empty]
  latest := by simp [Pool.empty]
  placed := by simp [Pool.empty]

variable {pool : Pool κ}

/-- A creation that an entry names lies among the creations. -/
theorem lt_of_entered (sound : pool.Sound) {project : Text} {creation : Nat}
    (entered : (project, creation) ∈ pool.entries) : creation < pool.creations.length := by
  obtain ⟨ending, found, _⟩ := sound.entered project creation entered
  exact (List.getElem?_eq_some_iff.mp found).1

theorem mem_of_lookup {project : Text} {creation : Nat}
    (entered : pool.entries.lookup project = some creation) :
    (project, creation) ∈ pool.entries := by
  obtain ⟨before, after, split, _⟩ := List.lookup_eq_some_iff.mp entered
  rw [split]
  exact List.mem_append_right before List.mem_cons_self

/-- A project has one entry at most. -/
theorem entry_unique (sound : pool.Sound) {project : Text} {creation other : Nat}
    (first : (project, creation) ∈ pool.entries) (second : (project, other) ∈ pool.entries) :
    creation = other := by
  have same := List.inj_on_of_nodup_map sound.single first second rfl
  exact (Prod.mk.inj same).2

theorem lookup_eq_some_iff (sound : pool.Sound) {project : Text} {creation : Nat} :
    pool.entries.lookup project = some creation ↔ (project, creation) ∈ pool.entries := by
  refine ⟨mem_of_lookup, fun entered => ?_⟩
  cases found : pool.entries.lookup project with
  | none =>
    have absent := List.lookup_eq_none_iff.mp found (project, creation) entered
    simp at absent
  | some other => rw [sound.entry_unique (mem_of_lookup found) entered]

/-! ### Each move keeps it -/

theorem join (sound : pool.Sound) {creation : Nat} (there : creation < pool.creations.length) :
    (pool.join creation).Sound where
  entered := sound.entered
  single := sound.single
  latest := sound.latest
  placed caller member := by
    rw [callers_join, List.mem_append, List.mem_singleton] at member
    rcases member with earlier | rfl
    · exact sound.placed caller earlier
    · exact there

theorem endingOf_begin_of_lt {creation : Nat} (there : creation < pool.creations.length)
    (project : Text) : (pool.begin project).endingOf creation = pool.endingOf creation := by
  rw [endingOf_eq, creations_begin, List.getElem?_append_left there, ← endingOf_eq]

theorem begin (sound : pool.Sound) {project : Text}
    (absent : pool.entries.lookup project = none) : (pool.begin project).Sound where
  entered := by
    intro asked creation member
    rw [entries_begin, List.mem_append, List.mem_singleton] at member
    rcases member with earlier | new
    · obtain ⟨ending, found, alive⟩ := sound.entered asked creation earlier
      refine ⟨ending, ?_, alive⟩
      rw [creations_begin, List.getElem?_append_left (sound.lt_of_entered earlier), found]
    · obtain ⟨rfl, rfl⟩ := Prod.mk.inj new
      exact ⟨none, by simp, .inl rfl⟩
  single := by
    rw [entries_begin, List.map_append, List.nodup_append]
    refine ⟨sound.single, by simp, ?_⟩
    rintro asked member other new rfl
    obtain ⟨entry, entered, rfl⟩ := List.mem_map.mp member
    rw [List.map_singleton, List.mem_singleton] at new
    have different := List.lookup_eq_none_iff.mp absent entry entered
    simp [new] at different
  latest := by
    intro asked creation member later found after present
    rw [entries_begin, List.mem_append, List.mem_singleton] at member
    rw [creations_begin] at present
    rcases member with earlier | new
    · rcases Nat.lt_or_ge later pool.creations.length with inside | outside
      · rw [List.getElem?_append_left inside] at present
        exact sound.latest asked creation earlier later found after present
      · rw [List.getElem?_append_right outside] at present
        obtain ⟨_, rfl⟩ := List.getElem?_eq_some_iff.mp present
        have different := List.lookup_eq_none_iff.mp absent _ earlier
        simpa using different
    · obtain ⟨rfl, rfl⟩ := Prod.mk.inj new
      rw [List.getElem?_eq_none (by simpa using Nat.succ_le_of_lt after)] at present
      cases present
  placed caller member := by
    rw [callers_begin, List.mem_append, List.mem_singleton] at member
    rw [creations_begin, List.length_append]
    rcases member with earlier | rfl
    · exact Nat.lt_add_right _ (sound.placed caller earlier)
    · simp

/-- Settling a creation that is under way keeps a pool sound, if its entry stays only for a
connection. -/
theorem settle (sound : pool.Sound) {creation : Nat} {project : Text}
    (present : pool.creations[creation]? = some ⟨project, none⟩) {ending : Ending κ}
    (alive : (project, creation) ∈ pool.entries → ∃ connection, ending = .connected connection) :
    (pool.settle creation ending).Sound where
  entered := by
    intro asked entered member
    obtain ⟨known, found, living⟩ := sound.entered asked entered member
    by_cases equal : entered = creation
    · subst equal
      rw [present] at found
      obtain ⟨rfl, -⟩ := Creation.mk.inj (Option.some.inj found)
      obtain ⟨connection, rfl⟩ := alive member
      exact ⟨_, creations_settle_self present _, .inr ⟨connection, rfl⟩⟩
    · exact ⟨known, by rw [creations_settle_of_ne equal, found], living⟩
  single := sound.single
  latest := by
    intro asked entered member later found after known
    by_cases equal : later = creation
    · subst equal
      rw [creations_settle_self present] at known
      obtain rfl := Option.some.inj known
      exact sound.latest asked entered member later ⟨project, none⟩ after present
    · rw [creations_settle_of_ne equal] at known
      exact sound.latest asked entered member later found after known
  placed caller member := by
    rw [length_creations_settle]
    obtain ⟨earlier, known, rfl⟩ := List.mem_map.mp member
    have placed := sound.placed earlier known
    split <;> exact placed

/-- A pool that has forgotten entries is as sound. -/
theorem of_entries_sublist (sound : pool.Sound) {entries : List (Text × Nat)}
    (sublist : entries.Sublist pool.entries) (closed : List κ) :
    ({ pool with entries := entries, closed := closed } : Pool κ).Sound where
  entered project creation member := sound.entered project creation (sublist.subset member)
  single := (sublist.map Prod.fst).nodup sound.single
  latest project creation member := sound.latest project creation (sublist.subset member)
  placed := sound.placed

theorem forget (sound : pool.Sound) (project : Text) : (pool.forget project).Sound :=
  sound.of_entries_sublist List.filter_sublist pool.closed

theorem leave (sound : pool.Sound) (caller : Nat) : (pool.leave caller).Sound where
  entered := sound.entered
  single := sound.single
  latest := sound.latest
  placed found member := by
    obtain ⟨index, known⟩ := List.getElem?_of_mem member
    rw [Pool.leave, List.getElem?_modify] at known
    obtain ⟨earlier, there, rfl⟩ := Option.map_eq_some_iff.mp known
    have placed := sound.placed earlier (List.mem_of_getElem? there)
    split <;> exact placed

/-- Every event keeps a pool sound. -/
theorem apply (sound : pool.Sound) (event : PoolEvent κ) : (pool.apply event).Sound := by
  have moves := moves_apply event pool
  generalize pool.apply event = after at moves
  cases moves with
  | idle => exact sound
  | join entered => exact sound.join (sound.lt_of_entered (mem_of_lookup entered))
  | begin absent => exact sound.begin absent
  | succeed present => exact sound.settle present fun _ => ⟨_, rfl⟩
  | abandon _ present =>
    refine (sound.forget _).settle present fun member => ?_
    exact absurd rfl (mem_entries_forget.mp member).2
  | leave _ => exact sound.leave _
  | refuse _ => exact sound.of_entries_sublist (List.Sublist.refl _) _
  | close _ => exact sound.of_entries_sublist (List.nil_sublist _) _

end Sound

/-- Every run from the pool that nobody has asked is sound. -/
theorem sound_run (events : List (PoolEvent κ)) : (run events empty).Sound :=
  run_induction (fun event _ sound => sound.apply event) events .empty

/-! ### What callers are told -/

/-- Callers stand as their creations do, but for those that joined and were cancelled by
themselves. -/
def Told (cancelled : Nat → Prop) (pool : Pool κ) : Prop :=
  ∀ index caller, pool.callers[index]? = some caller →
    caller.ending = pool.endingOf caller.creation ∨
      caller.began = false ∧ caller.ending = some .cancelled ∧ cancelled index

namespace Told

variable {cancelled : Nat → Prop} {pool : Pool κ}

/-- One more caller, who stands as its creation does, changes nothing for the others. -/
theorem append (told : pool.Told cancelled) {after : Pool κ} {caller : Caller κ}
    (callers : after.callers = pool.callers ++ [caller])
    (same : ∀ earlier ∈ pool.callers,
      after.endingOf earlier.creation = pool.endingOf earlier.creation)
    (new : caller.ending = after.endingOf caller.creation) : after.Told cancelled := by
  intro index found present
  rw [callers, List.getElem?_append] at present
  split at present
  · rw [same found (List.mem_of_getElem? present)]
    exact told index found present
  · rw [List.mem_singleton.mp (List.mem_of_getElem? present)]
    exact .inl new

theorem settle (told : pool.Told cancelled) {creation : Nat} {project : Text}
    (present : pool.creations[creation]? = some ⟨project, none⟩) (ending : Ending κ) :
    (pool.settle creation ending).Told cancelled := by
  intro index caller known
  rw [Pool.settle, List.getElem?_map] at known
  obtain ⟨earlier, there, rfl⟩ := Option.map_eq_some_iff.mp known
  have stood := told index earlier there
  by_cases equal : earlier.creation = creation
  · have waiting : pool.endingOf creation = none := by
      rw [endingOf_eq, present]
      rfl
    have settled : (pool.settle creation ending).endingOf creation = some ending := by
      rw [endingOf_eq, creations_settle_self present]
      rfl
    rw [equal, waiting] at stood
    rcases stood with unended | ⟨joined, gone, asked⟩
    · simp [equal, unended, settled]
    · simp [equal, joined, gone, asked]
  · have same : (pool.settle creation ending).endingOf earlier.creation =
        pool.endingOf earlier.creation := by
      rw [endingOf_eq, creations_settle_of_ne equal, ← endingOf_eq]
    simpa [equal, same] using stood

theorem leave (told : pool.Told cancelled) {caller creation : Nat}
    (present : pool.callers[caller]? = some ⟨creation, false, none⟩) (asked : cancelled caller) :
    (pool.leave caller).Told cancelled := by
  intro index found known
  rw [Pool.leave, List.getElem?_modify] at known
  obtain ⟨earlier, there, rfl⟩ := Option.map_eq_some_iff.mp known
  by_cases equal : caller = index
  · subst equal
    rw [present] at there
    obtain rfl := Option.some.inj there
    exact .inr (by simpa using asked)
  · simpa [equal, endingOf_eq, Pool.leave] using told index earlier there

/-- Every event keeps callers told, those that it cancels included. -/
theorem apply (told : pool.Told cancelled) (sound : pool.Sound) {event : PoolEvent κ}
    (asked : ∀ caller, event = .cancel caller → cancelled caller) :
    (pool.apply event).Told cancelled := by
  have moves := moves_apply event pool
  generalize pool.apply event = after at moves
  cases moves with
  | idle => exact told
  | join entered => exact told.append (callers_join _ _) (fun _ _ => rfl) rfl
  | begin absent =>
    refine told.append (callers_begin _ _)
      (fun caller member => Sound.endingOf_begin_of_lt (sound.placed caller member) _) ?_
    rw [endingOf_eq, creations_begin]
    simp
  | succeed present => exact told.settle present _
  | @abandon _ creation project _ present =>
    have forgotten : (pool.forget project).Told cancelled := told
    have underWay : (pool.forget project).creations[creation]? = some ⟨project, none⟩ := present
    exact forgotten.settle underWay _
  | leave present => exact told.leave present (asked _ rfl)
  | refuse _ => exact told
  | close _ => exact told

end Told

/-- In every run, callers stand as their creations do, but for those that joined and were
cancelled by themselves. -/
theorem told_run (events : List (PoolEvent κ)) :
    (run events empty).Told fun caller => .cancel caller ∈ events := by
  induction events using List.reverseRecOn with
  | nil => simp [Told, run, empty]
  | append_singleton earlier event inductionHypothesis =>
    rw [run_append]
    refine Told.apply ?_ (sound_run earlier) fun caller same => by simp [same]
    intro index caller present
    refine (inductionHypothesis index caller present).imp_right fun gone => ?_
    exact ⟨gone.1, gone.2.1, List.mem_append_left _ gone.2.2⟩

end Pool

end DocQuery
