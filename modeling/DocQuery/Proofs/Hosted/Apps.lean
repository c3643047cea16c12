/-
This file keeps account of the apps of a hosting service.

Connecting goes through its stages up to the first refusal, and only one refusal comes when the app
has already been started: that of a client. Nobody holds the app then, and nothing deletes it. So at
every time the live apps are those that there were before, those that connections hold which were
not closed, and those that were left behind at that stage. A service that starts no app under a name
that is live never again starts one under the name of an app that was left behind.
-/

import DocQuery.Hosted.Connect
import DocQuery.Proofs.Pool.Obtaining
import Mathlib.Data.List.Perm.Basic

namespace DocQuery

/-! ### Calls -/

namespace HostingService

variable {service : HostingService}

/-- Why a service refuses a call, if it does. -/
def refuses (call : ServiceCall) (service : HostingService) : Option Failure :=
  service.refusal service.calls service.liveApps call

/-- A service that was given another call. -/
def asked (call : ServiceCall) (service : HostingService) : HostingService :=
  { service with calls := service.calls ++ [call] }

/-- A service whose live apps have changed. -/
def withApps (apps : List Value) (service : HostingService) : HostingService :=
  { service with liveApps := apps }

theorem invoke_of_refused {call : ServiceCall} {failure : Failure}
    (refused : service.refuses call = some failure) (change : List Value → List Value) :
    service.invoke call change = (.error failure, service.asked call) := by
  rw [refuses] at refused
  rw [invoke, refused]
  rfl

theorem invoke_of_accepted {call : ServiceCall} (accepted : service.refuses call = none)
    (change : List Value → List Value) :
    service.invoke call change =
      (.ok (), (service.asked call).withApps (change service.liveApps)) := by
  rw [refuses] at accepted
  rw [invoke, accepted]
  rfl

/-- A service that has accepted a certificate. -/
def certified (account : Entries) (service : HostingService) : HostingService :=
  service.asked (.certificate account)

/-- The call that starts the app of a project. -/
def startCall (account : Entries) (project : Value) : ServiceCall :=
  .start (HostedConnection.optionsOf account) project

/-- A service that has started the app of a project. -/
def started (account : Entries) (project : Value) (service : HostingService) : HostingService :=
  ((service.certified account).asked (startCall account project)).withApps
    (service.liveApps ++ [project])

/-- A service that starts no app under a name that is live. -/
def KnowsNames (service : HostingService) : Prop :=
  ∀ calls apps options name, name ∈ apps → service.refusal calls apps (.start options name) ≠ none

end HostingService

/-! ### Connecting -/

namespace HostedConnection

variable {settings : Settings} {files : FileTree} {project : Value} {service : HostingService}

/-- The ways in which connecting ends. -/
inductive Connects (settings : Settings) (files : FileTree) (project : Value)
    (service : HostingService) : Except Failure HostedConnection → HostingService → Prop
  /-- The credentials cannot be loaded. -/
  | unread {failure : Failure} :
      Credentials.load Json.nestingLimit settings files project = .error failure →
      Connects settings files project service (.error failure) service
  /-- The certificate is refused. -/
  | uncertified {account : Entries} {failure : Failure} :
      Credentials.load Json.nestingLimit settings files project = .ok account →
      service.refuses (.certificate account) = some failure →
      Connects settings files project service (.error (refused project failure))
        (service.certified account)
  /-- The app is not started. -/
  | unstarted {account : Entries} {failure : Failure} :
      Credentials.load Json.nestingLimit settings files project = .ok account →
      service.refuses (.certificate account) = none →
      (service.certified account).refuses (HostingService.startCall account project) =
        some failure →
      Connects settings files project service (.error (refused project failure))
        ((service.certified account).asked (HostingService.startCall account project))
  /-- The app is started, but no client is made for it. -/
  | clientless {account : Entries} {failure : Failure} :
      Credentials.load Json.nestingLimit settings files project = .ok account →
      service.refuses (.certificate account) = none →
      (service.certified account).refuses (HostingService.startCall account project) = none →
      (service.started account project).refuses .client = some failure →
      Connects settings files project service (.error (refused project failure))
        ((service.started account project).asked .client)
  | connected {account : Entries} :
      Credentials.load Json.nestingLimit settings files project = .ok account →
      service.refuses (.certificate account) = none →
      (service.certified account).refuses (HostingService.startCall account project) = none →
      (service.started account project).refuses .client = none →
      Connects settings files project service (.ok ⟨some project⟩)
        ((service.started account project).asked .client)

theorem connects (settings : Settings) (files : FileTree) (project : Value)
    (service : HostingService) :
    Connects settings files project service (connect settings files project service).1
      (connect settings files project service).2 := by
  rw [connect]
  cases loaded : Credentials.load Json.nestingLimit settings files project with
  | error failure => exact .unread loaded
  | ok account =>
    dsimp only
    rw [initialise]
    cases certificate : service.refuses (.certificate account) with
    | some failure =>
      rw [HostingService.certify, HostingService.invoke_of_refused certificate]
      exact .uncertified loaded certificate
    | none =>
      have certified : service.certify account = (.ok (), service.certified account) :=
        HostingService.invoke_of_accepted certificate id
      rw [certified]
      dsimp only
      cases start : (service.certified account).refuses
          (HostingService.startCall account project) with
      | some failure =>
        rw [HostingService.start, ← HostingService.startCall,
          HostingService.invoke_of_refused start]
        exact .unstarted loaded certificate start
      | none =>
        have started : (service.certified account).start (optionsOf account) project =
            (.ok (), service.started account project) :=
          HostingService.invoke_of_accepted start _
        rw [started]
        dsimp only
        cases client : (service.started account project).refuses .client with
        | some failure =>
          rw [HostingService.makeClient, HostingService.invoke_of_refused client]
          exact .clientless loaded certificate start client
        | none =>
          rw [HostingService.makeClient, HostingService.invoke_of_accepted client]
          exact .connected loaded certificate start client

/-- Whether connecting is refused when it comes to the client, the app having been started. -/
def leavesApp (settings : Settings) (files : FileTree) (project : Value)
    (service : HostingService) : Bool :=
  match Credentials.load Json.nestingLimit settings files project with
  | .error _ => false
  | .ok account =>
    (service.refuses (.certificate account)).isNone &&
      ((service.certified account).refuses (HostingService.startCall account project)).isNone &&
      ((service.started account project).refuses .client).isSome

/-- How connecting changes the live apps: not at all, or by the app of the project, which is held
by the connection or left behind. -/
theorem Connects.liveApps {outcome : Except Failure HostedConnection} {after : HostingService}
    (connects : Connects settings files project service outcome after) :
    (∃ failure, outcome = .error failure ∧ leavesApp settings files project service = false ∧
        after.liveApps = service.liveApps) ∨
      (∃ failure, outcome = .error failure ∧ leavesApp settings files project service = true ∧
        after.liveApps = service.liveApps ++ [project]) ∨
      outcome = .ok ⟨some project⟩ ∧ leavesApp settings files project service = false ∧
        after.liveApps = service.liveApps ++ [project] := by
  cases connects with
  | unread loaded => exact .inl ⟨_, rfl, by rw [leavesApp, loaded], rfl⟩
  | uncertified loaded certificate =>
    exact .inl ⟨_, rfl, by simp [leavesApp, loaded, certificate], rfl⟩
  | unstarted loaded certificate start =>
    exact .inl ⟨_, rfl, by simp [leavesApp, loaded, certificate, start], rfl⟩
  | clientless loaded certificate start client =>
    exact .inr (.inl ⟨_, rfl, by simp [leavesApp, loaded, certificate, start, client], rfl⟩)
  | connected loaded certificate start client =>
    exact .inr (.inr ⟨rfl, by simp [leavesApp, loaded, certificate, start, client], rfl⟩)

/-- Connecting changes nothing of what the service refuses. -/
theorem Connects.refusal {outcome : Except Failure HostedConnection} {after : HostingService}
    (connects : Connects settings files project service outcome after) :
    after.refusal = service.refusal := by
  cases connects <;> rfl

/-- At a service that knows names, an app is started only if none of its name is live. -/
theorem Connects.fresh {outcome : Except Failure HostedConnection} {after : HostingService}
    (connects : Connects settings files project service outcome after)
    (knows : service.KnowsNames) :
    after.liveApps = service.liveApps ∧ (∃ failure, outcome = .error failure) ∨
      after.liveApps = service.liveApps ++ [project] ∧ project ∉ service.liveApps := by
  have unheard {account : Entries} (accepted :
      (service.certified account).refuses (HostingService.startCall account project) = none) :
      project ∉ service.liveApps := fun live => knows _ _ _ _ live accepted
  cases connects with
  | unread _ => exact .inl ⟨rfl, _, rfl⟩
  | uncertified _ _ => exact .inl ⟨rfl, _, rfl⟩
  | unstarted _ _ _ => exact .inl ⟨rfl, _, rfl⟩
  | clientless _ _ start _ => exact .inr ⟨rfl, unheard start⟩
  | connected _ _ start _ => exact .inr ⟨rfl, unheard start⟩

/-- A service that knows names goes on to do so, and keeps the names of live apps apart. -/
theorem Connects.apart {outcome : Except Failure HostedConnection} {after : HostingService}
    (connects : Connects settings files project service outcome after)
    (knows : service.KnowsNames) (single : service.liveApps.Nodup) :
    after.KnowsNames ∧ after.liveApps.Nodup := by
  constructor
  · rw [HostingService.KnowsNames, connects.refusal]
    exact knows
  · rcases connects.fresh knows with ⟨unchanged, _⟩ | ⟨more, unheard⟩
    · exact unchanged ▸ single
    · rw [more]
      exact (List.perm_append_singleton ..).nodup_iff.mpr (List.nodup_cons.mpr ⟨unheard, single⟩)

/-! ### Closing -/

/-- The ways in which closing a connection ends. -/
inductive Closes (connection : HostedConnection) (service : HostingService) :
    Except Failure Unit → HostedConnection → HostingService → Prop
  /-- It was closed before. -/
  | again : connection.app = none → Closes connection service (.ok ()) connection service
  /-- Deleting the app is refused. -/
  | refused {app : Value} {failure : Failure} : connection.app = some app →
      service.refuses .delete = some failure →
      Closes connection service (.error failure) connection (service.asked .delete)
  | deleted {app : Value} : connection.app = some app → service.refuses .delete = none →
      Closes connection service (.ok ()) ⟨none⟩
        ((service.asked .delete).withApps (service.liveApps.erase app))

theorem closes (connection : HostedConnection) (service : HostingService) :
    Closes connection service (connection.close service).1 (connection.close service).2.1
      (connection.close service).2.2 := by
  rw [close]
  cases held : connection.app with
  | none => exact .again held
  | some app =>
    dsimp only
    cases deletion : service.refuses .delete with
    | some failure =>
      rw [HostingService.delete, HostingService.invoke_of_refused deletion]
      exact .refused held deletion
    | none =>
      rw [HostingService.delete, HostingService.invoke_of_accepted deletion]
      exact .deleted held deletion

/-- A connection that was closed stays so, and asks nothing of the service. -/
theorem closeTimes_closed (times : Nat) (service : HostingService) :
    closeTimes times ⟨none⟩ service = (.ok (), ⟨none⟩, service) := by
  induction times with
  | zero => rfl
  | succ times inductionHypothesis => exact inductionHypothesis

/-- Closed at least once, a connection has its app deleted by one call, or keeps it and its app is
live. -/
theorem closeTimes_succ (times : Nat) (app : Value) (service : HostingService) :
    closeTimes (times + 1) ⟨some app⟩ service =
      match service.refuses .delete with
      | some failure => (.error failure, ⟨some app⟩, service.asked .delete)
      | none =>
        (.ok (), ⟨none⟩, (service.asked .delete).withApps (service.liveApps.erase app)) := by
  rw [closeTimes]
  have closing := closes ⟨some app⟩ service
  generalize close ⟨some app⟩ service = closed at closing
  obtain ⟨outcome, connection, after⟩ := closed
  cases closing with
  | again unheld => cases unheld
  | refused held deletion =>
    rw [deletion]
    rfl
  | deleted held deletion =>
    cases held
    rw [deletion]
    exact closeTimes_closed times _

end HostedConnection

/-! ### Pools -/

namespace HostedPool

/-- What can happen to a pool: somebody asks for a project, with whatever settings and files are
there by then, closes a connection, or closes the pool. -/
inductive Event
  | get (settings : Settings) (files : FileTree) (project : Text)
  | closeNumber (number : Nat)
  | close

def apply (event : Event) (hosted : HostedPool) : HostedPool :=
  match event with
  | .get settings files project => (hosted.get settings files project).2
  | .closeNumber number => (hosted.closeNumber number).2
  | .close => hosted.close.2

def run : List Event → HostedPool → HostedPool
  | [], hosted => hosted
  | event :: rest, hosted => run rest (hosted.apply event)

/-- The apps that connections hold. -/
def held (connections : List HostedConnection) : List Value :=
  connections.filterMap HostedConnection.app

/-- The app that an event leaves behind: that of a project which the pool connects to, only to be
refused when it comes to the client. -/
def leaves (event : Event) (hosted : HostedPool) : List Value :=
  match event with
  | .get settings files project =>
    if hosted.pool.entries.lookup project = none ∧
        HostedConnection.leavesApp settings files (.text project) hosted.service = true then
      [.text project]
    else []
  | .closeNumber _ | .close => []

/-- The apps that events leave behind. -/
def leftBehind : List Event → HostedPool → List Value
  | [], _ => []
  | event :: rest, hosted => hosted.leaves event ++ leftBehind rest (hosted.apply event)

variable {settings : Settings} {files : FileTree} {project : Text} {hosted : HostedPool}

/-! ### Asking -/

/-- The ways in which asking for a project ends. -/
inductive Gets (settings : Settings) (files : FileTree) (project : Text) (hosted : HostedPool) :
    Option (Ending Nat) → HostedPool → Prop
  /-- The pool has an entry of the project. -/
  | joined {creation : Nat} : hosted.pool.entries.lookup project = some creation →
      Gets settings files project hosted (hosted.pool.endingOf creation)
        { hosted with pool := hosted.pool.join creation }
  /-- Connecting fails, and the pool keeps the entries that it had. -/
  | failed {failure : Failure} {after : HostingService} {pool : Pool Nat} :
      hosted.pool.entries.lookup project = none →
      HostedConnection.Connects settings files (.text project) hosted.service (.error failure)
        after →
      pool.entries = hosted.pool.entries →
      Gets settings files project hosted (some (.failed (Pool.reported project failure)))
        ⟨pool, hosted.connections, after⟩
  /-- The pool gets an entry of the project. -/
  | connected {connection : HostedConnection} {after : HostingService} {pool : Pool Nat} :
      hosted.pool.entries.lookup project = none →
      HostedConnection.Connects settings files (.text project) hosted.service (.ok connection)
        after →
      pool.entries = hosted.pool.entries ++ [(project, hosted.pool.creations.length)] →
      Gets settings files project hosted (some (.connected hosted.connections.length))
        ⟨pool, hosted.connections ++ [connection], after⟩

theorem gets (settings : Settings) (files : FileTree) (project : Text) (hosted : HostedPool) :
    Gets settings files project hosted (hosted.get settings files project).1
      (hosted.get settings files project).2 := by
  have obtains := Pool.obtains (create settings files) project hosted.pool
    (hosted.connections, hosted.service)
  have connects := HostedConnection.connects settings files (.text project) hosted.service
  rw [get]
  generalize Pool.obtain (create settings files) project hosted.pool
    (hosted.connections, hosted.service) = got at obtains
  obtain ⟨ending, pool, state⟩ := got
  cases obtains with
  | joined entered => exact .joined entered
  | connected absent made =>
    rw [create] at made
    generalize HostedConnection.connect settings files (.text project) hosted.service = outcome
      at made connects
    obtain ⟨outcome, after⟩ := outcome
    cases outcome with
    | error failure => cases made
    | ok connection =>
      cases made
      exact .connected absent connects rfl
  | failed absent made =>
    rw [create] at made
    generalize HostedConnection.connect settings files (.text project) hosted.service = outcome
      at made connects
    obtain ⟨outcome, after⟩ := outcome
    cases outcome with
    | error failure =>
      cases made
      exact .failed absent connects (Pool.entries_forget_begin absent)
    | ok connection => cases made

/-! ### Accounts -/

theorem held_append_cons (before after : List HostedConnection) (connection : HostedConnection) :
    held (before ++ connection :: after) =
      held before ++ (connection.app.toList ++ held after) := by
  rw [held, List.filterMap_append, List.filterMap_cons]
  cases connection.app <;> rfl

theorem exists_split {connections : List HostedConnection} {number : Nat}
    {connection : HostedConnection} (present : connections[number]? = some connection) :
    ∃ before after, connections = before ++ connection :: after ∧ before.length = number := by
  obtain ⟨inside, same⟩ := List.getElem?_eq_some_iff.mp present
  refine ⟨connections.take number, connections.drop (number + 1), ?_, ?_⟩
  · rw [← same, ← List.drop_eq_getElem_cons inside, List.take_append_drop]
  · rw [List.length_take, Nat.min_eq_left (Nat.le_of_lt inside)]

/-- The ways in which closing the connection of a number ends. -/
inductive Shuts (number : Nat) (connections : List HostedConnection) (service : HostingService) :
    Except Failure Unit → List HostedConnection → HostingService → Prop
  /-- There is no such connection, or it was closed before. -/
  | idle : Shuts number connections service (.ok ()) connections service
  | refused {failure : Failure} : service.refuses .delete = some failure →
      Shuts number connections service (.error failure) connections (service.asked .delete)
  | deleted {before after later : List HostedConnection} {app : Value} :
      connections = before ++ ⟨some app⟩ :: after → later = before ++ ⟨none⟩ :: after →
      service.refuses .delete = none →
      Shuts number connections service (.ok ()) later
        ((service.asked .delete).withApps (service.liveApps.erase app))

theorem shuts (number : Nat) (connections : List HostedConnection) (service : HostingService) :
    Shuts number connections service (shutNumber number (connections, service)).1
      (shutNumber number (connections, service)).2.1
      (shutNumber number (connections, service)).2.2 := by
  rw [shutNumber]
  dsimp only
  cases present : connections[number]? with
  | none => exact .idle
  | some connection =>
    obtain ⟨before, rest, rfl, rfl⟩ := exists_split present
    have closing := connection.closes service
    cases closed : connection.close service with
    | mk outcome reached =>
      obtain ⟨later, after⟩ := reached
      simp only [closed, List.set_append_right, Nat.le_refl, Nat.sub_self, List.set_cons_zero]
        at closing ⊢
      cases closing with
      | again unheld => exact .idle
      | refused app refusal => exact .refused refusal
      | deleted known accepted =>
        obtain ⟨_⟩ := connection
        cases known
        exact .deleted rfl rfl accepted

/-! ### Accounts -/

/-- The live apps are some others and those that connections hold. -/
def Balanced (others : List Value) (connections : List HostedConnection)
    (service : HostingService) : Prop :=
  service.liveApps.Perm (others ++ held connections)

theorem Balanced.append {others : List Value} {connections : List HostedConnection}
    {service after : HostingService} {app : Value} (balanced : Balanced others connections service)
    (more : after.liveApps = service.liveApps ++ [app]) :
    Balanced (others ++ [app]) connections after ∧
      Balanced others (connections ++ [⟨some app⟩]) after := by
  constructor
  · rw [Balanced, more, List.append_assoc]
    refine (balanced.append_right [app]).trans ?_
    rw [List.append_assoc]
    exact List.perm_append_comm.append_left others
  · rw [Balanced, more, held_append_cons, ← List.append_assoc]
    exact balanced.append_right [app]

/-- Closing a connection deletes the app that it held, or leaves it with the connection. -/
theorem Shuts.balanced {others : List Value} {number : Nat}
    {connections later : List HostedConnection} {service after : HostingService}
    {outcome : Except Failure Unit}
    (shuts : Shuts number connections service outcome later after)
    (balanced : Balanced others connections service) : Balanced others later after := by
  cases shuts with
  | idle => exact balanced
  | refused refusal => exact balanced
  | @deleted before rest _ app split replaced accepted =>
    subst split replaced
    rw [Balanced, held_append_cons] at balanced ⊢
    have moved : (others ++ (held before ++ ([app] ++ held rest))).Perm
        (app :: (others ++ (held before ++ held rest))) := by
      rw [List.singleton_append, ← List.append_assoc, ← List.append_assoc]
      exact List.perm_middle
    have erased := (balanced.trans moved).erase app
    rwa [List.erase_cons_head] at erased

/-- At every event the live apps are some others, those that connections hold, and what is left
behind. -/
theorem balanced_apply {others : List Value} (event : Event)
    (balanced : Balanced others hosted.connections hosted.service) :
    Balanced (others ++ hosted.leaves event) (hosted.apply event).connections
      (hosted.apply event).service := by
  cases event with
  | get settings files project =>
    have gets := gets settings files project hosted
    rw [apply]
    generalize hosted.get settings files project = got at gets
    obtain ⟨ending, after⟩ := got
    dsimp only at gets ⊢
    cases gets with
    | joined entered =>
      rw [leaves, if_neg (by simp [entered]), List.append_nil]
      exact balanced
    | failed absent connects _ =>
      rw [leaves]
      rcases connects.liveApps with ⟨_, _, none, same⟩ | ⟨_, _, left, more⟩ | ⟨connected, _⟩
      · rw [if_neg (by simp [none]), List.append_nil, Balanced, same]
        exact balanced
      · rw [if_pos ⟨absent, left⟩]
        exact (balanced.append more).1
      · cases connected
    | connected absent connects _ =>
      rcases connects.liveApps with ⟨_, failed, _⟩ | ⟨_, failed, _⟩ | ⟨made, none, more⟩
      · cases failed
      · cases failed
      · cases made
        rw [leaves, if_neg (by simp [none]), List.append_nil]
        exact (balanced.append more).2
  | closeNumber number =>
    rw [leaves, List.append_nil]
    exact (shuts number hosted.connections hosted.service).balanced balanced
  | close =>
    rw [leaves, List.append_nil]
    obtain ⟨_, same⟩ := Pool.entries_shut shutNumber hosted.pool
      (hosted.connections, hosted.service)
    rw [apply, close]
    dsimp only
    rw [same]
    exact Pool.shutAll_keeps
      (fun state : List HostedConnection × HostingService => Balanced others state.1 state.2)
      (fun number state => (shuts number state.1 state.2).balanced) _ balanced

theorem balanced_run {others : List Value} (events : List Event)
    (balanced : Balanced others hosted.connections hosted.service) :
    Balanced (others ++ leftBehind events hosted) (run events hosted).connections
      (run events hosted).service := by
  induction events generalizing hosted others with
  | nil =>
    rw [leftBehind, List.append_nil]
    exact balanced
  | cons event rest inductionHypothesis =>
    rw [leftBehind, ← List.append_assoc]
    exact inductionHypothesis (balanced_apply event balanced)

/-! ### Sound pools -/

theorem sound_apply (event : Event) (sound : hosted.pool.Sound) :
    (hosted.apply event).pool.Sound := by
  cases event with
  | get settings files project =>
    exact (Pool.obtains (create settings files) project hosted.pool
      (hosted.connections, hosted.service)).sound sound
  | closeNumber number => exact sound
  | close => exact sound.shut shutNumber (hosted.connections, hosted.service)

theorem sound_run (events : List Event) (sound : hosted.pool.Sound) :
    (run events hosted).pool.Sound := by
  induction events generalizing hosted with
  | nil => exact sound
  | cons event rest inductionHypothesis => exact inductionHypothesis (sound_apply event sound)

/-- After a failure the pool has no entry of the project, so the next caller has it connect again. -/
theorem absent_of_failed (sound : hosted.pool.Sound) {failure : Failure}
    (failed : (hosted.get settings files project).1 = some (.failed failure)) :
    (hosted.get settings files project).2.pool.entries.lookup project = none := by
  have gets := gets settings files project hosted
  generalize hosted.get settings files project = got at gets failed
  obtain ⟨ending, after⟩ := got
  dsimp only at gets failed ⊢
  cases gets with
  | joined entered =>
    -- an entry names a creation that is under way or has a connection
    obtain ⟨found, known, standing⟩ := sound.entered _ _ (Pool.Sound.mem_of_lookup entered)
    have ending : found = some (.failed failure) := by
      rw [← failed, Pool.endingOf, known]
      rfl
    rcases standing with rfl | ⟨connection, rfl⟩ <;> cases ending
  | failed absent _ same => exact same ▸ absent
  | connected _ _ _ => cases failed

/-! ### Names -/

/-- An app that is live, with nobody holding it, at a service that knows names. -/
structure Adrift (app : Value) (connections : List HostedConnection) (service : HostingService) :
    Prop where
  knows : service.KnowsNames
  single : service.liveApps.Nodup
  live : app ∈ service.liveApps
  unheld : app ∉ held connections

/-- Closing connections does not reach an app that nobody holds. -/
theorem Adrift.shut {app : Value} {connections later : List HostedConnection}
    {service after : HostingService} (adrift : Adrift app connections service) {number : Nat}
    {outcome : Except Failure Unit}
    (shuts : Shuts number connections service outcome later after) : Adrift app later after := by
  obtain ⟨knows, single, live, unheld⟩ := adrift
  cases shuts with
  | idle => exact ⟨knows, single, live, unheld⟩
  | refused _ => exact ⟨knows, single, live, unheld⟩
  | @deleted before rest _ deleted split replaced _ =>
    subst split replaced
    rw [held_append_cons] at unheld
    have other : app ≠ deleted := by
      rintro rfl
      exact unheld (by simp)
    refine ⟨knows, single.erase deleted, (List.mem_erase_of_ne other).mpr live, ?_⟩
    rw [held_append_cons]
    exact fun member => unheld (by
      simp only [List.mem_append] at member ⊢
      rcases member with first | none | last
      · exact .inl first
      · cases none
      · exact .inr (.inr last))

/-- Connecting does not reach an app that nobody holds, and nobody comes to hold it. -/
theorem Adrift.connect {app name : Value} {connections : List HostedConnection}
    {service after : HostingService} (adrift : Adrift app connections service)
    {outcome : Except Failure HostedConnection}
    (connects : HostedConnection.Connects settings files name service outcome after) :
    Adrift app connections after ∧ ((∃ connection, outcome = .ok connection) → app ≠ name) := by
  obtain ⟨knows, single, live, unheld⟩ := adrift
  obtain ⟨stillKnows, stillSingle⟩ := connects.apart knows single
  rcases connects.fresh knows with ⟨unchanged, _, rfl⟩ | ⟨more, unheard⟩
  · refine ⟨⟨stillKnows, stillSingle, unchanged ▸ live, unheld⟩, ?_⟩
    rintro ⟨_, connected⟩
    cases connected
  · refine ⟨⟨stillKnows, stillSingle, ?_, unheld⟩, fun _ same => unheard (same ▸ live)⟩
    rw [more]
    exact List.mem_append_left _ live

/-- An app of a project is adrift, and the pool has no entry of the project. -/
structure Stranded (project : Text) (hosted : HostedPool) : Prop where
  adrift : Adrift (.text project) hosted.connections hosted.service
  absent : hosted.pool.entries.lookup project = none

/-- Whoever asks for the project of a stranded app fails. -/
theorem Stranded.exists_failed (stranded : hosted.Stranded project) (settings : Settings)
    (files : FileTree) :
    ∃ failure, (hosted.get settings files project).1 = some (.failed failure) := by
  have gets := gets settings files project hosted
  generalize hosted.get settings files project = got at gets
  obtain ⟨ending, after⟩ := got
  dsimp only at gets ⊢
  cases gets with
  | joined entered => cases stranded.absent.symm.trans entered
  | failed _ _ _ => exact ⟨_, rfl⟩
  | connected _ connects _ => exact absurd rfl ((stranded.adrift.connect connects).2 ⟨_, rfl⟩)

/-- A stranded app stays so at every event. -/
theorem Stranded.apply (stranded : hosted.Stranded project) (event : Event) :
    (hosted.apply event).Stranded project := by
  obtain ⟨adrift, absent⟩ := stranded
  cases event with
  | get settings files asked =>
    have gets := gets settings files asked hosted
    rw [HostedPool.apply]
    generalize hosted.get settings files asked = got at gets
    obtain ⟨ending, after⟩ := got
    dsimp only at gets ⊢
    cases gets with
    | joined _ => exact ⟨adrift, absent⟩
    | failed _ connects same => exact ⟨(adrift.connect connects).1, same ▸ absent⟩
    | @connected connection _ _ _ connects same =>
      obtain ⟨⟨knows, single, live, unheld⟩, different⟩ := adrift.connect connects
      have other : project ≠ asked := fun equal => different ⟨_, rfl⟩ (congrArg Value.text equal)
      have holds : connection.app = some (.text asked) := by
        rcases connects.liveApps with ⟨_, none, _⟩ | ⟨_, none, _⟩ | ⟨made, _, _⟩
        · cases none
        · cases none
        · cases made
          rfl
      refine ⟨⟨knows, single, live, ?_⟩, ?_⟩
      · rw [held_append_cons, holds]
        refine fun member => (List.mem_append.mp member).elim unheld fun last => ?_
        exact different ⟨_, rfl⟩ (List.mem_singleton.mp last)
      · dsimp only
        rw [same, List.lookup_append, absent, List.lookup_cons, beq_false_of_ne other]
        rfl
  | closeNumber number =>
    exact ⟨adrift.shut (shuts number hosted.connections hosted.service), absent⟩
  | close =>
    obtain ⟨fewer, same⟩ := Pool.entries_shut shutNumber hosted.pool
      (hosted.connections, hosted.service)
    refine ⟨?_, ?_⟩
    · rw [HostedPool.apply, close]
      dsimp only
      rw [same]
      exact Pool.shutAll_keeps
        (fun state : List HostedConnection × HostingService =>
          Adrift (.text project) state.1 state.2)
        (fun number state adrift => adrift.shut (shuts number state.1 state.2)) _ adrift
    · refine List.lookup_eq_none_iff.mpr fun entry member => ?_
      exact List.lookup_eq_none_iff.mp absent entry (fewer.subset member)

theorem Stranded.run (stranded : hosted.Stranded project) (events : List Event) :
    (run events hosted).Stranded project := by
  induction events generalizing hosted with
  | nil => exact stranded
  | cons event rest inductionHypothesis => exact inductionHypothesis (stranded.apply event)

/-- What an event leaves behind is stranded, at a service that knows names. -/
theorem stranded_of_leaves {others : List Value} (knows : hosted.service.KnowsNames)
    (single : hosted.service.liveApps.Nodup)
    (balanced : Balanced others hosted.connections hosted.service) {event : Event}
    (left : .text project ∈ hosted.leaves event) : (hosted.apply event).Stranded project := by
  cases event with
  | get settings files asked =>
    have gets := gets settings files asked hosted
    rw [HostedPool.apply]
    rw [leaves] at left
    split at left
    · next leaves =>
      obtain rfl : project = asked := by simpa using left
      generalize hosted.get settings files project = got at gets
      obtain ⟨ending, after⟩ := got
      dsimp only at gets ⊢
      cases gets with
      | joined entered => cases leaves.1.symm.trans entered
      | failed absent connects same =>
        rcases connects.liveApps with ⟨_, _, none, _⟩ | ⟨_, _, _, more⟩ | ⟨none, _⟩
        · cases leaves.2.symm.trans none
        · obtain ⟨stillKnows, stillSingle⟩ := connects.apart knows single
          refine ⟨⟨stillKnows, stillSingle, ?_, fun holds => ?_⟩, same ▸ absent⟩
          · dsimp only
            rw [more]
            exact List.mem_append_right _ List.mem_cons_self
          · -- an app that a connection holds is live, so it would not have been started again
            have unheard := (List.nodup_append.mp (more ▸ stillSingle)).2.2 (.text project)
              (balanced.mem_iff.mpr (List.mem_append_right _ holds)) _ List.mem_cons_self
            exact unheard rfl
        · cases none
      | connected _ connects _ =>
        rcases connects.liveApps with ⟨_, none, _⟩ | ⟨_, none, _⟩ | ⟨_, none, _⟩
        · cases none
        · cases none
        · cases leaves.2.symm.trans none
    · cases left
  | closeNumber number => cases left
  | close => cases left

/-- The service knows names, and the names of its live apps are apart. -/
def Apart (service : HostingService) : Prop := service.KnowsNames ∧ service.liveApps.Nodup

theorem Shuts.apart {number : Nat} {connections later : List HostedConnection}
    {service after : HostingService} {outcome : Except Failure Unit}
    (shuts : Shuts number connections service outcome later after) (apart : Apart service) :
    Apart after := by
  cases shuts with
  | idle => exact apart
  | refused _ => exact apart
  | deleted _ _ _ => exact ⟨apart.1, apart.2.erase _⟩

theorem apart_apply (event : Event) (apart : Apart hosted.service) :
    Apart (hosted.apply event).service := by
  cases event with
  | get settings files asked =>
    have gets := gets settings files asked hosted
    rw [HostedPool.apply]
    generalize hosted.get settings files asked = got at gets
    obtain ⟨ending, after⟩ := got
    dsimp only at gets ⊢
    cases gets with
    | joined _ => exact apart
    | failed _ connects _ => exact connects.apart apart.1 apart.2
    | connected _ connects _ => exact connects.apart apart.1 apart.2
  | closeNumber number => exact (shuts number hosted.connections hosted.service).apart apart
  | close =>
    obtain ⟨_, same⟩ := Pool.entries_shut shutNumber hosted.pool
      (hosted.connections, hosted.service)
    rw [HostedPool.apply, close]
    dsimp only
    rw [same]
    exact Pool.shutAll_keeps
      (fun state : List HostedConnection × HostingService => Apart state.2)
      (fun number state => (shuts number state.1 state.2).apart) _ apart

theorem stranded_of_leftBehind {others : List Value} {events : List Event}
    (apart : Apart hosted.service)
    (balanced : Balanced others hosted.connections hosted.service)
    (left : .text project ∈ leftBehind events hosted) : (run events hosted).Stranded project := by
  induction events generalizing hosted others with
  | nil => cases left
  | cons event rest inductionHypothesis =>
    rcases List.mem_append.mp left with now | later
    · exact (stranded_of_leaves apart.1 apart.2 balanced now).run rest
    · exact inductionHypothesis (apart_apply event apart) (balanced_apply event balanced) later

end HostedPool

/-! ### The account -/

/-- What connecting to a project does to the live apps, and what closing the connection does. -/
structure HostedConnection.AppsAccount (settings : Settings) (files : FileTree) (project : Value)
    (service : HostingService) : Prop where
  /-- Where connecting fails, no app is live that was not live before, unless the client was
  refused. -/
  failed : ∀ failure, (connect settings files project service).1 = .error failure →
    (connect settings files project service).2.liveApps =
      if leavesApp settings files project service then service.liveApps ++ [project]
      else service.liveApps
  /-- Where connecting succeeds, one app more is live, and the connection holds it. -/
  connected : ∀ connection, (connect settings files project service).1 = .ok connection →
    (connect settings files project service).2.liveApps = service.liveApps ++ [project] ∧
      connection = ⟨some project⟩
  /-- Closed at least once, the connection asks once for its app to be deleted. If that is not
  refused, the live apps are those from before; otherwise the connection goes on to hold its app. -/
  closed : ∀ connection, (connect settings files project service).1 = .ok connection →
    ∀ times, let made := (connect settings files project service).2
      let closing := connection.closeTimes (times + 1) made
      closing.2.2.calls = made.calls ++ [.delete] ∧
        (closing.1 = .ok () → closing.2.1 = ⟨none⟩ ∧
          closing.2.2.liveApps.Perm service.liveApps) ∧
        ∀ failure, closing.1 = .error failure →
          closing.2.1 = connection ∧ closing.2.2.liveApps = made.liveApps

/-- What becomes of the apps of a service while events go on around a pool that connects to it. -/
structure HostedPool.AppsAccount (service : HostingService) (events : List Event) : Prop where
  /-- The live apps are those from before, those that connections hold, and those left behind. -/
  live : (run events (ofService service)).service.liveApps.Perm
    (service.liveApps ++ leftBehind events (ofService service) ++
      held (run events (ofService service)).connections)
  /-- Whoever asks for a project after a failure has the pool connect again. -/
  retries : ∀ settings files project failure,
    ((run events (ofService service)).get settings files project).1 = some (.failed failure) →
    ((run events (ofService service)).get settings files project).2.pool.entries.lookup project =
      none
  /-- A service that knows names never connects to a project again whose app was left behind. -/
  stuck : service.KnowsNames → service.liveApps.Nodup → ∀ project,
    .text project ∈ leftBehind events (ofService service) → ∀ later settings files, ∃ failure,
      ((run later (run events (ofService service))).get settings files project).1 =
        some (.failed failure)

theorem HostedConnection.appsAccount (settings : Settings) (files : FileTree) (project : Value)
    (service : HostingService) : AppsAccount settings files project service := by
  have apps := (connects settings files project service).liveApps
  generalize known : connect settings files project service = made at apps
  obtain ⟨outcome, after⟩ := made
  constructor <;> rw [known]
  case failed =>
    rintro failure ⟨⟩
    rcases apps with ⟨_, _, none, same⟩ | ⟨_, _, left, more⟩ | ⟨ok, _⟩
    · rw [none, same]
      rfl
    · rw [left, more]
      rfl
    · cases ok
  case connected =>
    rintro connection ⟨⟩
    rcases apps with ⟨_, error, _⟩ | ⟨_, error, _⟩ | ⟨ok, _, more⟩
    · cases error
    · cases error
    · cases ok
      exact ⟨more, rfl⟩
  case closed =>
    rintro connection ⟨⟩ times
    rcases apps with ⟨_, error, _⟩ | ⟨_, error, _⟩ | ⟨ok, _, more⟩
    · cases error
    · cases error
    cases ok
    dsimp only at more ⊢
    rw [closeTimes_succ]
    cases after.refuses .delete with
    | some failure => exact ⟨rfl, nofun, fun _ _ => ⟨rfl, rfl⟩⟩
    | none =>
      have erased := (List.perm_append_singleton project service.liveApps).erase project
      rw [List.erase_cons_head, ← more] at erased
      exact ⟨rfl, fun _ => ⟨rfl, erased⟩, nofun⟩

theorem HostedPool.appsAccount (service : HostingService) (events : List Event) :
    AppsAccount service events := by
  have balanced : Balanced service.liveApps (ofService service).connections
      (ofService service).service := by
    rw [Balanced, ofService, held, List.filterMap_nil, List.append_nil]
  constructor
  case live => exact balanced_run events balanced
  case retries =>
    intro settings files project failure failed
    have sound : (run events (ofService service)).pool.Sound := sound_run events .empty
    exact absent_of_failed sound failed
  case stuck =>
    intro knows single project left later settings files
    have stranded := stranded_of_leftBehind ⟨knows, single⟩ balanced left
    exact (stranded.run later).exists_failed settings files

/-- Connecting that fails leaves no app behind, but for one that was started before the client was
refused; a pool accounts for every live app in that way, and has no remedy for those left behind. -/
theorem accountsForApps (settings : Settings) (files : FileTree) (project : Value)
    (service : HostingService) (events : List HostedPool.Event) :
    HostedConnection.AppsAccount settings files project service ∧
      HostedPool.AppsAccount service events :=
  ⟨HostedConnection.appsAccount settings files project service,
    HostedPool.appsAccount service events⟩

/-- Credentials that say nothing. -/
def blankFiles : FileTree :=
  .ofFiles [] [([("projects" : Text), "alpha.json"], .bytes "\x7b\x7d".toUTF8.data.toList)]

/-- A service that knows names, and refuses a client once. -/
def strictService : HostingService where
  calls := []
  liveApps := []
  refusal calls apps call :=
    match call with
    | .start _ name =>
      if name ∈ apps then some (.foreign .refused "an app of this name exists") else none
    | .client => if .client ∈ calls then none else some (.foreign .refused "no client")
    | .certificate _ | .delete => none

theorem knowsNames_strictService : strictService.KnowsNames := by
  intro calls apps options name live
  simp [strictService, live]

/-- Somebody asks for a project. -/
def askedOnce : List HostedPool.Event := [.get (.ofEnvironment []) blankFiles "alpha"]

/-- A service that refuses a client once has an app left behind, and though it would not refuse
another client, nobody gets the connection any more. -/
theorem accountsForApps_strictService :
    strictService.KnowsNames ∧ strictService.liveApps.Nodup ∧
      .text "alpha" ∈ HostedPool.leftBehind askedOnce (.ofService strictService) ∧
      ∀ later settings files, ∃ failure,
        ((HostedPool.run later (HostedPool.run askedOnce (.ofService strictService))).get settings
          files "alpha").1 = some (.failed failure) := by
  have left : .text "alpha" ∈ HostedPool.leftBehind askedOnce (.ofService strictService) := by
    decide +kernel
  exact ⟨knowsNames_strictService, List.nodup_nil, left,
    (accountsForApps (.ofEnvironment []) blankFiles (.text "alpha") strictService
      askedOnce).2.stuck knowsNames_strictService List.nodup_nil "alpha" left⟩

/-- Connecting fails for want of a client, and the app that it started is live, with no call to
delete it. -/
theorem exists_appLeftBehind :
    let made := HostedConnection.connect (.ofEnvironment []) blankFiles (.text "alpha")
      (.refusing (some .client) (.foreign .refused "no client"))
    (∃ failure, made.1 = .error failure) ∧ made.2.liveApps = [.text "alpha"] ∧
      ServiceCall.delete ∉ made.2.calls := by
  intro made
  let failure : Failure := .connectionFailed (.text "alpha") (.reported "no client")
    (.foreign .refused "no client")
  have known : made.1 = .error failure ∧ made.2.liveApps = [.text "alpha"] ∧
      ServiceCall.delete ∉ made.2.calls := by
    decide +kernel
  exact ⟨⟨failure, known.1⟩, known.2⟩

end DocQuery
