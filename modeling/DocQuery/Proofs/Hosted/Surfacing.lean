/-
This file says what becomes of the failures of the client of a hosted store.

The client can refuse a call, and it can give documents that cannot be looked at. A refused call is
reported wherever it was made: on a walk, by a fetch or by the start of a watch. What comes up while
a list is converted that a watch is told is reported as a bad snapshot, and the listener of the
watch hears of nothing else, whatever goes on around it. A fetch converts outside of what it
guards. It hands on what comes up there as it is, and that is no failure of a store.
-/

import DocQuery.Proofs.Hosted.Calling
import DocQuery.Proofs.Hosted.Hearing

namespace DocQuery

/-! ### Outcomes -/

theorem map_eq_error_iff {ε α β : Type} {outcome : Except ε α} {change : α → β} {failure : ε} :
    outcome.map change = .error failure ↔ outcome = .error failure := by
  cases outcome with
  | error other => exact ⟨fun same => by cases same; rfl, fun same => by cases same; rfl⟩
  | ok content => exact ⟨nofun, nofun⟩

theorem mapError_eq_error_iff {ε δ α : Type} {outcome : Except ε α} {change : ε → δ}
    {failure : δ} :
    outcome.mapError change = .error failure ↔
      ∃ cause, outcome = .error cause ∧ failure = change cause := by
  cases outcome with
  | error other =>
    exact ⟨fun same => ⟨other, rfl, by cases same; rfl⟩, fun ⟨_, same, known⟩ => by
      cases same
      rw [known]
      rfl⟩
  | ok content => exact ⟨nofun, nofun⟩

/-! ### Looking at documents -/

namespace NativeView

/-- The look at a document that fails while it is converted. The data are looked at last, and only
if the document exists. -/
inductive Breaks (view : NativeView) : Failure → Prop
  | present {cause : Failure} : view.present = .error cause → Breaks view cause
  | path {there : Bool} {cause : Failure} : view.present = .ok there → view.path = .error cause →
      Breaks view cause
  | data {path : Text} {cause : Failure} : view.present = .ok true → view.path = .ok path →
      view.data = .error cause → Breaks view cause

/-- A look fails at a document that is left out if it does not exist. -/
def BreaksUnlessMissing (view : NativeView) (cause : Failure) : Prop :=
  view.Breaks cause ∧ view.present ≠ .ok false

/-- The failure at which the conversion of documents in order stops. -/
inductive StopsAt (breaks : NativeView → Failure → Prop) : List NativeView → Failure → Prop
  | here {view : NativeView} {rest : List NativeView} {cause : Failure} : breaks view cause →
      StopsAt breaks (view :: rest) cause
  | later {view : NativeView} {rest : List NativeView} {cause : Failure} :
      (∀ other, ¬ breaks view other) → StopsAt breaks rest cause →
      StopsAt breaks (view :: rest) cause

variable {view : NativeView} {views : List NativeView} {cause failure : Failure}

theorem snapshot_eq_error_iff : view.snapshot = .error cause ↔ view.Breaks cause := by
  constructor
  · intro failed
    rw [snapshot] at failed
    cases present : view.present with
    | error other =>
      rw [present] at failed
      cases failed
      exact .present present
    | ok there =>
      cases path : view.path with
      | error other =>
        rw [present, path] at failed
        cases failed
        exact .path present path
      | ok found =>
        rw [present, path] at failed
        cases there with
        | false => cases failed
        | true => exact .data present path (map_eq_error_iff.mp failed)
  · intro breaks
    cases breaks with
    | present present => rw [snapshot, present]
    | path present path => rw [snapshot, present, path]
    | data present path data =>
      rw [snapshot, present, path, data]
      rfl

theorem snapshot?_eq_error_iff :
    view.snapshot? = .error cause ↔ view.BreaksUnlessMissing cause := by
  rw [BreaksUnlessMissing, snapshot?]
  cases present : view.present with
  | error other =>
    constructor
    · rintro ⟨⟩
      exact ⟨.present present, fun same => by cases same⟩
    · rintro ⟨breaks, _⟩
      have failed := snapshot_eq_error_iff.mpr breaks
      rw [snapshot, present] at failed
      cases failed
      rfl
  | ok there =>
    cases there with
    | false =>
      constructor
      · rintro ⟨⟩
      · rintro ⟨_, there⟩
        exact absurd rfl there
    | true =>
      have there : (.ok true : Except Failure Bool) ≠ .ok false := by simp
      rw [← snapshot_eq_error_iff, and_iff_left there]
      exact map_eq_error_iff

section

variable {convert : NativeView → Except Failure (Option DocumentSnapshot)}
  {breaks : NativeView → Failure → Prop}
  (known : ∀ view cause, convert view = .error cause ↔ breaks view cause)

include known

theorem StopsAt.gather (stops : StopsAt breaks views cause) :
    gather convert views = .error cause.gathered := by
  induction stops with
  | @here view rest cause broken => rw [NativeView.gather, (known view cause).mpr broken]
  | @later view rest cause unbroken _ inductionHypothesis =>
    cases converted : convert view with
    | error other => exact absurd ((known view other).mp converted) (unbroken other)
    | ok made => rw [NativeView.gather, converted, inductionHypothesis]

theorem exists_stopsAt (failed : gather convert views = .error failure) :
    ∃ cause, StopsAt breaks views cause ∧ failure = cause.gathered := by
  induction views with
  | nil => cases failed
  | cons view rest inductionHypothesis =>
    rw [gather] at failed
    cases converted : convert view with
    | error cause =>
      rw [converted] at failed
      cases failed
      exact ⟨cause, .here ((known view cause).mp converted), rfl⟩
    | ok made =>
      have unbroken (other : Failure) : ¬ breaks view other := fun broken => by
        cases converted.symm.trans ((known view other).mpr broken)
      rw [converted] at failed
      cases gathered : gather convert rest with
      | error other =>
        rw [gathered] at failed
        cases failed
        obtain ⟨cause, stops, same⟩ := inductionHypothesis gathered
        exact ⟨cause, .later unbroken stops, same⟩
      | ok others =>
        rw [gathered] at failed
        cases failed

/-- The conversion of a list fails as that of its first document does that fails. -/
theorem gather_eq_error_iff : gather convert views = .error failure ↔
    ∃ cause, StopsAt breaks views cause ∧ failure = cause.gathered := by
  refine ⟨exists_stopsAt known, ?_⟩
  rintro ⟨cause, stops, rfl⟩
  exact stops.gather known

end

end NativeView

namespace HostedReference

variable {reference : HostedReference} {client : NativeClient} {cause failure : Failure}

/-! ### Conversions -/

/-- What comes up while a fetched answer is converted. -/
inductive Spoils (reference : HostedReference) : Fetched NativeView → Failure → Prop
  | document {view : NativeView} {cause : Failure} : reference.isDocument = true →
      view.Breaks cause → Spoils reference (.document view) cause
  | documents {views : List NativeView} {cause : Failure} : reference.isDocument = false →
      NativeView.StopsAt NativeView.Breaks views cause →
      Spoils reference (.documents views) cause.gathered
  | notDocument {answer : Fetched NativeView} : reference.isDocument = true →
      (∀ view, answer ≠ .document view) →
      Spoils reference answer (.foreign .unsupported "not a document")
  | notDocuments {answer : Fetched NativeView} : reference.isDocument = false →
      (∀ views, answer ≠ .documents views) →
      Spoils reference answer (.foreign .unsuitable "not a list of documents")

/-- What comes up while a list is converted that a watch is told. -/
inductive SpoilsWatch (reference : HostedReference) : List NativeView → Failure → Prop
  | document {view : NativeView} {rest : List NativeView} {cause : Failure} :
      reference.isDocument = true → view.Breaks cause → SpoilsWatch reference (view :: rest) cause
  | documents {views : List NativeView} {cause : Failure} : reference.isDocument = false →
      NativeView.StopsAt NativeView.BreaksUnlessMissing views cause →
      SpoilsWatch reference views cause.gathered

theorem snapshots_eq_error_iff {views : List NativeView} :
    NativeView.snapshots views = .error cause ↔
      ∃ broken, NativeView.StopsAt NativeView.Breaks views broken ∧ cause = broken.gathered :=
  NativeView.gather_eq_error_iff fun _ _ =>
    map_eq_error_iff.trans NativeView.snapshot_eq_error_iff

theorem existing_eq_error_iff {views : List NativeView} :
    NativeView.existing views = .error cause ↔
      ∃ broken, NativeView.StopsAt NativeView.BreaksUnlessMissing views broken ∧
        cause = broken.gathered :=
  NativeView.gather_eq_error_iff fun _ _ => NativeView.snapshot?_eq_error_iff

theorem spoils_of_read {answer : Fetched NativeView} (failed : reference.read answer = .error cause) :
    reference.Spoils answer cause := by
  rw [read.eq_def] at failed
  cases isDocument : reference.isDocument with
  | true =>
    rw [if_pos isDocument] at failed
    cases answer with
    | document view =>
      exact .document isDocument (NativeView.snapshot_eq_error_iff.mp (map_eq_error_iff.mp failed))
    | nothing =>
      cases failed
      exact .notDocument isDocument fun _ same => by cases same
    | documents views =>
      cases failed
      exact .notDocument isDocument fun _ same => by cases same
  | false =>
    rw [if_neg (ne_true_of_eq_false isDocument)] at failed
    cases answer with
    | documents views =>
      obtain ⟨broken, stops, rfl⟩ := snapshots_eq_error_iff.mp (map_eq_error_iff.mp failed)
      exact .documents isDocument stops
    | nothing =>
      cases failed
      exact .notDocuments isDocument fun _ same => by cases same
    | document view =>
      cases failed
      exact .notDocuments isDocument fun _ same => by cases same

theorem Spoils.read {answer : Fetched NativeView} (spoils : reference.Spoils answer cause) :
    reference.read answer = .error cause := by
  rw [read.eq_def]
  cases spoils with
  | document isDocument breaks =>
    rw [if_pos isDocument]
    exact map_eq_error_iff.mpr (NativeView.snapshot_eq_error_iff.mpr breaks)
  | documents isCollection stops =>
    rw [if_neg (ne_true_of_eq_false isCollection)]
    exact map_eq_error_iff.mpr (snapshots_eq_error_iff.mpr ⟨_, stops, rfl⟩)
  | notDocument isDocument other =>
    rw [if_pos isDocument]
    cases answer with
    | document view => exact absurd rfl (other view)
    | nothing => rfl
    | documents views => rfl
  | notDocuments isCollection other =>
    rw [if_neg (ne_true_of_eq_false isCollection)]
    cases answer with
    | documents views => exact absurd rfl (other views)
    | nothing => rfl
    | document view => rfl

/-- A fetched answer cannot be converted exactly if something comes up on the way. -/
theorem read_eq_error_iff {answer : Fetched NativeView} :
    reference.read answer = .error cause ↔ reference.Spoils answer cause :=
  ⟨spoils_of_read, Spoils.read⟩

theorem convert_eq_error_iff {views : List NativeView} :
    reference.convert views = .error cause ↔ reference.SpoilsWatch views cause := by
  rw [convert.eq_def]
  cases isDocument : reference.isDocument with
  | true =>
    rw [if_pos rfl]
    constructor
    · intro failed
      cases views with
      | nil => cases failed
      | cons view rest =>
        exact .document isDocument (NativeView.snapshot_eq_error_iff.mp (map_eq_error_iff.mp failed))
    · intro spoils
      cases spoils with
      | document _ breaks =>
        exact map_eq_error_iff.mpr (NativeView.snapshot_eq_error_iff.mpr breaks)
      | documents collection _ => cases isDocument.symm.trans collection
  | false =>
    rw [if_neg Bool.false_ne_true, map_eq_error_iff, existing_eq_error_iff]
    constructor
    · rintro ⟨broken, stops, rfl⟩
      exact .documents isDocument stops
    · intro spoils
      cases spoils with
      | document known _ => cases isDocument.symm.trans known
      | documents _ stops => exact ⟨_, stops, rfl⟩

/-- A watch is told of a failure exactly if its list cannot be converted, and then of a bad
snapshot. -/
theorem toldOf_eq_error_iff {views : List NativeView} :
    reference.toldOf views = .error failure ↔
      ∃ cause, reference.SpoilsWatch views cause ∧ failure = .badSnapshot reference.path cause := by
  rw [toldOf, mapError_eq_error_iff]
  exact exists_congr fun cause => and_congr_left fun _ => convert_eq_error_iff

/-! ### Fetches and starts of watches -/

/-- The call by which a reference is fetched. -/
def getCall (reference : HostedReference) : NativeCall := ⟨reference.handle, "get", []⟩

/-- The ways in which a fetch fails. -/
inductive FetchFails (reference : HostedReference) (answer : Fetched NativeView)
    (client : NativeClient) : Failure → Prop
  | root : reference.kind = .root → FetchFails reference answer client (.store .rootNotReadable none)
  | refused {refusal : Failure} : reference.kind ≠ .root →
      client.refuses reference.getCall = some refusal → isServiceFailure refusal = true →
      FetchFails reference answer client (.operationFailed "get" reference.path refusal)
  /-- The call fails, but not by the service. -/
  | raised {refusal : Failure} : reference.kind ≠ .root →
      client.refuses reference.getCall = some refusal → isServiceFailure refusal = false →
      FetchFails reference answer client refusal.handedOver
  /-- What came up in the conversion is handed on. -/
  | spoiled {cause : Failure} : reference.kind ≠ .root →
      client.refuses reference.getCall = none → reference.Spoils answer cause →
      FetchFails reference answer client cause.awaited

theorem fetchViews_of_refused {refusal : Failure} (below : reference.kind ≠ .root)
    (refused : client.refuses reference.getCall = some refusal) (answer : Fetched NativeView) :
    reference.fetchViews answer client =
      (.error (if isServiceFailure refusal then .operationFailed "get" reference.path refusal
        else refusal.handedOver), client.called [reference.getCall]) := by
  rw [fetchViews, if_neg below, ← getCall, NativeClient.invoke_of_refused refused]

theorem fetchViews_of_accepted (below : reference.kind ≠ .root)
    (accepted : client.refuses reference.getCall = none) (answer : Fetched NativeView) :
    reference.fetchViews answer client =
      ((reference.read answer).mapError Failure.awaited, client.called [reference.getCall]) := by
  rw [fetchViews, if_neg below, ← getCall, NativeClient.invoke_of_accepted accepted]

theorem FetchFails.fetchViews {answer : Fetched NativeView}
    (fails : reference.FetchFails answer client failure) :
    (reference.fetchViews answer client).1 = .error failure := by
  cases fails with
  | root root => rw [HostedReference.fetchViews, if_pos root]
  | refused below refuses service => rw [fetchViews_of_refused below refuses, if_pos service]
  | raised below refuses other =>
    rw [fetchViews_of_refused below refuses, if_neg (ne_true_of_eq_false other)]
  | spoiled below accepts spoils =>
    rw [fetchViews_of_accepted below accepts, spoils.read]
    exact mapError_eq_error_iff.mpr ⟨_, rfl, rfl⟩

theorem fetchViews_eq_error_iff {answer : Fetched NativeView} :
    (reference.fetchViews answer client).1 = .error failure ↔
      reference.FetchFails answer client failure := by
  refine ⟨fun failed => ?_, FetchFails.fetchViews⟩
  by_cases root : reference.kind = .root
  · rw [fetchViews, if_pos root] at failed
    cases failed
    exact .root root
  · cases refuses : client.refuses reference.getCall with
    | some refusal =>
      rw [fetchViews_of_refused root refuses] at failed
      cases failed
      split
      · next service => exact .refused root refuses service
      · next other => exact .raised root refuses (eq_false_of_ne_true other)
    | none =>
      rw [fetchViews_of_accepted root refuses] at failed
      obtain ⟨cause, spoilt, rfl⟩ := mapError_eq_error_iff.mp failed
      exact .spoiled root refuses (read_eq_error_iff.mp spoilt)

/-- What a fetch hands on does not report what came up. -/
theorem not_reports_awaited (cause : Failure) (path : Value) :
    ¬ cause.awaited.Reports path cause := by
  rw [Failure.awaited, Failure.unlessEnd.eq_def]
  split
  · exact Failure.not_reports_foreign _ _ path _
  · exact cause.not_reports_self path

/-- A fetch calls the client once at most. -/
theorem eq_getCall_of_refused {answer : Fetched NativeView} {call : NativeCall} {refusal : Failure}
    (refused : client.Refused (reference.fetchViews answer client).2 call refusal) :
    reference.kind ≠ .root ∧ call = reference.getCall ∧
      client.refuses reference.getCall = some refusal := by
  by_cases root : reference.kind = .root
  · rw [fetchViews, if_pos root] at refused
    exact absurd refused (client.not_refused_self call refusal)
  · have called : (reference.fetchViews answer client).2 = client.called [reference.getCall] := by
      cases refuses : client.refuses reference.getCall with
      | some other => rw [fetchViews_of_refused root refuses]
      | none => rw [fetchViews_of_accepted root refuses]
    rw [called, NativeClient.refused_call_iff] at refused
    exact ⟨root, refused⟩

/-- The call by which a watch is started. -/
def watchCall (reference : HostedReference) : NativeCall := ⟨reference.handle, "on_snapshot", []⟩

/-- A start of a watch that the client refuses is reported. -/
theorem exists_reports_of_watch {call : NativeCall} {refusal : Failure}
    (refused : client.Refused (reference.watch client).2 call refusal)
    (answer : isAnswer refusal = true) :
    ∃ failure, (reference.watch client).1 = .error failure ∧
      failure.Reports reference.path refusal := by
  rw [watch] at refused ⊢
  split at refused
  · exact absurd refused (client.not_refused_self call refusal)
  · next below =>
    rw [if_neg below]
    cases refuses : client.refuses reference.watchCall with
    | some other =>
      have ended := request_of_refused refuses (.ok reference)
      rw [ended] at refused ⊢
      obtain ⟨_, same⟩ := NativeClient.refused_call_iff.mp refused
      obtain rfl := Option.some.inj (refuses.symm.trans same)
      exact ⟨_, rfl, reports_refusalOf answer _ reference⟩
    | none =>
      rw [request_of_accepted refuses (.ok reference)] at refused
      obtain ⟨_, same⟩ := NativeClient.refused_call_iff.mp refused
      cases refuses.symm.trans same

/-- A fetch that the service refuses is reported. -/
theorem exists_reports_of_fetch {answer : Fetched NativeView} {call : NativeCall}
    {refusal : Failure} (refused : client.Refused (reference.fetchViews answer client).2 call refusal)
    (service : isServiceFailure refusal = true) :
    ∃ failure, (reference.fetchViews answer client).1 = .error failure ∧
      failure.Reports reference.path refusal := by
  obtain ⟨below, _, same⟩ := eq_getCall_of_refused refused
  exact ⟨_, fetchViews_eq_error_iff.mpr (.refused below same service),
    Failure.reports_operationFailed "get" reference.path refusal⟩

/-! ### The account -/

/-- What becomes of the failures of the client at a reference. -/
structure Surfaces (reference : HostedReference) : Prop where
  /-- A refused call ends a walk, and is reported at the path of the reference it was made on, if
  the refusal counts as an answer of the store. Every failure of the service does. -/
  walked : ∀ calls client call refusal,
    client.Refused (callAll calls reference client).2 call refusal → isAnswer refusal = true →
    ∃ stood between failure, Leads reference client stood between ∧
      between.refuses call = some refusal ∧
      (callAll calls reference client).1 = .error failure ∧ failure.Reports stood.path refusal
  /-- A fetch that the service refuses is reported. -/
  fetched : ∀ answer client call refusal,
    client.Refused (reference.fetchViews answer client).2 call refusal →
    isServiceFailure refusal = true →
    ∃ failure, (reference.fetchViews answer client).1 = .error failure ∧
      failure.Reports reference.path refusal
  watched : ∀ client call refusal, client.Refused (reference.watch client).2 call refusal →
    isAnswer refusal = true →
    ∃ failure, (reference.watch client).1 = .error failure ∧ failure.Reports reference.path refusal
  /-- A watch is told of a failure exactly if something comes up while its list is converted, and
  then of a report of that. -/
  told : ∀ views failure, reference.toldOf views = .error failure ↔
    ∃ cause, reference.SpoilsWatch views cause ∧ failure = .badSnapshot reference.path cause ∧
      failure.Reports reference.path cause
  /-- What comes up while the answer of a fetch is converted is handed on, and is no report. -/
  spoiled : ∀ answer client cause, reference.kind ≠ .root →
    client.refuses reference.getCall = none → reference.Spoils answer cause →
    (reference.fetchViews answer client).1 = .error cause.awaited ∧
      ¬ cause.awaited.Reports reference.path cause
  /-- A fetch fails in no other way. -/
  exhaustive : ∀ answer client failure, (reference.fetchViews answer client).1 = .error failure →
    reference.FetchFails answer client failure

theorem surfaces (reference : HostedReference) : reference.Surfaces where
  walked calls client call refusal refused answer := by
    obtain ⟨stood, between, _, leads, _, same, failure, failed, reports⟩ :=
      (ends_callAll calls reference client).exists_reports refused
    exact ⟨stood, between, failure, leads, same, failed, reports answer⟩
  fetched _ _ _ _ := exists_reports_of_fetch
  watched _ _ _ := exists_reports_of_watch
  told views failure := by
    rw [toldOf_eq_error_iff]
    refine exists_congr fun cause => and_congr_right fun _ => ⟨?_, And.left⟩
    rintro rfl
    exact ⟨rfl, Failure.reports_badSnapshot reference.path cause⟩
  spoiled _ _ cause below accepted spoils :=
    ⟨fetchViews_eq_error_iff.mpr (.spoiled below accepted spoils),
      not_reports_awaited cause reference.path⟩
  exhaustive _ _ _ := fetchViews_eq_error_iff.mp

/-- What becomes of the refusals of a client while a query is built. -/
structure BuildSurfaces (mode : BuildMode) (components : List Component) (client : NativeClient) :
    Prop where
  reported : ∀ call refusal,
    client.Refused (build mode components client).state call refusal → isAnswer refusal = true →
    ∃ stood between failure, Leads root client stood between ∧
      between.refuses call = some refusal ∧
      (build mode components client).outcome = .error failure ∧
      failure.Reports stood.path refusal
  /-- No failure of the service itself comes through. -/
  own : ∀ failure, (build mode components client).outcome = .error failure →
    isServiceFailure failure = false

theorem buildSurfaces (mode : BuildMode) (components : List Component) (client : NativeClient) :
    BuildSurfaces mode components client where
  reported call refusal refused answer := by
    obtain ⟨stood, between, _, leads, _, same, failure, failed, reports⟩ :=
      (ends_build mode components client).exists_reports refused
    exact ⟨stood, between, failure, leads, same, map_eq_error_iff.mp failed, reports answer⟩
  own failure failed := by
    have ends := ends_build mode components client
    rw [map_eq_error_iff.mpr failed] at ends
    exact ends.not_isServiceFailure

end HostedReference

namespace HostedWorld

/-- What a listener on a reference hears of the failures of conversions. -/
structure HearsReports (reference : HostedReference) (listener : Nat)
    (lists : List (List NativeDocument)) (hosted : HostedWorld) : Prop where
  /-- Each failure that it has heard is the report of what came up in a list that its watch was
  told. -/
  sound : ∀ failure, .failure failure ∈ hosted.world.toldTo listener →
    ∃ documents ∈ lists, ∃ cause,
      reference.SpoilsWatch (documents.map NativeDocument.view) cause ∧
      failure = .badSnapshot reference.path cause
  /-- After a turn of the loop it has heard the report of all that came up. -/
  complete : ∀ documents ∈ lists, ∀ cause,
    reference.SpoilsWatch (documents.map NativeDocument.view) cause →
    .failure (.badSnapshot reference.path cause) ∈ hosted.turn.world.toldTo listener

theorem Hearing.hearsReports {reference : HostedReference} {listener watch : Nat}
    {lists : List (List NativeDocument)} {hosted : HostedWorld}
    (hearing : Hearing reference listener watch lists hosted) :
    HearsReports reference listener lists hosted where
  sound failure member := by
    obtain ⟨documents, listed, heard⟩ :=
      List.mem_filterMap.mp (hearing.ordered.subset member)
    exact ⟨documents, listed,
      HostedReference.toldOf_eq_error_iff.mp (Update.heard?_eq_some_failure_iff.mp heard)⟩
  complete documents listed cause spoils := by
    rw [hearing.turn]
    exact List.mem_filterMap.mpr ⟨documents, listed, Update.heard?_eq_some_failure_iff.mpr
      (HostedReference.toldOf_eq_error_iff.mpr ⟨cause, spoils, rfl⟩)⟩

end HostedWorld

/-- Failures of the client are reported with the path of the reference and with themselves as the
source, on walks and while queries are built, by fetches and by watches; a listener hears of no
other failures. But what comes up while the answer of a fetch is converted is handed on as it is. -/
theorem reportsClientFailures (reference : HostedReference) (mode : BuildMode)
    (components : List Component) (client : NativeClient) (hosted : HostedWorld) :
    reference.Surfaces ∧ HostedReference.BuildSurfaces mode components client ∧
      ∀ looped before, hosted = (HostedWorld.start looped mode).runAll before →
      ∀ name reactions watch reached steps,
        hosted.listen name reactions reference = (.ok watch, reached) →
        HostedWorld.HearsReports reference hosted.world.recipients.length
          (HostedWorld.firedAt watch steps) (reached.runAll steps) := by
  refine ⟨reference.surfaces, HostedReference.buildSurfaces mode components client, ?_⟩
  rintro looped before rfl name reactions watch reached steps listened
  exact (HostedWorld.hearing_runAll listened steps).hearsReports

/-- A collection of a hosted store. -/
def hostedUsers : HostedReference := ⟨"client/users", .collection, "users"⟩

/-- A document whose data cannot be looked at. -/
def corruptUser : NativeDocument := ⟨"users/a", .map [], some (.foreign .running "corrupt")⟩

theorem spoils_corruptUser :
    hostedUsers.Spoils (.documents [corruptUser.view]) (.foreign .running "corrupt") :=
  HostedReference.read_eq_error_iff.mp rfl

/-- A fetch of a collection with such a document fails with what came up, and not with a failure of
the store. -/
theorem exists_unreported :
    ∃ cause, hostedUsers.Spoils (.documents [corruptUser.view]) cause ∧
      (hostedUsers.fetch (.documents [corruptUser]) .willing).1 = .error cause ∧
      cause.isStore = false :=
  ⟨_, spoils_corruptUser, by decide, by decide⟩

/-- A listener on the same collection, in an event loop. -/
def usersHeard : HostedWorld := ((HostedWorld.start true .strict).listen "l" [] hostedUsers).2

/-- The listener hears of the same document as a bad snapshot. -/
theorem reportsClientFailures_corruptUser :
    (HostedWorld.start true .strict).listen "l" [] hostedUsers = (.ok 0, usersHeard) ∧
      .failure (.badSnapshot hostedUsers.path (.foreign .running "corrupt")) ∈
        (usersHeard.runAll [.fire 0 [corruptUser]]).turn.world.toldTo 0 := by
  have spoils : hostedUsers.SpoilsWatch ([corruptUser].map NativeDocument.view)
      (.foreign .running "corrupt") := HostedReference.convert_eq_error_iff.mp rfl
  have reports := (reportsClientFailures hostedUsers .strict [] .willing (.start true .strict)).2.2
    true [] rfl "l" [] 0 usersHeard [.fire 0 [corruptUser]] rfl
  exact ⟨rfl, reports.complete [corruptUser] List.mem_cons_self _ spoils⟩

end DocQuery
