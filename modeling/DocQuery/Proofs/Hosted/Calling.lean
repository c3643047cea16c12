/-
This file says how calls to the client of a hosted store end.

A walk over references asks the client for one thing at a time, on the handle of the reference that
it stands on. The first call that the client refuses ends the walk. A refusal that counts as an
answer of the store is then reported at the path of that reference, and any other comes through. A
walk that fails in another way fails without the client, with a failure of the library's own.

A filter is made before the client is asked, and is refused as if the client had refused the call.

So whatever the client refuses on a walk decides how the walk ends, and no failure of the service
itself ever ends one.
-/

import DocQuery.Hosted.Reading
import DocQuery.Proofs.Building.Agreement

namespace DocQuery

/-! ### Reports -/

namespace Failure

/-- A failure that reports a cause at a path: it is a store's, it is about the path, and it was made
from the cause. -/
structure Reports (failure : Failure) (path : Value) (cause : Failure) : Prop where
  isStore : failure.isStore = true
  path : failure.path? = some (some path)
  source : failure.source? = some cause

theorem reports_operationFailed (operation : String) (path : Value) (cause : Failure) :
    (operationFailed operation path cause).Reports path cause := ⟨rfl, rfl, rfl⟩

theorem reports_badSnapshot (path : Value) (cause : Failure) :
    (badSnapshot path cause).Reports path cause := ⟨rfl, rfl, rfl⟩

/-- No failure was made from itself. -/
theorem not_reports_self (failure : Failure) (path : Value) : ¬ failure.Reports path failure := by
  rintro ⟨_, _, source⟩
  cases failure <;> cases source

/-- A failure that is foreign reports nothing. -/
theorem not_reports_foreign (kind : ForeignKind) (message : Text) (path : Value) (cause : Failure) :
    ¬ (foreign kind message).Reports path cause := by
  rintro ⟨_, _, source⟩
  cases source

/-- A failure that comes up without the client: one of the library's own, or that a value is not
written. -/
def IsLocal (failure : Failure) : Prop :=
  failure.isOwn = true ∨ ∃ fault : TextFault, failure = fault.failure

theorem isLocal_quoting {failure : Failure} (own : failure.isOwn = true) (levels : Nat)
    (value : Value) : (quoting levels value failure).IsLocal := by
  rw [quoting]
  cases value.textFault? levels with
  | none => exact .inl own
  | some fault => exact .inr ⟨fault, rfl⟩

end Failure

theorem Value.isLocal_of_toText {levels : Nat} {value : Value} {failure : Failure}
    (unwritten : value.toText levels = .error failure) : failure.IsLocal := by
  rw [Value.toText] at unwritten
  split at unwritten <;> cases unwritten
  exact .inr ⟨_, rfl⟩

/-! ### Refusals -/

namespace NativeClient

variable {client after : NativeClient}

/-- Why a client refuses a call, if it does. -/
def refuses (call : NativeCall) (client : NativeClient) : Option Failure :=
  client.refusal client.calls call

theorem invoke_of_refused {call : NativeCall} {failure : Failure}
    (refused : client.refuses call = some failure) :
    client.invoke call = (.error failure, client.called [call]) := by
  rw [refuses] at refused
  rw [invoke, refused]
  rfl

theorem invoke_of_accepted {call : NativeCall} (accepted : client.refuses call = none) :
    client.invoke call = (.ok (), client.called [call]) := by
  rw [refuses] at accepted
  rw [invoke, accepted]
  rfl

/-- A client got further calls until it became another one, and refused one of them. -/
def Refused (client after : NativeClient) (call : NativeCall) (failure : Failure) : Prop :=
  ∃ before rest, after.calls = client.calls ++ (before ++ call :: rest) ∧
    client.refusal (client.calls ++ before) call = some failure

theorem not_refused_self (call : NativeCall) (failure : Failure) :
    ¬ client.Refused client call failure := by
  rintro ⟨before, rest, calls, _⟩
  have none : before ++ call :: rest = [] := List.self_eq_append_right.mp calls
  cases before <;> cases none

/-- Of further calls the last was refused, or one before it. -/
theorem refused_called_iff {calls : List NativeCall} {last call : NativeCall} {failure : Failure} :
    client.Refused ((client.called calls).called [last]) call failure ↔
      client.Refused (client.called calls) call failure ∨
        call = last ∧ (client.called calls).refuses last = some failure := by
  constructor
  · rintro ⟨before, rest, made, refused⟩
    have split : calls ++ [last] = before ++ call :: rest :=
      List.append_cancel_left ((List.append_assoc ..).symm.trans made)
    rcases List.eq_nil_or_concat rest with rfl | ⟨rest, final, rfl⟩
    · obtain ⟨rfl, same⟩ := List.append_inj' split rfl
      cases same
      exact .inr ⟨rfl, refused⟩
    · rw [List.concat_eq_append, ← List.cons_append, ← List.append_assoc] at split
      obtain ⟨rfl, _⟩ := List.append_inj' split rfl
      exact .inl ⟨before, rest, rfl, refused⟩
  · rintro (⟨before, rest, made, refused⟩ | ⟨rfl, refused⟩)
    · refine ⟨before, rest ++ [last], ?_, refused⟩
      rw [called, made, List.append_assoc, List.append_assoc]
      rfl
    · exact ⟨calls, [], List.append_assoc .., refused⟩

/-- A further call that is accepted leaves no call refused. -/
theorem not_refused_called {calls : List NativeCall} {last : NativeCall}
    (unrefused : ∀ call failure, ¬ client.Refused (client.called calls) call failure)
    (accepted : (client.called calls).refuses last = none) (call : NativeCall) (failure : Failure) :
    ¬ client.Refused ((client.called calls).called [last]) call failure := by
  intro refused
  rcases refused_called_iff.mp refused with before | ⟨_, now⟩
  · exact unrefused call failure before
  · cases accepted.symm.trans now

theorem refused_call_iff {last call : NativeCall} {failure : Failure} :
    client.Refused (client.called [last]) call failure ↔
      call = last ∧ client.refuses last = some failure := by
  have split : client.Refused ((client.called []).called [last]) call failure ↔ _ :=
    refused_called_iff
  rw [called_nil] at split
  exact split.trans (or_iff_right (not_refused_self call failure))

end NativeClient

theorem Failure.IsLocal.not_isServiceFailure {failure : Failure} (comesUp : failure.IsLocal) :
    HostedReference.isServiceFailure failure = false := by
  rcases comesUp with own | ⟨fault, rfl⟩
  · cases failure with
    | foreign kind message => cases own
    | _ => rfl
  · cases fault <;> rfl

namespace HostedReference

theorem isAnswer_of_isServiceFailure {failure : Failure} (service : isServiceFailure failure = true) :
    isAnswer failure = true := by
  cases failure with
  | foreign kind message => cases kind <;> first | rfl | cases service
  | _ => cases service

theorem reports_refusalOf {refusal : Failure} (answer : isAnswer refusal = true)
    (operation : String) (reference : HostedReference) :
    (reference.refusalOf operation refusal).Reports reference.path refusal := by
  rw [refusalOf, if_pos answer]
  exact Failure.reports_operationFailed operation reference.path refusal

/-- A refused call never ends in a failure of the service itself. -/
theorem not_isServiceFailure_refusalOf (operation : String) (refusal : Failure)
    (reference : HostedReference) :
    isServiceFailure (reference.refusalOf operation refusal) = false := by
  rw [refusalOf]
  split
  · rfl
  · next unanswered =>
    exact eq_false_of_ne_true fun service => unanswered (isAnswer_of_isServiceFailure service)

theorem request_of_refused {operation : String} {arguments : List Value}
    {reference : HostedReference} {client : NativeClient} {refusal : Failure}
    (refused : client.refuses ⟨reference.handle, operation, arguments⟩ = some refusal)
    (reached : Except Failure HostedReference) :
    request operation arguments reached reference client =
      (.error (reference.refusalOf operation refusal),
        client.called [⟨reference.handle, operation, arguments⟩]) := by
  rw [request, NativeClient.invoke_of_refused refused]

theorem request_of_accepted {operation : String} {arguments : List Value}
    {reference : HostedReference} {client : NativeClient}
    (accepted : client.refuses ⟨reference.handle, operation, arguments⟩ = none)
    (reached : Except Failure HostedReference) :
    request operation arguments reached reference client =
      (reached, client.called [⟨reference.handle, operation, arguments⟩]) := by
  rw [request, NativeClient.invoke_of_accepted accepted]

/-! ### Walks -/

/-- What a call on a reference leads to: what lies below it under a name, if its path can be written,
or a refinement of it. -/
inductive Asks : HostedReference → NativeCall → Except Failure HostedReference → Prop
  | collection {reference : HostedReference} (name : Value) :
      reference.kind = .root ∨ reference.kind = .document →
      Asks reference ⟨reference.handle, "collection", [name]⟩ (reference.below .collection name)
  | document {reference : HostedReference} (name : Value) : reference.kind = .collection →
      Asks reference ⟨reference.handle, "document", [name]⟩ (reference.below .document name)
  | refinement {reference : HostedReference} (operation : String) (arguments : List Value) :
      reference.isCollection = true →
      Asks reference ⟨reference.handle, operation, arguments⟩ (.ok reference.refined)

theorem isLocal_of_below {reference : HostedReference} {kind : HostedKind} {name : Value}
    {failure : Failure} (unwritten : reference.below kind name = .error failure) :
    failure.IsLocal := by
  rw [below, pathBelow] at unwritten
  split at unwritten
  · cases front : reference.path.toText Json.nestingLimit with
    | error fault =>
      rw [front] at unwritten
      cases unwritten
      exact Value.isLocal_of_toText front
    | ok start =>
      cases back : name.toText Json.nestingLimit with
      | error fault =>
        rw [front, back] at unwritten
        cases unwritten
        exact Value.isLocal_of_toText back
      | ok last =>
        rw [front, back] at unwritten
        cases unwritten
  · cases unwritten

/-- A call leads nowhere only if a path cannot be written. -/
theorem Asks.isLocal {reference : HostedReference} {call : NativeCall}
    {reached : Except Failure HostedReference} (asks : Asks reference call reached)
    {failure : Failure} (nowhere : reached = .error failure) : failure.IsLocal := by
  cases asks with
  | collection name _ => exact isLocal_of_below nowhere
  | document name _ => exact isLocal_of_below nowhere
  | refinement operation arguments _ => cases nowhere

/-- Calls lead from a reference to another, and the client accepts them all. -/
inductive Leads (start : HostedReference) (client : NativeClient) :
    HostedReference → NativeClient → Prop
  | stay : Leads start client start client
  | go {reference reached : HostedReference} {after : NativeClient} {call : NativeCall} :
      Leads start client reference after → Asks reference call (.ok reached) →
      after.refuses call = none → Leads start client reached (after.called [call])

/-- The ways in which a walk ends. -/
inductive Ends (start : HostedReference) (client : NativeClient) :
    Except Failure HostedReference → NativeClient → Prop
  | reached {reference : HostedReference} {after : NativeClient} :
      Leads start client reference after → Ends start client (.ok reference) after
  /-- What comes next cannot be asked of the client. -/
  | unasked {reference : HostedReference} {after : NativeClient} {failure : Failure} :
      Leads start client reference after → failure.IsLocal → Ends start client (.error failure) after
  /-- What comes next is asked with a filter that cannot be made. -/
  | unmade {reference : HostedReference} {after : NativeClient} {field operator value : Value}
      {refusal : Failure} :
      Leads start client reference after → reference.isCollection = true →
      after.makeFilter field operator value = .error refusal →
      Ends start client (.error (reference.refusalOf "where" refusal)) after
  | refused {reference : HostedReference} {reached : Except Failure HostedReference}
      {after : NativeClient} {call : NativeCall} {refusal : Failure} :
      Leads start client reference after → Asks reference call reached →
      after.refuses call = some refusal →
      Ends start client (.error (reference.refusalOf call.method refusal)) (after.called [call])
  /-- The client is asked, but the path of what it opens cannot be written. -/
  | unwritten {reference : HostedReference} {after : NativeClient} {call : NativeCall}
      {failure : Failure} :
      Leads start client reference after → Asks reference call (.error failure) →
      after.refuses call = none → failure.IsLocal →
      Ends start client (.error failure) (after.called [call])

section Walks

variable {start reference : HostedReference} {client between after : NativeClient}
  {outcome : Except Failure HostedReference}

theorem Leads.trans {reached : HostedReference} (leads : Leads start client reference between)
    (further : Leads reference between reached after) : Leads start client reached after := by
  induction further with
  | stay => exact leads
  | go _ asks accepted inductionHypothesis => exact .go inductionHypothesis asks accepted

theorem Leads.ends (leads : Leads start client reference between)
    (ends : Ends reference between outcome after) : Ends start client outcome after := by
  cases ends with
  | reached further => exact .reached (leads.trans further)
  | unasked further comesUp => exact .unasked (leads.trans further) comesUp
  | unmade further collection made => exact .unmade (leads.trans further) collection made
  | refused further asks refused => exact .refused (leads.trans further) asks refused
  | unwritten further asks accepted comesUp =>
    exact .unwritten (leads.trans further) asks accepted comesUp

/-- A client that accepts whatever it is asked has had further calls, and refused none. -/
theorem Leads.exists_called (leads : Leads start client reference after) :
    ∃ calls, after = client.called calls ∧
      ∀ call failure, ¬ client.Refused after call failure := by
  induction leads with
  | stay =>
    exact ⟨[], (client.called_nil).symm, fun call failure => client.not_refused_self call failure⟩
  | @go reference reached _ last _ _ accepted inductionHypothesis =>
    obtain ⟨calls, rfl, unrefused⟩ := inductionHypothesis
    exact ⟨calls ++ [last], NativeClient.called_called ..,
      NativeClient.not_refused_called unrefused accepted⟩

/-- A call that the client refuses ends the walk, and if the refusal counts as an answer of the
store, it is reported at the path of the reference that the call was made on. -/
theorem Ends.exists_reports (ends : Ends start client outcome after) {call : NativeCall}
    {refusal : Failure} (refused : client.Refused after call refusal) :
    ∃ reference between reached, Leads start client reference between ∧
      Asks reference call reached ∧ between.refuses call = some refusal ∧
      ∃ failure, outcome = .error failure ∧
        (isAnswer refusal = true → failure.Reports reference.path refusal) := by
  cases ends with
  | reached leads =>
    obtain ⟨_, _, unrefused⟩ := leads.exists_called
    exact absurd refused (unrefused call refusal)
  | unasked leads _ =>
    obtain ⟨_, _, unrefused⟩ := leads.exists_called
    exact absurd refused (unrefused call refusal)
  | unmade leads _ _ =>
    obtain ⟨_, _, unrefused⟩ := leads.exists_called
    exact absurd refused (unrefused call refusal)
  | unwritten leads _ accepted _ =>
    obtain ⟨_, rfl, unrefused⟩ := leads.exists_called
    exact absurd refused (NativeClient.not_refused_called unrefused accepted call refusal)
  | @refused reference reached between last found leads asks now =>
    obtain ⟨calls, rfl, unrefused⟩ := leads.exists_called
    rcases NativeClient.refused_called_iff.mp refused with before | ⟨rfl, same⟩
    · exact absurd before (unrefused call refusal)
    · obtain rfl := Option.some.inj (now.symm.trans same)
      exact ⟨reference, _, reached, leads, asks, now, _, rfl,
        fun answer => reports_refusalOf answer call.method reference⟩

/-- No walk ends in a failure of the service itself. -/
theorem Ends.not_isServiceFailure {failure : Failure}
    (ends : Ends start client (.error failure) after) : isServiceFailure failure = false := by
  cases ends with
  | unasked _ comesUp => exact comesUp.not_isServiceFailure
  | unmade _ _ _ => exact not_isServiceFailure_refusalOf ..
  | refused _ _ _ => exact not_isServiceFailure_refusalOf ..
  | unwritten _ _ _ comesUp => exact comesUp.not_isServiceFailure

end Walks

/-! ### Calls by hand -/

section Calls

variable (reference : HostedReference) (client : NativeClient)

theorem ends_request {operation : String} {arguments : List Value}
    {reached : Except Failure HostedReference}
    (asks : Asks reference ⟨reference.handle, operation, arguments⟩ reached) :
    Ends reference client (request operation arguments reached reference client).1
      (request operation arguments reached reference client).2 := by
  cases refuses : client.refuses ⟨reference.handle, operation, arguments⟩ with
  | some refusal =>
    rw [request_of_refused refuses]
    exact .refused .stay asks refuses
  | none =>
    rw [request_of_accepted refuses]
    cases reached with
    | ok next => exact .reached (.go .stay asks refuses)
    | error failure => exact .unwritten .stay asks refuses (asks.isLocal rfl)

theorem ends_collection (name : Value) :
    Ends reference client (reference.collection name client).1
      (reference.collection name client).2 := by
  rw [HostedReference.collection]
  split
  · next here => exact ends_request reference client (.collection name here)
  · exact .unasked .stay (Failure.isLocal_quoting rfl _ _)

theorem ends_document (name : Value) :
    Ends reference client (reference.document name client).1
      (reference.document name client).2 := by
  rw [HostedReference.document]
  split
  · next here => exact ends_request reference client (.document name here)
  · exact .unasked .stay (Failure.isLocal_quoting rfl _ _)

theorem ends_refineBy (operation : String) (arguments : List Value) :
    Ends reference client (refineBy operation arguments reference client).1
      (refineBy operation arguments reference client).2 := by
  rw [refineBy]
  split
  · next here => exact ends_request reference client (.refinement operation arguments here)
  · exact .unasked .stay (.inl rfl)

theorem ends_refine (refinement : Refinement) :
    Ends reference client (reference.refine refinement client).1
      (reference.refine refinement client).2 := by
  cases refinement with
  | limit count => exact ends_refineBy reference client "limit" [count]
  | order field direction =>
    exact ends_refineBy reference client "order_by" [field, directionWord direction]
  | filter field operator value =>
    rw [refine, filterBy]
    split
    · next here =>
      split
      · next made => exact .unmade .stay here made
      · exact ends_request reference client (.refinement "where" _ here)
    · exact .unasked .stay (.inl rfl)

theorem ends_call (call : NavigationCall) :
    Ends reference client (reference.call call client).1 (reference.call call client).2 := by
  cases call with
  | collection name => exact ends_collection reference client name
  | document name => exact ends_document reference client name
  | filter field operator value => exact ends_refine reference client (.filter field operator value)
  | orderBy field direction =>
    exact ends_refine reference client (.order field (directionMeant direction))
  | limit count => exact ends_refine reference client (.limit count)

end Calls

theorem ends_callAll (calls : List NavigationCall) (reference : HostedReference)
    (client : NativeClient) : Ends reference client (callAll calls reference client).1
      (callAll calls reference client).2 := by
  induction calls generalizing reference client with
  | nil => exact .reached .stay
  | cons call rest inductionHypothesis =>
    have called := ends_call reference client call
    rw [callAll]
    generalize reference.call call client = made at called
    obtain ⟨_ | reached, after⟩ := made
    · exact called
    · cases called with
      | reached leads => exact leads.ends (inductionHypothesis reached after)

/-! ### Queries -/

theorem ends_refineAll (refinements : List Refinement) (reference : HostedReference)
    (client : NativeClient) : Ends reference client
      (navigation.refineAll refinements reference client).1
      (navigation.refineAll refinements reference client).2 := by
  induction refinements generalizing reference client with
  | nil => exact .reached .stay
  | cons refinement rest inductionHypothesis =>
    have refined : Ends reference client (navigation.refine refinement reference client).1
        (navigation.refine refinement reference client).2 := ends_refine reference client refinement
    rw [Navigation.refineAll]
    generalize navigation.refine refinement reference client = made at refined
    obtain ⟨_ | reached, after⟩ := made
    · exact refined
    · cases refined with
      | reached leads => exact leads.ends (inductionHypothesis reached after)

/-- The ways in which a walk of a cursor ends. -/
def EndsAt (start : HostedReference) (client : NativeClient)
    (walked : Walked NativeClient (Cursor HostedReference)) : Prop :=
  Ends start client (walked.outcome.map Cursor.reference) walked.state

theorem endsAt_moved {start : HostedReference} {client : NativeClient}
    {reached : Except Failure HostedReference × NativeClient}
    (ends : Ends start client reached.1 reached.2) (cursor : Cursor HostedReference)
    (expecting : Bool) : EndsAt start client (Navigation.moved cursor expecting reached) := by
  obtain ⟨_ | _, _⟩ := reached <;> exact ends

theorem endsAt_step (mode : BuildMode) (component : Component) (cursor : Cursor HostedReference)
    (client : NativeClient) :
    EndsAt cursor.reference client (navigation.step mode component cursor client) := by
  cases component with
  | literal name =>
    refine endsAt_moved ?_ cursor _
    rw [Navigation.enter]
    split
    · exact ends_collection cursor.reference client (.text name)
    · exact ends_document cursor.reference client (.text name)
  | all => exact .reached .stay
  | documentExpression fields => exact .reached .stay
  | collectionExpression refinements =>
    rw [Navigation.step]
    split
    · exact endsAt_moved (ends_refineAll refinements cursor.reference client) cursor _
    · cases mode with
      | permissive => exact .reached .stay
      | strict => exact .unasked .stay (.inl rfl)

theorem endsAt_walk (mode : BuildMode) (components : List Component)
    (cursor : Cursor HostedReference) (client : NativeClient) :
    EndsAt cursor.reference client (navigation.walk mode components cursor client) := by
  induction components generalizing cursor client with
  | nil => exact .reached .stay
  | cons component rest inductionHypothesis =>
    have stepped := endsAt_step mode component cursor client
    rw [Navigation.walk]
    generalize navigation.step mode component cursor client = made at stepped
    obtain ⟨_ | next, notices, after⟩ := made
    · exact stepped
    · cases stepped with
      | reached leads => exact leads.ends (inductionHypothesis next after)

theorem ends_build (mode : BuildMode) (components : List Component) (client : NativeClient) :
    Ends root client ((build mode components client).outcome.map Built.reference)
      (build mode components client).state := by
  have walked := endsAt_walk mode components (.start root) client
  rw [EndsAt] at walked
  rw [build, Navigation.build]
  cases outcome : (navigation.walk mode components (.start root) client).outcome with
  | error failure =>
    rw [outcome] at walked
    exact walked
  | ok cursor =>
    rw [outcome] at walked
    exact walked

end HostedReference

end DocQuery
