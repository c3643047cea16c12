/-
This file proves that a store in memory and a hosted one are walked alike.

A reference in memory knows its location and its refinements, and decides by them what may come
next; a hosted one knows a kind and a path. They mirror each other if the kind and the path are
those of the location. Each step keeps this or fails on both sides, with the same class of failure
and the same path, and the calls that reach the client can be read off the query.

There is one exception. For a hosted store, a filter is made before its client is called, and whoever
makes it may refuse what a store in memory takes: a client can have filters that compare null by
equality only. So the walks are alike exactly if no collection is given a filter that cannot be made.
-/

import DocQuery.Hosted.Client
import DocQuery.Proofs.Building.Acceptance

namespace DocQuery

/-! ### Clients -/

namespace NativeClient

/-- A client that accepts every call. -/
def IsWilling (client : NativeClient) : Prop := ∀ earlier call, client.refusal earlier call = none

/-- A client after further calls. -/
def called (calls : List NativeCall) (client : NativeClient) : NativeClient :=
  { client with calls := client.calls ++ calls }

@[simp] theorem called_nil (client : NativeClient) : client.called [] = client := by
  rw [called, List.append_nil]

theorem called_called (first second : List NativeCall) (client : NativeClient) :
    (client.called first).called second = client.called (first ++ second) := by
  rw [called, called, called, List.append_assoc]

theorem IsWilling.called {client : NativeClient} (willing : client.IsWilling)
    (calls : List NativeCall) : (client.called calls).IsWilling := willing

theorem IsWilling.invoke {client : NativeClient} (willing : client.IsWilling) (call : NativeCall) :
    client.invoke call = (.ok (), client.called [call]) := by
  rw [NativeClient.invoke, willing]
  rfl

end NativeClient

theorem HostedReference.request_of_willing {client : NativeClient} (willing : client.IsWilling)
    (operation : String) (arguments : List Value) (reached : Except Failure HostedReference)
    (reference : HostedReference) :
    request operation arguments reached reference client =
      (reached, client.called [⟨reference.handle, operation, arguments⟩]) := by
  rw [request, willing.invoke]

/-! ### Calls of a query -/

namespace Refinement

/-- A refinement that can be put to a client: a filter of it can be made. -/
def IsPuttable (make : FilterMaker) : Refinement → Prop
  | .filter field operator value => ∃ arguments, make field operator value = .ok arguments
  | .limit _ | .order _ _ => True

/-- The call by which a refinement is put to a client. -/
def nativeCall (make : FilterMaker) (handle : Text) : Refinement → NativeCall
  | .filter field operator value =>
    ⟨handle, "where", (make field operator value).toOption.getD []⟩
  | .limit count => ⟨handle, "limit", [count]⟩
  | .order field direction => ⟨handle, "order_by", [field, HostedReference.directionWord direction]⟩

/-- The calls of refinements that follow each other. -/
def nativeCalls (make : FilterMaker) : Text → List Refinement → List NativeCall
  | _, [] => []
  | handle, refinement :: rest =>
    refinement.nativeCall make handle :: nativeCalls make (handle ++ "?") rest

/-- The handle that refinements lead to. -/
def refinedHandle : Text → List Refinement → Text
  | handle, [] => handle
  | handle, _ :: rest => refinedHandle (handle ++ "?") rest

end Refinement

namespace Component

/-- The calls of a query from a handle on, behind so many literals: each literal opens a collection
or a document in turn, and refinements are put to the client where they meet a collection. -/
def nativeCallsFrom (make : FilterMaker) : Text → Nat → List Component → List NativeCall
  | _, _, [] => []
  | handle, passed, .literal name :: rest =>
    ⟨handle, if passed % 2 = 0 then "collection" else "document", [.text name]⟩ ::
      nativeCallsFrom make (handle ++ "/" ++ name) (passed + 1) rest
  | handle, passed, .collectionExpression refinements :: rest =>
    if passed % 2 = 1 then
      Refinement.nativeCalls make handle refinements ++
        nativeCallsFrom make (Refinement.refinedHandle handle refinements) passed rest
    else nativeCallsFrom make handle passed rest
  | handle, passed, _ :: rest => nativeCallsFrom make handle passed rest

/-- The calls of a query, with its filters as they are made. -/
def nativeCalls (make : FilterMaker) (components : List Component) : List NativeCall :=
  nativeCallsFrom make "client" 0 components

/-- A component whose name can be part of a path and whose refinements are acceptable. -/
def IsClean : Component → Prop
  | .literal name => name ≠ [] ∧ .char '/' ∉ name
  | .collectionExpression refinements => ∀ refinement ∈ refinements, refinement.IsAcceptable
  | .all | .documentExpression _ => True

end Component

/-! ### Mirrors -/

/-- The kind of handle that stands for a reference. -/
def Reference.kind (reference : Reference) : HostedKind :=
  if reference.segments = [] then .root
  else if reference.isCollection then if reference.isRefined then .query else .collection
  else .document

/-- A hosted reference stands for the same as one into a store in memory. -/
structure Mirrors (reference : Reference) (hosted : HostedReference) : Prop where
  named : ∀ name ∈ reference.segments, name ≠ []
  path : hosted.path = .text reference.path
  kind : hosted.kind = reference.kind

namespace Mirrors

variable {reference : Reference} {hosted : HostedReference} (mirrors : Mirrors reference hosted)
include mirrors

theorem isCollection : hosted.isCollection = reference.isCollection := by
  rw [HostedReference.isCollection, mirrors.kind, Reference.kind]
  by_cases root : reference.segments = []
  · rw [if_pos root, Reference.isCollection, root]
    rfl
  · rw [if_neg root]
    cases reference.isCollection <;> cases reference.isRefined <;> rfl

theorem isDocument : hosted.isDocument = reference.isDocument := by
  rw [HostedReference.isDocument, mirrors.kind, Reference.kind]
  by_cases root : reference.segments = []
  · rw [if_pos root, Reference.isDocument, root]
    rfl
  · rw [if_neg root]
    have split : reference.isDocument = !reference.isCollection := by
      rw [Reference.isDocument, Reference.isCollection, Segments.isDocument, Segments.isCollection]
      have positive : reference.segments.isEmpty = false := by simpa using root
      rw [positive]
      rcases Nat.mod_two_eq_zero_or_one reference.segments.length with even | odd
      · rw [even]
        rfl
      · rw [odd]
        rfl
    rw [split]
    cases reference.isCollection <;> cases reference.isRefined <;> rfl

end Mirrors

/-! ### Paths -/

theorem Segments.path_concat {segments : Segments} (nonempty : segments ≠ []) (name : Text) :
    path (segments ++ [name]) = path segments ++ "/" ++ name := by
  induction segments with
  | nil => exact absurd rfl nonempty
  | cons first rest inductionHypothesis =>
    cases rest with
    | nil => exact (List.append_assoc first "/" name).symm
    | cons second others =>
      have further : Text.join '/' (second :: others ++ [name]) =
          Text.join '/' (second :: others) ++ "/" ++ name :=
        inductionHypothesis (List.cons_ne_nil second others)
      show first ++ CodePoint.char '/' :: Text.join '/' (second :: others ++ [name]) =
        first ++ CodePoint.char '/' :: Text.join '/' (second :: others) ++ "/" ++ name
      rw [further, List.append_assoc, List.append_assoc, List.append_assoc]
      rfl

theorem Segments.path_ne_nil {segments : Segments} (nonempty : segments ≠ [])
    (named : ∀ name ∈ segments, name ≠ []) : path segments ≠ [] := by
  cases segments with
  | nil => exact absurd rfl nonempty
  | cons first rest =>
    have start := named first List.mem_cons_self
    cases rest with
    | nil => exact start
    | cons second others =>
      rw [path, Text.join]
      · exact fun none => start (List.append_eq_nil_iff.mp none).1
      · exact List.cons_ne_nil second others

/-- The reference to what lies below another under a name that is a text, where the path is one. -/
def HostedReference.child (kind : HostedKind) (name : Text) (reference : HostedReference) :
    HostedReference where
  handle := reference.handle ++ "/" ++ name
  kind := kind
  path :=
    if reference.path.truthy then .text (reference.path.displayed ++ "/" ++ name) else .text name

namespace Mirrors

variable {reference : Reference} {hosted : HostedReference} (mirrors : Mirrors reference hosted)
include mirrors

theorem below_text (kind : HostedKind) (name : Text) :
    hosted.below kind (.text name) = .ok (hosted.child kind name) := by
  have written : Value.displayed (.text reference.path) = reference.path := rfl
  rw [HostedReference.below, HostedReference.pathBelow, HostedReference.child, mirrors.path,
    Value.toText_text, Value.toText_text, written]
  split <;> rfl

/-- What lies below two references that mirror each other does so too. -/
theorem below {name : Text} (nonempty : name ≠ []) {kind : HostedKind}
    (fits : kind = if reference.isCollection then .document else .collection) :
    Mirrors (.plain (reference.segments ++ [name])) (hosted.child kind name) where
  named other member := by
    rcases List.mem_append.mp member with before | last
    · exact mirrors.named other before
    · rw [List.mem_singleton.mp last]
      exact nonempty
  path := by
    rw [HostedReference.child, mirrors.path, Reference.path_plain]
    by_cases root : reference.segments = []
    · rw [Reference.path, root]
      rfl
    · have there := Segments.path_ne_nil root mirrors.named
      have truthy : (Value.text reference.path).truthy = true := by
        rw [Value.truthy, Reference.path]
        simpa using there
      dsimp only
      rw [if_pos truthy, Segments.path_concat root]
      rfl
  kind := by
    have turned : (Reference.plain (reference.segments ++ [name])).isCollection =
        !reference.isCollection := by
      rw [Reference.isCollection, Reference.isCollection, Segments.isCollection,
        Segments.isCollection, Reference.plain, List.length_append, List.length_singleton]
      rcases Nat.mod_two_eq_zero_or_one reference.segments.length with even | odd
      · rw [even, show (reference.segments.length + 1) % 2 = 1 by omega]
        rfl
      · rw [odd, show (reference.segments.length + 1) % 2 = 0 by omega]
        rfl
    rw [Reference.kind, if_neg (by simp [Reference.plain]), turned, Reference.isRefined_plain]
    show kind = _
    rw [fits]
    cases reference.isCollection <;> rfl

/-- A refinement keeps a collection and its hosted mirror alike. -/
theorem refined (collection : reference.isCollection = true) {refinement : Refinement}
    (acceptable : refinement.IsAcceptable) :
    Mirrors (reference.refinedBy [refinement.call]) hosted.refined where
  named := mirrors.named
  path := mirrors.path
  kind := by
    have traced : (reference.refinedBy [refinement.call]).isRefined = true := by
      have accepted : ∀ other ∈ [refinement], other.IsAcceptable :=
        List.forall_mem_singleton.mpr acceptable
      rw [← Bool.not_eq_false]
      intro unrefined
      exact nomatch ((Reference.isRefined_refinedBy accepted reference).mp unrefined).2
    have root : (reference.refinedBy [refinement.call]).segments ≠ [] := by
      intro none
      have segments : reference.segments = [] := none
      rw [Reference.isCollection, segments] at collection
      cases collection
    have still : (reference.refinedBy [refinement.call]).isCollection = true := collection
    rw [Reference.kind, if_neg root, still, traced]
    rfl

end Mirrors

/-! ### Refinements -/

/-- A client that accepts every call takes every refinement that can be put to it. -/
theorem HostedReference.refine_of_willing {client : NativeClient} (willing : client.IsWilling)
    {hosted : HostedReference} (collection : hosted.isCollection = true) {refinement : Refinement}
    (puttable : refinement.IsPuttable client.makeFilter) :
    hosted.refine refinement client =
      (.ok hosted.refined,
        client.called [refinement.nativeCall client.makeFilter hosted.handle]) := by
  cases refinement with
  | filter field operator value =>
    obtain ⟨arguments, made⟩ := puttable
    rw [refine, filterBy, if_pos collection, made]
    dsimp only
    rw [request_of_willing willing, Refinement.nativeCall, made]
    rfl
  | limit count =>
    rw [refine, refineBy, if_pos collection, request_of_willing willing]
    rfl
  | order field direction =>
    rw [refine, refineBy, if_pos collection, request_of_willing willing]
    rfl

/-- A refinement that cannot be put to a client is refused, and the client is not called. -/
theorem HostedReference.refine_of_not_isPuttable {refinement : Refinement} {client : NativeClient}
    (unputtable : ¬ refinement.IsPuttable client.makeFilter) (hosted : HostedReference) :
    ∃ failure, hosted.refine refinement client = (.error failure, client) := by
  cases refinement with
  | filter field operator value =>
    rw [refine, filterBy]
    cases made : client.makeFilter field operator value with
    | ok arguments => exact absurd ⟨arguments, made⟩ unputtable
    | error failure => split <;> exact ⟨_, rfl⟩
  | limit count => exact absurd trivial unputtable
  | order field direction => exact absurd trivial unputtable

theorem Mirrors.exists_refineAll {reference : Reference} {hosted : HostedReference}
    (mirrors : Mirrors reference hosted) (collection : reference.isCollection = true)
    {client : NativeClient} (willing : client.IsWilling) {refinements : List Refinement}
    (acceptable : ∀ refinement ∈ refinements, refinement.IsAcceptable)
    (puttable : ∀ refinement ∈ refinements, refinement.IsPuttable client.makeFilter) :
    ∃ next, HostedReference.navigation.refineAll refinements hosted client =
        (.ok next,
          client.called (Refinement.nativeCalls client.makeFilter hosted.handle refinements)) ∧
      Mirrors (reference.refinedBy (refinements.map Refinement.call)) next ∧
      next.handle = Refinement.refinedHandle hosted.handle refinements := by
  induction refinements generalizing reference hosted client with
  | nil =>
    refine ⟨hosted, ?_, by simpa using mirrors, rfl⟩
    rw [Navigation.refineAll, Refinement.nativeCalls, NativeClient.called_nil]
  | cons refinement rest inductionHypothesis =>
    obtain ⟨firstAcceptable, restAcceptable⟩ := List.forall_mem_cons.mp acceptable
    obtain ⟨firstPuttable, restPuttable⟩ := List.forall_mem_cons.mp puttable
    obtain ⟨next, refined, nextMirrors, handle⟩ :=
      inductionHypothesis (mirrors.refined collection firstAcceptable) collection
        (willing.called [refinement.nativeCall client.makeFilter hosted.handle]) restAcceptable
        restPuttable
    have hostedCollection : hosted.isCollection = true := mirrors.isCollection.trans collection
    have first : HostedReference.navigation.refine refinement hosted client =
        (.ok hosted.refined,
          client.called [refinement.nativeCall client.makeFilter hosted.handle]) :=
      HostedReference.refine_of_willing willing hostedCollection firstPuttable
    refine ⟨next, ?_, ?_, handle⟩
    · rw [Navigation.refineAll, first]
      dsimp only
      rw [refined, NativeClient.called_called]
      rfl
    · rw [List.map_cons, ← List.singleton_append, ← Reference.refinedBy_append]
      exact nextMirrors

/-! ### Walks that go alike -/

/-- Two failures of one class, a refusal of the store or a misplaced expression, about one path. -/
structure SameFailure (failure other : Failure) : Prop where
  family : failure.family = other.family
  kind : failure.family = .store ∨ failure.family = .refinement
  path : failure.path? = other.path?

/-- A walk over a store in memory and one over a hosted store go alike: they give the same notices
and either reach what is the same, where the client was given exactly some calls, or fail alike. -/
inductive Alike {α β : Type} (same : α → β → Prop) (client : NativeClient)
    (calls : List NativeCall) : Walked Unit α → Walked NativeClient β → Prop
  | reached {here : α} {there : β} (agrees : same here there) (notices : List Notice) :
      Alike same client calls ⟨.ok here, notices, ()⟩ ⟨.ok there, notices, client.called calls⟩
  | refused {failure other : Failure} (agrees : SameFailure failure other)
      (notices : List Notice) (after : NativeClient) :
      Alike same client calls ⟨.error failure, notices, ()⟩ ⟨.error other, notices, after⟩

/-- Two cursors stand at references that mirror each other. -/
structure MirrorsCursor (cursor : Cursor Reference) (hosted : Cursor HostedReference) : Prop where
  reference : Mirrors cursor.reference hosted.reference
  expecting : hosted.expectingCollection = cursor.expectingCollection
  projection : hosted.projection = cursor.projection

/-- The calls that are left when a cursor stands somewhere. -/
def callsLeft (make : FilterMaker) (cursor : Cursor Reference) (hosted : Cursor HostedReference)
    (components : List Component) : List NativeCall :=
  Component.nativeCallsFrom make hosted.reference.handle cursor.reference.segments.length components

/-! ### Steps -/

namespace Reference

theorem collection_of_clean {name : Text} (clean : name ≠ [] ∧ .char '/' ∉ name)
    (reference : Reference) : reference.collection (.text name) =
      if reference.isCollection then
        .error (.store (.collectionInCollection (.text name)) (some reference.path))
      else .ok (plain (reference.segments ++ [name])) := by
  rw [collection, segmentName_text_eq_ok_iff.mpr ⟨clean, rfl⟩]

theorem document_of_clean {name : Text} (clean : name ≠ [] ∧ .char '/' ∉ name)
    (reference : Reference) : reference.document (.text name) =
      if reference.kind = .collection then .ok (plain (reference.segments ++ [name]))
      else .error (.store (.documentOutsideCollection (.text name)) (some reference.path)) := by
  rw [document, segmentName_text_eq_ok_iff.mpr ⟨clean, rfl⟩, kind]
  by_cases top : reference.segments = []
  · rw [if_pos top, isCollection, top]
    rfl
  · rw [if_neg top]
    cases reference.isCollection <;> cases reference.isRefined <;> rfl

end Reference

namespace HostedReference

theorem collection_of_willing {client : NativeClient} (willing : client.IsWilling) (name : Text)
    (hosted : HostedReference) : hosted.collection (.text name) client =
      if hosted.isCollection then
        (.error (.store (.collectionNotHere (.text name)) (some hosted.path)), client)
      else (hosted.below .collection (.text name),
        client.called [⟨hosted.handle, "collection", [.text name]⟩]) := by
  rw [collection, isCollection, request_of_willing willing, Failure.quoting_text]
  cases hosted.kind <;> rfl

theorem document_of_willing {client : NativeClient} (willing : client.IsWilling) (name : Text)
    (hosted : HostedReference) : hosted.document (.text name) client =
      if hosted.kind = .collection then
        (hosted.below .document (.text name),
          client.called [⟨hosted.handle, "document", [.text name]⟩])
      else (.error (.store (.documentNotHere (.text name)) (some hosted.path)), client) := by
  rw [document, request_of_willing willing, Failure.quoting_text]

end HostedReference

/-- Two cursors mirror each other, and so many calls lie between them and where they come from by
one component. -/
structure Follows (make : FilterMaker) (cursor : Cursor Reference) (hosted : Cursor HostedReference)
    (component : Component) (calls : List NativeCall) (next : Cursor Reference)
    (hostedNext : Cursor HostedReference) : Prop where
  mirrors : MirrorsCursor next hostedNext
  calls (rest : List Component) :
    callsLeft make cursor hosted (component :: rest) = calls ++ callsLeft make next hostedNext rest

/-- A step without any call. -/
theorem Follows.alike_idle {make : FilterMaker} {cursor next : Cursor Reference}
    {hosted hostedNext : Cursor HostedReference} {component : Component}
    (follows : Follows make cursor hosted component [] next hostedNext)
    (client : NativeClient) (notices : List Notice) :
    Alike (Follows make cursor hosted component []) client [] ⟨.ok next, notices, ()⟩
      ⟨.ok hostedNext, notices, client⟩ := by
  have alike : Alike (Follows make cursor hosted component []) client [] ⟨.ok next, notices, ()⟩
      ⟨.ok hostedNext, notices, client.called []⟩ := .reached follows notices
  rw [NativeClient.called_nil] at alike
  exact alike

/-- Two steps by one component go alike. -/
def StepAlike (mode : BuildMode) (cursor : Cursor Reference) (hosted : Cursor HostedReference)
    (client : NativeClient) (component : Component) : Prop :=
  ∃ calls, Alike (Follows client.makeFilter cursor hosted component calls) client calls
    (Reference.navigation.step mode component cursor ())
    (HostedReference.navigation.step mode component hosted client)

namespace MirrorsCursor

variable {cursor : Cursor Reference} {hosted : Cursor HostedReference}
  (mirrors : MirrorsCursor cursor hosted)
include mirrors

/-- Failures that are about where both walks stand. -/
theorem sameFailure {cause other : StoreCause} :
    SameFailure (.store cause (some cursor.reference.path))
      (.store other (some hosted.reference.path)) where
  family := rfl
  kind := .inl rfl
  path := by
    rw [mirrors.reference.path]
    rfl

/-- A literal leads to what lies below, by one call. -/
theorem below {name : Text} (nonempty : name ≠ []) (make : FilterMaker) (expecting : Bool)
    (kind : HostedKind)
    (fits : kind = if cursor.reference.isCollection then .document else .collection) :
    Follows make cursor hosted (.literal name)
      [⟨hosted.reference.handle,
        if cursor.reference.isCollection then "document" else "collection", [.text name]⟩]
      ⟨.plain (cursor.reference.segments ++ [name]), expecting, cursor.projection⟩
      ⟨hosted.reference.child kind name, expecting, hosted.projection⟩ where
  mirrors := ⟨mirrors.reference.below nonempty fits, rfl, mirrors.projection⟩
  calls rest := by
    have passed : (Reference.plain (cursor.reference.segments ++ [name])).segments.length =
        cursor.reference.segments.length + 1 := List.length_append
    rw [callsLeft, callsLeft, Component.nativeCallsFrom, passed, Reference.isCollection,
      Segments.isCollection]
    rcases Nat.mod_two_eq_zero_or_one cursor.reference.segments.length with even | odd
    · rw [even]
      rfl
    · rw [odd]
      rfl

/-- A literal leads both walks on, or is refused by both stores. -/
theorem stepAlike_literal {client : NativeClient} (willing : client.IsWilling) (mode : BuildMode)
    {name : Text} (clean : name ≠ [] ∧ .char '/' ∉ name) :
    StepAlike mode cursor hosted client (.literal name) := by
  rw [StepAlike, Navigation.step, Navigation.step, Navigation.enter, Navigation.enter,
    mirrors.expecting]
  cases cursor.expectingCollection with
  | true =>
    have here : Reference.navigation.collection name cursor.reference () =
        (cursor.reference.collection (.text name), ()) := rfl
    have there : HostedReference.navigation.collection name hosted.reference client =
        hosted.reference.collection (.text name) client := rfl
    rw [if_pos rfl, if_pos rfl, here, there, Reference.collection_of_clean clean,
      HostedReference.collection_of_willing willing, mirrors.reference.isCollection,
      mirrors.reference.below_text]
    cases collection : cursor.reference.isCollection with
    | true => exact ⟨[], .refused mirrors.sameFailure [] client⟩
    | false =>
      have follows := mirrors.below clean.1 client.makeFilter false .collection
        (by rw [collection]; rfl)
      rw [collection] at follows
      exact ⟨_, .reached follows []⟩
  | false =>
    have here : Reference.navigation.document name cursor.reference () =
        (cursor.reference.document (.text name), ()) := rfl
    have there : HostedReference.navigation.document name hosted.reference client =
        hosted.reference.document (.text name) client := rfl
    rw [if_neg (by decide), if_neg (by decide), here, there, Reference.document_of_clean clean,
      HostedReference.document_of_willing willing, mirrors.reference.kind,
      mirrors.reference.below_text]
    by_cases unrefined : cursor.reference.kind = .collection
    · have collection : cursor.reference.isCollection = true := by
        rw [← mirrors.reference.isCollection, HostedReference.isCollection,
          mirrors.reference.kind, unrefined]
        rfl
      have follows := mirrors.below clean.1 client.makeFilter true .document
        (by rw [collection]; rfl)
      rw [collection] at follows
      rw [if_pos unrefined, if_pos unrefined]
      exact ⟨_, .reached follows []⟩
    · rw [if_neg unrefined, if_neg unrefined]
      exact ⟨[], .refused mirrors.sameFailure [] client⟩

/-- A collection expression refines both, or stands on no collection in both. -/
theorem stepAlike_expression {client : NativeClient} (willing : client.IsWilling)
    (mode : BuildMode) {refinements : List Refinement}
    (acceptable : ∀ refinement ∈ refinements, refinement.IsAcceptable)
    (puttable : cursor.reference.isCollection = true →
      ∀ refinement ∈ refinements, refinement.IsPuttable client.makeFilter) :
    StepAlike mode cursor hosted client (.collectionExpression refinements) := by
  have path : HostedReference.navigation.path hosted.reference =
      Reference.navigation.path cursor.reference := mirrors.reference.path
  have here : Reference.navigation.isCollection cursor.reference =
      cursor.reference.isCollection := rfl
  have there : HostedReference.navigation.isCollection hosted.reference =
      cursor.reference.isCollection := mirrors.reference.isCollection
  rw [StepAlike, Navigation.step, Navigation.step, here, there]
  cases collection : cursor.reference.isCollection with
  | true =>
    have odd : cursor.reference.segments.length % 2 = 1 := by
      rw [Reference.isCollection, Segments.isCollection, beq_iff_eq] at collection
      exact collection
    have reached : Reference.navigation.refineAll refinements cursor.reference () =
        (.ok (cursor.reference.refinedBy (refinements.map Refinement.call)), ()) :=
      Prod.ext ((Reference.refineAll_eq_ok_iff _ collection _).mpr ⟨acceptable, rfl⟩) rfl
    obtain ⟨next, refined, nextMirrors, handle⟩ :=
      mirrors.reference.exists_refineAll collection willing acceptable (puttable collection)
    rw [if_pos rfl, if_pos rfl, reached, refined]
    refine ⟨_, .reached ⟨⟨nextMirrors, mirrors.expecting, mirrors.projection⟩, fun rest => ?_⟩ []⟩
    rw [callsLeft, callsLeft, Component.nativeCallsFrom, if_pos odd, handle]
    rfl
  | false =>
    have even : ¬ cursor.reference.segments.length % 2 = 1 := by
      rw [Reference.isCollection, Segments.isCollection, beq_eq_false_iff_ne] at collection
      exact collection
    rw [if_neg (by decide), if_neg (by decide)]
    cases mode with
    | permissive =>
      have follows : Follows client.makeFilter cursor hosted (.collectionExpression refinements) []
          cursor hosted :=
        ⟨mirrors, fun rest => by
          rw [callsLeft, Component.nativeCallsFrom, if_neg even]
          rfl⟩
      rw [Navigation.misplaced, Navigation.misplaced, path]
      exact ⟨[], follows.alike_idle client _⟩
    | strict =>
      rw [Navigation.misplaced, Navigation.misplaced, path]
      exact ⟨[], .refused ⟨rfl, .inr rfl, rfl⟩ [] client⟩

/-- A step by any component goes alike. -/
theorem stepAlike {client : NativeClient} (willing : client.IsWilling) (mode : BuildMode)
    {component : Component} (clean : component.IsClean)
    (puttable : cursor.reference.isCollection = true → ∀ refinements,
      component = .collectionExpression refinements →
        ∀ refinement ∈ refinements, refinement.IsPuttable client.makeFilter) :
    StepAlike mode cursor hosted client component := by
  cases component with
  | literal name => exact mirrors.stepAlike_literal willing mode clean
  | all =>
    have follows : Follows client.makeFilter cursor hosted .all []
        { cursor with expectingCollection := true }
        { hosted with expectingCollection := true } :=
      ⟨⟨mirrors.reference, rfl, mirrors.projection⟩, fun _ => rfl⟩
    exact ⟨[], follows.alike_idle client []⟩
  | collectionExpression refinements =>
    exact mirrors.stepAlike_expression willing mode clean fun collection =>
      puttable collection refinements rfl
  | documentExpression fields =>
    have follows : Follows client.makeFilter cursor hosted (.documentExpression fields) []
        { cursor with projection := .onto fields } { hosted with projection := .onto fields } :=
      ⟨⟨mirrors.reference, mirrors.expecting, rfl⟩, fun _ => rfl⟩
    exact ⟨[], follows.alike_idle client []⟩

end MirrorsCursor

/-! ### Whole walks -/

/-- Where a walk in memory reaches something, one that goes alike does too, by the calls it is
alike with. -/
theorem Alike.exists_reached {α β : Type} {same : α → β → Prop} {client : NativeClient}
    {calls : List NativeCall} {walked : Walked Unit α} {other : Walked NativeClient β}
    (alike : Alike same client calls walked other) {here : α} (reached : walked.outcome = .ok here) :
    ∃ there, other.outcome = .ok there ∧ same here there ∧ other.state = client.called calls := by
  cases alike with
  | reached agrees notices =>
    cases reached
    exact ⟨_, rfl, agrees, rfl⟩
  | refused agrees notices after => cases reached

/-- In a walk in memory a collection is given a filter that cannot be made. -/
def MeetsUnmade (make : FilterMaker) (mode : BuildMode) (cursor : Cursor Reference)
    (components : List Component) : Prop :=
  ∃ before refinements after reached,
    components = before ++ .collectionExpression refinements :: after ∧
      (Reference.navigation.walk mode before cursor ()).outcome = .ok reached ∧
      reached.reference.isCollection = true ∧
      ∃ refinement ∈ refinements, ¬ refinement.IsPuttable make

theorem MeetsUnmade.cons {make : FilterMaker} {mode : BuildMode} {component : Component}
    {cursor next : Cursor Reference} {notices : List Notice}
    (stepped : Reference.navigation.step mode component cursor () = ⟨.ok next, notices, ()⟩)
    {rest : List Component} (later : MeetsUnmade make mode next rest) :
    MeetsUnmade make mode cursor (component :: rest) := by
  obtain ⟨before, refinements, after, reached, rfl, walked, unmade⟩ := later
  refine ⟨component :: before, refinements, after, reached, rfl, ?_, unmade⟩
  rw [Navigation.walk, stepped]
  exact walked

/-- Two walks from cursors that mirror each other go alike if no collection is given a filter that
cannot be made. -/
theorem MirrorsCursor.alike_walk {cursor : Cursor Reference} {hosted : Cursor HostedReference}
    (mirrors : MirrorsCursor cursor hosted) {client : NativeClient} (willing : client.IsWilling)
    (mode : BuildMode) {components : List Component}
    (clean : ∀ component ∈ components, component.IsClean)
    (harmless : ¬ MeetsUnmade client.makeFilter mode cursor components) :
    Alike MirrorsCursor client (callsLeft client.makeFilter cursor hosted components)
      (Reference.navigation.walk mode components cursor ())
      (HostedReference.navigation.walk mode components hosted client) := by
  induction components generalizing cursor hosted client with
  | nil =>
    have alike : Alike MirrorsCursor client [] ⟨.ok cursor, [], ()⟩
        ⟨.ok hosted, [], client.called []⟩ := .reached mirrors []
    rw [NativeClient.called_nil] at alike
    exact alike
  | cons component rest inductionHypothesis =>
    obtain ⟨firstClean, restClean⟩ := List.forall_mem_cons.mp clean
    have puttable (collection : cursor.reference.isCollection = true)
        (refinements : List Refinement) (same : component = .collectionExpression refinements) :
        ∀ refinement ∈ refinements, refinement.IsPuttable client.makeFilter := by
      intro refinement member
      by_contra unputtable
      exact harmless ⟨[], refinements, rest, cursor, by rw [same]; rfl, rfl, collection, refinement,
        member, unputtable⟩
    obtain ⟨calls, alike⟩ := mirrors.stepAlike willing mode firstClean puttable
    rw [Navigation.walk, Navigation.walk]
    generalize stepped : Reference.navigation.step mode component cursor () = step at alike
    generalize HostedReference.navigation.step mode component hosted client = hostedStep at alike
    cases alike with
    | refused agrees notices after => exact .refused agrees notices after
    | reached follows notices =>
      have further := inductionHypothesis follows.mirrors (willing.called calls) restClean
        fun later => harmless (later.cons stepped)
      rw [follows.calls]
      dsimp only
      generalize Reference.navigation.walk mode rest _ () = walked at further
      generalize HostedReference.navigation.walk mode rest _ _ = hostedWalked at further
      cases further with
      | refused agrees others after => exact .refused agrees (notices ++ others) after
      | reached agrees others =>
        dsimp only
        rw [NativeClient.called_called]
        exact .reached agrees (notices ++ others)

/-- No operation on a reference changes how filters are made. -/
theorem HostedReference.makeFilter_refine (refinement : Refinement) (hosted : HostedReference)
    (client : NativeClient) :
    (hosted.refine refinement client).2.makeFilter = client.makeFilter := by
  have requested (operation : String) (arguments : List Value)
      (reached : Except Failure HostedReference) :
      (request operation arguments reached hosted client).2.makeFilter = client.makeFilter := by
    rw [request, NativeClient.invoke]
    cases client.refusal client.calls ⟨hosted.handle, operation, arguments⟩ <;> rfl
  cases refinement with
  | filter field operator value =>
    rw [refine, filterBy]
    split
    · split
      · rfl
      · exact requested "where" _ _
    · rfl
  | limit count =>
    rw [refine, refineBy]
    split
    · exact requested "limit" _ _
    · rfl
  | order field direction =>
    rw [refine, refineBy]
    split
    · exact requested "order_by" _ _
    · rfl

/-- Refinements of which one cannot be put to a client are refused. -/
theorem HostedReference.exists_refineAll_error {refinements : List Refinement}
    {client : NativeClient}
    (unmade : ∃ refinement ∈ refinements, ¬ refinement.IsPuttable client.makeFilter)
    (hosted : HostedReference) :
    ∃ failure after, navigation.refineAll refinements hosted client = (.error failure, after) := by
  induction refinements generalizing hosted client with
  | nil => simp at unmade
  | cons refinement rest inductionHypothesis =>
    rw [Navigation.refineAll]
    cases once : navigation.refine refinement hosted client with
    | mk outcome after =>
      cases outcome with
      | error failure => exact ⟨failure, after, rfl⟩
      | ok next =>
        obtain ⟨other, listed, unputtable⟩ := unmade
        rcases List.mem_cons.mp listed with same | later
        · rw [same] at unputtable
          obtain ⟨failure, refused⟩ := refine_of_not_isPuttable unputtable hosted
          rw [show navigation.refine refinement hosted client = (.error failure, client) from
            refused] at once
          cases once
        · have kept : after.makeFilter = client.makeFilter := by
            have made := makeFilter_refine refinement hosted client
            rwa [show hosted.refine refinement client = (.ok next, after) from once] at made
          exact inductionHypothesis ⟨other, later, kept ▸ unputtable⟩ next

/-! ### Building alike -/

/-- Two stores built the same: a reference to the same path, of the same kind, and the same
projection. -/
structure SameBuilt (built : Built Reference) (other : Built HostedReference) : Prop where
  path : other.reference.path = .text built.reference.path
  isCollection : other.reference.isCollection = built.reference.isCollection
  isDocument : other.reference.isDocument = built.reference.isDocument
  projection : other.projection = built.projection

theorem mirrorsCursor_start : MirrorsCursor (.start .root) (.start .root) where
  reference := ⟨nofun, rfl, rfl⟩
  expecting := rfl
  projection := rfl

theorem alike_build {client : NativeClient} (willing : client.IsWilling) (mode : BuildMode)
    {components : List Component} (clean : ∀ component ∈ components, component.IsClean)
    (harmless : ¬ MeetsUnmade client.makeFilter mode (.start .root) components) :
    Alike SameBuilt client (Component.nativeCalls client.makeFilter components)
      (Reference.build mode components) (HostedReference.build mode components client) := by
  have alike := mirrorsCursor_start.alike_walk willing mode clean harmless
  rw [Reference.build, HostedReference.build, Navigation.build, Navigation.build]
  generalize Reference.navigation.walk mode components (.start .root) () = walked at alike
  generalize HostedReference.navigation.walk mode components (.start .root) client =
    hostedWalked at alike
  cases alike with
  | refused agrees notices after => exact .refused agrees notices after
  | reached mirrors notices =>
    exact .reached ⟨mirrors.reference.path, mirrors.reference.isCollection,
      mirrors.reference.isDocument, mirrors.projection⟩ notices

theorem HostedReference.build_outcome (mode : BuildMode) (components : List Component)
    (client : NativeClient) : (build mode components client).outcome =
      (navigation.walk mode components (.start root) client).outcome.map fun cursor =>
        ⟨cursor.reference, cursor.projection⟩ := rfl

/-- A refinement that a collection takes in memory is part of what is built. -/
theorem Reference.exists_build_concat {mode : BuildMode} {before : List Component}
    {reached : Cursor Reference}
    (walked : (navigation.walk mode before (.start .root) ()).outcome = .ok reached)
    (collection : reached.reference.isCollection = true) {refinements : List Refinement}
    (acceptable : ∀ refinement ∈ refinements, refinement.IsAcceptable) :
    ∃ built, (build mode (before ++ [.collectionExpression refinements])).outcome = .ok built := by
  have refined : navigation.refineAll refinements reached.reference () =
      (.ok (reached.reference.refinedBy (refinements.map Refinement.call)), ()) :=
    Prod.ext ((refineAll_eq_ok_iff _ collection _).mpr ⟨acceptable, rfl⟩) rfl
  rw [build_outcome, Navigation.walk_concat]
  generalize navigation.walk mode before (.start .root) () = walk at walked
  obtain ⟨outcome, notices, state⟩ := walk
  cases walked
  dsimp only
  rw [Navigation.step, show navigation.isCollection reached.reference = true from collection,
    if_pos rfl, refined]
  exact ⟨_, rfl⟩

/-- A refinement that cannot be put to a client ends building where a collection would take it. -/
theorem HostedReference.build_concat_ne_ok {mode : BuildMode} {before : List Component}
    {client : NativeClient} {reached : Built HostedReference}
    (built : (build mode before client).outcome = .ok reached)
    (collection : reached.reference.isCollection = true) {refinements : List Refinement}
    (unmade : ∃ refinement ∈ refinements,
      ¬ refinement.IsPuttable (build mode before client).state.makeFilter)
    (other : Built HostedReference) :
    (build mode (before ++ [.collectionExpression refinements]) client).outcome ≠ .ok other := by
  have left : (build mode before client).state =
      (navigation.walk mode before (.start root) client).state := rfl
  rw [left] at unmade
  rw [build_outcome] at built ⊢
  rw [Navigation.walk_concat]
  generalize navigation.walk mode before (.start root) client = walk at built unmade
  obtain ⟨outcome, notices, after⟩ := walk
  cases outcome with
  | error failure => cases built
  | ok cursor =>
    cases built
    obtain ⟨failure, last, refused⟩ := exists_refineAll_error unmade cursor.reference
    dsimp only
    rw [Navigation.step, show navigation.isCollection cursor.reference = true from collection,
      if_pos rfl, refused]
    intro same
    cases same

/-- Building over a store in memory and over a hosted one whose client accepts every call goes alike
over every beginning of a query, with the calls of what was built, exactly if no collection is given
a filter that cannot be made for that client. -/
theorem alike_build_iff {client : NativeClient} (willing : client.IsWilling) (mode : BuildMode)
    {components : List Component} (clean : ∀ component ∈ components, component.IsClean) :
    (∀ taken, taken <+: components →
      Alike SameBuilt client (Component.nativeCalls client.makeFilter taken)
        (Reference.build mode taken) (HostedReference.build mode taken client)) ↔
      ¬ MeetsUnmade client.makeFilter mode (.start .root) components := by
  constructor
  · rintro alike ⟨before, refinements, after, reached, rfl, walked, collection, unmade⟩
    have acceptable := clean (.collectionExpression refinements) (by simp)
    have builtBefore : (Reference.build mode before).outcome =
        .ok ⟨reached.reference, reached.projection⟩ := by
      rw [Reference.build_outcome, walked]
      rfl
    obtain ⟨hosted, hostedBefore, same, left⟩ :=
      (alike before (List.prefix_append _ _)).exists_reached builtBefore
    obtain ⟨built, here⟩ := Reference.exists_build_concat walked collection acceptable
    obtain ⟨other, there, -⟩ :=
      (alike (before ++ [.collectionExpression refinements])
        ⟨after, by rw [List.append_assoc, List.singleton_append]⟩).exists_reached here
    exact HostedReference.build_concat_ne_ok hostedBefore (same.isCollection.trans collection)
      (by rw [left]; exact unmade) other there
  · rintro harmless taken ⟨others, rfl⟩
    refine alike_build willing mode (fun component member =>
      clean component (List.mem_append_left _ member)) ?_
    rintro ⟨before, refinements, after, reached, rfl, meets⟩
    exact harmless ⟨before, refinements, after ++ others, reached,
      by rw [List.append_assoc, List.cons_append], meets⟩

/-- Makes filters that compare null by equality only, and then as a test of its own. -/
def nullTests : FilterMaker := fun field operator value =>
  if value = .null then
    if operator = "==" then .ok [field, .int 3, value]
    else if operator = "!=" then .ok [field, .int 5, value]
    else .error (.foreign .refused
      "Only equality (\"==\") or not-equal (\"!=\") filters can be used with None or NaN values")
  else .ok [field, operator, value]

/-- A client that accepts every call, for which null is compared by equality only. -/
def NativeClient.testingNull : NativeClient := { NativeClient.willing with makeFilter := nullTests }

/-- A query whose filter tests for null. -/
def agedPeople : List Component :=
  [.literal "people", .collectionExpression [.filter "age" "!=" .null, .limit (.int 2)],
    .documentExpression ["name"]]

theorem isClean_agedPeople : ∀ component ∈ agedPeople, component.IsClean := by
  intro component member
  rcases List.mem_cons.mp member with rfl | member
  · exact ⟨by decide, by decide⟩
  rcases List.mem_cons.mp member with rfl | member
  · intro refinement listed
    rcases List.mem_cons.mp listed with rfl | listed
    · exact ⟨.unequal, rfl, nofun⟩
    · rw [List.mem_singleton.mp listed]
      exact ⟨2, rfl, by decide⟩
  · rw [List.mem_singleton.mp member]
    trivial

theorem alike_build_agedPeople : ¬ MeetsUnmade nullTests .strict (.start .root) agedPeople ∧
    ∀ taken, taken <+: agedPeople →
      Alike SameBuilt .testingNull (Component.nativeCalls nullTests taken)
        (Reference.build .strict taken) (HostedReference.build .strict taken .testingNull) := by
  have harmless : ¬ MeetsUnmade nullTests .strict (.start .root) agedPeople := by
    rintro ⟨before, refinements, after, reached, split, -, -, refinement, listed, unputtable⟩
    have member : Component.collectionExpression refinements ∈ agedPeople := by
      rw [split]
      exact List.mem_append_right _ List.mem_cons_self
    have same : refinements = [.filter "age" "!=" .null, .limit (.int 2)] := by
      simpa [agedPeople] using member
    rw [same, List.mem_cons, List.mem_singleton] at listed
    rcases listed with rfl | rfl
    · exact unputtable ⟨_, rfl⟩
    · exact unputtable trivial
  exact ⟨harmless,
    (@alike_build_iff .testingNull (fun _ _ => rfl) .strict _ isClean_agedPeople).mpr harmless⟩

/-- A query whose filter compares null by more than equality. -/
def peopleBelowNull : List Component :=
  [.literal "people", .collectionExpression [.filter "age" "<" .null]]

/-- Only the store in memory builds a query with a filter that cannot be made for the client. -/
theorem build_peopleBelowNull :
    (∀ component ∈ peopleBelowNull, component.IsClean) ∧ NativeClient.testingNull.IsWilling ∧
      (Reference.build .permissive peopleBelowNull).outcome =
        .ok ⟨⟨["people"], [⟨"age", .below, .null⟩], [], none⟩, .everything⟩ ∧
      ¬ Alike SameBuilt .testingNull (Component.nativeCalls nullTests peopleBelowNull)
        (Reference.build .permissive peopleBelowNull)
        (HostedReference.build .permissive peopleBelowNull .testingNull) := by
  have built : (Reference.build .permissive peopleBelowNull).outcome =
      .ok ⟨⟨["people"], [⟨"age", .below, .null⟩], [], none⟩, .everything⟩ := rfl
  refine ⟨fun component member => ?_, fun _ _ => rfl, built, fun alike => ?_⟩
  · rcases List.mem_cons.mp member with rfl | member
    · exact ⟨by decide, by decide⟩
    · rw [List.mem_singleton.mp member]
      exact List.forall_mem_singleton.mpr ⟨.below, rfl, nofun⟩
  · obtain ⟨other, there, -⟩ := alike.exists_reached built
    cases there

end DocQuery
