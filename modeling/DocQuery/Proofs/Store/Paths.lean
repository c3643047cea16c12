/-
This file proves that paths and clean locations stand for each other.

A location is clean if none of its segments is empty or holds a slash. Cutting a path leaves a
clean location, since empty pieces do not count; and a clean location is found again in its path,
since no slash in the path but those between the segments can be cut at. The empty location has
the empty path, which has an empty piece, so it is found again as well.

Navigation gives names only that are neither empty nor hold a slash, and refinement gives none. So
whatever is reached from the root is clean, and is located by its path alone.
-/

import DocQuery.Proofs.Store.Locations

namespace DocQuery

namespace Segments

/-! ### Clean locations -/

/-- A location of which no segment is empty or holds a slash. -/
def IsClean (segments : Segments) : Prop :=
  ∀ segment ∈ segments, segment ≠ [] ∧ .char '/' ∉ segment

theorem isClean_nil : IsClean [] := nofun

theorem IsClean.concat {segments : Segments} (clean : segments.IsClean) {name : Text}
    (filled : name ≠ []) (slashless : .char '/' ∉ name) : IsClean (segments ++ [name]) := by
  intro segment member
  rcases List.mem_append.mp member with old | new
  · exact clean segment old
  · rw [List.mem_singleton.mp new]
    exact ⟨filled, slashless⟩

theorem isClean_ofPath (path : Text) : (ofPath path).IsClean := by
  intro segment member
  obtain ⟨piece, filled⟩ := List.mem_filter.mp member
  exact ⟨of_decide_eq_true filled, Text.separator_not_mem_of_mem_split _ path segment piece⟩

/-- A clean location is that of its path. -/
theorem IsClean.ofPath_path {segments : Segments} (clean : segments.IsClean) :
    ofPath segments.path = segments := by
  cases segments with
  | nil => rfl
  | cons first rest =>
    have cut : Text.split '/' (path (first :: rest)) = first :: rest :=
      Text.split_join '/' _ (List.cons_ne_nil first rest) fun segment member =>
        (clean segment member).2
    rw [ofPath, cut]
    exact List.filter_eq_self.mpr fun segment member => decide_eq_true (clean segment member).1

/-- Clean locations with one path are one. -/
theorem IsClean.path_inj {segments other : Segments} (clean : segments.IsClean)
    (otherClean : other.IsClean) (same : segments.path = other.path) : segments = other := by
  rw [← clean.ofPath_path, same, otherClean.ofPath_path]

end Segments

/-! ### What navigation reaches -/

namespace Reference

theorem clean_of_segmentName {name : Value} {content : Text}
    (named : segmentName name = .ok content) : content ≠ [] ∧ .char '/' ∉ content := by
  rw [segmentName] at named
  split at named
  · next found _ =>
    split at named
    · cases named
    · next fits =>
      cases named
      exact not_or.mp fits
  · cases named

/-- A name that an accepted call gives is neither empty nor holds a slash. -/
theorem clean_of_call {call : NavigationCall} {reference reached : Reference}
    (called : reference.call call = .ok reached) {name : Text} (given : call.name? = some name) :
    name ≠ [] ∧ .char '/' ∉ name := by
  cases call with
  | collection value | document value =>
    simp only [call, collection, document] at called
    split at called
    · cases called
    · next content named =>
      obtain rfl := Option.some.inj ((asText?_of_segmentName named).symm.trans given)
      exact clean_of_segmentName named
  | filter _ _ _ | orderBy _ _ | limit _ => cases given

theorem isClean_of_call {call : NavigationCall} {reference reached : Reference}
    (clean : reference.segments.IsClean) (called : reference.call call = .ok reached) :
    reached.segments.IsClean := by
  rw [segments_of_call called]
  cases given : call.name? with
  | none => exact (List.append_nil reference.segments).symm ▸ clean
  | some name =>
    obtain ⟨filled, slashless⟩ := clean_of_call called given
    exact clean.concat filled slashless

theorem isClean_of_callAll {calls : List NavigationCall} {reference reached : Reference}
    (clean : reference.segments.IsClean) (called : reference.callAll calls = .ok reached) :
    reached.segments.IsClean := by
  induction calls generalizing reference with
  | nil =>
    cases called
    exact clean
  | cons call rest inductionHypothesis =>
    rw [callAll] at called
    split at called
    · cases called
    · next next stepped => exact inductionHypothesis (isClean_of_call clean stepped) called

/-- Whatever calls reach from the root has a clean location. -/
theorem isClean_of_root {calls : List NavigationCall} {reached : Reference}
    (called : root.callAll calls = .ok reached) : reached.segments.IsClean :=
  isClean_of_callAll Segments.isClean_nil called

end Reference

end DocQuery
