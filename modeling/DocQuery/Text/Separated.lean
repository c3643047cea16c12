/-
This file cuts texts at a separator and joins pieces with one.

A text with `n` separators has `n + 1` pieces, some of them possibly empty, and joining the
pieces gives the text back. The pieces hold no separator; conversely the join of any pieces
without separators is cut into those pieces again.
-/

import DocQuery.Text.Basic

namespace DocQuery.Text

/-- The pieces of a text between the separators. -/
def split (separator : CodePoint) : Text → List Text
  | [] => [[]]
  | point :: rest =>
    if point = separator then [] :: split separator rest
    else
      match split separator rest with
      | [] => [[point]]
      | piece :: others => (point :: piece) :: others

/-- The pieces with one separator between each and the next. -/
def join (separator : CodePoint) : List Text → Text
  | [] => []
  | [piece] => piece
  | piece :: rest => piece ++ separator :: join separator rest

/-- The part of a text behind the last separator; the whole text if there is none. -/
def afterLast (separator : CodePoint) (text : Text) : Text :=
  (split separator text).getLast?.getD []

theorem split_ne_nil (separator : CodePoint) (text : Text) : split separator text ≠ [] := by
  cases text with
  | nil => simp [split]
  | cons point rest =>
    rw [split]
    split
    · simp
    · split <;> simp

/-- Joining the pieces of a text gives the text back. -/
theorem join_split (separator : CodePoint) (text : Text) :
    join separator (split separator text) = text := by
  induction text with
  | nil => rfl
  | cons point rest inductionHypothesis =>
    rw [split]
    split
    · next same =>
      cases cut : split separator rest with
      | nil => exact absurd cut (split_ne_nil separator rest)
      | cons piece others =>
        rw [join, ← cut, inductionHypothesis, same]
        · rfl
        · simp
    · next different =>
      cases cut : split separator rest with
      | nil => exact absurd cut (split_ne_nil separator rest)
      | cons piece others =>
        rw [cut] at inductionHypothesis
        cases others with
        | nil => simpa [join] using inductionHypothesis
        | cons next others => simpa [join] using inductionHypothesis

/-- No piece holds the separator. -/
theorem separator_not_mem_of_mem_split (separator : CodePoint) (text : Text) :
    ∀ piece ∈ split separator text, separator ∉ piece := by
  induction text with
  | nil => simp [split]
  | cons point rest inductionHypothesis =>
    rw [split]
    split
    · simpa using inductionHypothesis
    · next different =>
      cases cut : split separator rest with
      | nil => exact absurd cut (split_ne_nil separator rest)
      | cons piece others =>
        rw [cut] at inductionHypothesis
        intro found member
        rcases List.mem_cons.1 member with rfl | member
        · simp only [List.mem_cons, not_or]
          exact ⟨Ne.symm different, inductionHypothesis piece (by simp)⟩
        · exact inductionHypothesis found (by simp [member])

/-- A text without the separator is one piece. -/
theorem split_of_not_mem (separator : CodePoint) (text : Text) (absent : separator ∉ text) :
    split separator text = [text] := by
  induction text with
  | nil => rfl
  | cons point rest inductionHypothesis =>
    simp only [List.mem_cons, not_or] at absent
    rw [split, if_neg (Ne.symm absent.1), inductionHypothesis absent.2]

/-- The pieces of two texts with a separator between them are those of the one and then those of the
other. -/
theorem split_append_cons (separator : CodePoint) (first second : Text) :
    split separator (first ++ separator :: second) =
      split separator first ++ split separator second := by
  induction first with
  | nil => simp [split]
  | cons point rest inductionHypothesis =>
    rw [List.cons_append, split, split, inductionHypothesis]
    split
    · exact (List.cons_append ..).symm
    · cases cut : split separator rest with
      | nil => exact absurd cut (split_ne_nil separator rest)
      | cons piece others => rfl

/-- Pieces without separators are found again in their join. -/
theorem split_join (separator : CodePoint) (parts : List Text) (nonempty : parts ≠ [])
    (clean : ∀ part ∈ parts, separator ∉ part) :
    split separator (join separator parts) = parts := by
  induction parts with
  | nil => exact absurd rfl nonempty
  | cons part rest inductionHypothesis =>
    cases rest with
    | nil => exact split_of_not_mem separator part (clean part (by simp))
    | cons next others =>
      rw [join, split_append_cons, split_of_not_mem separator part (clean part (by simp)),
        inductionHypothesis (by simp) fun found member => clean found (by simp [member])]
      · rfl
      · simp

end DocQuery.Text
