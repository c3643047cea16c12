/-
This file defines texts.

A text is a list of code points, so that everything said of lists holds of texts. A `String` stands
for the text of its characters wherever a text is expected; the texts that arise this way are those
without halves, and no two strings stand for one text. Texts are equal when they have the same code
points and are ordered by the first one in which they differ.
-/

import DocQuery.Text.CodePoint

namespace DocQuery

abbrev Text := List CodePoint

namespace Text

def ofString (content : String) : Text := content.toList.map .char

instance : Coe String Text := ⟨ofString⟩

def ofChars (content : List Char) : Text := content.map .char

/-- A text as a string. It has the replacement character in place of each half. -/
def shown (text : Text) : String := String.ofList (text.map CodePoint.shown)

/-- The string of a text is the one it was made of. -/
@[simp] theorem shown_ofString (content : String) : shown (ofString content) = content := by
  have back : (fun c => (CodePoint.char c).shown) = (id : Char → Char) := rfl
  rw [shown, ofString, List.map_map, Function.comp_def, back, List.map_id, String.ofList_toList]

/-- Two strings never stand for one text. -/
@[simp] theorem ofString_inj (content other : String) :
    ofString content = ofString other ↔ content = other := by
  refine ⟨fun same => ?_, fun same => by rw [same]⟩
  rw [← shown_ofString content, same, shown_ofString]

/-- The text of two strings, one behind the other. -/
theorem ofString_append (content other : String) :
    ofString (content ++ other) = ofString content ++ ofString other := by
  rw [ofString, String.toList_append, List.map_append]
  rfl

/-! ### Order -/

theorem lt_irrefl (text : Text) : ¬ text < text :=
  List.lex_irrefl (fun point => Nat.lt_irrefl point.code) text

theorem lt_trans {first second third : Text} (below : first < second) (further : second < third) :
    first < third :=
  List.lex_trans (fun below further => Nat.lt_trans below further) below further

/-- Of two texts that differ, one is below the other. -/
theorem lt_or_lt_of_ne {text other : Text} (different : text ≠ other) :
    text < other ∨ other < text := by
  induction text generalizing other with
  | nil =>
    cases other with
    | nil => exact absurd rfl different
    | cons point rest => exact .inl List.Lex.nil
  | cons point rest inductionHypothesis =>
    cases other with
    | nil => exact .inr List.Lex.nil
    | cons first others =>
      rw [List.cons_lt_cons_iff, List.cons_lt_cons_iff]
      by_cases same : point = first
      · subst same
        have apart : rest ≠ others := fun equal => different (by rw [equal])
        exact (inductionHypothesis apart).imp (fun below => .inr ⟨rfl, below⟩)
          fun below => .inr ⟨rfl, below⟩
      · have codes : point.code ≠ first.code := fun equal => same (CodePoint.code_inj equal)
        exact (Nat.lt_or_gt_of_ne codes).imp .inl .inl

theorem not_lt_trans {first second third : Text} (notBelow : ¬ first < second)
    (further : ¬ second < third) : ¬ first < third := by
  intro below
  by_cases same : second = third
  · exact notBelow (same ▸ below)
  · exact notBelow (lt_trans below ((lt_or_lt_of_ne same).resolve_left further))

end Text

end DocQuery
