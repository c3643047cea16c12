/-
This file proves that a string of JSON text is read as the text it was written for.

The writer leaves few characters as they are. Some it writes behind a backslash, and all others as
the code units of their escapes, two for a character beyond the first plane. Each of these forms is
one step of the reader: it takes as many characters of the text as the writer has put there, and
yields the one they stand for. A string is then read by induction on its characters. Halves are left
out, since two of them side by side are read as one character.
-/

import DocQuery.Json.Printer
import DocQuery.Json.Reader
import DocQuery.Text.Utf8
import Mathlib.Tactic.SplitIfs

namespace DocQuery

namespace Text

@[simp] theorem ofChars_nil : ofChars [] = [] := rfl

@[simp] theorem ofChars_cons (c : Char) (content : List Char) :
    ofChars (c :: content) = .char c :: ofChars content := rfl

@[simp] theorem ofChars_append (content other : List Char) :
    ofChars (content ++ other) = ofChars content ++ ofChars other := List.map_append

/-! ### Hexadecimal digits -/

theorem hexadecimal_one {digit : Nat} (small : digit < 16) :
    hexadecimal 1 digit = [digit.digitChar] := by
  rw [hexadecimal, Nat.toDigits_of_lt_base small]
  rfl

/-- The last digit stands behind the others. -/
theorem hexadecimal_succ (width code : Nat) :
    hexadecimal (width + 2) code =
      hexadecimal (width + 1) (code / 16) ++ [(code % 16).digitChar] := by
  rw [hexadecimal, hexadecimal, DecimalStyle.padded, DecimalStyle.padded,
    Nat.toDigits_eq_if (by decide)]
  split
  · next small =>
    rw [Nat.div_eq_of_lt small, Nat.mod_eq_of_lt small, Nat.toDigits_of_lt_base (by decide)]
    exact congrArg (· ++ [code.digitChar]) List.replicate_succ'
  · have zeros (others : Nat) : width + 2 - (others + 1) = width + 1 - others := by omega
    rw [List.length_append, List.length_singleton, zeros, List.append_assoc]

end Text

namespace Json

theorem hexValue?_digitChar : ∀ digit < 16, hexValue? digit.digitChar = some digit := by
  decide

/-- Four digits are read as the code unit they were written for. -/
theorem readUnit_hexadecimal {code : Nat} (small : code < 0x10000) (rest : Text) :
    readUnit (.ofChars (Text.hexadecimal 4 code) ++ rest) = some (code, rest) := by
  have first := hexValue?_digitChar (code / 16 / 16 / 16) (by omega)
  have second := hexValue?_digitChar (code / 16 / 16 % 16) (by omega)
  have third := hexValue?_digitChar (code / 16 % 16) (by omega)
  have fourth := hexValue?_digitChar (code % 16) (by omega)
  rw [Text.hexadecimal_succ, Text.hexadecimal_succ, Text.hexadecimal_succ,
    Text.hexadecimal_one (by omega)]
  simp only [Text.ofChars_cons, Text.ofChars_nil, List.cons_append, List.nil_append, readUnit,
    first, second, third, fourth]
  congr 2
  omega

/-! ### Escapes -/

/-- The code of a character is no surrogate. -/
theorem toNat_isValidChar (c : Char) :
    c.toNat < 0xd800 ∨ 0xdfff < c.toNat ∧ c.toNat < 0x110000 := by
  have valid : c.val.toNat.isValidChar := c.valid
  rw [Nat.isValidChar] at valid
  rwa [Char.toNat]

theorem ofUnit_toNat (c : Char) : CodePoint.ofUnit c.toNat = .char c := by
  have valid := toNat_isValidChar c
  rw [CodePoint.ofUnit, if_neg (by rw [CodePoint.firstHalf]; omega), Char.ofNat_toNat]

/-- The digits of a code that is no surrogate are read as the character of the code. -/
theorem readCodeEscape_toNat {c : Char} (small : c.toNat < 0x10000) (rest : Text) :
    readCodeEscape (.ofChars (Text.hexadecimal 4 c.toNat) ++ rest) = some (.char c, rest) := by
  have valid := toNat_isValidChar c
  rw [readCodeEscape, readUnit_hexadecimal small]
  dsimp only
  rw [if_neg (by omega), ofUnit_toNat]

theorem readLowSurrogate_unitEscape {code : Nat} (least : 0xdc00 ≤ code) (most : code ≤ 0xdfff)
    (rest : Text) : readLowSurrogate (.ofChars (unitEscape code) ++ rest) = some (code, rest) := by
  rw [unitEscape, Text.ofChars_cons, Text.ofChars_cons, List.cons_append, List.cons_append,
    readLowSurrogate, if_pos ⟨rfl, rfl⟩, readUnit_hexadecimal (by omega)]
  dsimp only
  rw [if_pos ⟨least, most⟩]

/-- A higher surrogate and the lower one behind it are read as the character they stand for. -/
theorem readCodeEscape_pair {c : Char} (large : 0x10000 ≤ c.toNat) (rest : Text) :
    readCodeEscape (.ofChars (Text.hexadecimal 4 (0xd800 + (c.toNat - 0x10000) / 0x400)) ++
        (.ofChars (unitEscape (0xdc00 + (c.toNat - 0x10000) % 0x400)) ++ rest)) =
      some (.char c, rest) := by
  have valid := toNat_isValidChar c
  generalize high : 0xd800 + (c.toNat - 0x10000) / 0x400 = first
  generalize low : 0xdc00 + (c.toNat - 0x10000) % 0x400 = second
  have code : 0x10000 + (first - 0xd800) * 0x400 + (second - 0xdc00) = c.toNat := by omega
  rw [readCodeEscape, readUnit_hexadecimal (by omega)]
  dsimp only
  rw [if_pos (by omega), readLowSurrogate_unitEscape (by omega) (by omega)]
  dsimp only
  rw [code, Char.ofNat_toNat]

/-! ### Strings -/

/-- The reader takes an escape by code units whole. -/
theorem readString_of_readCodeEscape (fuel : Nat) {digits : List Char} {rest after : Text}
    {found : CodePoint} (read : readCodeEscape (.ofChars digits ++ rest) = some (found, after)) :
    readString (fuel + 1) (.ofChars (Text.backslash :: 'u' :: digits) ++ rest) =
      (readString fuel after).map fun reading => (found :: reading.1, reading.2) := by
  have quoteApart : Text.backslash ≠ Text.doubleQuote := by decide
  simp only [Text.ofChars_cons, List.cons_append, readString, if_neg quoteApart, if_true, read]

theorem readString_charEscape (fuel : Nat) (c : Char) (rest : Text) :
    readString (fuel + 1) (.ofChars (charEscape c.toNat) ++ rest) =
      (readString fuel rest).map fun reading => (.char c :: reading.1, reading.2) := by
  unfold charEscape
  by_cases small : c.toNat < 0x10000
  · rw [if_pos small]
    exact readString_of_readCodeEscape fuel (readCodeEscape_toNat small rest)
  · rw [if_neg small, Text.ofChars_append, List.append_assoc]
    exact readString_of_readCodeEscape fuel (readCodeEscape_pair (Nat.le_of_not_lt small) rest)

/-- The letter behind a backslash is read as the character that it stands for. -/
theorem shortEscape?_of_escapeLetter? {c letter : Char} (short : escapeLetter? c = some letter) :
    letter ≠ 'u' ∧ shortEscape? letter = some c := by
  unfold escapeLetter? at short
  split_ifs at short with quoted newline carriage tab feed back <;> cases short
  · obtain rfl | rfl := quoted <;> decide
  · exact ⟨by decide, by rw [newline]; decide⟩
  · exact ⟨by decide, by rw [carriage]; decide⟩
  · exact ⟨by decide, by rw [tab]; decide⟩
  · exact ⟨by decide, by rw [← Char.ofNat_toNat c, feed]; decide⟩
  · exact ⟨by decide, by rw [← Char.ofNat_toNat c, back]; decide⟩

/-- However a character is written, the reader takes it in one step. -/
theorem readString_printChar (fuel : Nat) (c : Char) (rest : Text) :
    readString (fuel + 1) (.ofChars (printChar c) ++ rest) =
      (readString fuel rest).map fun reading => (.char c :: reading.1, reading.2) := by
  have quoteApart : Text.backslash ≠ Text.doubleQuote := by decide
  unfold printChar
  cases short : escapeLetter? c with
  | some letter =>
    obtain ⟨apart, stands⟩ := shortEscape?_of_escapeLetter? short
    simp only [Text.ofChars_cons, Text.ofChars_nil, List.cons_append, List.nil_append, readString,
      if_neg quoteApart, if_true, if_neg apart, stands]
  | none =>
    by_cases plain : 0x20 ≤ c.toNat ∧ c.toNat < 0x7f
    · have noQuote : c ≠ Text.doubleQuote := fun same => by simp [escapeLetter?, same] at short
      have noSlash : c ≠ Text.backslash := fun same => by simp [escapeLetter?, same] at short
      simp only [if_pos plain, Text.ofChars_cons, Text.ofChars_nil, List.cons_append,
        List.nil_append, readString, if_neg noQuote, if_neg noSlash, if_neg (Nat.not_lt.mpr plain.1)]
    · simp only [if_neg plain]
      exact readString_charEscape fuel c rest

/-- Whether a text is made of characters alone. -/
def isWhole (content : Text) : Bool := content.all fun point => !Text.isHalf point

/-- A written text is read up to its closing quote. -/
theorem readString_printPoints {content : Text} (whole : isWhole content) (fuel : Nat)
    (enough : content.length < fuel) (rest : Text) :
    readString fuel (.ofChars (content.flatMap printPoint) ++ .char Text.doubleQuote :: rest) =
      .ok (content, rest) := by
  induction content generalizing fuel with
  | nil =>
    obtain ⟨fuel, rfl⟩ := Nat.exists_eq_add_one_of_ne_zero (Nat.ne_of_gt enough)
    simp [readString]
  | cons point content inductionHypothesis =>
    obtain ⟨fuel, rfl⟩ := Nat.exists_eq_add_one_of_ne_zero (Nat.ne_of_gt (Nat.zero_lt_of_lt enough))
    cases point with
    | half offset => simp [isWhole, Text.isHalf] at whole
    | char c =>
      have others : isWhole content := by simpa [isWhole, Text.isHalf] using whole
      rw [List.flatMap_cons, Text.ofChars_append, List.append_assoc, printPoint,
        readString_printChar,
        inductionHypothesis others fuel (Nat.lt_of_succ_lt_succ enough)]
      rfl

/-- A character is written with one character at least. -/
theorem length_le_length_printText (content : Text) :
    content.length + 2 ≤ (printText content).length := by
  have points (point : CodePoint) : 0 < (printPoint point).length := by
    cases point with
    | char c =>
      rw [printPoint, printChar]
      split
      · exact Nat.zero_lt_succ _
      · split
        · exact Nat.zero_lt_succ _
        · rw [charEscape]
          split <;> exact Nat.zero_lt_succ _
    | half offset => exact Nat.zero_lt_succ _
  have all : content.length ≤ (content.flatMap printPoint).length := by
    induction content with
    | nil => exact Nat.zero_le _
    | cons point content inductionHypothesis =>
      have first := points point
      rw [List.flatMap_cons, List.length_append, List.length_cons]
      omega
  rw [printText, List.length_append, List.length_cons, List.length_singleton]
  omega

end Json

end DocQuery
