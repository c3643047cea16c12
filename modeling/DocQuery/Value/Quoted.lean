/-
This file writes values as they appear in messages.

A value has two written forms. The quoted form shows texts between quotes, with an escape for
every character that cannot be shown; the displayed form differs from it only in that a text
is shown bare. Inside lists and maps everything is quoted. Texts stand between single quotes,
unless they hold one and hold no double quote.
-/

import DocQuery.Number.Decimal
import DocQuery.Text.Printable
import DocQuery.Value.Basic

namespace DocQuery

namespace Text

/-! ### Quoting -/

def singleQuote : Char := Char.ofNat 39

def doubleQuote : Char := Char.ofNat 34

def backslash : Char := Char.ofNat 92

/-- The quote that stands around a text. -/
def quoteFor (content : Text) : Char :=
  if content.contains (.char singleQuote) && !content.contains (.char doubleQuote) then doubleQuote
  else singleQuote

/-- A code as hexadecimal digits of a fixed width. -/
def hexadecimal (width : Nat) (code : Nat) : List Char :=
  DecimalStyle.padded width (Nat.toDigits 16 code)

/-- The escape of a character that has no short one: as few digits as its code allows of two,
four and eight. -/
def codeEscape (code : Nat) : List Char :=
  if code < 0x100 then backslash :: 'x' :: hexadecimal 2 code
  else if code < 0x10000 then backslash :: 'u' :: hexadecimal 4 code
  else backslash :: 'U' :: hexadecimal 8 code

/-- The escape of a character between two quotes, if its code has a short one. -/
def shortEscape? (quote : Char) (c : Char) : Option (List Char) :=
  if c = quote ∨ c = backslash then some [backslash, c]
  else if c = '\n' then some [backslash, 'n']
  else if c = '\r' then some [backslash, 'r']
  else if c = '\t' then some [backslash, 't']
  else none

/-- A character between two quotes. -/
def quotedChar (quote : Char) (c : Char) : List Char :=
  match shortEscape? quote c with
  | some escape => escape
  | none => if isPrintable c then [c] else codeEscape c.toNat

/-- A code point between two quotes; a half is written by its code. -/
def quotedPoint (quote : Char) : CodePoint → List Char
  | .char c => quotedChar quote c
  | .half offset => codeEscape (CodePoint.half offset).code

/-- A text between quotes. -/
def quoted (content : Text) : List Char :=
  let quote := quoteFor content
  quote :: content.flatMap (quotedPoint quote) ++ [quote]

/-- A byte between two quotes: shown as the character of its code if that is printable. -/
def quotedByte (quote : Char) (byte : UInt8) : List Char :=
  match shortEscape? quote (Char.ofNat byte.toNat) with
  | some escape => escape
  | none =>
    if 0x20 ≤ byte.toNat ∧ byte.toNat < 0x7f then [Char.ofNat byte.toNat]
    else codeEscape byte.toNat

/-- Bytes between quotes, marked as bytes. -/
def quotedBytes (content : List UInt8) : List Char :=
  let quote := quoteFor (content.map fun byte => .char (Char.ofNat byte.toNat))
  'b' :: quote :: content.flatMap (quotedByte quote) ++ [quote]

/-- An integer in decimal notation. -/
def integer (number : Int) : List Char :=
  if number < 0 then '-' :: Nat.toDigits 10 number.natAbs else Nat.toDigits 10 number.natAbs

/-- Items with a comma and a space between each and the next. -/
def commaSeparated : List (List Char) → List Char
  | [] => []
  | [item] => item
  | item :: rest => item ++ ',' :: ' ' :: commaSeparated rest

end Text

namespace Direction

def name : Direction → String
  | .ascending => "Direction.ASCENDING"
  | .descending => "Direction.DESCENDING"

end Direction

/-- The quoted form of a key. -/
def Key.quotedChars : Key → List Char
  | .null => "None".toList
  | .bool flag => (if flag then "True" else "False").toList
  | .int number => Text.integer number
  | .float number => number.write Binary64.shownWords
  | .text content => Text.quoted content
  | .bytes content => Text.quotedBytes content

namespace Value

/-! ### Values -/

mutual
/-- The quoted form of a value. -/
def quotedChars : Value → List Char
  | .null => "None".toList
  | .bool flag => (if flag then "True" else "False").toList
  | .int number => Text.integer number
  | .float number => number.write Binary64.shownWords
  | .text content => Text.quoted content
  | .bytes content => Text.quotedBytes content
  | .list items => '[' :: Text.commaSeparated (quotedItems items) ++ [']']
  | .map entries => '\x7b' :: Text.commaSeparated (quotedEntries entries) ++ ['\x7d']
  | .direction sense =>
    '<' :: sense.name.toList ++ [':', ' '] ++ Text.quoted sense.code ++ ['>']
/-- The quoted forms of list items. -/
def quotedItems : List Value → List (List Char)
  | [] => []
  | item :: rest => quotedChars item :: quotedItems rest
/-- The quoted forms of entries: key, colon, value. -/
def quotedEntries : List (Key × Value) → List (List Char)
  | [] => []
  | (key, value) :: rest =>
    (key.quotedChars ++ ':' :: ' ' :: quotedChars value) :: quotedEntries rest
end

/-- The quoted form of a value. -/
def quoted (value : Value) : String := String.ofList value.quotedChars

/-- The displayed form of a value: a text is shown bare, all else is quoted. -/
def displayed : Value → Text
  | .text content => content
  | .direction sense => sense.name
  | value => value.quoted

@[simp] theorem displayed_text (content : Text) : displayed (.text content) = content := rfl

end Value

/-- A text between quotes. -/
def quotedText (content : Text) : String := String.ofList (Text.quoted content)

end DocQuery
