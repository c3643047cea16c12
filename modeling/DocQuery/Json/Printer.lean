/-
This file writes values as JSON text.

Only characters of seven bits appear: all others are written as escapes of their code units,
two of them for a character beyond the first plane. A layout without an indentation puts
everything on one line; with one, every item stands on a line of its own, indented by its
depth. Numbers without digits get the words that readers of this format agree on.

JSON has no bytes. `Json.print` writes them as the text of their quoted form; the lenient writer
`Value.toShownJson` lets this stand for values, and the strict one, `Value.toJson`, does not. A key
that is no text is written as the text of its JSON form, and bytes are no key for either writer.

A writer has the limits of a reader: it writes no integer of more digits than `Json.digitLimit`, and
goes into no more lists and maps inside each other than it is told to. The first thing that it cannot
write, in the order of the text, is what it fails with.
-/

import DocQuery.Json.Reader

namespace DocQuery

/-- How JSON text is laid out: on one line, or with items on lines of their own. -/
inductive JsonLayout
  | oneLine
  | indented (width : Nat)
  deriving DecidableEq, Repr

/-- The layout of an indentation; no width is negative. -/
def JsonLayout.ofIndent : Option Int → JsonLayout
  | none => .oneLine
  | some width => .indented width.toNat

namespace Json

/-! ### Texts -/

/-- The words for numbers that have no digits. -/
def numberWords : NumberWords := ⟨"NaN".toList, "Infinity".toList⟩

def unitEscape (code : Nat) : List Char :=
  Text.backslash :: 'u' :: Text.hexadecimal 4 code

/-- The escape of a character: of its code, or of the two surrogates that stand for it. -/
def charEscape (code : Nat) : List Char :=
  if code < 0x10000 then unitEscape code
  else
    unitEscape (0xd800 + (code - 0x10000) / 0x400) ++
      unitEscape (0xdc00 + (code - 0x10000) % 0x400)

/-- The letter that stands for a character behind a backslash, if it has one. -/
def escapeLetter? (c : Char) : Option Char :=
  if c = Text.doubleQuote ∨ c = Text.backslash then some c
  else if c = '\n' then some 'n'
  else if c = '\r' then some 'r'
  else if c = '\t' then some 't'
  else if c.toNat = 0x0c then some 'f'
  else if c.toNat = 0x08 then some 'b'
  else none

/-- A character inside a JSON string. -/
def printChar (c : Char) : List Char :=
  match escapeLetter? c with
  | some letter => [Text.backslash, letter]
  | none => if 0x20 ≤ c.toNat ∧ c.toNat < 0x7f then [c] else charEscape c.toNat

/-- A code point inside a JSON string; a half is written by its code. -/
def printPoint : CodePoint → List Char
  | .char c => printChar c
  | .half offset => unitEscape (CodePoint.half offset).code

/-- A text as a JSON string. -/
def printText (content : Text) : List Char :=
  Text.doubleQuote :: content.flatMap printPoint ++ [Text.doubleQuote]

/-! ### Layout -/

/-- What stands in front of an item at a depth. -/
def lineStart (layout : JsonLayout) (depth : Nat) : List Char :=
  match layout with
  | .oneLine => []
  | .indented width => '\n' :: List.replicate (width * depth) ' '

/-- What stands between two items at a depth. -/
def between (layout : JsonLayout) (depth : Nat) : List Char :=
  match layout with
  | .oneLine => [',', ' ']
  | .indented _ => ',' :: lineStart layout depth

/-- Items between brackets: nothing between the brackets if there are none. -/
def enclosed (layout : JsonLayout) (depth : Nat) (opening closing : Char)
    (items : List (List Char)) : List Char :=
  match items with
  | [] => [opening, closing]
  | first :: rest =>
    opening :: lineStart layout (depth + 1) ++ first ++
      rest.flatMap (between layout (depth + 1) ++ ·) ++ lineStart layout depth ++ [closing]

/-! ### Values -/

/-- A key as a JSON string: what is no text stands for the text of its JSON form. -/
def printKey : Key → List Char
  | .null => printText "null"
  | .bool flag => printText (if flag then "true" else "false")
  | .int number => printText (.ofChars (Text.integer number))
  | .float number => printText (.ofChars (number.write numberWords))
  | .text content => printText content
  | .bytes content => printText (.ofChars (Text.quotedBytes content))

mutual
/-- A value as JSON text at a depth. -/
def printValue (layout : JsonLayout) (depth : Nat) : Value → List Char
  | .null => "null".toList
  | .bool flag => (if flag then "true" else "false").toList
  | .int number => Text.integer number
  | .float number => number.write numberWords
  | .text content => printText content
  | .bytes content => printText (.ofChars (Text.quotedBytes content))
  | .list items => enclosed layout depth '[' ']' (printItems layout (depth + 1) items)
  | .map entries => enclosed layout depth '\x7b' '\x7d' (printEntries layout (depth + 1) entries)
  | .direction sense => printText sense.code
/-- List items as JSON texts. -/
def printItems (layout : JsonLayout) (depth : Nat) : List Value → List (List Char)
  | [] => []
  | item :: rest => printValue layout depth item :: printItems layout depth rest
/-- Entries as JSON texts: key, colon, value. -/
def printEntries (layout : JsonLayout) (depth : Nat) :
    List (Key × Value) → List (List Char)
  | [] => []
  | (key, value) :: rest =>
    (printKey key ++ ':' :: ' ' :: printValue layout depth value) ::
      printEntries layout depth rest
end

/-- A value as JSON text. -/
def print (layout : JsonLayout) (value : Value) : String :=
  String.ofList (printValue layout 0 value)

/-! ### Values that are not written -/

/-- Why a value is not written: it has bytes where JSON has no form for them, an integer in it has
more digits than are written, or a list or a map lies too deep. -/
inductive WriteFault
  | bytes
  | byteKey
  | tooManyDigits
  | tooDeep
  deriving DecidableEq, Repr

def WriteFault.failure : WriteFault → Failure
  | .bytes => .foreign .unsuitable "Object of type bytes is not JSON serializable"
  | .byteKey => .foreign .unsuitable "keys must be str, int, float, bool or None, not bytes"
  | .tooManyDigits =>
    .foreign .refused ("Exceeds the limit (" ++ toString digitLimit ++
      " digits) for integer string conversion; use sys.set_int_max_str_digits() to increase the limit")
  | .tooDeep => .foreign .excessive "maximum recursion depth exceeded while encoding a JSON object"

def digitFault? (number : Int) : Option WriteFault :=
  if digitLimit < (Nat.toDigits 10 number.natAbs).length then some .tooManyDigits else none

def keyFault? : Key → Option WriteFault
  | .bytes _ => some .byteKey
  | .int number => digitFault? number
  | _ => none

mutual
/-- What is wrong at the first place where a value is not written, if it may have so many lists and
maps inside each other. Bytes that are no key are in order if they are shown. -/
def writeFault? (shown : Bool) (levels : Nat) : Value → Option WriteFault
  | .int number => digitFault? number
  | .bytes _ => if shown then none else some .bytes
  | .list items =>
    match levels with
    | 0 => some .tooDeep
    | inner + 1 => writeFaultOfItems? shown inner items
  | .map entries =>
    match levels with
    | 0 => some .tooDeep
    | inner + 1 => writeFaultOfEntries? shown inner entries
  | _ => none
/-- What is wrong with the first item that is not written. -/
def writeFaultOfItems? (shown : Bool) (levels : Nat) : List Value → Option WriteFault
  | [] => none
  | item :: rest => (writeFault? shown levels item).or (writeFaultOfItems? shown levels rest)
/-- What is wrong with the first entry that is not written; its key is looked at first. -/
def writeFaultOfEntries? (shown : Bool) (levels : Nat) : List (Key × Value) → Option WriteFault
  | [] => none
  | (key, value) :: rest =>
    ((keyFault? key).or (writeFault? shown levels value)).or
      (writeFaultOfEntries? shown levels rest)
end

/-- The JSON text of a value, if it can be written. -/
def write (shown : Bool) (levels : Nat) (layout : JsonLayout) (value : Value) :
    Except Failure String :=
  match writeFault? shown levels value with
  | some fault => .error fault.failure
  | none => .ok (print layout value)

end Json

/-- A value as JSON text; bytes are refused. -/
def Value.toJson (levels : Nat) (layout : JsonLayout) (value : Value) : Except Failure String :=
  Json.write false levels layout value

/-- A value as JSON text, in which bytes are shown; only as keys they are refused. -/
def Value.toShownJson (levels : Nat) (layout : JsonLayout) (value : Value) : Except Failure String :=
  Json.write true levels layout value

end DocQuery
