/-
This file reads JSON text as a value.

The reader takes the standard grammar and three words for the numbers without digits. A number
with a fraction or an exponent is a floating point number, any other an integer of any size.
Of two entries with one key the later value stands in the earlier place. Control characters
inside strings are refused, and so is a mark of byte order in front of the text. An escape that is
half of a pair is not: without its other half it stays a half.

Two things are no syntax faults, but refused as such where they stand: a numeral of more digits
than `Json.digitLimit`, and a list or a map that lies inside more others than the reader is told to
go into. The functions take fuel besides, of which twice the length of the text is always enough.
-/

import DocQuery.Failure

namespace DocQuery

namespace Json

/-! ### Faults -/

/-- The kinds of values that contain others. -/
inductive Container
  | list
  | map
  deriving DecidableEq, Repr

/-- Why a text is not read: it is no JSON, a numeral in it has more digits than are read, or a list
or a map lies too deep. -/
inductive ReadFault
  | malformed
  | tooManyDigits (count : Nat)
  | tooDeep (container : Container)
  deriving DecidableEq, Repr

/-- A reading of the start of a text: what was read, and what is left. -/
abbrev Reading (α : Type) := Except ReadFault (α × Text)

/-- The greatest number of digits of an integer. -/
def digitLimit : Nat := 4300

/-- The wording of the fault of a numeral with too many digits. -/
def excessText (count : Nat) : String :=
  "Exceeds the limit (" ++ toString digitLimit ++
    " digits) for integer string conversion: value has " ++ toString count ++
    " digits; use sys.set_int_max_str_digits() to increase the limit"

/-- How many lists and maps a reader or a writer goes into, where nothing else is said: what is left
of the depth of calls at a place that is not deep itself. -/
def nestingLimit : Nat := 990

/-- The wording of the fault of a text that is no JSON. What was met, and where, is not said. -/
def malformedText : String := "the text is no JSON"

/-- The wording of the fault of a list or a map that lies too deep. -/
def depthText : Container → String
  | .list => "maximum recursion depth exceeded while decoding a JSON array from a unicode string"
  | .map => "maximum recursion depth exceeded while decoding a JSON object from a unicode string"

/-! ### Characters -/

/-- The characters that may stand between tokens. -/
def isBlank (point : CodePoint) : Bool :=
  point == ' ' || point == '\t' || point == '\n' || point == '\r'

/-- A text without the blanks at its start. -/
def skipBlanks (text : Text) : Text := text.dropWhile isBlank

/-- The value of a hexadecimal digit. -/
def hexValue? (c : Char) : Option Nat :=
  if '0' ≤ c ∧ c ≤ '9' then some (c.toNat - 0x30)
  else if 'a' ≤ c ∧ c ≤ 'f' then some (c.toNat - 0x57)
  else if 'A' ≤ c ∧ c ≤ 'F' then some (c.toNat - 0x37)
  else none

/-- The code unit of four hexadecimal digits. -/
def readUnit : Text → Option (Nat × Text)
  | .char a :: .char b :: .char c :: .char d :: rest =>
    match hexValue? a, hexValue? b, hexValue? c, hexValue? d with
    | some first, some second, some third, some fourth =>
      some (((first * 16 + second) * 16 + third) * 16 + fourth, rest)
    | _, _, _, _ => none
  | _ => none

/-- The lower surrogate that follows a higher one, if it does. -/
def readLowSurrogate : Text → Option (Nat × Text)
  | .char slash :: .char letter :: rest =>
    if slash = Text.backslash ∧ letter = 'u' then
      match readUnit rest with
      | some (unit, left) =>
        if 0xdc00 ≤ unit ∧ unit ≤ 0xdfff then some (unit, left) else none
      | none => none
    else none
  | _ => none

/-- The code point of an escape by code units; the text starts with the first of its digits. A
surrogate without its partner is a half. -/
def readCodeEscape (text : Text) : Option (CodePoint × Text) :=
  match readUnit text with
  | none => none
  | some (unit, rest) =>
    if 0xd800 ≤ unit ∧ unit ≤ 0xdbff then
      match readLowSurrogate rest with
      | some (low, left) =>
        some (.char (Char.ofNat (0x10000 + (unit - 0xd800) * 0x400 + (low - 0xdc00))), left)
      | none => some (.ofUnit unit, rest)
    else some (.ofUnit unit, rest)

/-- The character that a letter behind a backslash stands for. -/
def shortEscape? (letter : Char) : Option Char :=
  if letter = Text.doubleQuote ∨ letter = Text.backslash ∨ letter = '/' then some letter
  else if letter = 'n' then some '\n'
  else if letter = 'r' then some '\r'
  else if letter = 't' then some '\t'
  else if letter = 'f' then some (Char.ofNat 0x0c)
  else if letter = 'b' then some (Char.ofNat 0x08)
  else none

/-! ### Strings -/

/-- The code points up to the closing quote. The fuel bounds the length of the string. -/
def readString : Nat → Text → Reading Text
  | 0, _ => .error .malformed
  | _, [] => .error .malformed
  | fuel + 1, .half offset :: rest =>
    (readString fuel rest).map fun reading => (.half offset :: reading.1, reading.2)
  | fuel + 1, .char c :: rest =>
    if c = Text.doubleQuote then .ok ([], rest)
    else if c = Text.backslash then
      match rest with
      | .char letter :: left =>
        if letter = 'u' then
          match readCodeEscape left with
          | none => .error .malformed
          | some (found, after) =>
            (readString fuel after).map fun reading => (found :: reading.1, reading.2)
        else
          match shortEscape? letter with
          | none => .error .malformed
          | some found =>
            (readString fuel left).map fun reading => (.char found :: reading.1, reading.2)
      | _ => .error .malformed
    else if c.toNat < 0x20 then .error .malformed
    else (readString fuel rest).map fun reading => (.char c :: reading.1, reading.2)

/-! ### Numbers -/

/-- The digits at the start of a text, and what is left. -/
def readDigits : Text → List Char × Text
  | .char c :: rest =>
    if c.isDigit then
      let others := readDigits rest
      (c :: others.1, others.2)
    else ([], .char c :: rest)
  | text => ([], text)

/-- The fraction at the start of a text, without its point; none if no digit follows. -/
def readFraction : Text → List Char × Text
  | .char '.' :: rest =>
    match readDigits rest with
    | ([], _) => ([], .char '.' :: rest)
    | digits => digits
  | text => ([], text)

/-- The sign at the start of a text: whether it is a minus, and what is left. -/
def readSign : Text → Bool × Text
  | .char '-' :: rest => (true, rest)
  | .char '+' :: rest => (false, rest)
  | text => (false, text)

/-- The exponent at the start of a text; none if no digit follows. -/
def readExponent : Text → Option Int × Text
  | .char mark :: rest =>
    if mark = 'e' ∨ mark = 'E' then
      let (negative, digits) := readSign rest
      match readDigits digits with
      | ([], _) => (none, .char mark :: rest)
      | (found, left) =>
        let size : Int := Nat.ofDigitChars 10 found 0
        (some (if negative then -size else size), left)
    else (none, .char mark :: rest)
  | text => (none, text)

/-- The digits in front of the point: a zero alone, or digits that do not start with one. -/
def readWhole : Text → Option (List Char × Text)
  | .char '0' :: rest => some (['0'], rest)
  | .char c :: rest => if c.isDigit then some (readDigits (.char c :: rest)) else none
  | _ => none

/-- A number whose sign is read already. -/
def readMagnitude (negative : Bool) (text : Text) : Reading Value :=
  match readWhole text with
  | none => .error .malformed
  | some (whole, rest) =>
    let (fraction, afterFraction) := readFraction rest
    let (exponent, left) := readExponent afterFraction
    if fraction.isEmpty && exponent.isNone then
      if digitLimit < whole.length then .error (.tooManyDigits whole.length)
      else
        let size : Int := Nat.ofDigitChars 10 whole 0
        .ok (.int (if negative then -size else size), left)
    else .ok (.float (Binary64.ofNumeral ⟨negative, whole, fraction, exponent.getD 0⟩), left)

/-! ### Words -/

/-- What is left behind a word at the start of a text. -/
def afterWord? : Text → Text → Option Text
  | [], text => some text
  | _ :: _, [] => none
  | point :: word, found :: rest => if point = found then afterWord? word rest else none

/-- The words of the format and their values. -/
def words : List (Text × Value) :=
  [("null", .null), ("true", .bool true), ("false", .bool false), ("NaN", .float .nan),
    ("Infinity", .float (.infinite false)), ("-Infinity", .float (.infinite true))]

/-- The word at the start of a text. -/
def readWord (text : Text) : List (Text × Value) → Option (Value × Text)
  | [] => none
  | (word, value) :: others =>
    match afterWord? word text with
    | some rest => some (value, rest)
    | none => readWord text others

/-- A value without parts that is no string. -/
def readScalar (text : Text) : Reading Value :=
  match readWord text words with
  | some reading => .ok reading
  | none =>
    match text with
    | .char '-' :: rest => readMagnitude true rest
    | _ => readMagnitude false text

/-! ### Values -/

mutual
/-- A value at the start of a text without leading blanks. The first number says how many lists and
maps the reader may go into, the second is the fuel. -/
def readValue : Nat → Nat → Text → Reading Value
  | _, 0, _ => .error .malformed
  | levels, fuel + 1, text =>
    match text with
    | [] => .error .malformed
    | first :: rest =>
      if first = Text.doubleQuote then
        (readString fuel rest).map fun reading => (.text reading.1, reading.2)
      else if first = '[' then
        match levels with
        | 0 => .error (.tooDeep .list)
        | inner + 1 =>
          match skipBlanks rest with
          | .char ']' :: left => .ok (.list [], left)
          | left => (readItems inner fuel left).map fun reading => (.list reading.1, reading.2)
      else if first = '\x7b' then
        match levels with
        | 0 => .error (.tooDeep .map)
        | inner + 1 =>
          match skipBlanks rest with
          | .char '\x7d' :: left => .ok (.map [], left)
          | left =>
            (readEntries inner fuel left).map fun reading =>
              (.map (Entries.ofPairs reading.1), reading.2)
      else readScalar (first :: rest)
/-- The items of a list, up to its end. -/
def readItems : Nat → Nat → Text → Reading (List Value)
  | _, 0, _ => .error .malformed
  | levels, fuel + 1, text =>
    match readValue levels fuel text with
    | .error fault => .error fault
    | .ok (value, rest) =>
      match skipBlanks rest with
      | .char ',' :: left =>
        (readItems levels fuel (skipBlanks left)).map fun reading =>
          (value :: reading.1, reading.2)
      | .char ']' :: left => .ok ([value], left)
      | _ => .error .malformed
/-- The entries of a map, up to its end. -/
def readEntries : Nat → Nat → Text → Reading (List (Key × Value))
  | _, 0, _ => .error .malformed
  | levels, fuel + 1, text =>
    match text with
    | [] => .error .malformed
    | first :: rest =>
      if first = Text.doubleQuote then
        match readString fuel rest with
        | .error fault => .error fault
        | .ok (key, afterKey) =>
          match skipBlanks afterKey with
          | .char ':' :: afterColon =>
            match readValue levels fuel (skipBlanks afterColon) with
            | .error fault => .error fault
            | .ok (value, afterValue) =>
              match skipBlanks afterValue with
              | .char ',' :: left =>
                (readEntries levels fuel (skipBlanks left)).map fun reading =>
                  ((.text key, value) :: reading.1, reading.2)
              | .char '\x7d' :: left => .ok ([(.text key, value)], left)
              | _ => .error .malformed
          | _ => .error .malformed
      else .error .malformed
end

/-- The value of a whole text in which at most so many lists and maps lie inside each other. -/
def read (levels : Nat) (text : Text) : Except ReadFault Value :=
  if text.head? = some (Char.ofNat 0xfeff) then .error .malformed
  else
    match readValue levels (2 * text.length + 2) (skipBlanks text) with
    | .error fault => .error fault
    | .ok (value, rest) => if (skipBlanks rest).isEmpty then .ok value else .error .malformed

end Json

end DocQuery
