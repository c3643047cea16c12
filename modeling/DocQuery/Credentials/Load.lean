/-
This file finds and reads the credentials of a project.

The credentials of a project are a JSON object in the file named after the project, directly in
the settings' directory. A project is a name that cannot lead out of that directory: not empty,
without slashes of either kind, and not beginning with a dot. A name that is no text at all meets
each of these questions as the value it is.

What goes wrong is reported for the project, with what was wrong as its source. Some things are
not, and come through: a path that has no bytes, bytes that are no text, a number too long to be
read, and lists and maps that lie too deep inside each other.
-/

import DocQuery.Credentials.Settings
import DocQuery.Json.Reader
import DocQuery.Value.Order
import DocQuery.Text.Utf8

namespace DocQuery

namespace Credentials

/-! ### Names -/

/-- The failure of a name that is no project. -/
def badIdentity (project : Value) : Failure := .connection project .badIdentity

/-- Whether a text can name a project. -/
def isIdentity (name : Text) : Bool :=
  name ≠ [] && !name.contains (.char '/') && !name.contains (.char Text.backslash) &&
    name.head? != some '.'

/-- The two slashes, as texts. -/
def slashes : List Value := [.text "/", .text [.char Text.backslash]]

/-- The failure of a value with items that is taken for a project: it may hold a slash as an item,
and cannot be asked what it begins with. -/
def refuseItems (project : Value) (members : List Value) : Failure :=
  if slashes.any fun slash => slash.memberOf members then badIdentity project
  else .unsupported project

/-- The name of a project's file, without its ending. -/
def fileName (project : Value) : Except Failure Text :=
  if project.truthy then
    match project with
    | .text name => if isIdentity name then .ok name else .error (badIdentity project)
    | .direction sense => .ok sense.name
    | .list members => .error (refuseItems project members)
    | .map entries => .error (refuseItems project (entries.map fun entry => entry.1.value))
    | _ => .error (.unsuitable project)
  else .error (badIdentity project)

/-- The path of a project's credentials. -/
def path (settings : Settings) (project : Value) : Except Failure FilePath :=
  (fileName project).map fun name => settings.directory.child (name ++ ".json")

/-! ### Faults in files -/

/-- Two hexadecimal digits of a byte. -/
def byteText (byte : UInt8) : String := "0x" ++ String.ofList (Text.hexadecimal 2 byte.toNat)

/-- The wording of a reason why bytes are no text. -/
def reasonText : Text.Utf8Reason → String
  | .badStart => "invalid start byte"
  | .badContinuation => "invalid continuation byte"
  | .truncated => "unexpected end of data"

/-- The wording of a fault in bytes: one bad byte is shown, several are counted. -/
def faultText (fault : Text.Utf8Fault) : String :=
  "'utf-8' codec can't decode " ++
    (match fault.bad with
      | [byte] => "byte " ++ byteText byte ++ " in position " ++ toString fault.position
      | bad =>
        "bytes in position " ++ toString fault.position ++ "-" ++
          toString (fault.position + bad.length - 1)) ++
    ": " ++ reasonText fault.reason

/-- The wording of a fault in a path: one bad code point is shown, several are counted. -/
def encodingText (fault : Text.EncodingFault) : String :=
  "'utf-8' codec can't encode " ++
    (match fault.bad with
      | [point] =>
        "character '" ++ String.ofList (Text.codeEscape point.code) ++ "' in position " ++
          toString fault.position
      | bad =>
        "characters in position " ++ toString fault.position ++ "-" ++
          toString (fault.position + bad.length - 1)) ++
    ": surrogates not allowed"

/-- What the file system, or the reader of what is in the file, says of a path that it refuses. -/
def refusalText (path : FilePath) : ForeignKind → Text
  | .missingFile => "[Errno 2] No such file or directory: " ++ quotedText path.text
  | .notADirectory => "[Errno 20] Not a directory: " ++ quotedText path.text
  | .isADirectory => "[Errno 21] Is a directory: " ++ quotedText path.text
  | .notJson => Json.malformedText
  | _ => "[Errno 36] File name too long: " ++ quotedText path.text

/-- The failure of a file that cannot be read. -/
def unreadable (project : Value) (path : FilePath) (kind : ForeignKind) : Failure :=
  .connectionFailed project
    (match kind with
      | .missingFile => .noCredentials path.text
      | _ => .unreadableCredentials path.text (refusalText path kind))
    (.foreign kind (refusalText path kind))

/-! ### Reading -/

def ofBytes (levels : Nat) (project : Value) (path : FilePath) (bytes : List UInt8) :
    Except Failure Entries :=
  match Text.decodeUtf8 bytes with
  | .error fault => .error (.foreign .undecodable (faultText fault))
  | .ok text =>
    match Json.read levels text with
    | .error .malformed => .error (unreadable project path .notJson)
    | .error (.tooManyDigits count) => .error (.foreign .refused (Json.excessText count))
    | .error (.tooDeep container) => .error (.foreign .excessive (Json.depthText container))
    | .ok (.map entries) => .ok entries
    | .ok _ => .error (.connection project (.notAnObject path.text))

/-- The failure of a path that no file can have: it has no bytes, or a zero among them. -/
def pathFault? (path : FilePath) : Option Failure :=
  match Text.encodingFault? path.text with
  | some fault => some (.foreign .unencodable (encodingText fault))
  | none =>
    if path.text.contains (.char (Char.ofNat 0)) then
      some (.foreign .refused "embedded null byte")
    else none

/-- Reads the credentials of a project from a tree of files, where the reader of JSON goes into so many
levels. -/
def load (levels : Nat) (settings : Settings) (files : FileTree) (project : Value) :
    Except Failure Entries :=
  match path settings project with
  | .error failure => .error failure
  | .ok found =>
    match pathFault? found with
    | some failure => .error failure
    | none =>
      match files.read found with
      | .error kind => .error (unreadable project found kind)
      | .ok bytes => ofBytes levels project found bytes

end Credentials

end DocQuery
