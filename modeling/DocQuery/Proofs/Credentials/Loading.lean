/-
This file finds out which faults of loading credentials are not reported as failed connections.

Whatever the file system refuses is reported, and so is a text that is no JSON, or JSON of something
else than a map. But a path need not be one that a file can have, the bytes of a file need not be a
text, and JSON can hold a numeral or a nesting that is too much for its reader. These come through
as they are. So loading gives a map exactly if the bytes of the file are those of a string that is
read as the map, and the faults that come through are exactly these five.
-/

import DocQuery.Credentials.Load
import DocQuery.Proofs.Json.Values
import DocQuery.Proofs.Text.Utf8

namespace DocQuery

namespace Credentials

/-! ### Files of credentials -/

/-- The path of the credentials of a name that can be a project. -/
def fileOf (settings : Settings) (name : Text) : FilePath :=
  settings.directory.child (name ++ ".json")

/-- A file can be asked for under the path of a project's credentials: the name can be a project,
every code point of the path has bytes, and none of them is zero. -/
structure IsAskable (settings : Settings) (name : Text) : Prop where
  identity : isIdentity name = true
  bytes : ∀ point ∈ (fileOf settings name).text, Text.hasBytes point = true
  noZero : CodePoint.char (Char.ofNat 0) ∉ (fileOf settings name).text

/-- The credentials of a project lie in a file with the bytes of a string. -/
structure Holds (settings : Settings) (files : FileTree) (name : Text) (content : String) :
    Prop where
  askable : IsAskable settings name
  read : files.read (fileOf settings name) = .ok content.toUTF8.data.toList

/-- The faults that loading does not report as failed connections, by their kinds, where the reader of
JSON goes into so many levels. -/
inductive Slips (levels : Nat) (settings : Settings) (files : FileTree) (name : Text) :
    ForeignKind → Prop
  /-- A code point of the path has no bytes. -/
  | noBytes {point : CodePoint} : isIdentity name = true →
      point ∈ (fileOf settings name).text → Text.hasBytes point = false →
      Slips levels settings files name .unencodable
  /-- There is a zero in the path. -/
  | zero : isIdentity name = true →
      (∀ point ∈ (fileOf settings name).text, Text.hasBytes point = true) →
      CodePoint.char (Char.ofNat 0) ∈ (fileOf settings name).text →
      Slips levels settings files name .refused
  /-- The bytes of the file are those of no string. -/
  | noText {bytes : List UInt8} : IsAskable settings name →
      files.read (fileOf settings name) = .ok bytes →
      (∀ content : String, content.toUTF8.data.toList ≠ bytes) →
      Slips levels settings files name .undecodable
  /-- A numeral of the JSON has too many digits. -/
  | tooManyDigits {content : String} {count : Nat} : Holds settings files name content →
      Json.read levels content = .error (.tooManyDigits count) →
      Slips levels settings files name .refused
  /-- Lists or maps of the JSON lie inside each other too deep. -/
  | tooDeep {content : String} {container : Json.Container} :
      Holds settings files name content →
      Json.read levels content = .error (.tooDeep container) →
      Slips levels settings files name .excessive

/-! ### Loading -/

variable {levels : Nat} {settings : Settings} {files : FileTree} {name : Text}

/-- A failed connection to a project. -/
def IsReport (name : Text) (failure : Failure) : Prop :=
  ∃ cause, failure.connection? = some (.text name, cause)

theorem path_text (settings : Settings) (name : Text) :
    path settings (.text name) =
      if isIdentity name then .ok (fileOf settings name)
      else .error (badIdentity (.text name)) := by
  rw [path, fileName]
  cases identity : isIdentity name with
  | true =>
    have truthy : Value.truthy (.text name) = true := by
      cases name with
      | nil => cases identity
      | cons point rest => rfl
    rw [if_pos truthy]
    simp [fileOf, Except.map]
  | false =>
    split <;> simp [Except.map]

theorem load_of_not_isIdentity (other : isIdentity name = false) :
    load levels settings files (.text name) = .error (badIdentity (.text name)) := by
  rw [load, path_text, other]
  rfl

theorem load_of_isIdentity (identity : isIdentity name = true) :
    load levels settings files (.text name) =
      match pathFault? (fileOf settings name) with
      | some failure => .error failure
      | none =>
        match files.read (fileOf settings name) with
        | .error kind => .error (unreadable (.text name) (fileOf settings name) kind)
        | .ok bytes => ofBytes levels (.text name) (fileOf settings name) bytes := by
  rw [load, path_text, identity]
  rfl

theorem IsAskable.load_eq (askable : IsAskable settings name) :
    load levels settings files (.text name) =
      match files.read (fileOf settings name) with
      | .error kind => .error (unreadable (.text name) (fileOf settings name) kind)
      | .ok bytes => ofBytes levels (.text name) (fileOf settings name) bytes := by
  have faultless : pathFault? (fileOf settings name) = none := by
    rw [pathFault?, Text.encodingFault?, Text.encodingFaultFrom?_eq_none_iff.mpr askable.bytes]
    exact if_neg (by simpa using askable.noZero)
  rw [load_of_isIdentity askable.identity, faultless]

theorem Holds.load_eq {content : String} (holds : Holds settings files name content) :
    load levels settings files (.text name) =
      match Json.read levels content with
      | .error .malformed => .error (unreadable (.text name) (fileOf settings name) .notJson)
      | .error (.tooManyDigits count) => .error (.foreign .refused (Json.excessText count))
      | .error (.tooDeep container) => .error (.foreign .excessive (Json.depthText container))
      | .ok (.map entries) => .ok entries
      | .ok _ => .error (.connection (.text name) (.notAnObject (fileOf settings name).text)) := by
  have decoded := Text.decodeUtf8_eq_ok_iff.mpr ⟨content, rfl, rfl⟩
  rw [holds.askable.load_eq, holds.read]
  dsimp only
  rw [ofBytes.eq_def]
  split
  · next fault undecoded => cases decoded.symm.trans undecoded
  · next text found =>
    cases decoded.symm.trans found
    rfl

/-- What slips comes through. -/
theorem Slips.exists_load {kind : ForeignKind} (slips : Slips levels settings files name kind) :
    ∃ message, load levels settings files (.text name) = .error (.foreign kind message) := by
  cases slips with
  | noBytes identity member without =>
    cases known : Text.encodingFault? (fileOf settings name).text with
    | none =>
      have whole := Text.encodingFaultFrom?_eq_none_iff.mp known _ member
      rw [without] at whole
      cases whole
    | some fault => exact ⟨_, by rw [load_of_isIdentity identity, pathFault?, known]⟩
  | zero identity bytes member =>
    have known : Text.encodingFaultFrom? 0 (fileOf settings name).text = none :=
      Text.encodingFaultFrom?_eq_none_iff.mpr bytes
    refine ⟨"embedded null byte", ?_⟩
    rw [load_of_isIdentity identity, pathFault?, Text.encodingFault?, known]
    dsimp only
    rw [if_pos (by simpa using member)]
  | noText askable read none =>
    rw [askable.load_eq, read]
    dsimp only
    rw [ofBytes]
    split
    · exact ⟨_, rfl⟩
    · next text decoded =>
      obtain ⟨content, same, _⟩ := Text.decodeUtf8_eq_ok_iff.mp decoded
      exact absurd same (none content)
  | tooManyDigits holds many => exact ⟨_, by rw [holds.load_eq, many]⟩
  | tooDeep holds deep => exact ⟨_, by rw [holds.load_eq, deep]⟩

theorem isReport_unreadable (path : FilePath) (kind : ForeignKind) :
    IsReport name (unreadable (.text name) path kind) := ⟨_, rfl⟩

/-- Loading gives a map, reports a failed connection, or lets something slip. -/
theorem load_cases (levels : Nat) (settings : Settings) (files : FileTree) (name : Text) :
    (∃ content entries, Holds settings files name content ∧
        Json.read levels content = .ok (.map entries) ∧
        load levels settings files (.text name) = .ok entries) ∨
      (∃ failure, load levels settings files (.text name) = .error failure ∧ IsReport name failure) ∨
      ∃ kind, Slips levels settings files name kind := by
  by_cases identity : isIdentity name = true
  · by_cases bytes : ∀ point ∈ (fileOf settings name).text, Text.hasBytes point = true
    · by_cases zero : CodePoint.char (Char.ofNat 0) ∈ (fileOf settings name).text
      · exact .inr (.inr ⟨_, .zero identity bytes zero⟩)
      have askable : IsAskable settings name := ⟨identity, bytes, zero⟩
      cases read : files.read (fileOf settings name) with
      | error kind => exact .inr (.inl ⟨_, by rw [askable.load_eq, read], isReport_unreadable _ _⟩)
      | ok bytes =>
        by_cases text : ∃ content : String, content.toUTF8.data.toList = bytes
        · obtain ⟨content, rfl⟩ := text
          have holds : Holds settings files name content := ⟨askable, read⟩
          have loaded : load levels settings files name = _ := holds.load_eq
          cases json : Json.read levels content with
          | error fault =>
            rw [json] at loaded
            cases fault with
            | malformed => exact .inr (.inl ⟨_, loaded, isReport_unreadable _ _⟩)
            | tooManyDigits count => exact .inr (.inr ⟨_, .tooManyDigits holds json⟩)
            | tooDeep container => exact .inr (.inr ⟨_, .tooDeep holds json⟩)
          | ok value =>
            rw [json] at loaded
            cases value with
            | map entries => exact .inl ⟨content, entries, holds, json, loaded⟩
            | _ => exact .inr (.inl ⟨_, loaded, _, rfl⟩)
        · exact .inr (.inr ⟨_, .noText askable read fun content same => text ⟨content, same⟩⟩)
    · obtain ⟨point, member, without⟩ : ∃ point ∈ (fileOf settings name).text,
          Text.hasBytes point = false := by simpa using bytes
      exact .inr (.inr ⟨_, .noBytes identity member without⟩)
  · have other := eq_false_of_ne_true identity
    exact .inr (.inl ⟨_, load_of_not_isIdentity other, _, rfl⟩)

theorem load_eq_ok_iff {entries : Entries} :
    load levels settings files (.text name) = .ok entries ↔
      ∃ content, Holds settings files name content ∧
        Json.read levels content = .ok (.map entries) := by
  constructor
  · intro loaded
    rcases load_cases levels settings files name with
      ⟨content, found, holds, read, same⟩ | ⟨failure, failed, _⟩ | ⟨kind, slips⟩
    · cases loaded.symm.trans same
      exact ⟨content, holds, read⟩
    · cases loaded.symm.trans failed
    · obtain ⟨message, failed⟩ := slips.exists_load
      cases loaded.symm.trans failed
  · rintro ⟨content, holds, read⟩
    rw [holds.load_eq, read]

theorem exists_load_foreign_iff {kind : ForeignKind} :
    (∃ message, load levels settings files (.text name) = .error (.foreign kind message)) ↔
      Slips levels settings files name kind := by
  constructor
  · rintro ⟨message, failed⟩
    rcases load_cases levels settings files name with
      ⟨_, _, _, _, loaded⟩ | ⟨failure, reported, cause, same⟩ | ⟨other, slips⟩
    · cases failed.symm.trans loaded
    · cases failed.symm.trans reported
      cases same
    · obtain ⟨_, slipped⟩ := slips.exists_load
      cases failed.symm.trans slipped
      exact slips
  · exact Slips.exists_load

/-- The printed form of a map loads as the map, in every layout, if it keeps to the limits of
reading. -/
theorem load_print (layout : JsonLayout) {entries : Entries} (kept : Json.keeps (.map entries))
    (limited : Json.excess? levels (.map entries) = none)
    (holds : Holds settings files name (Json.print layout (.map entries))) :
    load levels settings files (.text name) = .ok entries := by
  refine load_eq_ok_iff.mpr ⟨_, holds, ?_⟩
  rw [Json.read_print levels layout kept, limited]
  rfl

/-- Loading credentials gives the map in the project's file, exactly if the file can be asked for and
has the bytes of a string that is read as that map; what fails is reported as a failed connection to
the project, but for a path that no file can have, bytes that are those of no string, and JSON with a
numeral of too many digits or too deep a nesting, which come through. -/
theorem loads_reports_or_slips (levels : Nat) (settings : Settings) (files : FileTree)
    (name : Text) :
    (∀ entries, load levels settings files (.text name) = .ok entries ↔
      ∃ content, Holds settings files name content ∧
        Json.read levels content = .ok (.map entries)) ∧
      (∀ failure, load levels settings files (.text name) = .error failure →
        (IsReport name failure ↔ ∀ kind message, failure ≠ .foreign kind message)) ∧
      ∀ kind, (∃ message, load levels settings files (.text name) = .error (.foreign kind message)) ↔
        Slips levels settings files name kind := by
  refine ⟨fun _ => load_eq_ok_iff, fun failure failed => ?_, fun _ => exists_load_foreign_iff⟩
  constructor
  · rintro ⟨cause, same⟩ kind message rfl
    cases same
  · intro own
    rcases load_cases levels settings files name with
      ⟨_, _, _, _, loaded⟩ | ⟨_, reported, report⟩ | ⟨_, slips⟩
    · cases failed.symm.trans loaded
    · cases failed.symm.trans reported
      exact report
    · obtain ⟨message, slipped⟩ := slips.exists_load
      cases failed.symm.trans slipped
      exact absurd rfl (own _ message)

/-- A file of one byte that begins no character, in the directory of the credentials. -/
def undecodableFiles : FileTree :=
  .ofFiles [] [([("projects" : Text), "alpha.json"], .bytes [0xff])]

/-- Loading credentials of bytes that are no text fails, and not with a failed connection. -/
theorem exists_slip :
    ∃ failure, load Json.nestingLimit (.ofEnvironment []) undecodableFiles (.text "alpha") =
      .error failure ∧ ¬ IsReport "alpha" failure := by
  refine ⟨.foreign .undecodable
    "'utf-8' codec can't decode byte 0xff in position 0: invalid start byte", by decide +kernel, ?_⟩
  rintro ⟨cause, same⟩
  cases same

end Credentials

end DocQuery
