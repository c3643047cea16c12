/-
This file proves that the credentials of a project are looked for in one directory.

A path is what its text comes to, and what comes of joining the text of a directory with a slashless
name is the path of that directory with the name behind it: neither empty pieces nor dots of the
directory's text let the name move anywhere else. A name that can be a project makes such a name, and
different projects make different ones. A walk along the path then goes to the directory first, wherever
that is, and takes one step more; so the file it comes to lies directly in the directory, and what other
files hold does not matter.

The file goes by the bytes of its name. Different projects that are strings have different files, but a
half without its partner can stand for a byte of a character, and then two paths open one file.
-/

import DocQuery.Proofs.Credentials.Loading

namespace DocQuery

namespace FilePath

/-! ### Paths and their texts -/

/-- A text that can be a part of a path. -/
structure IsName (piece : Text) : Prop where
  isPart : isPart piece = true
  slashless : CodePoint.char '/' ∉ piece

/-- The root of a text is told by the number of slashes at its beginning. -/
theorem rootOf_eq (text : Text) :
    rootOf text =
      match (text.takeWhile (· = CodePoint.char '/')).length with
      | 0 => .relative
      | 2 => .double
      | _ => .single := by
  unfold rootOf
  split
  · simp
  · next rest several =>
    cases rest with
    | nil => simp
    | cons point others =>
      have third : point ≠ CodePoint.char '/' := by
        rintro rfl
        exact several others rfl
      simp [third]
  · next rest several single =>
    cases rest with
    | nil => simp
    | cons point others =>
      have second : point ≠ CodePoint.char '/' := by
        rintro rfl
        exact single others rfl
      simp [second]
  · next several =>
    cases text with
    | nil => simp
    | cons point others =>
      have first : point ≠ CodePoint.char '/' := by
        rintro rfl
        exact several others rfl
      simp [first]

theorem takeWhile_of_slashless {name : Text} (slashless : CodePoint.char '/' ∉ name) :
    name.takeWhile (· = CodePoint.char '/') = [] := by
  cases name with
  | nil => rfl
  | cons point rest =>
    have apart : point ≠ CodePoint.char '/' := fun same =>
      slashless (same ▸ List.mem_cons_self)
    simp [apart]

/-- What stands behind a slash does not count for the root unless it begins with a slash. -/
theorem rootOf_append_slash {name : Text} (slashless : CodePoint.char '/' ∉ name) (front : Text) :
    rootOf (front ++ CodePoint.char '/' :: name) = rootOf (front ++ [CodePoint.char '/']) := by
  have nothing := takeWhile_of_slashless slashless
  rw [rootOf_eq, rootOf_eq, List.takeWhile_append, List.takeWhile_append]
  simp [nothing]

/-- A slash behind a text that does not end with one does not count for the root. -/
theorem rootOf_append_of_last {directory : Text} (given : directory ≠ [])
    (last : directory.getLast? ≠ some '/') (rest : Text) :
    rootOf (directory ++ rest) = rootOf directory := by
  have mixed : (directory.takeWhile (· = CodePoint.char '/')).length ≠ directory.length := by
    intro whole
    have all := List.takeWhile_eq_self_iff.mp
      ((List.takeWhile_prefix _).eq_of_length whole)
    have final := all _ (List.getLast_mem given)
    exact last ((List.getLast?_eq_some_getLast given).trans
      (congrArg some (of_decide_eq_true final)))
  rw [rootOf_eq, rootOf_eq, List.takeWhile_append, if_neg mixed]

/-- The parts of a text whose pieces are joined again are those pieces that count. -/
theorem filter_split_join {parts : List Text} (names : ∀ part ∈ parts, IsName part) :
    (Text.split '/' (Text.join '/' parts)).filter isPart = parts := by
  by_cases given : parts = []
  · subst given
    rfl
  · rw [Text.split_join '/' parts given fun part member => (names part member).slashless]
    exact List.filter_eq_self.mpr fun part member => (names part member).isPart

theorem isName_of_mem_ofText {text piece : Text} (member : piece ∈ (ofText text).parts) :
    IsName piece where
  isPart := (List.mem_filter.mp member).2
  slashless := Text.separator_not_mem_of_mem_split '/' text piece (List.mem_filter.mp member).1

/-- The text of names does not begin with a slash. -/
theorem takeWhile_join {parts : List Text} (names : ∀ part ∈ parts, IsName part) :
    (Text.join '/' parts).takeWhile (· = CodePoint.char '/') = [] := by
  cases parts with
  | nil => rfl
  | cons part rest =>
    have name := names part List.mem_cons_self
    have nothing := takeWhile_of_slashless name.slashless
    cases part with
    | nil => cases name.isPart
    | cons point others => cases rest <;> simp_all [Text.join]

/-- A path of names is what its text comes to. -/
theorem ofText_text {path : FilePath} (names : ∀ part ∈ path.parts, IsName part) :
    ofText path.text = path := by
  obtain ⟨root, parts⟩ := path
  have behind := filter_split_join names
  have bare := takeWhile_join names
  rw [text]
  split
  · next nothing =>
    obtain ⟨rfl, rfl⟩ := nothing
    rfl
  · cases root with
    | relative =>
      rw [ofText, rootOf_eq]
      exact congrArg₂ mk (by simp [PathRoot.text, Text.ofString, bare]) behind
    | single =>
      have text : PathRoot.single.text = [CodePoint.char '/'] := rfl
      rw [ofText, rootOf_eq, text]
      exact congrArg₂ mk (by simp [bare]) (by simpa [Text.split, isPart] using behind)
    | double =>
      have text : PathRoot.double.text = [CodePoint.char '/', CodePoint.char '/'] := rfl
      rw [ofText, rootOf_eq, text]
      exact congrArg₂ mk (by simp [bare]) (by simpa [Text.split, isPart] using behind)

/-- Joins the text of a directory and a text of what lies in it: a slash comes between them unless
there is one, and what begins with a slash does not lie in any directory. -/
def joinTexts (directory name : Text) : Text :=
  if name.head? = some '/' then name
  else if directory = [] ∨ directory.getLast? = some '/' then directory ++ name
  else directory ++ CodePoint.char '/' :: name

/-- The text of a directory, however it is written, joined with a name comes to the path of the name in
that directory. -/
theorem ofText_joinTexts {name : Text} (isName : IsName name) (directory : Text) :
    ofText (joinTexts directory name) = (ofText directory).child name := by
  have whole : Text.split '/' name = [name] := Text.split_of_not_mem '/' name isName.slashless
  have relative : name.head? ≠ some '/' := fun first =>
    isName.slashless (List.mem_of_head? first)
  rw [joinTexts, if_neg relative]
  split
  · next ended =>
    rcases ended with rfl | ended
    · rw [List.nil_append, ofText, rootOf_eq, takeWhile_of_slashless isName.slashless, whole,
        List.filter_singleton, isName.isPart]
      rfl
    · obtain ⟨front, rfl⟩ := List.getLast?_eq_some_iff.mp ended
      have again : front ++ [CodePoint.char '/'] ++ name = front ++ CodePoint.char '/' :: name := by
        simp
      rw [again, ofText, rootOf_append_slash isName.slashless, Text.split_append_cons, whole, ofText,
        Text.split_append_cons, child, List.filter_append, List.filter_append,
        List.filter_singleton, isName.isPart]
      simp [Text.split, isPart]
  · next unended =>
    rw [not_or] at unended
    rw [ofText, rootOf_append_of_last unended.1 unended.2, Text.split_append_cons, whole,
      List.filter_append, List.filter_singleton, isName.isPart]
    rfl

end FilePath

namespace FileTree

variable {tree other : FileTree}

/-! ### Walks -/

/-- A walk along parts, from directory to directory, leads from a place to another one. -/
inductive Walks (tree : FileTree) : List Text → FilePlace → FilePlace → Prop
  | here (place : FilePlace) : Walks tree [] place place
  | up {rest : List Text} {place last : FilePlace} (directory : tree.at? place = some .directory)
      (further : Walks tree rest place.dropLast last) : Walks tree (".." :: rest) place last
  | down {part : Text} {rest : List Text} {place last : FilePlace} {name : List UInt8}
      (directory : tree.at? place = some .directory) (inward : part ≠ "..")
      (named : Text.fileBytes? part = some name) (short : name.length ≤ nameLimit)
      (further : Walks tree rest (place ++ [name]) last) : Walks tree (part :: rest) place last

/-- A walk comes to the bytes of a file that is at the place it leads to. -/
theorem walk_eq_ok_iff {parts : List Text} {place : FilePlace} {bytes : List UInt8} :
    tree.walk parts place = .ok bytes ↔
      ∃ last, tree.Walks parts place last ∧ tree.at? last = some (.bytes bytes) := by
  induction parts generalizing place with
  | nil =>
    rw [walk]
    constructor
    · intro found
      split at found
      · next content held => exact ⟨place, .here place, held.trans (by rw [Except.ok.inj found])⟩
      · cases found
      · cases found
    · rintro ⟨_, ⟨⟩, held⟩
      rw [held]
  | cons part rest inductionHypothesis =>
    rw [walk]
    constructor
    · intro found
      split at found
      · cases found
      · cases found
      · next directory =>
        split at found
        · next upward =>
          subst upward
          obtain ⟨last, further, held⟩ := inductionHypothesis.mp found
          exact ⟨last, .up directory further, held⟩
        · next inward =>
          split at found
          · cases found
          · next name named =>
            split at found
            · cases found
            · next short =>
              obtain ⟨last, further, held⟩ := inductionHypothesis.mp found
              exact ⟨last, .down directory inward named (Nat.le_of_not_lt short) further, held⟩
    · rintro ⟨last, walks, held⟩
      cases walks with
      | up directory further =>
        rw [directory]
        exact (if_pos rfl).trans (inductionHypothesis.mpr ⟨last, further, held⟩)
      | down directory inward named short further =>
        rw [directory]
        refine (if_neg inward).trans ?_
        rw [named]
        exact (if_neg (Nat.not_lt_of_le short)).trans
          (inductionHypothesis.mpr ⟨last, further, held⟩)

/-- A walk with one name more goes to a directory first, and then into it. -/
theorem walks_concat_iff {parts : List Text} {place last : FilePlace} {part : Text}
    (inward : part ≠ "..") :
    tree.Walks (parts ++ [part]) place last ↔
      ∃ home name, tree.Walks parts place home ∧ tree.at? home = some .directory ∧
        Text.fileBytes? part = some name ∧ name.length ≤ nameLimit ∧ last = home ++ [name] := by
  constructor
  · intro walks
    induction parts generalizing place with
    | nil =>
      cases walks with
      | up => exact absurd rfl inward
      | down directory _ named short further =>
        cases further
        exact ⟨place, _, .here place, directory, named, short, rfl⟩
    | cons other rest inductionHypothesis =>
      cases walks with
      | up directory further =>
        obtain ⟨home, name, leads, reached⟩ := inductionHypothesis further
        exact ⟨home, name, .up directory leads, reached⟩
      | down directory deeper known short further =>
        obtain ⟨home, name, leads, reached⟩ := inductionHypothesis further
        exact ⟨home, name, .down directory deeper known short leads, reached⟩
  · rintro ⟨home, name, walks, directory, named, short, rfl⟩
    induction walks with
    | here place => exact .down directory inward named short (.here _)
    | up first _ inductionHypothesis => exact .up first (inductionHypothesis directory)
    | down first deeper known fits _ inductionHypothesis =>
      exact .down first deeper known fits (inductionHypothesis directory)

/-- Trees that have directories and files at the same places, whatever the files hold. -/
structure SamePlaces (tree other : FileTree) : Prop where
  workingDirectory : tree.workingDirectory = other.workingDirectory
  directories : ∀ place, tree.at? place = some .directory ↔ other.at? place = some .directory
  files : ∀ place, (∃ bytes, tree.at? place = some (.bytes bytes)) ↔
    ∃ bytes, other.at? place = some (.bytes bytes)

/-- Where one of such trees has no file, the other has the same. -/
theorem SamePlaces.at?_eq (same : SamePlaces tree other) {place : FilePlace}
    (noFile : ∀ bytes, tree.at? place ≠ some (.bytes bytes)) : tree.at? place = other.at? place := by
  cases here : tree.at? place with
  | some content =>
    cases content with
    | bytes content => exact absurd here (noFile content)
    | directory => exact ((same.directories place).mp here).symm
  | none =>
    cases there : other.at? place with
    | none => rfl
    | some content =>
      cases content with
      | bytes content =>
        obtain ⟨bytes, held⟩ := (same.files place).mpr ⟨content, there⟩
        exact absurd held (noFile bytes)
      | directory => exact here.symm.trans ((same.directories place).mpr there)

/-- Walks in such trees come to the same if they hold the same where the walk may end. -/
theorem walk_congr (same : SamePlaces tree other) {parts : List Text} {place : FilePlace}
    (held : ∀ last, tree.Walks parts place last → tree.at? last = other.at? last) :
    tree.walk parts place = other.walk parts place := by
  induction parts generalizing place with
  | nil => rw [walk, walk, held place (.here place)]
  | cons part rest inductionHypothesis =>
    rw [walk, walk]
    by_cases file : ∃ bytes, tree.at? place = some (.bytes bytes)
    · obtain ⟨content, here⟩ := file
      obtain ⟨otherContent, there⟩ := (same.files place).mp ⟨content, here⟩
      rw [here, there]
    · rw [← same.at?_eq (not_exists.mp file)]
      split
      · rfl
      · rfl
      · next directory =>
        split
        · next upward =>
          subst upward
          exact inductionHypothesis fun last walks => held last (.up directory walks)
        · next inward =>
          split
          · rfl
          · next name named =>
            split
            · rfl
            · next short =>
              exact inductionHypothesis fun last walks =>
                held last (.down directory inward named (Nat.le_of_not_lt short) walks)

/-- A path under which a file can be asked for: it has bytes, not too many, and none of them is zero. -/
def CanBeAsked (path : FilePath) : Prop :=
  ∃ bytes, Text.fileBytes? path.text = some bytes ∧ 0 ∉ bytes ∧ bytes.length ≤ pathLimit

/-- A path opens the file at a place: it can be asked for, and a walk along it comes to the file. -/
structure Opens (tree : FileTree) (path : FilePath) (place : FilePlace) : Prop where
  asked : CanBeAsked path
  walks : tree.Walks path.parts (tree.startOf path.root) place
  file : ∃ bytes, tree.at? place = some (.bytes bytes)

variable {path : FilePath}

/-- What is read of a path without zeros is what the file holds that is opened. -/
theorem read_eq_ok_iff (noZero : CodePoint.char (Char.ofNat 0) ∉ path.text) {content : List UInt8} :
    tree.read path = .ok content ↔
      ∃ place, tree.Opens path place ∧ tree.at? place = some (.bytes content) := by
  rw [FileTree.read]
  constructor
  · intro read
    split at read
    · cases read
    · next bytes known =>
      split at read
      · cases read
      · next short =>
        obtain ⟨place, walks, held⟩ := walk_eq_ok_iff.mp read
        have without := noZero ∘ (Text.zero_mem_fileBytes? known).mp
        exact ⟨place, ⟨⟨bytes, known, without, Nat.le_of_not_lt short⟩, walks, content, held⟩, held⟩
  · rintro ⟨place, ⟨⟨bytes, known, _, short⟩, walks, _⟩, held⟩
    rw [known]
    exact (if_neg (Nat.not_lt_of_le short)).trans (walk_eq_ok_iff.mpr ⟨place, walks, held⟩)

/-- What is read of a path without zeros depends on no other file than the one that is opened. -/
theorem read_congr (noZero : CodePoint.char (Char.ofNat 0) ∉ path.text)
    (same : SamePlaces tree other)
    (held : ∀ place, tree.Opens path place → tree.at? place = other.at? place) :
    tree.read path = other.read path := by
  have start : tree.startOf path.root = other.startOf path.root := by
    unfold startOf
    rw [same.workingDirectory]
  rw [FileTree.read, FileTree.read, ← start]
  split
  · rfl
  · next bytes known =>
    split
    · rfl
    · next short =>
      have without := noZero ∘ (Text.zero_mem_fileBytes? known).mp
      refine walk_congr same fun last walks => ?_
      by_cases file : ∃ content, tree.at? last = some (.bytes content)
      · exact held last ⟨⟨bytes, known, without, Nat.le_of_not_lt short⟩, walks, file⟩
      · exact same.at?_eq (not_exists.mp file)

/-- A file that is opened under a name in a directory lies directly in that directory, under the bytes
of the name. -/
theorem Opens.exists_home {directory : FilePath} {part : Text} {place : FilePlace}
    (inward : part ≠ "..") (opens : tree.Opens (directory.child part) place) :
    ∃ home name, tree.Walks directory.parts (tree.startOf directory.root) home ∧
      tree.at? home = some .directory ∧ Text.fileBytes? part = some name ∧
      place = home ++ [name] := by
  obtain ⟨home, name, walks, holds, named, _, reached⟩ := (walks_concat_iff inward).mp opens.walks
  exact ⟨home, name, walks, holds, named, reached⟩

/-! ### Names with the same bytes -/

variable {first second : Text}

theorem fileBytes?_join_concat (same : Text.fileBytes? first = Text.fileBytes? second)
    (parts : List Text) :
    Text.fileBytes? (Text.join '/' (parts ++ [first])) =
      Text.fileBytes? (Text.join '/' (parts ++ [second])) := by
  induction parts with
  | nil => exact same
  | cons part rest inductionHypothesis =>
    have cut (last : Text) : Text.join '/' (part :: (rest ++ [last])) =
        part ++ [CodePoint.char '/'] ++ Text.join '/' (rest ++ [last]) := by
      cases rest <;> simp [Text.join]
    rw [List.cons_append, List.cons_append, cut, cut, Text.fileBytes?_append, inductionHypothesis,
      ← Text.fileBytes?_append]

/-- The bytes of a path depend on those of its last name only. -/
theorem fileBytes?_text_child (same : Text.fileBytes? first = Text.fileBytes? second)
    (directory : FilePath) :
    Text.fileBytes? (directory.child first).text = Text.fileBytes? (directory.child second).text := by
  have text (name : Text) : (directory.child name).text =
      directory.root.text ++ Text.join '/' (directory.parts ++ [name]) :=
    if_neg fun bare => List.append_ne_nil_of_right_ne_nil _ (List.cons_ne_nil _ _) bare.2
  rw [text, text, Text.fileBytes?_append, fileBytes?_join_concat same, ← Text.fileBytes?_append]

/-- Two names with the same bytes open the same files. -/
theorem Opens.of_fileBytes? {directory : FilePath} {place : FilePlace}
    (opens : tree.Opens (directory.child first) place)
    (same : Text.fileBytes? second = Text.fileBytes? first) (inward : first ≠ "..")
    (otherInward : second ≠ "..") : tree.Opens (directory.child second) place := by
  obtain ⟨⟨bytes, known, rest⟩, walks, file⟩ := opens
  obtain ⟨home, name, leads, holds, named, reached⟩ := (walks_concat_iff inward).mp walks
  exact ⟨⟨bytes, (fileBytes?_text_child same directory).trans known, rest⟩,
    (walks_concat_iff otherInward).mpr ⟨home, name, leads, holds, same.trans named, reached⟩, file⟩

end FileTree

namespace Credentials

/-! ### Names of files -/

theorem isIdentity_eq_true_iff {project : Text} :
    isIdentity project = true ↔ project ≠ [] ∧ CodePoint.char '/' ∉ project ∧
      CodePoint.char Text.backslash ∉ project ∧ project.head? ≠ some '.' := by
  simp [isIdentity, and_assoc]

variable {settings : Settings} {project : Text}

/-- A file has a name with five code points at least. -/
theorem five_le_length (project : Text) : 5 ≤ (project ++ ".json" : Text).length := by
  have ending : (".json" : Text).length = 5 := rfl
  rw [List.length_append, ending]
  exact Nat.le_add_left 5 project.length

theorem isName_of_isIdentity (identity : isIdentity project = true) :
    FilePath.IsName (project ++ ".json") where
  isPart := by
    have long := five_le_length project
    have given : (project ++ ".json" : Text) ≠ [] := fun same => by
      rw [same] at long
      exact absurd long (by decide)
    have undotted : (project ++ ".json" : Text) ≠ "." := fun same => by
      rw [same] at long
      exact absurd long (by decide)
    simp [FilePath.isPart, given, undotted]
  slashless member := by
    rcases List.mem_append.mp member with inside | inside
    · exact (isIdentity_eq_true_iff.mp identity).2.1 inside
    · exact absurd inside (by decide)

theorem ne_twoDots (project : Text) : (project ++ ".json" : Text) ≠ ".." := fun same => by
  have long := five_le_length project
  rw [same] at long
  exact absurd long (by decide)

/-- Different projects have different files. -/
theorem fileOf_inj {other : Text} (same : fileOf settings project = fileOf settings other) :
    project = other := by
  have names := congrArg FilePath.name? same
  rw [fileOf, fileOf, FilePath.name?_child, FilePath.name?_child] at names
  exact List.append_cancel_right (Option.some.inj names)

/-! ### Confinement -/

/-- A path lies directly in the directory that a text stands for, under the name of the file of a
project. -/
structure Confined (directory project : Text) (found : FilePath) : Prop where
  parent : found.parent = .ofText directory
  name : found.name? = some (project ++ ".json")
  /-- The path is what the text of the directory comes to if the name is written behind it. -/
  joined : FilePath.ofText (FilePath.joinTexts directory (project ++ ".json")) = found
  /-- The text of the path stands for the path. -/
  written : FilePath.ofText found.text = found
  /-- The file that is opened lies directly in the directory, under the bytes of the name. -/
  inside : ∀ (files : FileTree) (place : FilePlace), files.Opens found place →
    ∃ home name, files.Walks (FilePath.ofText directory).parts
        (files.startOf (FilePath.ofText directory).root) home ∧
      files.at? home = some .directory ∧ Text.fileBytes? (project ++ ".json") = some name ∧
      place = home ++ [name]

theorem confined_fileOf {directory : Text} (normal : settings.directory = .ofText directory)
    (identity : isIdentity project = true) :
    Confined directory project (fileOf settings project) := by
  have isName := isName_of_isIdentity identity
  rw [fileOf, normal]
  refine ⟨FilePath.parent_child _ _, FilePath.name?_child _ _,
    FilePath.ofText_joinTexts isName directory, FilePath.ofText_text fun part member => ?_,
    fun files place opens => opens.exists_home (ne_twoDots project)⟩
  rcases List.mem_append.mp member with inside | last
  · exact FilePath.isName_of_mem_ofText inside
  · rwa [List.mem_singleton.mp last]

/-- What is loaded depends on no other file than the one that is opened. -/
theorem load_congr (levels : Nat) {files others : FileTree} (same : files.SamePlaces others)
    (held : ∀ place, files.Opens (fileOf settings project) place →
      files.at? place = others.at? place) :
    load levels settings files (.text project) = load levels settings others (.text project) := by
  cases identity : isIdentity project with
  | false => rw [load_of_not_isIdentity identity, load_of_not_isIdentity identity]
  | true =>
    rw [load_of_isIdentity identity, load_of_isIdentity identity]
    by_cases zero : CodePoint.char (Char.ofNat 0) ∈ (fileOf settings project).text
    · have refused : pathFault? (fileOf settings project) ≠ none := by
        rw [pathFault?]
        split
        · exact Option.some_ne_none _
        · rw [if_pos (by simpa using zero)]
          exact Option.some_ne_none _
      obtain ⟨failure, refusal⟩ := Option.ne_none_iff_exists'.mp refused
      rw [refusal]
    · rw [FileTree.read_congr zero same held]

/-- A name has the bytes of another if it has them with the ending of a file behind it. -/
theorem fileBytes?_ending_inj {other : Text} {name : List UInt8}
    (one : Text.fileBytes? (project ++ ".json") = some name)
    (another : Text.fileBytes? (other ++ ".json") = some name) :
    Text.fileBytes? other = Text.fileBytes? project := by
  rw [Text.fileBytes?_append, Text.fileBytes?_ofString, Option.bind_eq_some_iff] at one another
  obtain ⟨front, known, whole⟩ := one
  obtain ⟨otherFront, otherKnown, otherWhole⟩ := another
  rw [known, otherKnown]
  exact congrArg some
    (List.append_cancel_right (Option.some.inj (otherWhole.trans whole.symm)))

/-- Of two projects, one opens a file of the other exactly if their names have the same bytes. -/
theorem opens_iff_of_opens {other : Text} {files : FileTree} {place : FilePlace}
    (opens : files.Opens (fileOf settings project) place) :
    files.Opens (fileOf settings other) place ↔
      Text.fileBytes? other = Text.fileBytes? project := by
  constructor
  · intro also
    obtain ⟨_, name, _, _, one, reached⟩ := opens.exists_home (ne_twoDots project)
    obtain ⟨_, otherName, _, _, another, again⟩ := also.exists_home (ne_twoDots other)
    have names := List.append_inj_right' (reached.symm.trans again) rfl
    obtain rfl := List.singleton_inj.mp names
    exact fileBytes?_ending_inj one another
  · intro same
    have whole : Text.fileBytes? (other ++ ".json") = Text.fileBytes? (project ++ ".json") := by
      rw [Text.fileBytes?_append, same, ← Text.fileBytes?_append]
    exact opens.of_fileBytes? whole (ne_twoDots project) (ne_twoDots other)

/-- A project of one character. -/
def accented : Text := "é"

/-- A project of the two halves that stand for the bytes of that character. -/
def halved : Text := [.half ⟨0x4c3, by decide⟩, .half ⟨0x4a9, by decide⟩]

/-- The credentials of the first of them: a map without entries. -/
def accentedFiles : FileTree :=
  .ofFiles [] [([("projects" : Text), "é.json"], .bytes "\x7b\x7d".toUTF8.data.toList)]

/-- Whatever stands in the text of a directory, the file of a project is in that directory. -/
example : (path (.ofEnvironment [(("FQL_PROJECTS_DIR" : Text), "//keys/..//./old/")])
    (.text "alpha..")).map FilePath.text = .ok "//keys/../old/alpha...json" := by
  decide

end Credentials

end DocQuery
