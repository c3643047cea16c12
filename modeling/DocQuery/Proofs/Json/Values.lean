/-
This file proves that a value written as JSON text is read as the value itself.

Values are taken that JSON has a form for without loss: null, truth values, integers, texts of
characters, lists, and maps whose keys are such texts. Their text is read in every layout, and
whatever follows it is left over, as long as it does not carry a numeral on. So the law of a list
or a map comes from the laws of its items, and the law of all values by induction.

The law is an equation that says what becomes of the limits as well: a value that meets one is read
as far as the first place where it does, and what is wrong there is the answer. The writer stops at
the same place.
-/

import DocQuery.Proofs.Json.Integers
import Mathlib.Data.List.Induction

namespace DocQuery

namespace Json

/-! ### Values that the text keeps -/

def keepsKey : Key → Bool
  | .text content => isWhole content
  | _ => false

mutual
/-- Whether a value is made of null, truth values, integers, texts of characters, lists, and maps
that have each key once and for keys such texts. -/
def keeps : Value → Bool
  | .null => true
  | .bool _ => true
  | .int _ => true
  | .text content => isWhole content
  | .list items => keepsItems items
  | .map entries => decide (Entries.Distinct entries) && keepsEntries entries
  | .float _ => false
  | .bytes _ => false
  | .direction _ => false
def keepsItems : List Value → Bool
  | [] => true
  | item :: rest => keeps item && keepsItems rest
def keepsEntries : List (Key × Value) → Bool
  | [] => true
  | (key, value) :: rest => keepsKey key && keeps value && keepsEntries rest
end

theorem keepsItems_iff (items : List Value) :
    keepsItems items = true ↔ ∀ item ∈ items, keeps item = true := by
  induction items with
  | nil => simp [keepsItems]
  | cons item rest inductionHypothesis => simp [keepsItems, inductionHypothesis]

theorem keepsEntries_iff (entries : List (Key × Value)) :
    keepsEntries entries = true ↔
      ∀ entry ∈ entries, keepsKey entry.1 = true ∧ keeps entry.2 = true := by
  induction entries with
  | nil => simp [keepsEntries]
  | cons entry rest inductionHypothesis => simp [keepsEntries, inductionHypothesis, and_assoc]

/-- What is proved of lists from their items and of maps from their entries holds of every value
that the text keeps. -/
theorem keeps_induction (Holds : Value → Prop) (null : Holds .null)
    (bool : ∀ flag, Holds (.bool flag)) (int : ∀ number, Holds (.int number))
    (text : ∀ content, isWhole content → Holds (.text content))
    (list : ∀ items, (∀ item ∈ items, Holds item) → Holds (.list items))
    (map : ∀ entries, Entries.Distinct entries → (∀ entry ∈ entries, keepsKey entry.1) →
      (∀ entry ∈ entries, Holds entry.2) → Holds (.map entries))
    (value : Value) (kept : keeps value) : Holds value := by
  match value with
  | .null => exact null
  | .bool flag => exact bool flag
  | .int number => exact int number
  | .text content => exact text content kept
  | .list items =>
    have each := (keepsItems_iff items).mp kept
    exact list items fun item member =>
      keeps_induction Holds null bool int text list map item (each item member)
  | .map entries =>
    obtain ⟨distinct, members⟩ := Bool.and_eq_true_iff.mp kept
    have each := (keepsEntries_iff entries).mp members
    exact map entries (of_decide_eq_true distinct) (fun entry member => (each entry member).1)
      fun entry member =>
        keeps_induction Holds null bool int text list map entry.2 (each entry member).2
  | .float _ | .bytes _ | .direction _ => exact absurd kept Bool.false_ne_true
termination_by sizeOf value
decreasing_by
  · have := List.sizeOf_lt_of_mem member
    simp_wf
    omega
  · have := List.sizeOf_lt_of_mem member
    obtain ⟨key, value⟩ := entry
    simp_wf
    simp at this
    omega

/-! ### Limits -/

mutual
/-- The limit that a value meets first: an integer of too many digits, or a list or a map that lies
inside too many others. -/
def excess? (levels : Nat) : Value → Option Limit
  | .int number => digitExcess? number
  | .list items =>
    match levels with
    | 0 => some (.depth .list)
    | inner + 1 => excessOfItems? inner items
  | .map entries =>
    match levels with
    | 0 => some (.depth .map)
    | inner + 1 => excessOfEntries? inner entries
  | _ => none
def excessOfItems? (levels : Nat) : List Value → Option Limit
  | [] => none
  | item :: rest => (excess? levels item).or (excessOfItems? levels rest)
def excessOfEntries? (levels : Nat) : List (Key × Value) → Option Limit
  | [] => none
  | (_, value) :: rest => (excess? levels value).or (excessOfEntries? levels rest)
end

def Limit.writeFault : Limit → WriteFault
  | .digits _ => .tooManyDigits
  | .depth _ => .tooDeep

theorem digitFault?_eq (number : Int) :
    digitFault? number = (digitExcess? number).map Limit.writeFault := by
  rw [digitFault?, digitExcess?]
  split_ifs <;> rfl

/-- Of what the text keeps, nothing stops the writer but a limit. -/
theorem writeFault?_of_keeps (shown : Bool) {value : Value} (kept : keeps value) (levels : Nat) :
    writeFault? shown levels value = (excess? levels value).map Limit.writeFault := by
  refine keeps_induction
    (fun value => ∀ levels, writeFault? shown levels value =
      (excess? levels value).map Limit.writeFault)
    (fun _ => rfl) (fun _ _ => rfl) (fun number _ => digitFault?_eq number) (fun _ _ _ => rfl)
    ?list ?map value kept levels
  case list =>
    intro items each levels
    cases levels with
    | zero => rfl
    | succ inner =>
      rw [writeFault?, excess?]
      induction items with
      | nil => rfl
      | cons item rest inductionHypothesis =>
        obtain ⟨first, others⟩ := List.forall_mem_cons.mp each
        rw [writeFaultOfItems?, excessOfItems?, first, inductionHypothesis others, Option.map_or]
  case map =>
    intro entries distinct texts each levels
    clear distinct
    cases levels with
    | zero => rfl
    | succ inner =>
      rw [writeFault?, excess?]
      induction entries with
      | nil => rfl
      | cons entry rest inductionHypothesis =>
        obtain ⟨first, others⟩ := List.forall_mem_cons.mp each
        obtain ⟨text, textsLater⟩ := List.forall_mem_cons.mp texts
        obtain ⟨key, value⟩ := entry
        have written : keyFault? key = none := by
          cases key with
          | text content => rfl
          | _ => exact absurd text Bool.false_ne_true
        rw [writeFaultOfEntries?, excessOfEntries?, written, Option.none_or, first,
          inductionHypothesis textsLater others, Option.map_or]

/-! ### Layout -/

/-- What stands behind the first of several items, up to the closing bracket. -/
def following (layout : JsonLayout) (depth : Nat) (closing : Char) (items : List (List Char)) :
    List Char :=
  items.flatMap (between layout (depth + 1) ++ ·) ++ lineStart layout depth ++ [closing]

theorem following_nil (layout : JsonLayout) (depth : Nat) (closing : Char) :
    following layout depth closing [] = lineStart layout depth ++ [closing] := rfl

theorem following_cons (layout : JsonLayout) (depth : Nat) (closing : Char) (item : List Char)
    (items : List (List Char)) :
    following layout depth closing (item :: items) =
      between layout (depth + 1) ++ (item ++ following layout depth closing items) := by
  simp only [following, List.flatMap_cons, List.append_assoc]

theorem enclosed_cons (layout : JsonLayout) (depth : Nat) (opening closing : Char)
    (item : List Char) (items : List (List Char)) :
    enclosed layout depth opening closing (item :: items) =
      opening :: (lineStart layout (depth + 1) ++ (item ++ following layout depth closing items)) := by
  simp only [enclosed, following, List.cons_append, List.append_assoc]

theorem skipBlanks_lineStart (layout : JsonLayout) (depth : Nat) (text : Text) :
    skipBlanks (.ofChars (lineStart layout depth) ++ text) = skipBlanks text := by
  cases layout with
  | oneLine => rfl
  | indented width =>
    have blanks : ∀ point ∈ Text.ofChars (lineStart (.indented width) depth), isBlank point := by
      intro point member
      obtain ⟨c, among, rfl⟩ := List.mem_map.mp member
      rcases List.mem_cons.mp among with rfl | space
      · rfl
      · rw [List.eq_of_mem_replicate space]
        rfl
    exact List.dropWhile_append_of_pos blanks

/-- Between two items stands a comma, and only blanks behind it. -/
theorem exists_between (layout : JsonLayout) (depth : Nat) :
    ∃ gap, Text.ofChars (between layout depth) = .char ',' :: gap ∧
      ∀ text, skipBlanks (gap ++ text) = skipBlanks text := by
  cases layout with
  | oneLine => exact ⟨[.char ' '], rfl, fun _ => rfl⟩
  | indented width => exact ⟨_, rfl, skipBlanks_lineStart (.indented width) depth⟩

theorem stops_following (layout : JsonLayout) (depth : Nat) {closing : Char}
    (apart : closing = ']' ∨ closing = '\x7d') (items : List (List Char)) (rest : Text) :
    Stops (.ofChars (following layout depth closing items) ++ rest) := by
  cases items with
  | nil =>
    cases layout with
    | oneLine => obtain rfl | rfl := apart <;> exact stops_cons (by decide)
    | indented width => exact stops_cons (by decide)
  | cons item items =>
    cases layout <;> exact stops_cons (by decide)

/-- A text that starts like a value: with a character that is no blank, closes nothing, and is no mark
of byte order. -/
def Starts (content : List Char) : Prop :=
  ∃ c rest, content = c :: rest ∧ isBlank (.char c) = false ∧ c ≠ ']' ∧ c ≠ '\x7d' ∧
    c ≠ Char.ofNat 0xfeff

theorem Starts.append {content : List Char} (starts : Starts content) (other : List Char) :
    Starts (content ++ other) := by
  obtain ⟨c, rest, rfl, apart⟩ := starts
  exact ⟨c, rest ++ other, rfl, apart⟩

theorem Starts.skipBlanks {content : List Char} (starts : Starts content) (rest : Text) :
    skipBlanks (.ofChars content ++ rest) = .ofChars content ++ rest := by
  obtain ⟨c, others, rfl, noBlank, _⟩ := starts
  simp [Json.skipBlanks, noBlank]

/-- Behind the last item stands the closing bracket. -/
theorem skipBlanks_following_nil (layout : JsonLayout) (depth : Nat) {closing : Char}
    (noBlank : isBlank (.char closing) = false) (rest : Text) :
    skipBlanks (.ofChars (following layout depth closing []) ++ rest) = .char closing :: rest := by
  rw [following_nil, Text.ofChars_append, List.append_assoc, skipBlanks_lineStart]
  simp [skipBlanks, noBlank]

/-- Behind an item before another stands a comma, and behind its blanks the other. -/
theorem exists_following_cons (layout : JsonLayout) (depth : Nat) (closing : Char)
    {item : List Char} (starts : Starts item) (items : List (List Char)) (rest : Text) :
    ∃ left, skipBlanks (.ofChars (following layout depth closing (item :: items)) ++ rest) =
        .char ',' :: left ∧
      skipBlanks left = .ofChars (item ++ following layout depth closing items) ++ rest := by
  obtain ⟨gap, comma, skips⟩ := exists_between layout (depth + 1)
  refine ⟨gap ++ (Text.ofChars (item ++ following layout depth closing items) ++ rest), ?_, ?_⟩
  · rw [following_cons, Text.ofChars_append, comma, List.append_assoc]
    rfl
  · rw [skips, (starts.append _).skipBlanks]

theorem length_lt_length_following (layout : JsonLayout) (depth : Nat) (closing : Char)
    (item : List Char) (items : List (List Char)) :
    (item ++ following layout depth closing items).length <
      (following layout depth closing (item :: items)).length := by
  obtain ⟨gap, comma, _⟩ := exists_between layout (depth + 1)
  have positive := congrArg List.length comma
  rw [Text.ofChars, List.length_map, List.length_cons] at positive
  simp only [following_cons, List.length_append]
  omega

/-! ### Lists and maps -/

/-- Reading the text of a value gives the value, or the first of its excesses. -/
structure IsRead (layout : JsonLayout) (value : Value) : Prop where
  starts : ∀ depth, Starts (printValue layout depth value)
  reads : ∀ levels depth fuel rest, (printValue layout depth value).length ≤ fuel → Stops rest →
    readValue levels fuel (.ofChars (printValue layout depth value) ++ rest) =
      answer (excess? levels value) (value, rest)

variable {layout : JsonLayout}

theorem readItems_following (levels depth : Nat) {item : Value} {others : List Value}
    (read : ∀ member ∈ item :: others, IsRead layout member) (fuel : Nat)
    (enough : (printValue layout (depth + 1) item ++
      following layout depth ']' (printItems layout (depth + 1) others)).length ≤ fuel)
    (rest : Text) :
    readItems levels fuel (.ofChars (printValue layout (depth + 1) item ++
        following layout depth ']' (printItems layout (depth + 1) others)) ++ rest) =
      answer (excessOfItems? levels (item :: others)) (item :: others, rest) := by
  induction others generalizing item fuel with
  | nil =>
    obtain ⟨first, _⟩ := List.forall_mem_cons.mp read
    rw [printItems, following_nil, List.length_append, List.length_append,
      List.length_singleton] at enough
    obtain ⟨fuel, rfl⟩ := Nat.exists_eq_add_one_of_ne_zero (show fuel ≠ 0 by omega)
    have found := first.reads levels (depth + 1) fuel _ (by omega)
      (stops_following layout depth (.inl rfl) [] rest)
    have closed : skipBlanks (.ofChars (following layout depth ']' []) ++ rest) = .char ']' :: rest :=
      skipBlanks_following_nil layout depth rfl rest
    rw [printItems, Text.ofChars_append, List.append_assoc, readItems, found, excessOfItems?,
      excessOfItems?, Option.or_none]
    cases excess? levels item with
    | some limit => rfl
    | none => simp only [answer, closed]
  | cons other others inductionHypothesis =>
    obtain ⟨first, later⟩ := List.forall_mem_cons.mp read
    have shorter := length_lt_length_following layout depth ']'
      (printValue layout (depth + 1) other) (printItems layout (depth + 1) others)
    rw [printItems, List.length_append] at enough
    obtain ⟨fuel, rfl⟩ := Nat.exists_eq_add_one_of_ne_zero (show fuel ≠ 0 by omega)
    have found := first.reads levels (depth + 1) fuel _ (by omega)
      (stops_following layout depth (.inl rfl) (printItems layout (depth + 1) (other :: others))
        rest)
    have left := inductionHypothesis later fuel (by omega)
    obtain ⟨tail, comma, skipped⟩ := exists_following_cons layout depth ']'
      ((later other List.mem_cons_self).starts (depth + 1)) (printItems layout (depth + 1) others)
      rest
    rw [printItems] at found
    rw [printItems, Text.ofChars_append, List.append_assoc, readItems, found, excessOfItems?]
    cases excess? levels item with
    | some limit => rfl
    | none =>
      simp only [answer, comma, skipped, left, Option.none_or]
      cases excessOfItems? levels (other :: others) <;> rfl

/-- Behind the bracket of a list, items are read unless the list closes at once. -/
theorem readValue_list (inner fuel : Nat) {text rest : Text} {c : Char}
    (skipped : skipBlanks text = .char c :: rest) (stays : c ≠ ']') :
    readValue (inner + 1) (fuel + 1) (.char '[' :: text) =
      (readItems inner fuel (.char c :: rest)).map fun reading => (.list reading.1, reading.2) := by
  have apart : CodePoint.char '[' ≠ Text.doubleQuote := by decide
  rw [readValue, if_neg apart, if_pos rfl, skipped]
  split
  · next same => exact absurd (CodePoint.char.inj (List.cons.inj same).1) stays
  · rfl

theorem isRead_list {items : List Value} (read : ∀ item ∈ items, IsRead layout item) :
    IsRead layout (.list items) := by
  cases items with
  | nil =>
    refine ⟨fun depth => ⟨'[', _, rfl, by decide⟩, fun levels depth fuel rest enough _ => ?_⟩
    obtain ⟨fuel, rfl⟩ := Nat.exists_eq_add_one_of_ne_zero (Nat.ne_of_gt (Nat.zero_lt_of_lt enough))
    cases levels <;> rfl
  | cons item others =>
    refine ⟨fun depth => ⟨'[', _, rfl, by decide⟩, fun levels depth fuel rest enough _ => ?_⟩
    rw [printValue, printItems, enclosed_cons] at enough ⊢
    rw [List.length_cons, List.length_append] at enough
    obtain ⟨fuel, rfl⟩ := Nat.exists_eq_add_one_of_ne_zero (Nat.ne_of_gt (Nat.zero_lt_of_lt enough))
    cases levels with
    | zero => rfl
    | succ inner =>
      have starts := ((read item List.mem_cons_self).starts (depth + 1)).append
        (following layout depth ']' (printItems layout (depth + 1) others))
      have found := readItems_following inner depth read fuel (by omega) rest
      have skipped := starts.skipBlanks rest
      obtain ⟨c, tail, same, _, stays, _⟩ := starts
      rw [same, Text.ofChars_cons, List.cons_append] at skipped found
      rw [← skipBlanks_lineStart layout (depth + 1)] at skipped
      rw [Text.ofChars_cons, Text.ofChars_append, List.cons_append, List.append_assoc, same,
        Text.ofChars_cons, List.cons_append, readValue_list inner fuel skipped stays, found,
        excess?]
      cases excessOfItems? inner (item :: others) <;> rfl

/-- A new key comes last. -/
theorem insert_of_notMem {entries : Entries} {name : Text} (value : Value)
    (fresh : ∀ entry ∈ entries, entry.1 ≠ .text name) :
    Entries.insert (.text name) value entries = entries ++ [(.text name, value)] := by
  induction entries with
  | nil => rfl
  | cons entry rest inductionHypothesis =>
    obtain ⟨first, others⟩ := List.forall_mem_cons.mp fresh
    rw [Entries.insert, if_neg (by simpa using first), inductionHypothesis others]
    rfl

/-- Entering the entries of a map one after the other gives the map. -/
theorem ofPairs_of_distinct {entries : Entries} (distinct : entries.Distinct)
    (texts : ∀ entry ∈ entries, keepsKey entry.1) : Entries.ofPairs entries = entries := by
  induction entries using List.reverseRecOn with
  | nil => rfl
  | append_singleton earlier last inductionHypothesis =>
    obtain ⟨key, value⟩ := last
    rw [Entries.Distinct, Entries.keys, List.map_append, List.pairwise_append] at distinct
    obtain ⟨before, _, apart⟩ := distinct
    have others := inductionHypothesis before fun entry member =>
      texts entry (List.mem_append_left _ member)
    have kept := texts (key, value) (List.mem_append_right _ List.mem_cons_self)
    cases key with
    | text name =>
      rw [Entries.ofPairs] at others
      rw [Entries.ofPairs, List.foldl_append, List.foldl_cons, List.foldl_nil, others]
      refine insert_of_notMem value fun entry member same => ?_
      have different := apart entry.1 (List.mem_map_of_mem member) (.text name) List.mem_cons_self
      simp [same, Key.same] at different
    | _ => exact absurd kept Bool.false_ne_true

/-- The text of an entry. -/
def printEntry (layout : JsonLayout) (depth : Nat) (entry : Key × Value) : List Char :=
  printKey entry.1 ++ ':' :: ' ' :: printValue layout depth entry.2

theorem printEntries_cons (depth : Nat) (entry : Key × Value) (rest : Entries) :
    printEntries layout depth (entry :: rest) =
      printEntry layout depth entry :: printEntries layout depth rest := rfl

theorem starts_printEntry (layout : JsonLayout) (depth : Nat) {entry : Key × Value}
    (text : keepsKey entry.1) :
    Starts (printEntry layout depth entry) := by
  obtain ⟨key, value⟩ := entry
  cases key with
  | text name => exact ⟨Text.doubleQuote, _, rfl, by decide⟩
  | _ => exact absurd text Bool.false_ne_true

/-- An entry is read as its key and its value, and then it is seen what follows. -/
theorem readEntries_entry (levels depth : Nat) {entry : Key × Value} (text : keepsKey entry.1)
    (read : IsRead layout entry.2) {fuel : Nat}
    (enough : (printEntry layout depth entry).length ≤ fuel) {rest : Text} (stops : Stops rest) :
    readEntries levels (fuel + 1) (.ofChars (printEntry layout depth entry) ++ rest) =
      match excess? levels entry.2 with
      | some limit => .error limit.readFault
      | none =>
        match skipBlanks rest with
        | .char ',' :: left =>
          (readEntries levels fuel (skipBlanks left)).map fun reading =>
            (entry :: reading.1, reading.2)
        | .char '\x7d' :: left => .ok ([entry], left)
        | _ => .error .malformed := by
  obtain ⟨key, value⟩ := entry
  cases key with
  | text name =>
    have length := length_le_length_printText name
    simp only [printEntry, printKey, List.length_append, List.length_cons] at enough
    have found := read.reads levels depth fuel rest (by simp only; omega) stops
    have skipped := (read.starts depth).skipBlanks rest
    have known := readString_printPoints text fuel (by omega)
      (.ofChars (':' :: ' ' :: printValue layout depth value) ++ rest)
    have colon (others : Text) : skipBlanks (.char ':' :: others) = .char ':' :: others := rfl
    have blank (others : Text) : skipBlanks (.char ' ' :: others) = skipBlanks others := rfl
    simp only [printEntry, printKey, printText, Text.ofChars_append, Text.ofChars_cons,
      List.cons_append, List.nil_append, List.append_assoc] at known ⊢
    rw [readEntries, if_pos rfl, known]
    simp only [colon, blank, skipped, found]
    cases excess? levels value <;> rfl
  | _ => exact absurd text Bool.false_ne_true

theorem readEntries_following (levels depth : Nat) {entry : Key × Value} {others : Entries}
    (texts : ∀ member ∈ entry :: others, keepsKey member.1)
    (read : ∀ member ∈ entry :: others, IsRead layout member.2) (fuel : Nat)
    (enough : (printEntry layout (depth + 1) entry ++
      following layout depth '\x7d' (printEntries layout (depth + 1) others)).length ≤ fuel)
    (rest : Text) :
    readEntries levels fuel (.ofChars (printEntry layout (depth + 1) entry ++
        following layout depth '\x7d' (printEntries layout (depth + 1) others)) ++ rest) =
      answer (excessOfEntries? levels (entry :: others)) (entry :: others, rest) := by
  induction others generalizing entry fuel with
  | nil =>
    obtain ⟨first, _⟩ := List.forall_mem_cons.mp read
    rw [printEntries, following_nil, List.length_append, List.length_append,
      List.length_singleton] at enough
    obtain ⟨fuel, rfl⟩ := Nat.exists_eq_add_one_of_ne_zero (show fuel ≠ 0 by omega)
    have closed : skipBlanks (.ofChars (following layout depth '\x7d' []) ++ rest) =
        .char '\x7d' :: rest := skipBlanks_following_nil layout depth rfl rest
    rw [printEntries, Text.ofChars_append, List.append_assoc,
      readEntries_entry levels (depth + 1) (texts entry List.mem_cons_self) first (by omega)
        (stops_following layout depth (.inr rfl) [] rest), closed, excessOfEntries?,
      excessOfEntries?, Option.or_none]
    cases excess? levels entry.2 <;> rfl
  | cons other others inductionHypothesis =>
    obtain ⟨first, later⟩ := List.forall_mem_cons.mp read
    obtain ⟨text, textsLater⟩ := List.forall_mem_cons.mp texts
    have shorter := length_lt_length_following layout depth '\x7d'
      (printEntry layout (depth + 1) other) (printEntries layout (depth + 1) others)
    rw [printEntries_cons, List.length_append] at enough
    obtain ⟨fuel, rfl⟩ := Nat.exists_eq_add_one_of_ne_zero (show fuel ≠ 0 by omega)
    have left := inductionHypothesis textsLater later fuel (by omega)
    obtain ⟨tail, comma, skipped⟩ := exists_following_cons layout depth '\x7d'
      (starts_printEntry layout (depth + 1) (textsLater other List.mem_cons_self))
      (printEntries layout (depth + 1) others) rest
    rw [printEntries_cons, Text.ofChars_append, List.append_assoc,
      readEntries_entry levels (depth + 1) text first (by omega)
        (stops_following layout depth (.inr rfl) _ rest), comma, excessOfEntries?]
    cases excess? levels entry.2 with
    | some limit => rfl
    | none =>
      simp only [skipped, left, Option.none_or]
      cases excessOfEntries? levels (other :: others) <;> rfl

theorem readValue_map (inner fuel : Nat) {text rest : Text} {c : Char}
    (skipped : skipBlanks text = .char c :: rest) (stays : c ≠ '\x7d') :
    readValue (inner + 1) (fuel + 1) (.char '\x7b' :: text) =
      (readEntries inner fuel (.char c :: rest)).map fun reading =>
        (.map (Entries.ofPairs reading.1), reading.2) := by
  have noText : CodePoint.char '\x7b' ≠ Text.doubleQuote := by decide
  have noList : CodePoint.char '\x7b' ≠ '[' := by decide
  rw [readValue, if_neg noText, if_neg noList, if_pos rfl, skipped]
  split
  · next same => exact absurd (CodePoint.char.inj (List.cons.inj same).1) stays
  · rfl

theorem isRead_map {entries : Entries} (distinct : entries.Distinct)
    (texts : ∀ entry ∈ entries, keepsKey entry.1)
    (read : ∀ entry ∈ entries, IsRead layout entry.2) : IsRead layout (.map entries) := by
  cases entries with
  | nil =>
    refine ⟨fun depth => ⟨'\x7b', _, rfl, by decide⟩, fun levels depth fuel rest enough _ => ?_⟩
    obtain ⟨fuel, rfl⟩ := Nat.exists_eq_add_one_of_ne_zero (Nat.ne_of_gt (Nat.zero_lt_of_lt enough))
    cases levels <;> rfl
  | cons entry others =>
    refine ⟨fun depth => ⟨'\x7b', _, rfl, by decide⟩, fun levels depth fuel rest enough _ => ?_⟩
    rw [printValue, printEntries_cons, enclosed_cons] at enough ⊢
    rw [List.length_cons, List.length_append] at enough
    obtain ⟨fuel, rfl⟩ := Nat.exists_eq_add_one_of_ne_zero (Nat.ne_of_gt (Nat.zero_lt_of_lt enough))
    cases levels with
    | zero => rfl
    | succ inner =>
      have starts := (starts_printEntry layout (depth + 1)
        (texts entry List.mem_cons_self)).append
          (following layout depth '\x7d' (printEntries layout (depth + 1) others))
      have found := readEntries_following inner depth texts read fuel (by omega) rest
      have skipped := starts.skipBlanks rest
      obtain ⟨c, tail, same, _, _, stays, _⟩ := starts
      rw [same, Text.ofChars_cons, List.cons_append] at skipped found
      rw [← skipBlanks_lineStart layout (depth + 1)] at skipped
      rw [Text.ofChars_cons, Text.ofChars_append, List.cons_append, List.append_assoc, same,
        Text.ofChars_cons, List.cons_append, readValue_map inner fuel skipped stays, found,
        excess?]
      cases excessOfEntries? inner (entry :: others) with
      | some limit => rfl
      | none => simp only [answer, Except.map, ofPairs_of_distinct distinct texts]

/-! ### Values -/

/-- A value whose text opens no string, no list and no map is read as one without parts. -/
theorem isRead_scalar {value : Value} {c : Char} {others : List Char}
    (printed : ∀ depth, printValue layout depth value = c :: others)
    (starts : isBlank (.char c) = false ∧ c ≠ ']' ∧ c ≠ '\x7d' ∧ c ≠ Char.ofNat 0xfeff)
    (bare : c ≠ Text.doubleQuote ∧ c ≠ '[' ∧ c ≠ '\x7b')
    (read : ∀ levels rest, Stops rest → readScalar (.ofChars (c :: others) ++ rest) =
      answer (excess? levels value) (value, rest)) : IsRead layout value := by
  refine ⟨fun depth => ⟨c, others, printed depth, starts⟩,
    fun levels depth fuel rest enough stops => ?_⟩
  obtain ⟨noText, noList, noMap⟩ := bare
  have apart {other : Char} (different : c ≠ other) : CodePoint.char c ≠ .char other :=
    fun same => different (CodePoint.char.inj same)
  rw [printed, List.length_cons] at enough
  obtain ⟨fuel, rfl⟩ := Nat.exists_eq_add_one_of_ne_zero (Nat.ne_of_gt (Nat.zero_lt_of_lt enough))
  rw [← read levels rest stops, printed, Text.ofChars_cons, List.cons_append, readValue.eq_def]
  dsimp only
  rw [if_neg (apart noText), if_neg (apart noList), if_neg (apart noMap)]

theorem isRead_int (number : Int) : IsRead layout (.int number) := by
  have read (levels : Nat) (rest : Text) (stops : Stops rest) := readScalar_integer number stops
  obtain ⟨c, digits, same, digit⟩ := exists_digit number.natAbs
  rw [Text.integer, same] at read
  have printed (depth : Nat) : printValue layout depth (.int number) =
      if number < 0 then '-' :: c :: digits else c :: digits := by
    rw [printValue, Text.integer, same]
  split_ifs at printed read with below
  · exact isRead_scalar printed (by decide) (by decide) read
  · refine isRead_scalar printed ⟨?_, ?_, ?_, ?_⟩ ⟨?_, ?_, ?_⟩ read
    · refine Bool.eq_false_iff.mpr fun blank => ?_
      simp [isBlank] at blank
      obtain ((rfl | rfl) | rfl) | rfl := blank <;> exact absurd digit (by decide)
    all_goals
      rintro rfl
      exact absurd digit (by decide)

theorem isRead_text {content : Text} (whole : isWhole content) : IsRead layout (.text content) := by
  refine ⟨fun depth => ⟨Text.doubleQuote, _, rfl, by decide⟩,
    fun levels depth fuel rest enough _ => ?_⟩
  have length := length_le_length_printText content
  rw [printValue] at enough
  obtain ⟨fuel, rfl⟩ := Nat.exists_eq_add_one_of_ne_zero (show fuel ≠ 0 by omega)
  have read := readString_printPoints whole fuel (by omega) rest
  rw [printValue, printText, List.cons_append, Text.ofChars_cons, List.cons_append,
    readValue.eq_def, Text.ofChars_append, List.append_assoc]
  dsimp only
  rw [if_pos rfl]
  exact congrArg (Except.map _) read

/-- Every value that the text keeps is read, in every layout. -/
theorem isRead (layout : JsonLayout) (value : Value) (kept : keeps value) : IsRead layout value := by
  refine keeps_induction (IsRead layout) ?null ?bool isRead_int (fun _ => isRead_text)
    (fun _ => isRead_list) (fun _ => isRead_map) value kept
  case null =>
    exact isRead_scalar (fun _ => rfl) (by decide) (by decide) fun _ _ _ => rfl
  case bool =>
    intro flag
    cases flag <;>
      exact isRead_scalar (fun _ => rfl) (by decide) (by decide) fun _ _ _ => rfl

/-- The text of a value is read as the value, or else as the first of its excesses. -/
theorem read_print (levels : Nat) (layout : JsonLayout) {value : Value} (kept : keeps value) :
    read levels (print layout value) = answer (excess? levels value) value := by
  have known := isRead layout value kept
  have text : Text.ofString (print layout value) = .ofChars (printValue layout 0 value) := by
    rw [print, Text.ofString, String.toList_ofList, Text.ofChars]
  have enough : (printValue layout 0 value).length ≤
      2 * (Text.ofChars (printValue layout 0 value)).length + 2 := by
    rw [Text.ofChars, List.length_map]
    omega
  have found := known.reads levels 0 _ [] enough stops_nil
  have skipped := (known.starts 0).skipBlanks []
  obtain ⟨c, others, same, _, _, _, noMark⟩ := known.starts 0
  have unmarked : (Text.ofChars (printValue layout 0 value)).head? ≠
      some (CodePoint.char (Char.ofNat 0xfeff)) := by
    rw [same]
    simpa using noMark
  rw [List.append_nil] at found skipped
  rw [text, read]
  split
  · next marked => exact absurd marked unmarked
  · rw [skipped, found]
    cases excess? levels value <;> rfl

end Json

end DocQuery
