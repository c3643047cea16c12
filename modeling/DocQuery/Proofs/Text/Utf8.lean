/-
This file proves that decoding accepts exactly the bytes of strings, that a text has a fault exactly if
one of its code points has no bytes, and that strings have bytes of their own in the names of files.

What a first byte announces is a number of bytes to follow, with bounds on the second of all. The
bounds share out the characters beyond the first 128 among the kinds of first bytes and leave out
the halves and everything beyond the last character. So whatever follows as it was announced makes
up the bytes of one character, and the bytes of every such character are announced. Decoding takes
one character after the other, and there are no more characters than bytes.
-/

import DocQuery.Text.Utf8
import Mathlib.Data.List.Basic
import Mathlib.Data.List.TakeWhile

namespace DocQuery.Text

/-! ### Announced bytes -/

/-- What the first byte of a longer sequence announces, by its code. -/
inductive Utf8Lead.IsOf (code : Nat) : Utf8Lead → Prop
  | two : 0xc2 ≤ code → code ≤ 0xdf → IsOf code ⟨code - 0xc0, 1, 0x80, 0xbf⟩
  | threeFromFloor : code = 0xe0 → IsOf code ⟨0, 2, 0xa0, 0xbf⟩
  | threeBelowHalves : code = 0xed → IsOf code ⟨0xd, 2, 0x80, 0x9f⟩
  | three : 0xe1 ≤ code → code ≤ 0xef → code ≠ 0xed → IsOf code ⟨code - 0xe0, 2, 0x80, 0xbf⟩
  | fourFromFloor : code = 0xf0 → IsOf code ⟨0, 3, 0x90, 0xbf⟩
  | four : 0xf1 ≤ code → code ≤ 0xf3 → IsOf code ⟨code - 0xf0, 3, 0x80, 0xbf⟩
  | fourToCeiling : code = 0xf4 → IsOf code ⟨4, 3, 0x80, 0x8f⟩

theorem Utf8Lead.ofByte?_eq_some_iff {byte : UInt8} {lead : Utf8Lead} :
    ofByte? byte = some lead ↔ IsOf byte.toNat lead := by
  rw [ofByte?]
  constructor
  · intro announced
    split at announced
    · next range => exact Option.some.inj announced ▸ .two range.1 range.2
    split at announced
    · next same => exact Option.some.inj announced ▸ .threeFromFloor same
    split at announced
    · next same => exact Option.some.inj announced ▸ .threeBelowHalves same
    split at announced
    · next other range => exact Option.some.inj announced ▸ .three range.1 range.2 other
    split at announced
    · next same => exact Option.some.inj announced ▸ .fourFromFloor same
    split at announced
    · next range => exact Option.some.inj announced ▸ .four range.1 range.2
    split at announced
    · next same => exact Option.some.inj announced ▸ .fourToCeiling same
    · cases announced
  · intro known
    generalize byte.toNat = code at known
    cases known with
    | two low high => rw [if_pos ⟨low, high⟩]
    | threeFromFloor same => simp [same]
    | threeBelowHalves same => simp [same]
    | three low high other =>
      rw [if_neg (by omega), if_neg (by omega), if_neg other, if_pos ⟨low, high⟩]
    | fourFromFloor same => simp [same]
    | four low high =>
      rw [if_neg (by omega), if_neg (by omega), if_neg (by omega), if_neg (by omega),
        if_neg (by omega), if_pos ⟨low, high⟩]
    | fourToCeiling same => simp [same]

/-- Bytes follow as a first byte announced them. -/
structure Utf8Lead.Announces (lead : Utf8Lead) (following : List UInt8) : Prop where
  length : following.length = lead.following
  second : ∀ byte ∈ following.head?, lead.low ≤ byte.toNat ∧ byte.toNat ≤ lead.high
  others : ∀ byte ∈ following.tail, isContinuation byte = true

theorem Utf8Lead.IsOf.following_pos {code : Nat} {lead : Utf8Lead} (known : lead.IsOf code) :
    0 < lead.following := by
  cases known <;> exact Nat.succ_pos _

theorem fittingCount_append {lead : Utf8Lead} (positive : 0 < lead.following)
    {following : List UInt8} (announced : lead.Announces following) (rest : List UInt8) :
    fittingCount lead (following ++ rest) = lead.following := by
  obtain ⟨length, second, others⟩ := announced
  cases following with
  | nil =>
    rw [← length] at positive
    cases positive
  | cons byte following =>
    have count : lead.following - 1 = following.length := by
      rw [← length, List.length_cons, Nat.add_sub_cancel]
    have whole : following.takeWhile isContinuation = following :=
      List.takeWhile_eq_self_iff.mpr others
    rw [List.cons_append, fittingCount, if_pos (second byte rfl), count, List.take_left, whole,
      ← length, List.length_cons, Nat.add_comm]

theorem announces_take {lead : Utf8Lead} (positive : 0 < lead.following) {rest : List UInt8}
    (fits : fittingCount lead rest = lead.following) :
    lead.Announces (rest.take lead.following) := by
  cases rest with
  | nil =>
    rw [← fits] at positive
    cases positive
  | cons byte rest =>
    obtain ⟨count, known⟩ := Nat.exists_eq_add_of_le' positive
    rw [fittingCount] at fits
    split at fits
    · next bounds =>
      rw [known, Nat.add_sub_cancel] at fits
      -- none of the bytes that are looked at stops the count
      have counted := List.takeWhile_prefix isContinuation (l := rest.take count)
      have whole : (rest.take count).takeWhile isContinuation = rest.take count :=
        counted.eq_of_length (Nat.le_antisymm counted.length_le
          (Nat.le_trans (List.length_take_le ..) (by omega)))
      rw [whole] at fits
      rw [known, List.take_succ_cons]
      refine ⟨?_, ?_, List.takeWhile_eq_self_iff.mp whole⟩
      · rw [List.length_cons, known]
        omega
      · rintro _ ⟨⟩
        exact bounds
    · rw [← fits] at positive
      cases positive

/-! ### Characters -/

theorem toNat_ofNat {code : Nat} (valid : code.isValidChar) : (Char.ofNat code).toNat = code := by
  rw [Char.ofNat, dif_pos valid]
  rfl

theorem isContinuation_iff {byte : UInt8} :
    isContinuation byte = true ↔ 0x80 ≤ byte.toNat ∧ byte.toNat ≤ 0xbf := by
  simp [isContinuation]

theorem utf8EncodeChar_ofNat {code : Nat} (valid : code.isValidChar) :
    String.utf8EncodeChar (Char.ofNat code) =
      if code ≤ 127 then [.ofNat code]
      else if code ≤ 2047 then [.ofNat (code / 64 % 32 + 192), .ofNat (code % 64 + 128)]
      else if code ≤ 65535 then
        [.ofNat (code / 4096 % 16 + 224), .ofNat (code / 64 % 64 + 128), .ofNat (code % 64 + 128)]
      else
        [.ofNat (code / 262144 % 8 + 240), .ofNat (code / 4096 % 64 + 128),
          .ofNat (code / 64 % 64 + 128), .ofNat (code % 64 + 128)] := by
  have same : (Char.ofNat code).val.toNat = code := toNat_ofNat valid
  rw [String.utf8EncodeChar, same]

theorem eq_ofNat {byte : UInt8} {code : Nat} (same : byte.toNat = code) : byte = .ofNat code := by
  rw [← same, UInt8.ofNat_toNat]

variable {code : Nat} {first second third fourth : UInt8}

theorem utf8EncodeChar_of_two (low : 128 ≤ code) (high : code ≤ 2047)
    (one : first.toNat = code / 64 + 192) (two : second.toNat = code % 64 + 128) :
    String.utf8EncodeChar (Char.ofNat code) = [first, second] := by
  have top : first = .ofNat (code / 64 % 32 + 192) := eq_ofNat (by omega)
  rw [utf8EncodeChar_ofNat (.inl (by omega)), if_neg (by omega), if_pos high, top, ← eq_ofNat two]

theorem utf8EncodeChar_of_three (valid : code.isValidChar) (low : 2048 ≤ code)
    (high : code ≤ 65535) (one : first.toNat = code / 4096 + 224)
    (two : second.toNat = code / 64 % 64 + 128) (three : third.toNat = code % 64 + 128) :
    String.utf8EncodeChar (Char.ofNat code) = [first, second, third] := by
  have top : first = .ofNat (code / 4096 % 16 + 224) := eq_ofNat (by omega)
  rw [utf8EncodeChar_ofNat valid, if_neg (by omega), if_neg (by omega), if_pos high, top,
    ← eq_ofNat two, ← eq_ofNat three]

theorem utf8EncodeChar_of_four (low : 65536 ≤ code) (high : code ≤ 1114111)
    (one : first.toNat = code / 262144 + 240) (two : second.toNat = code / 4096 % 64 + 128)
    (three : third.toNat = code / 64 % 64 + 128) (four : fourth.toNat = code % 64 + 128) :
    String.utf8EncodeChar (Char.ofNat code) = [first, second, third, fourth] := by
  have top : first = .ofNat (code / 262144 % 8 + 240) := eq_ofNat (by omega)
  rw [utf8EncodeChar_ofNat (.inr (by omega)), if_neg (by omega), if_neg (by omega),
    if_neg (by omega), top, ← eq_ofNat two, ← eq_ofNat three, ← eq_ofNat four]

/-- What follows as announced makes up the bytes of one character. -/
theorem utf8EncodeChar_sequenceCode {lead : Utf8Lead} (known : lead.IsOf first.toNat)
    {following : List UInt8} (announced : lead.Announces following) :
    String.utf8EncodeChar (Char.ofNat (sequenceCode lead following)) = first :: following := by
  obtain ⟨length, bounded, others⟩ := announced
  cases following with
  | nil => cases known <;> cases length
  | cons second following =>
    obtain ⟨low, high⟩ := bounded second rfl
    have continued : ∀ byte ∈ following, 0x80 ≤ byte.toNat ∧ byte.toNat ≤ 0xbf :=
      fun byte member => isContinuation_iff.mp (others byte member)
    simp only [List.length_cons] at length
    cases known with
    | two least most =>
      obtain rfl := List.eq_nil_of_length_eq_zero (Nat.succ.inj length)
      simp only [sequenceCode, List.foldl] at low high ⊢
      apply utf8EncodeChar_of_two <;> omega
    | three | threeFromFloor | threeBelowHalves =>
      obtain ⟨third, rfl⟩ := List.length_eq_one_iff.mp (Nat.succ.inj length)
      obtain ⟨lowThird, highThird⟩ := continued third List.mem_cons_self
      simp only [sequenceCode, List.foldl] at low high ⊢
      apply utf8EncodeChar_of_three <;> (try rw [Nat.isValidChar]) <;> omega
    | four | fourFromFloor | fourToCeiling =>
      obtain ⟨third, fourth, rfl⟩ := List.length_eq_two.mp (Nat.succ.inj length)
      obtain ⟨lowThird, highThird⟩ := continued third List.mem_cons_self
      obtain ⟨lowFourth, highFourth⟩ :=
        continued fourth (List.mem_cons_of_mem _ List.mem_cons_self)
      simp only [sequenceCode, List.foldl] at low high ⊢
      apply utf8EncodeChar_of_four <;> omega

/-- A first byte with the bytes that it announces, for a code. -/
def IsSequence (first : UInt8) (following : List UInt8) (code : Nat) : Prop :=
  ∃ lead, Utf8Lead.IsOf first.toNat lead ∧ lead.Announces following ∧
    sequenceCode lead following = code

theorem isSequence_of_two (low : 128 ≤ code) (high : code ≤ 2047)
    (one : first.toNat = code / 64 + 192) (two : second.toNat = code % 64 + 128) :
    IsSequence first [second] code := by
  refine ⟨_, .two (by omega) (by omega), ⟨rfl, ?_, nofun⟩, ?_⟩
  · rintro _ ⟨⟩
    dsimp only
    omega
  · simp only [sequenceCode, List.foldl]
    omega

variable {bits low high : Nat}

theorem isSequence_of_three (known : Utf8Lead.IsOf first.toNat ⟨bits, 2, low, high⟩)
    (above : low ≤ second.toNat) (below : second.toNat ≤ high) (carried : bits = code / 4096)
    (two : second.toNat = code / 64 % 64 + 128) (three : third.toNat = code % 64 + 128) :
    IsSequence first [second, third] code := by
  refine ⟨_, known, ⟨rfl, ?_, ?_⟩, ?_⟩
  · rintro _ ⟨⟩
    exact ⟨above, below⟩
  · exact List.forall_mem_singleton.mpr (isContinuation_iff.mpr (by omega))
  · simp only [sequenceCode, List.foldl]
    omega

theorem isSequence_of_four (known : Utf8Lead.IsOf first.toNat ⟨bits, 3, low, high⟩)
    (above : low ≤ second.toNat) (below : second.toNat ≤ high) (carried : bits = code / 262144)
    (two : second.toNat = code / 4096 % 64 + 128) (three : third.toNat = code / 64 % 64 + 128)
    (four : fourth.toNat = code % 64 + 128) : IsSequence first [second, third, fourth] code := by
  refine ⟨_, known, ⟨rfl, ?_, ?_⟩, ?_⟩
  · rintro _ ⟨⟩
    exact ⟨above, below⟩
  · exact List.forall_mem_cons.mpr ⟨isContinuation_iff.mpr (by omega),
      List.forall_mem_singleton.mpr (isContinuation_iff.mpr (by omega))⟩
  · simp only [sequenceCode, List.foldl]
    omega

theorem exists_byte (value : Nat) (small : value < 256) : ∃ byte : UInt8, byte.toNat = value :=
  ⟨.ofNat value, UInt8.toNat_ofNat_of_lt small⟩

/-- The bytes of a character beyond the first 128 are a first byte with what it announces. -/
theorem exists_isSequence {c : Char} (beyond : 128 ≤ c.toNat) :
    ∃ first following, String.utf8EncodeChar c = first :: following ∧
      IsSequence first following c.toNat := by
  have valid : c.toNat.isValidChar := c.valid
  rw [← Char.ofNat_toNat c, toNat_ofNat valid]
  generalize c.toNat = code at valid beyond
  have bounds := valid
  rw [Nat.isValidChar] at bounds
  obtain ⟨last, ending⟩ := exists_byte (code % 64 + 128) (by omega)
  by_cases two : code ≤ 2047
  · obtain ⟨first, one⟩ := exists_byte (code / 64 + 192) (by omega)
    exact ⟨first, _, utf8EncodeChar_of_two beyond two one ending,
      isSequence_of_two beyond two one ending⟩
  obtain ⟨inner, inside⟩ := exists_byte (code / 64 % 64 + 128) (by omega)
  by_cases three : code ≤ 65535
  · obtain ⟨first, one⟩ := exists_byte (code / 4096 + 224) (by omega)
    refine ⟨first, _, utf8EncodeChar_of_three valid (by omega) three one inside ending, ?_⟩
    by_cases floor : first.toNat = 0xe0
    · apply isSequence_of_three (.threeFromFloor floor) <;> omega
    by_cases halves : first.toNat = 0xed
    · apply isSequence_of_three (.threeBelowHalves halves) <;> omega
    · apply isSequence_of_three (.three (by omega) (by omega) halves) <;> omega
  obtain ⟨outer, outside⟩ := exists_byte (code / 4096 % 64 + 128) (by omega)
  obtain ⟨first, one⟩ := exists_byte (code / 262144 + 240) (by omega)
  refine ⟨first, _, utf8EncodeChar_of_four (by omega) (by omega) one outside inside ending, ?_⟩
  by_cases floor : first.toNat = 0xf0
  · apply isSequence_of_four (.fourFromFloor floor) <;> omega
  by_cases ceiling : first.toNat = 0xf4
  · apply isSequence_of_four (.fourToCeiling ceiling) <;> omega
  · apply isSequence_of_four (.four (by omega) (by omega)) <;> omega

/-- The first 128 characters are one byte each. -/
theorem utf8EncodeChar_of_one (byte : UInt8) (low : byte.toNat < 0x80) :
    String.utf8EncodeChar (Char.ofNat byte.toNat) = [byte] := by
  rw [utf8EncodeChar_ofNat (.inl (by omega)), if_pos (by omega), UInt8.ofNat_toNat]

/-! ### Decoding -/

/-- The bytes of a character are decoded as that character. -/
theorem exists_decodeUtf8From_append (position fuel : Nat) (c : Char) (rest : List UInt8) :
    ∃ next, decodeUtf8From position (fuel + 1) (String.utf8EncodeChar c ++ rest) =
      (decodeUtf8From next fuel rest).map (CodePoint.char c :: ·) := by
  by_cases small : c.toNat < 128
  · obtain ⟨byte, code⟩ := exists_byte c.toNat (by omega)
    have written := utf8EncodeChar_of_one byte (by omega)
    rw [code, Char.ofNat_toNat] at written
    refine ⟨position + 1, ?_⟩
    rw [written, List.singleton_append, decodeUtf8From, if_pos (by omega), code, Char.ofNat_toNat]
  · obtain ⟨first, following, written, lead, known, announced, code⟩ :=
      exists_isSequence (c := c) (by omega)
    have fits := fittingCount_append known.following_pos announced rest
    have large : ¬ first.toNat < 0x80 := by
      cases known <;> omega
    refine ⟨position + 1 + lead.following, ?_⟩
    rw [written, List.cons_append, decodeUtf8From, if_neg large,
      Utf8Lead.ofByte?_eq_some_iff.mpr known]
    dsimp only
    rw [fits, if_pos rfl, ← announced.length, List.drop_left, List.take_left, code,
      Char.ofNat_toNat]

theorem exists_of_map {outcome : Except Utf8Fault Text} {change : Text → Text} {text : Text}
    (made : outcome.map change = .ok text) : ∃ found, outcome = .ok found ∧ change found = text := by
  cases outcome with
  | error fault => cases made
  | ok found => exact ⟨found, rfl, Except.ok.inj made⟩

/-- What is decoded begins with a character, and the bytes with those of it. -/
theorem exists_of_decodeUtf8From {position fuel : Nat} {bytes : List UInt8} {text : Text}
    (nonempty : bytes ≠ []) (decoded : decodeUtf8From position fuel bytes = .ok text) :
    ∃ fewer next c rest others, fuel = fewer + 1 ∧ bytes = String.utf8EncodeChar c ++ rest ∧
      text = .char c :: others ∧ decodeUtf8From next fewer rest = .ok others := by
  obtain ⟨first, rest, rfl⟩ := List.exists_cons_of_ne_nil nonempty
  cases fuel with
  | zero => cases decoded
  | succ fuel =>
    rw [decodeUtf8From] at decoded
    split at decoded
    · next small =>
      obtain ⟨others, after, rfl⟩ := exists_of_map decoded
      exact ⟨fuel, _, _, rest, others, rfl, by rw [utf8EncodeChar_of_one first small]; rfl, rfl, after⟩
    · split at decoded
      · cases decoded
      · next lead announced =>
        have known := Utf8Lead.ofByte?_eq_some_iff.mp announced
        dsimp only at decoded
        split at decoded
        · next fits =>
          have follows := announces_take known.following_pos fits
          rw [fits] at decoded
          obtain ⟨others, after, rfl⟩ := exists_of_map decoded
          refine ⟨fuel, _, _, _, others, rfl, ?_, rfl, after⟩
          rw [utf8EncodeChar_sequenceCode known follows, List.cons_append, List.take_append_drop]
        · split at decoded <;> cases decoded

/-- With fuel for every character, the bytes of characters are decoded as them, and nothing else is
decoded. -/
theorem decodeUtf8From_eq_ok_iff {position fuel : Nat} {bytes : List UInt8}
    (enough : bytes.length ≤ fuel) {text : Text} :
    decodeUtf8From position fuel bytes = .ok text ↔
      ∃ chars : List Char, bytes = chars.flatMap String.utf8EncodeChar ∧ text = .ofChars chars := by
  constructor
  · intro decoded
    induction fuel generalizing position bytes text with
    | zero =>
      obtain rfl := List.eq_nil_of_length_eq_zero (Nat.le_zero.mp enough)
      cases decoded
      exact ⟨[], rfl, rfl⟩
    | succ fuel inductionHypothesis =>
      by_cases empty : bytes = []
      · subst empty
        cases decoded
        exact ⟨[], rfl, rfl⟩
      · obtain ⟨_, next, c, rest, others, ⟨⟩, rfl, rfl, after⟩ :=
          exists_of_decodeUtf8From empty decoded
        obtain ⟨chars, rfl, rfl⟩ := inductionHypothesis (by
          have written := List.length_pos_iff.mpr (String.utf8EncodeChar_ne_nil (c := c))
          rw [List.length_append] at enough
          omega) after
        exact ⟨c :: chars, rfl, rfl⟩
  · rintro ⟨chars, rfl, rfl⟩
    induction chars generalizing position fuel with
    | nil => cases fuel <;> rfl
    | cons c chars inductionHypothesis =>
      have written := List.length_pos_iff.mpr (String.utf8EncodeChar_ne_nil (c := c))
      rw [List.flatMap_cons, List.length_append] at enough
      obtain ⟨fewer, rfl⟩ := Nat.exists_eq_add_of_le' (Nat.lt_of_lt_of_le written (by omega : _ ≤ fuel))
      obtain ⟨next, decoded⟩ := exists_decodeUtf8From_append position fewer c
        (chars.flatMap String.utf8EncodeChar)
      rw [List.flatMap_cons, decoded, inductionHypothesis (by omega)]
      rfl

theorem toList_toUTF8 (content : String) :
    content.toUTF8.data.toList = content.toList.flatMap String.utf8EncodeChar := by
  rw [String.toUTF8, ← String.utf8Encode_toList, List.utf8Encode, List.data_toByteArray]

/-- Bytes are decoded exactly if they are those of a string, and as that string. -/
theorem decodeUtf8_eq_ok_iff {bytes : List UInt8} {text : Text} :
    decodeUtf8 bytes = .ok text ↔
      ∃ content : String, content.toUTF8.data.toList = bytes ∧ text = .ofString content := by
  rw [decodeUtf8, decodeUtf8From_eq_ok_iff (Nat.le_refl _)]
  constructor
  · rintro ⟨chars, rfl, rfl⟩
    refine ⟨.ofList chars, ?_, ?_⟩
    · rw [toList_toUTF8, String.toList_ofList]
    · rw [ofString, String.toList_ofList, ofChars]
  · rintro ⟨content, rfl, rfl⟩
    exact ⟨content.toList, toList_toUTF8 content, rfl⟩

/-! ### Texts with bytes -/

theorem encodingFaultFrom?_eq_none_iff {position : Nat} {text : Text} :
    encodingFaultFrom? position text = none ↔ ∀ point ∈ text, hasBytes point = true := by
  induction text generalizing position with
  | nil => simp [encodingFaultFrom?]
  | cons point rest inductionHypothesis =>
    rw [encodingFaultFrom?, List.forall_mem_cons]
    cases hasBytes point with
    | true => simpa using inductionHypothesis
    | false => simp

theorem isSome_pointBytes? (point : CodePoint) : (pointBytes? point).isSome = hasBytes point := by
  cases point with
  | char c => rfl
  | half offset =>
    rw [pointBytes?]
    split
    · next has => exact has.symm
    · next hasNone => exact (eq_false_of_ne_true hasNone).symm

theorem fileBytes?_append (first second : Text) :
    fileBytes? (first ++ second) =
      (fileBytes? first).bind fun front => (fileBytes? second).map fun back => front ++ back := by
  induction first with
  | nil => simp [fileBytes?]
  | cons point rest inductionHypothesis =>
    rw [List.cons_append, fileBytes?, fileBytes?, inductionHypothesis]
    cases pointBytes? point <;> cases fileBytes? rest <;> cases fileBytes? second <;> simp

/-- A text has bytes if each of its code points has. -/
theorem exists_fileBytes_iff {text : Text} :
    (∃ bytes, fileBytes? text = some bytes) ↔ ∀ point ∈ text, hasBytes point = true := by
  induction text with
  | nil => simp [fileBytes?]
  | cons point rest inductionHypothesis =>
    rw [List.forall_mem_cons, ← inductionHypothesis, ← isSome_pointBytes?, fileBytes?]
    cases pointBytes? point <;> cases fileBytes? rest <;> simp

/-- No byte of a sequence is one of the first 128. -/
theorem IsSequence.beyond {following : List UInt8} (sequence : IsSequence first following code) :
    ∀ byte ∈ first :: following, 0x80 ≤ byte.toNat := by
  obtain ⟨lead, known, ⟨-, bounded, others⟩, -⟩ := sequence
  refine List.forall_mem_cons.mpr ⟨by cases known <;> omega, ?_⟩
  cases following with
  | nil => exact nofun
  | cons second others' =>
    have ⟨low, _⟩ := bounded second rfl
    refine List.forall_mem_cons.mpr ⟨by cases known <;> simp only at low <;> omega, ?_⟩
    exact fun byte member => (isContinuation_iff.mp (others byte member)).1

/-- Only the character of code zero has a zero among its bytes. -/
theorem zero_mem_pointBytes? {point : CodePoint} {bytes : List UInt8}
    (known : pointBytes? point = some bytes) :
    0 ∈ bytes ↔ point = .char (Char.ofNat 0) := by
  cases point with
  | char c =>
    obtain rfl := Option.some.inj known
    by_cases small : c.toNat < 128
    · obtain ⟨byte, code⟩ := exists_byte c.toNat (by omega)
      have written := utf8EncodeChar_of_one byte (by omega)
      rw [code, Char.ofNat_toNat] at written
      rw [written, List.mem_singleton, ← UInt8.toNat_inj, code, CodePoint.char.injEq,
        ← Char.toNat_inj]
      exact eq_comm
    · obtain ⟨first, following, written, sequence⟩ := exists_isSequence (c := c) (by omega)
      rw [written]
      constructor
      · intro member
        exact absurd (sequence.beyond 0 member) (by decide)
      · rintro same
        cases same
        exact absurd (show (Char.ofNat 0).toNat < 128 by decide) small
  | half offset =>
    rw [pointBytes?] at known
    split at known
    · next has =>
      obtain rfl := Option.some.inj known
      have ⟨low, high⟩ : 0x480 ≤ offset.val ∧ offset.val < 0x500 := by
        simpa [hasBytes] using has
      have code : (UInt8.ofNat (offset.val - 0x400)).toNat = offset.val - 0x400 :=
        UInt8.toNat_ofNat_of_lt (show offset.val - 0x400 < 256 by omega)
      rw [List.mem_singleton, ← UInt8.toNat_inj, code]
      constructor
      · intro same
        have zero : (0 : UInt8).toNat = 0 := rfl
        omega
      · exact nofun
    · cases known

theorem zero_mem_fileBytes? {text : Text} {bytes : List UInt8} (known : fileBytes? text = some bytes) :
    0 ∈ bytes ↔ CodePoint.char (Char.ofNat 0) ∈ text := by
  induction text generalizing bytes with
  | nil =>
    obtain rfl := Option.some.inj known
    simp
  | cons point rest inductionHypothesis =>
    rw [fileBytes?] at known
    obtain ⟨front, one, known⟩ := Option.bind_eq_some_iff.mp known
    obtain ⟨back, others, rfl⟩ := Option.map_eq_some_iff.mp known
    rw [List.mem_append, List.mem_cons, zero_mem_pointBytes? one, inductionHypothesis others,
      eq_comm]

/-- The bytes of a string in the name of a file are its own. -/
theorem fileBytes?_ofString (content : String) :
    fileBytes? content = some content.toUTF8.data.toList := by
  have chars (list : List Char) :
      fileBytes? (.ofChars list) = some (list.flatMap String.utf8EncodeChar) := by
    induction list with
    | nil => rfl
    | cons c rest inductionHypothesis =>
      have split : fileBytes? (ofChars (c :: rest)) =
          (pointBytes? (.char c)).bind fun first =>
            (fileBytes? (ofChars rest)).map fun others => first ++ others := rfl
      rw [split, inductionHypothesis]
      rfl
  rw [toList_toUTF8, ← chars, ofString, ofChars]

/-- Different strings name different files. -/
theorem fileBytes?_ofString_inj {content other : String}
    (same : fileBytes? content = fileBytes? other) : content = other := by
  rw [fileBytes?_ofString, fileBytes?_ofString] at same
  have one := decodeUtf8_eq_ok_iff.mpr ⟨content, Option.some.inj same, rfl⟩
  have another := decodeUtf8_eq_ok_iff.mpr ⟨other, rfl, rfl⟩
  exact (ofString_inj content other).mp (Except.ok.inj (one.symm.trans another))

end DocQuery.Text
