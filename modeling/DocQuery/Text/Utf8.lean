/-
This file decodes bytes as UTF-8 and says where and why bytes fail to be text, and which texts fail
to have bytes.

The decoder accepts exactly the well formed sequences: no overlong form, no surrogate, nothing
beyond the last code point. A fault names the first byte of the bad sequence, the number of
bytes taken as bad, and one of three reasons.

Every text of characters has bytes. Halves have none, but for the 128 that stand for single bytes
in the names of files: a name whose bytes are no text is a text with such a half for each bad byte. A
file goes by the bytes of its name, and such halves can stand for bytes that are those of a character.
-/

import DocQuery.Text.Basic

namespace DocQuery.Text

/-! ### Faults -/

/-- Why bytes are no text. -/
inductive Utf8Reason
  | badStart
  | badContinuation
  | truncated
  deriving DecidableEq, Repr

/-- Where bytes stop being text: the position of the first bad byte, the bad bytes, and the
reason. -/
structure Utf8Fault where
  position : Nat
  bad : List UInt8
  reason : Utf8Reason
  deriving DecidableEq, Repr

/-! ### Sequences -/

/-- Whether a byte continues a sequence. -/
def isContinuation (byte : UInt8) : Bool := 0x80 ≤ byte.toNat && byte.toNat ≤ 0xbf

/-- What a first byte announces: the bits it carries, the number of bytes to follow, and the
bounds of the second byte, which exclude overlong forms, surrogates and too large values. -/
structure Utf8Lead where
  bits : Nat
  following : Nat
  low : Nat
  high : Nat

/-- The announcement of a first byte, if it may start a longer sequence. -/
def Utf8Lead.ofByte? (byte : UInt8) : Option Utf8Lead :=
  let code := byte.toNat
  if 0xc2 ≤ code ∧ code ≤ 0xdf then some ⟨code - 0xc0, 1, 0x80, 0xbf⟩
  else if code = 0xe0 then some ⟨0, 2, 0xa0, 0xbf⟩
  else if code = 0xed then some ⟨0xd, 2, 0x80, 0x9f⟩
  else if 0xe1 ≤ code ∧ code ≤ 0xef then some ⟨code - 0xe0, 2, 0x80, 0xbf⟩
  else if code = 0xf0 then some ⟨0, 3, 0x90, 0xbf⟩
  else if 0xf1 ≤ code ∧ code ≤ 0xf3 then some ⟨code - 0xf0, 3, 0x80, 0xbf⟩
  else if code = 0xf4 then some ⟨4, 3, 0x80, 0x8f⟩
  else none

/-- The number of bytes behind the first that still fit a sequence. -/
def fittingCount (lead : Utf8Lead) (rest : List UInt8) : Nat :=
  match rest with
  | [] => 0
  | second :: others =>
    if lead.low ≤ second.toNat ∧ second.toNat ≤ lead.high then
      1 + ((others.take (lead.following - 1)).takeWhile isContinuation).length
    else 0

/-- The code point of a sequence whose following bytes are given. -/
def sequenceCode (lead : Utf8Lead) (following : List UInt8) : Nat :=
  following.foldl (fun code byte => code * 64 + (byte.toNat - 0x80)) lead.bits

/-! ### Decoding -/

/-- Decodes bytes from a position on; the fuel bounds the number of characters. -/
def decodeUtf8From (position : Nat) : Nat → List UInt8 → Except Utf8Fault Text
  | _, [] => .ok []
  | 0, byte :: _ => .error ⟨position, [byte], .badStart⟩
  | fuel + 1, byte :: rest =>
    if byte.toNat < 0x80 then
      (decodeUtf8From (position + 1) fuel rest).map (CodePoint.char (Char.ofNat byte.toNat) :: ·)
    else
      match Utf8Lead.ofByte? byte with
      | none => .error ⟨position, [byte], .badStart⟩
      | some lead =>
        let fitting := fittingCount lead rest
        if fitting = lead.following then
          (decodeUtf8From (position + 1 + fitting) fuel (rest.drop fitting)).map
            (CodePoint.char (Char.ofNat (sequenceCode lead (rest.take fitting))) :: ·)
        else if rest.length = fitting then
          .error ⟨position, byte :: rest, .truncated⟩
        else .error ⟨position, byte :: rest.take fitting, .badContinuation⟩

/-- The text that bytes encode, or the first fault in them. -/
def decodeUtf8 (bytes : List UInt8) : Except Utf8Fault Text :=
  decodeUtf8From 0 bytes.length bytes

/-! ### Names of files -/

def isHalf : CodePoint → Bool
  | .char _ => false
  | .half _ => true

/-- Whether a code point has bytes in the name of a file. -/
def hasBytes : CodePoint → Bool
  | .char _ => true
  | .half offset => 0x480 ≤ offset.val && offset.val < 0x500

/-- The bytes of a code point in the name of a file, if it has any. A half that has bytes stands for
one of them, which is none of the first 128. -/
def pointBytes? : CodePoint → Option (List UInt8)
  | .char c => some (String.utf8EncodeChar c)
  | .half offset =>
    if hasBytes (.half offset) then some [.ofNat (offset.val - 0x400)] else none

/-- The bytes of a text in the name of a file, if it has any. -/
def fileBytes? : Text → Option (List UInt8)
  | [] => some []
  | point :: rest =>
    (pointBytes? point).bind fun first => (fileBytes? rest).map fun others => first ++ others

/-- Where a text stops having bytes: the position of the first code point without, and that code
point with the halves that follow it. -/
structure EncodingFault where
  position : Nat
  bad : Text
  deriving DecidableEq, Repr

/-- The first fault of a text whose first code point has the given position. -/
def encodingFaultFrom? (position : Nat) : Text → Option EncodingFault
  | [] => none
  | point :: rest =>
    if hasBytes point then encodingFaultFrom? (position + 1) rest
    else some ⟨position, point :: rest.takeWhile isHalf⟩

/-- Why a text has no bytes, if it has none. -/
def encodingFault? (text : Text) : Option EncodingFault := encodingFaultFrom? 0 text

end DocQuery.Text
