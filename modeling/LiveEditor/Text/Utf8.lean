import LiveEditor.Text.Basic

/-! # UTF-8

Bytes become characters in one of two ways.  Strict reading accepts well-formed
bytes only.  Lossy reading never fails: each longest stretch of bytes that
starts a character but cannot be completed, and each byte that starts none,
becomes one replacement character.  Both follow `readCharacter`, which looks at
the front of the bytes.
-/

namespace LiveEditor.Utf8

def replacement : Char := '\ufffd'

/-! ## The front of a byte sequence

What a first byte announces: how many continuation bytes follow it, and between
which bounds the first of them must lie.  The bounds exclude overlong forms,
surrogates and code points above the last one. -/

structure Lead where
  bits : Nat
  continuations : Nat
  lowest : Nat
  highest : Nat
  deriving DecidableEq, Repr

def lead? (byte : Nat) : Option Lead :=
  if 0xC2 ≤ byte ∧ byte ≤ 0xDF then some ⟨byte - 0xC0, 1, 0x80, 0xBF⟩
  else if byte = 0xE0 then some ⟨0, 2, 0xA0, 0xBF⟩
  else if byte = 0xED then some ⟨0xD, 2, 0x80, 0x9F⟩
  else if 0xE1 ≤ byte ∧ byte ≤ 0xEF then some ⟨byte - 0xE0, 2, 0x80, 0xBF⟩
  else if byte = 0xF0 then some ⟨0, 3, 0x90, 0xBF⟩
  else if 0xF1 ≤ byte ∧ byte ≤ 0xF3 then some ⟨byte - 0xF0, 3, 0x80, 0xBF⟩
  else if byte = 0xF4 then some ⟨4, 3, 0x80, 0x8F⟩
  else none

/-- The front of a byte sequence after its first byte: a whole character, or a
part that no character begins with.  `extra` counts the bytes after the first
that belong to it. -/
inductive Front where
  | character (value : Char) (extra : Nat)
  | invalid (extra : Nat)
  deriving DecidableEq, Repr

/-- Read the remaining continuation bytes of a character whose code point so
far is `code`; `taken` of them have been read. -/
def readContinuations (lowest highest code taken : Nat) :
    Nat → List UInt8 → Front
  | 0, _ => .character (Char.ofNat code) taken
  | _ + 1, [] => .invalid taken
  | missing + 1, byte :: rest =>
      if lowest ≤ byte.toNat ∧ byte.toNat ≤ highest then
        readContinuations 0x80 0xBF (code * 64 + (byte.toNat - 0x80))
          (taken + 1) missing rest
      else
        .invalid taken

def readCharacter (first : UInt8) (rest : List UInt8) : Front :=
  if first.toNat < 0x80 then
    .character (Char.ofNat first.toNat) 0
  else
    match lead? first.toNat with
    | none => .invalid 0
    | some lead =>
        readContinuations lead.lowest lead.highest lead.bits 0
          lead.continuations rest

/-! ## Whole byte sequences

`skip` counts the bytes at the front that belong to the character before. -/

def decodeLossyFrom : Nat → List UInt8 → Text
  | _, [] => []
  | skip + 1, _ :: rest => decodeLossyFrom skip rest
  | 0, first :: rest =>
      match readCharacter first rest with
      | .character value extra => value :: decodeLossyFrom extra rest
      | .invalid extra => replacement :: decodeLossyFrom extra rest

def decodeLossy (bytes : List UInt8) : Text :=
  decodeLossyFrom 0 bytes

def decodeFrom? : Nat → List UInt8 → Option Text
  | _, [] => some []
  | skip + 1, _ :: rest => decodeFrom? skip rest
  | 0, first :: rest =>
      match readCharacter first rest with
      | .character value extra => (decodeFrom? extra rest).map (value :: ·)
      | .invalid _ => none

def decode? (bytes : List UInt8) : Option Text :=
  decodeFrom? 0 bytes

def withoutMark : List UInt8 → List UInt8
  | 0xEF :: 0xBB :: 0xBF :: rest => rest
  | bytes => bytes

def encode (text : Text) : List UInt8 :=
  text.flatMap String.utf8EncodeChar

example : decode? [0xC3, 0xA9] = some ['é'] := by decide
example : decode? [0xC3] = none := by decide
example : decodeLossy [0xE2, 0x82, 0x41, 0xFF] =
    [replacement, 'A', replacement] := by decide
example : decodeLossy [0xED, 0xA0, 0x80] =
    [replacement, replacement, replacement] := by decide
example : encode "é€".toList = [0xC3, 0xA9, 0xE2, 0x82, 0xAC] := by decide

end LiveEditor.Utf8
