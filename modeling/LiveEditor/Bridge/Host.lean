import LiveEditor.Number.Digits
import LiveEditor.Text.Punycode
import LiveEditor.Text.Utf8
import LiveEditor.Unicode.Blank
import LiveEditor.Unicode.CaseFolding
import LiveEditor.Unicode.Mark

/-! # Hosts

The host of an address is a name, or the number of a machine in one of two
versions: a number of 32 bits, or eight pieces of 16 bits.  The same host can be written in many ways: a name with characters of
any script, in any case and with any of its bytes in percent signs, and a number
in several bases and with fewer parts than it has bytes.  A host is read from
all of these and written in one.
-/

namespace LiveEditor

inductive Host where
  | name (text : Text)
  | version4 (number : Nat)
  | version6 (pieces : List Nat)
  deriving DecidableEq, Repr

namespace Host

/-! ## Names -/

def percentDecode : List Char → List UInt8
  | [] => []
  | '%' :: high :: low :: rest =>
      match Number.hexDigit? high, Number.hexDigit? low with
      | some highValue, some lowValue =>
          UInt8.ofNat (highValue * 16 + lowValue) :: percentDecode rest
      | _, _ => Utf8.encode ['%'] ++ percentDecode (high :: low :: rest)
  | character :: rest => Utf8.encode [character] ++ percentDecode rest

def isIgnored (character : Char) : Bool :=
  let code := character.toNat
  code == 0xAD || code == 0x34F || code == 0x200B || code == 0x2060 ||
    code == 0x2064 || code == 0xFEFF || (0xFE00 ≤ code && code ≤ 0xFE0F)

/-- The form in which a character counts in a name: full-width forms count as
the usual ones, and case does not count. -/
def canonical (character : Char) : Char :=
  let code := character.toNat
  if code = 0x3002 ∨ code = 0xFF61 then '.'
  else if code = 0x3C2 then character
  else if 0xFF01 ≤ code ∧ code ≤ 0xFF5E then
    Char.ofNat (Unicode.foldCode (Char.ofNat (code - 0xFEE0)))
  else Char.ofNat (Unicode.foldCode character)

def isForbidden (character : Char) : Bool :=
  let code := character.toNat
  code < 0x20 || Unicode.isBlank character ||
    "%#/:<>?@[\\]^|".toList.contains character || (0x7F ≤ code && code < 0xA0) ||
    (0x200C ≤ code && code ≤ 0x202E) && !(0x2010 ≤ code && code ≤ 0x2027) ||
    (0x2066 ≤ code && code ≤ 0x206F) || (0xE000 ≤ code && code ≤ 0xF8FF) ||
    (0xFFF0 ≤ code && code ≤ 0xFFFF) || 0xE0000 ≤ code

def asciiLabel? (label : Text) : Option Text :=
  if label.all Punycode.isBasic then some label
  else if label.head?.any Unicode.isMark then none
  else some ("xn--".toList ++ Punycode.encode label)

def asciiName? (text : Text) : Option Text :=
  let plain := (text.filter fun character => !isIgnored character).map canonical
  if plain.any isForbidden then none
  else (plain.splitOn '.').mapM asciiLabel? |>.map ['.'].intercalate

/-! ## Numbers of 32 bits -/

def part? : Text → Option Nat
  | ['0', 'x'] => some 0
  | '0' :: 'x' :: digits => Number.ofText? 16 digits
  | '0' :: digit :: digits => Number.ofText? 8 (digit :: digits)
  | digits => Number.ofText? 10 digits

def partsOf (name : Text) : List Text :=
  let parts := name.splitOn '.'
  if parts.length ≠ 1 ∧ parts.getLast? = some [] then parts.dropLast else parts

def endsInNumber (name : Text) : Bool :=
  (partsOf name).getLast?.any fun last =>
    (part? last).isSome || (Number.ofText? 10 last).isSome

/-- Put numbers together: the first ones are bytes, from the highest on, and the
last one fills what they leave of `bytes` bytes. -/
def join? (total : Nat) : (bytes : Nat) → List Nat → Option Nat
  | _, [] => none
  | 0, _ => none
  | bytes + 1, [last] =>
      if last < 1 <<< (8 * (bytes + 1)) then some (total <<< (8 * (bytes + 1)) + last)
      else none
  | bytes + 1, first :: rest =>
      if first < 256 then join? (total * 256 + first) bytes rest else none

def version4? (name : Text) : Option Nat :=
  ((partsOf name).mapM part?).bind (join? 0 4)

def version4Text (number : Nat) : Text :=
  ['.'].intercalate <| [24, 16, 8, 0].map fun shift =>
    Nat.toDigits 10 (number >>> shift % 256)

/-! ## Eight numbers of 16 bits -/

def piece? (text : Text) : Option Nat :=
  if text.length ≤ 4 then Number.ofText? 16 text else none

def decimalByte? (text : Text) : Option Nat :=
  if text.length ≠ 1 ∧ text.head? = some '0' then none
  else (Number.ofText? 10 text).filter (· < 256)

def embedded? (text : Text) : Option (List Nat) := do
  match ← (text.splitOn '.').mapM decimalByte? with
  | [a, b, c, d] => some [a * 256 + b, c * 256 + d]
  | _ => none

def pieces? (closing : Bool) (text : Text) : Option (List Nat) :=
  let parts := text.splitOn ':'
  let last := parts.getLast?.getD []
  if closing && last.contains '.' then do
    return (← parts.dropLast.mapM piece?) ++ (← embedded? last)
  else
    parts.mapM piece?

def splitAtGap? : Text → Option (Text × Text)
  | ':' :: ':' :: rest => some ([], rest)
  | [] => none
  | character :: rest =>
      (splitAtGap? rest).map fun parts => (character :: parts.1, parts.2)

/-- The eight pieces of a text.  Two colons in a row stand for the zeros that are
missing. -/
def version6? (text : Text) : Option (List Nat) :=
  match splitAtGap? text with
  | none => (pieces? true text).filter (·.length = 8)
  | some (before, after) => do
      let front ← if before.isEmpty then some [] else pieces? false before
      let back ← if after.isEmpty then some [] else pieces? true after
      if front.length + back.length < 8 then
        some (front ++ List.replicate (8 - front.length - back.length) 0 ++ back)
      else
        none

def leadingZeros (pieces : List Nat) : Nat :=
  (pieces.takeWhile (· = 0)).length

def longestZeros (index : Nat) : List Nat → Nat × Nat
  | [] => (index, 0)
  | piece :: rest =>
      let here := leadingZeros (piece :: rest)
      let later := longestZeros (index + 1) rest
      if later.2 ≤ here then (index, here) else later

def version6Text (pieces : List Nat) : Text :=
  let write (some : List Nat) : Text :=
    [':'].intercalate (some.map (Nat.toDigits 16))
  let (start, count) := longestZeros 0 pieces
  if count < 2 then write pieces
  else write (pieces.take start) ++ [':', ':'] ++ write (pieces.drop (start + count))

/-! ## Hosts -/

def ofText? : Text → Option Host
  | '[' :: rest =>
      if rest.getLast? = some ']' then (version6? rest.dropLast).map .version6 else none
  | text => do
      let name ← asciiName? (← Utf8.decode? (percentDecode text))
      if name.isEmpty then none
      else if endsInNumber name then (version4? name).map .version4
      else some (.name name)

def plainText : Host → Text
  | .name text => text
  | .version4 number => version4Text number
  | .version6 pieces => version6Text pieces

def toText (host : Host) : Text :=
  match host with
  | .version6 _ => ['['] ++ host.plainText ++ [']']
  | _ => host.plainText

def isSendable (host : Host) : Bool :=
  host.toText.all fun character => !"\"`\x7b\x7d".toList.contains character

example : (ofText? "0x7F.1".toList).map toText = some "127.0.0.1".toList := by
  decide +kernel
example : ofText? "127.0.0.08".toList = none := by decide +kernel
example : (ofText? "%4CocalHost".toList).map toText = some "localhost".toList := by
  decide +kernel
example : (ofText? "[0:0:1::0:1.2.3.4]".toList).map toText =
    some "[0:0:1::102:304]".toList := by decide +kernel

end Host

end LiveEditor
