import LiveEditor.Number.Binary64
import LiveEditor.Toml.Quoted
import LiveEditor.Toml.Value

/-! # Numbers and dates of TOML

Digits may be grouped by single underscores.  An integer must fit into 64 bits
with a sign; a float must not overflow upwards.  A date must exist in the
calendar.
-/

namespace LiveEditor.Toml

/-! ## Digits -/

/-- Read the digits behind a first one; each may follow an underscore, and an
underscore must have a digit behind it. -/
def readMoreDigits (base : Nat) : Text → Option (List Nat × Text)
  | [] => some ([], [])
  | '_' :: rest =>
      match rest with
      | [] => none
      | character :: more =>
          match Number.digitIn? base character with
          | none => none
          | some digit =>
              (readMoreDigits base more).map fun found =>
                (digit :: found.1, found.2)
  | character :: rest =>
      match Number.digitIn? base character with
      | none => some ([], character :: rest)
      | some digit =>
          (readMoreDigits base rest).map fun found => (digit :: found.1, found.2)

def readDigits (base : Nat) : Text → Option (List Nat × Text)
  | [] => none
  | character :: rest =>
      match Number.digitIn? base character with
      | none => none
      | some digit =>
          (readMoreDigits base rest).map fun found => (digit :: found.1, found.2)

/-! ## Numbers -/

def readSign : Text → Bool × Text
  | '-' :: rest => (true, rest)
  | '+' :: rest => (false, rest)
  | text => (false, text)

def integer? (value : Int) : Option Toml :=
  if -Number.signedBound64 ≤ value ∧ value < Number.signedBound64 then
    some (.integer value)
  else
    none

def readBased (base : Nat) (text : Text) : Option (Toml × Text) := do
  let (digits, rest) ← readDigits base text
  let value ← integer? (Number.ofDigits base digits)
  return (value, rest)

def readWhole : Text → Option (List Nat × Text)
  | '0' :: rest => some ([0], rest)
  | text => readDigits 10 text

def readExponent (text : Text) : Option (Option Int × Text) :=
  match text with
  | [] => some (none, [])
  | mark :: rest =>
      if mark = 'e' ∨ mark = 'E' then do
        let (negative, unsigned) := readSign rest
        let (digits, remaining) ← readDigits 10 unsigned
        let size : Int := Number.ofDigits 10 digits
        return (some (if negative then -size else size), remaining)
      else
        some (none, text)

def readFraction (text : Text) : Option (Option (List Nat) × Text) :=
  match text with
  | '.' :: rest =>
      (readDigits 10 rest).map fun found => (some found.1, found.2)
  | _ => some (none, text)

def readSpecial : Text → Option (Toml × Text)
  | 'i' :: 'n' :: 'f' :: rest => some (.float ['i', 'n', 'f'], rest)
  | 'n' :: 'a' :: 'n' :: rest => some (.float ['n', 'a', 'n'], rest)
  | _ => none

def readDecimal (text : Text) : Option (Toml × Text) := do
  let (negative, unsigned) := readSign text
  let (whole, afterWhole) ← readWhole unsigned
  let (fraction, afterFraction) ← readFraction afterWhole
  let (exponent, rest) ← readExponent afterFraction
  if fraction.isNone ∧ exponent.isNone then
    let size : Int := Number.ofDigits 10 whole
    let value ← integer? (if negative then -size else size)
    return (value, rest)
  else
    let decimals := fraction.getD []
    let scale : Int := exponent.getD 0 - decimals.length
    if !negative && Binary64.tooLarge (whole ++ decimals) scale then none
    else return (.float (text.take (text.length - rest.length)), rest)

def readNumber (text : Text) : Option (Toml × Text) :=
  match text with
  | '0' :: 'x' :: rest => readBased 16 rest
  | '0' :: 'o' :: rest => readBased 8 rest
  | '0' :: 'b' :: rest => readBased 2 rest
  | _ => (readSpecial (readSign text).2).or (readDecimal text)

/-! ## Dates and times -/

def readFixed (count : Nat) (text : Text) : Option (Nat × Text) := do
  let front := text.take count
  if front.length < count then none
  let digits ← front.mapM (Number.digitIn? 10)
  return (Number.ofDigits 10 digits, text.drop count)

def readPair (lowest highest : Nat) (text : Text) : Option (Nat × Text) := do
  let (value, rest) ← readFixed 2 text
  if lowest ≤ value ∧ value ≤ highest then return (value, rest) else none

def expect (character : Char) : Text → Option Text
  | [] => none
  | first :: rest => if first = character then some rest else none

def daysIn (year month : Nat) : Nat :=
  if month = 2 then
    if year % 4 = 0 ∧ (year % 100 ≠ 0 ∨ year % 400 = 0) then 29 else 28
  else if month = 4 ∨ month = 6 ∨ month = 9 ∨ month = 11 then 30
  else 31

def passDate (text : Text) : Option Text := do
  let (year, afterYear) ← readFixed 4 text
  let (month, afterMonth) ← readPair 1 12 (← expect '-' afterYear)
  let (_, rest) ← readPair 1 (daysIn year month) (← expect '-' afterMonth)
  return rest

def passSecondFraction : Text → Text
  | '.' :: rest =>
      match rest.takeWhile Char.isDigit with
      | [] => '.' :: rest
      | digits => rest.drop digits.length
  | text => text

def passTime (text : Text) : Option Text := do
  let (_, afterHour) ← readPair 0 23 text
  let (_, afterMinute) ← readPair 0 59 (← expect ':' afterHour)
  let (_, rest) ← readPair 0 60 (← expect ':' afterMinute)
  return passSecondFraction rest

def passOffset : Text → Option Text
  | [] => some []
  | mark :: rest =>
      if mark = 'Z' ∨ mark = 'z' then some rest
      else if mark = '+' ∨ mark = '-' then do
        let (_, afterHour) ← readPair 0 23 rest
        let (_, remaining) ← readPair 0 59 (← expect ':' afterHour)
        return remaining
      else some (mark :: rest)

/-- Pass the time behind a date, if there is one.  A blank can also end the
date; it begins a time only when an hour and a colon follow it. -/
def passTimeAfterDate : Text → Option Text
  | [] => some []
  | mark :: rest =>
      if mark = 'T' ∨ mark = 't' ∨ mark = ' ' then
        match (readPair 0 23 rest).bind fun found => expect ':' found.2 with
        | none => some (mark :: rest)
        | some _ => (passTime rest).bind passOffset
      else
        some (mark :: rest)

def beginsDigits (count : Nat) (mark : Char) (text : Text) : Bool :=
  ((readFixed count text).bind fun found => expect mark found.2).isSome

def readCandidate (text : Text) : Option (Toml × Text) :=
  let dated (rest : Text) : Toml × Text :=
    (.dateTime (text.take (text.length - rest.length)), rest)
  if beginsDigits 4 '-' text then
    ((passDate text).bind passTimeAfterDate).map dated
  else if beginsDigits 2 ':' text then
    (passTime text).map dated
  else
    readNumber text

def isCandidateCharacter (character : Char) : Bool :=
  character.isAlphanum || ['_', '+', '-', '.', ':', ' '].contains character

def readNumberOrDate (text : Text) : Option (Toml × Text) :=
  let candidate := text.takeWhile isCandidateCharacter
  (readCandidate candidate).map fun found =>
    (found.1, text.drop (candidate.length - found.2.length))

example : (readNumberOrDate "1979-02-29".toList).isNone = true := by decide +kernel
example : (readNumberOrDate "1_000 ".toList).map Prod.snd = some [' '] := by
  decide +kernel

end LiveEditor.Toml
