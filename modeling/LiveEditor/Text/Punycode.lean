import LiveEditor.Ascending
import LiveEditor.Text.Basic

/-! # Punycode

Punycode writes a label of a host name in ASCII.  The ASCII characters come
first, as they are.  The others follow in the order of their code points: each
is a number that says how far to count through all places and code points from
the one before it.  The numbers are written in base 36, with the least digit
first and with a threshold for each digit that adapts to the numbers so far.
-/

namespace LiveEditor.Punycode

def digit (value : Nat) : Char :=
  if value < 26 then Char.ofNat (97 + value) else Char.ofNat (22 + value)

def threshold (bias index : Nat) : Nat :=
  min 26 (max 1 (36 * (index + 1) - bias))

theorem threshold_pos (bias index : Nat) : 0 < threshold bias index := by
  simp only [threshold]; omega

def digitsFrom (bias index value : Nat) : Text :=
  let least := threshold bias index
  if value < least then [digit value]
  else
    digit (least + (value - least) % (36 - least)) ::
      digitsFrom bias (index + 1) ((value - least) / (36 - least))
termination_by value
decreasing_by
  have positive := threshold_pos bias index
  have quotient := Nat.div_le_self (value - threshold bias index)
    (36 - threshold bias index)
  omega

/-- How often a number is divided by 35 until it is at most 455, and what is
left of it. -/
def shrink (value : Nat) : Nat × Nat :=
  if 455 < value then
    let (count, left) := shrink (value / 35)
    (count + 1, left)
  else
    (0, value)
termination_by value
decreasing_by omega

def adapt (value count : Nat) (first : Bool) : Nat :=
  let scaled := if first then value / 700 else value / 2
  let (divisions, left) := shrink (scaled + scaled / count)
  36 * divisions + 36 * left / (left + 38)

structure Progress where
  distance : Nat
  bias : Nat
  count : Nat
  digits : Text

/-- Go past a character of the label while the characters with a code point are
written; `basic` counts the ASCII characters. -/
def Progress.pass (basic code : Nat) (progress : Progress) (character : Char) :
    Progress :=
  if character.toNat < code then
    { progress with distance := progress.distance + 1 }
  else if character.toNat = code then
    { distance := 0
      bias := adapt progress.distance (progress.count + 1) (progress.count == basic)
      count := progress.count + 1
      digits := progress.digits ++ digitsFrom progress.bias 0 progress.distance }
  else
    progress

/-- Write the characters with the given code points; all below `least` have been
written. -/
def writeFrom (label : Text) (basic : Nat) (progress : Progress) (least : Nat) :
    List Nat → Progress
  | [] => progress
  | code :: codes =>
      let started :=
        { progress with
          distance := progress.distance + (code - least) * (progress.count + 1) }
      let ended := label.foldl (Progress.pass basic code) started
      writeFrom label basic { ended with distance := ended.distance + 1 } (code + 1)
        codes

def isBasic (character : Char) : Bool :=
  character.toNat < 128

def encode (label : Text) : Text :=
  let basic := label.filter isBasic
  let others := label.filter fun character => !isBasic character
  let codes := others.foldr (fun character => Ascending.insert character.toNat) []
  let written := writeFrom label basic.length ⟨0, 72, basic.length, []⟩ 128 codes
  (if basic.isEmpty then [] else basic ++ ['-']) ++ written.digits

example : encode "bücher".toList = "bcher-kva".toList := by decide +kernel
example : encode "日本語".toList = "wgv71a119e".toList := by decide +kernel

end LiveEditor.Punycode
