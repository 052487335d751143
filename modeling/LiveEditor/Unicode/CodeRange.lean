/-! # Tables of code points

A property of characters that a standard fixes by enumeration is a list of
closed ranges of code points in ascending order.  Membership stops at the first
range that lies above the character.
-/

namespace LiveEditor.Unicode

abbrev CodeRanges := List (Nat × Nat)

def CodeRanges.contains : CodeRanges → Nat → Bool
  | [], _ => false
  | (first, last) :: rest, code =>
      if code < first then false
      else if code ≤ last then true
      else CodeRanges.contains rest code

def CodeRanges.separated : CodeRanges → Bool
  | [] => true
  | [(first, last)] => first ≤ last
  | (first, last) :: (next, nextLast) :: rest =>
      first ≤ last && last + 1 < next &&
        CodeRanges.separated ((next, nextLast) :: rest)

end LiveEditor.Unicode
