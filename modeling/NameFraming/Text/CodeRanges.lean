import NameFraming.Text

/-! Sets of code points, given by the intervals they are made of. -/

namespace NameFraming

/-- Intervals of code points, ascending and apart. Both ends of an interval belong to it. -/
abbrev CodeRanges := List (Nat × Nat)

namespace CodeRanges

def contains : CodeRanges → Nat → Bool
  | [], _ => false
  | (first, last) :: rest, code =>
      if code < first then false
      else if code ≤ last then true
      else contains rest code

end CodeRanges

end NameFraming
