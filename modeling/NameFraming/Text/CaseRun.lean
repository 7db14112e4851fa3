import NameFraming.Text.CodeRanges

/-! Tables that map one case to the other. -/

namespace NameFraming

/-- Every `step`-th code point from `first` to `last` moves by the same distance, so that `first`
becomes `target`. -/
structure CaseRun where
  first : Nat
  last : Nat
  step : Nat
  target : Nat

def CaseRun.image? : List CaseRun → Nat → Option Nat
  | [], _ => none
  | run :: rest, code =>
      if code < run.first then none
      else if code ≤ run.last then
        if (code - run.first) % run.step = 0 then some (run.target + (code - run.first)) else none
      else image? rest code

def expansion? : List (Nat × List Nat) → Nat → Option (List Nat)
  | [], _ => none
  | (key, codes) :: rest, code =>
      if code < key then none
      else if code = key then some codes
      else expansion? rest code

end NameFraming
