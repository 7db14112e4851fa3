import NameFraming.Token

/-! Counted rewrites of a token list, one after the other. -/

namespace NameFraming

/-- Runs a counted rewrite once per item, each time on what the one before has left, and adds up the
counts. -/
def sweep {α : Type} (step : α → List Token → List Token × Nat) :
    List α → List Token → List Token × Nat
  | [], tokens => (tokens, 0)
  | item :: items, tokens =>
      let next := step item tokens
      let later := sweep step items next.1
      (later.1, next.2 + later.2)

end NameFraming
