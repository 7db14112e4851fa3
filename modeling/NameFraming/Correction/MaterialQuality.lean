import NameFraming.Correction.Phrase

/-! `… OF |STONE|`: directly after the preposition a material is a quality, not a name, and loses
its delimiters. -/

namespace NameFraming

structure MaterialQuality where
  materials : List Text
  preposition : Text
deriving DecidableEq

namespace MaterialQuality

def standardMaterials : List Text :=
  ["STONE", "WATER", "STEEL", "GLASS", "ASH", "PAPER", "SALT", "LIMESTONE", "SANDSTONE", "WOOD",
    "IRON", "GOLD"].map String.toList

def standardPreposition : Text := ['O', 'F']

def ofWords (materials : List Text) (preposition : Text) : MaterialQuality :=
  ⟨materials.map upper, upper preposition⟩

def standard : MaterialQuality :=
  .ofWords standardMaterials standardPreposition

/-- A bare word must not run into a word or number behind it. -/
def canEndBefore : List Token → Bool
  | [] => true
  | next :: _ => next.kind != .word && next.kind != .number

/-- Whether a token after `leading` and `gap` is a framed material that reads as a quality. -/
def strips (rule : MaterialQuality) (leading gap token : Token) (rest : List Token) : Bool :=
  token.kind == .delimited && token.terminated && rule.materials.contains token.inner &&
    gap.isBlank && leading.isWord rule.preposition && canEndBefore rest

/-- Rewrites the tokens after `leading` and `gap`, which are rewritten already: a material that has
just lost its delimiters may itself be the preposition of the next one. -/
def rewriteAfter (rule : MaterialQuality) (leading gap : Token) : List Token → List Token × Nat
  | [] => ([], 0)
  | token :: rest =>
      if rule.strips leading gap token rest then
        let bare : Token := ⟨.word, token.inner⟩
        let later := rule.rewriteAfter gap bare rest
        (bare :: later.1, later.2 + 1)
      else
        let later := rule.rewriteAfter gap token rest
        (token :: later.1, later.2)

def rewrite (rule : MaterialQuality) : List Token → List Token × Nat
  | leading :: gap :: rest =>
      let later := rule.rewriteAfter leading gap rest
      (leading :: gap :: later.1, later.2)
  | tokens => (tokens, 0)

end MaterialQuality

end NameFraming
