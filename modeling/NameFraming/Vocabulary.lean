import NameFraming.Text.Uppercasing

/-! Vocabularies: sets of words that are compared by their upper-case form. -/

namespace NameFraming

def insertWord (word : Text) : List Text → List Text
  | [] => [word]
  | head :: rest =>
      if word < head then word :: head :: rest
      else if word = head then head :: rest
      else head :: insertWord word rest

def collectWords (source : List Text) : List Text :=
  source.foldr (fun word held => insertWord (upper word) held) []

/-- A set of words in upper-case form. It holds what some words come to when they are collected: each
word once, ascending by code points. -/
structure Vocabulary where
  words : List Text
  collected : ∃ source, words = collectWords source
deriving DecidableEq

namespace Vocabulary

def ofWords (words : List Text) : Vocabulary :=
  ⟨collectWords words, words, rfl⟩

def isKeyword (vocabulary : Vocabulary) (word : Text) : Bool :=
  vocabulary.words.contains (upper word)

def size (vocabulary : Vocabulary) : Nat :=
  vocabulary.words.length

def extended (vocabulary : Vocabulary) (extra : List Text) : Vocabulary :=
  .ofWords (vocabulary.words ++ extra.map upper)

/-- Words that are taken out need not be in the vocabulary. -/
def without (vocabulary : Vocabulary) (removed : List Text) : Vocabulary :=
  .ofWords (vocabulary.words.filter fun word => !(removed.map upper).contains word)

def intersection (left right : Vocabulary) : Vocabulary :=
  .ofWords (left.words.filter right.words.contains)

def summary (vocabulary : Vocabulary) : String :=
  s!"KeywordSet({vocabulary.size} words)"

end Vocabulary

end NameFraming
