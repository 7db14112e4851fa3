import NameFraming.Value
import NameFraming.Vocabulary.Reserved

/-! Vocabularies from data that may hold more than words. -/

namespace NameFraming

inductive VocabularyError where
  | notWord (value : Value)
  | immutable

def VocabularyError.message : VocabularyError → String
  | notWord value => s!"'{value.kindName}' object has no attribute 'upper'"
  | immutable => "KeywordSet is immutable"

namespace Vocabulary

def wordOf : Value → Except VocabularyError Text
  | .text word => .ok word
  | value => .error (.notWord value)

def ofValues (values : List Value) : Except VocabularyError Vocabulary :=
  (values.mapM wordOf).map ofWords

def extendedBy (vocabulary : Vocabulary) (values : List Value) :
    Except VocabularyError Vocabulary :=
  (values.mapM wordOf).map vocabulary.extended

def withoutValues (vocabulary : Vocabulary) (values : List Value) :
    Except VocabularyError Vocabulary :=
  (values.mapM wordOf).map vocabulary.without

def contains (vocabulary : Vocabulary) : Value → Bool
  | .text word => vocabulary.isKeyword word
  | _ => false

/-- A vocabulary never changes once it is made. -/
def assign (_ : Vocabulary) (_ : Text) (_ : Value) : Except VocabularyError Vocabulary :=
  .error .immutable

end Vocabulary

end NameFraming
