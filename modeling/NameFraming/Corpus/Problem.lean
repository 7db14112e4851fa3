import NameFraming.Corpus.Path

/-! Errors that are shown to the user. -/

namespace NameFraming

structure Problem where
  code : Text
  message : Text
  path : Option Text := none
deriving DecidableEq

def Problem.display (problem : Problem) : Text :=
  '[' :: (problem.code ++ [']', ' '] ++ problem.message)

inductive CorpusError where
  | notDirectory
  | unreadable (reason : Text)
  | unencodable (encoding : String) (reason : String)
  | unwritable (reason : Text)
  | undecodable
deriving DecidableEq

namespace CorpusError

def code : CorpusError → String
  | notDirectory => "corpus_not_found"
  | unreadable _ => "read_failed"
  | unencodable .. => "write_failed"
  | unwritable _ => "write_failed"
  | undecodable => "undecodable"

/-- Directories are named by their whole path, files by their name. -/
def message (path : Path) : CorpusError → Text
  | notDirectory => path.toText ++ " is not a directory".toList
  | unreadable reason => "cannot read ".toList ++ path.name ++ [':', ' '] ++ reason
  | unencodable encoding reason =>
      "cannot encode ".toList ++ path.name ++ " as ".toList ++ encoding.toList ++ [':', ' '] ++
        reason.toList
  | unwritable reason => "cannot write ".toList ++ path.name ++ [':', ' '] ++ reason
  | undecodable =>
      path.name ++ " is not valid text in any detected encoding; left untouched".toList

def problem (path : Path) (error : CorpusError) : Problem :=
  ⟨error.code.toList, error.message path, some path.toText⟩

end CorpusError

end NameFraming
