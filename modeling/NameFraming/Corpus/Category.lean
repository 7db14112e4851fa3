import NameFraming.Corpus.Path

/-! Categories: a program named `loops-nested-two.lw` belongs to `loops`, there to `nested-two`. -/

namespace NameFraming

/-- The name of a program without its suffix; without that suffix, without its extension. The empty
suffix cuts off the whole name. -/
def Path.programName (path : Path) (suffix : Text) : Text :=
  if suffix.isSuffixOf path.name then
    if suffix.isEmpty then [] else path.name.take (path.name.length - suffix.length)
  else path.stem

def uncategorized : Text := "uncategorized".toList

def categorize (path : Path) (suffix : Text) : Text × Option Text :=
  let name := path.programName suffix
  let category := name.takeWhile (· ≠ '-')
  let subcategory := (name.dropWhile (· ≠ '-')).drop 1
  (if category.isEmpty then uncategorized else category,
    if subcategory.isEmpty then none else some subcategory)

end NameFraming
