import NameFraming.Correction
import NameFraming.Value

/-! What became of the files of a corpus. -/

namespace NameFraming

/-- Reports from elsewhere may use other words than these three. -/
inductive FileStatus where
  | fixed
  | unchanged
  | failed
  | other (label : Text)
deriving DecidableEq

namespace FileStatus

def label : FileStatus → Text
  | fixed => "fixed".toList
  | unchanged => "unchanged".toList
  | failed => "failed".toList
  | other label => label

def ofLabel (label : Text) : FileStatus :=
  if label = fixed.label then fixed
  else if label = unchanged.label then unchanged
  else if label = failed.label then failed
  else other label

end FileStatus

structure FileOutcome where
  name : Text
  category : Text
  subcategory : Option Text := none
  encoding : Option Text := none
  status : FileStatus
  identifiersFramed : Int := 0
  corrections : List (Text × Int) := []
  error : Option Text := none
deriving DecidableEq

structure Report where
  directory : Text
  suffix : Text
  written : Bool := true
  files : List FileOutcome := []
deriving DecidableEq

/-- Adds to the number of a key; a new key comes last. -/
def addCount (key : Text) (count : Int) : List (Text × Int) → List (Text × Int)
  | [] => [(key, count)]
  | (held, total) :: rest =>
      if held = key then (held, total + count) :: rest else (held, total) :: addCount key count rest

def insertByKey (entry : Text × Int) : List (Text × Int) → List (Text × Int)
  | [] => [entry]
  | head :: rest =>
      if entry.1 < head.1 then entry :: head :: rest else head :: insertByKey entry rest

structure Summary where
  files : Nat
  fixed : Nat
  unchanged : Nat
  failed : Nat
  identifiersFramed : Int
  corrections : List (Text × Int)
  fixedByCategory : List (Text × Int)
deriving DecidableEq

namespace Report

def countStatus (report : Report) (status : FileStatus) : Nat :=
  report.files.countP fun file => file.status == status

def fixed (report : Report) : Nat :=
  report.countStatus .fixed

def unchanged (report : Report) : Nat :=
  report.countStatus .unchanged

def failed (report : Report) : Nat :=
  report.countStatus .failed

def fixedByCategory (report : Report) : List (Text × Int) :=
  ((report.files.filter fun file => file.status == .fixed).foldl
    (fun held file => addCount file.category 1 held) []).foldr insertByKey []

/-- How often each rule corrected something, in the order in which the rules first occur. -/
def correctionsByRule (report : Report) : List (Text × Int) :=
  (report.files.flatMap FileOutcome.corrections).foldl
    (fun held (rule, count) => addCount rule count held) []

def summary (report : Report) : Summary :=
  { files := report.files.length
    fixed := report.fixed
    unchanged := report.unchanged
    failed := report.failed
    identifiersFramed := (report.files.map FileOutcome.identifiersFramed).foldr (· + ·) 0
    corrections := report.correctionsByRule
    fixedByCategory := report.fixedByCategory }

end Report

def countsValue (counts : List (Text × Int)) : Value :=
  .record (counts.map fun (key, count) => (key, .int count))

def FileOutcome.toValue (file : FileOutcome) : Value :=
  .ofFields [
    ("name", .text file.name),
    ("category", .text file.category),
    ("subcategory", .ofOption file.subcategory),
    ("encoding", .ofOption file.encoding),
    ("status", .text file.status.label),
    ("identifiers_framed", .int file.identifiersFramed),
    ("corrections", countsValue file.corrections),
    ("error", .ofOption file.error)]

def Summary.totals (summary : Summary) : List (String × Value) :=
  [("files", .ofNat summary.files), ("fixed", .ofNat summary.fixed),
    ("unchanged", .ofNat summary.unchanged), ("failed", .ofNat summary.failed),
    ("identifiers_framed", .int summary.identifiersFramed),
    ("corrections", countsValue summary.corrections)]

def Summary.toValue (summary : Summary) : Value :=
  .ofFields (summary.totals ++ [("fixed_by_category", countsValue summary.fixedByCategory)])

def Report.toFields (report : Report) : List (String × Value) :=
  [("directory", .text report.directory), ("suffix", .text report.suffix),
    ("written", .bool report.written), ("files", .list (report.files.map FileOutcome.toValue))]

end NameFraming
