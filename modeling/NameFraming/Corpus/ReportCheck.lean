import NameFraming.Corpus.Report
import NameFraming.Validation.Integer

/-! Reports from outside data. -/

namespace NameFraming

def requiredField {α : Type} (fields : List (Text × Value)) (name : String)
    (check : Value → Checked α) : Checked α :=
  (match fields.lookup name.toList with
    | some value => check value
    | none => .fail .missing).under (.field name.toList)

def optionalField {α : Type} (fields : List (Text × Value)) (name : String) (default : α)
    (check : Value → Checked α) : Checked α :=
  match fields.lookup name.toList with
  | some value => (check value).under (.field name.toList)
  | none => .valid default

def FileOutcome.check : Value → Checked FileOutcome
  | .record fields =>
      (Checked.valid FileOutcome.mk)
        |>.and (requiredField fields "name" Value.asString)
        |>.and (requiredField fields "category" Value.asString)
        |>.and (optionalField fields "subcategory" none Value.asOptionalString)
        |>.and (optionalField fields "encoding" none Value.asOptionalString)
        |>.and ((requiredField fields "status" Value.asString).map FileStatus.ofLabel)
        |>.and (optionalField fields "identifiers_framed" 0 Value.asInt)
        |>.and (optionalField fields "corrections" [] (Value.asRecord Value.asInt))
        |>.and (optionalField fields "error" none Value.asOptionalString)
  | _ => .fail (.notModel "FileOutcome")

def Report.check (fields : List (Text × Value)) : Checked Report :=
  (Checked.valid Report.mk)
    |>.and (requiredField fields "directory" Value.asString)
    |>.and (requiredField fields "suffix" Value.asString)
    |>.and (optionalField fields "written" true Value.asBool)
    |>.and (optionalField fields "files" [] (Value.asList FileOutcome.check))

end NameFraming
