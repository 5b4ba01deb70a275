import Vitrine.Json.Reader
import Vitrine.Failure
import Vitrine.Settings

/-!
# Settings from a text (section 9.3)

The text of settings is an object whose fields may all be left out. Settings that are read are checked
at once.

Reading is `from_json` of the `PreviewConfig`.
-/

namespace Vitrine.Settings

/-- How settings are written. -/
def record : Json.Record where
  name := "PreviewConfig"
  fields := [("entryMarkup", .text), ("entryScript", .text), ("componentExtensions", .texts),
    ("instrument", .boolean)]
  isOpen := true

/-- The settings that some fields give; the rest is as by default. -/
def ofFields (fields : Json.Fields) : Settings :=
  let default : Settings := {}
  { entryMarkup := (fields.text? "entryMarkup").getD default.entryMarkup
    entryScript := (fields.text? "entryScript").getD default.entryScript
    componentExtensions := (fields.texts? "componentExtensions").getD default.componentExtensions
    instrument := (fields.boolean? "instrument").getD default.instrument }

/-- Settings without a defect. -/
def checked (s : Settings) : Except Failure Settings :=
  match s.defect? with
  | some defect => .error (.invalidSettings defect.message)
  | none => .ok s

/-- The settings that a text holds. -/
def ofText (text : String) : Except Failure Settings :=
  match Json.readAll record.read text with
  | .ok fields => (ofFields fields).checked
  | .error misread => .error (.invalidSettings misread.message)

end Vitrine.Settings
