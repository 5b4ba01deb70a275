import Vitrine.Json.Value
import Vitrine.Settings

/-!
# Kinds of project files (section 4.4)

The extension alone says what a file is. The built-in extensions come first, so that a component
extension can only turn other files into scripts.

`ofPath` is `of` of a `FileKind`, and `isLoadable` is `is_loadable`.
-/

namespace Vitrine

inductive FileKind where
  | markup | stylesheet | script | data | documentation | other
  deriving DecidableEq, Repr

namespace FileKind

/-- The kind that an extension stands for in every project. -/
def builtIn? (ext : String) : Option FileKind :=
  match Text.lowered ext with
  | "html" | "htm" => some markup
  | "css" => some stylesheet
  | "ts" | "tsx" | "js" | "jsx" | "mjs" => some script
  | "json" => some data
  | "md" | "markdown" => some documentation
  | _ => none

/-- The kind of the file at a path. -/
def ofPath (settings : Settings) (path : String) : FileKind :=
  match Path.extension path with
  | none => other
  | some ext =>
    match builtIn? ext with
    | some kind => kind
    | none => if settings.isComponentExtension ext then script else other

/-- Whether files of this kind become modules. -/
def isLoadable : FileKind → Bool
  | script | stylesheet => true
  | _ => false

/-- The word for the kind in messages between programs. -/
def word : FileKind → String
  | markup => "markup"
  | stylesheet => "stylesheet"
  | script => "script"
  | data => "data"
  | documentation => "documentation"
  | other => "other"

def all : List FileKind := [markup, stylesheet, script, data, documentation, other]

/-- The kind with a given word. -/
def ofWord? (w : String) : Option FileKind := all.find? (·.word == w)

/-- The kind that a value names. -/
def ofValue (v : Json.Value) : Except Json.Problem FileKind := do
  return (ofWord? (← v.readWord (all.map word))).getD other

end FileKind

end Vitrine
