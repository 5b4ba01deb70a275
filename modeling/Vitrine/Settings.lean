import Vitrine.Project.Path
import Vitrine.Text.Ascii
import Vitrine.Text.Blank

/-!
# Settings of a preview (section 9.3)

Where a project starts and which further extensions hold scripts. Settings read from a text are
checked; settings built step by step are not.

The settings are the `PreviewConfig`, with `with_component_extension`, `with_entry` and `validate`.
-/

namespace Vitrine

/-- `entryScript` is the specifier of the first module, as the entry document writes it. Files with
one of the `componentExtensions` are scripts with types and markup. `instrument` asks for the script
that reports errors of the running project. -/
structure Settings where
  entryMarkup : String := "index.html"
  entryScript : String := "/index.tsx"
  componentExtensions : List String := []
  instrument : Bool := true
  deriving DecidableEq

namespace Settings

/-- Why settings are refused. -/
inductive Defect where
  | emptyEntryMarkup
  | relativeEntryScript (script : String)
  deriving DecidableEq

/-- The first defect, if there is one. -/
def defect? (s : Settings) : Option Defect :=
  if Text.isAllBlank s.entryMarkup.toList then some .emptyEntryMarkup
  else if s.entryScript.toList.head? != some '/' then some (.relativeEntryScript s.entryScript)
  else none

def Defect.message : Defect → String
  | emptyEntryMarkup => "entryMarkup must not be empty"
  | relativeEntryScript script => "entryScript must be root-relative, got '" ++ script ++ "'"

/-- Also takes files with this extension for scripts; dots in front of it do not count. -/
def withComponentExtension (s : Settings) (ext : String) : Settings :=
  { s with componentExtensions :=
      s.componentExtensions ++ [String.ofList (ext.toList.dropWhile (· == '.'))] }

def withEntry (s : Settings) (markup script : String) : Settings :=
  { s with entryMarkup := markup, entryScript := script }

/-- The root-relative path of the entry document. -/
def entryMarkupPath (s : Settings) : String := Path.rootRelative s.entryMarkup

def isComponentExtension (s : Settings) (ext : String) : Bool :=
  s.componentExtensions.any (Text.equalIgnoringCase · ext)

end Settings

end Vitrine
