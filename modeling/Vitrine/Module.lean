import Vitrine.Failure
import Vitrine.Import.Linking
import Vitrine.Script.Compile

/-!
# Modules (section 4.4)

Every script and every stylesheet of a project becomes a module that can be imported by its key. A
script is compiled with its specifiers linked; a stylesheet becomes a script that puts its text
into a style element of its own.

`ofScript` is `transpile_script`, `ofStylesheet` is `wrap_stylesheet`, and `styleId` is
`style_element_id`; `compile_project` goes over the files.
-/

namespace Vitrine

/-- A compiled file. The `unresolved` specifiers will find no module. -/
structure Module where
  path : String
  kind : FileKind
  code : String
  unresolved : List String
  deriving DecidableEq

namespace Module

/-! ## Scripts -/

/-- What the text of a script may hold, by its path: types, markup elements, or both. -/
def dialectOf (path : String) : Script.Dialect :=
  match (Path.extension path).map Text.lowered with
  | some "ts" => { hasTypes := true, hasMarkup := false }
  | some "js" | some "jsx" | some "mjs" => { hasTypes := false, hasMarkup := true }
  | _ => { hasTypes := true, hasMarkup := true }

/-- All faults of a script, a line each. -/
def failure (path : String) (faults : List Script.Fault) : Failure :=
  .brokenScript path (String.intercalate "\n" (faults.map (·.message)))

/-- Compiles a script of a project. -/
def ofScript (settings : Settings) (snapshot : Snapshot) (path source : String) :
    Except Failure Module := do
  let text := source.toList
  let dialect := dialectOf path
  let found ← match Script.Reading.ofText dialect text with
    | .ok reading => pure reading.program.specifiers
    | .error faults => throw (failure path faults)
  let text := Import.linked snapshot path found text
  match Script.compile dialect ((Path.stem path).getD "unknown") text with
  | .ok code =>
    return { path, kind := .script, code
             unresolved := Import.unresolved settings snapshot path found }
  | .error faults => throw (failure path faults)

/-! ## Stylesheets -/

/-- The id of the style element of a stylesheet. -/
def styleId (path : String) : String :=
  "style-" ++ String.ofList (path.toList.map fun c => if Text.isAsciiAlphanumeric c then c else '-')

/-- What the module of a stylesheet does, whatever its text. -/
def styleLines : List String := [
  "let style = document.getElementById(styleTagId);",
  "if (!style) \x7b",
  "  style = document.createElement('style');",
  "  style.id = styleTagId;",
  "  document.head.appendChild(style);",
  "\x7d",
  "style.textContent = css;"]

/-- Lines of a script, each with its end. -/
def unlines (lines : List String) : String := String.join (lines.map (· ++ "\n"))

def ofStylesheet (path css : String) : Module :=
  { path, kind := .stylesheet
    code := unlines (["const css = " ++ Json.quoted css ++ ";",
      "const styleTagId = " ++ Json.quoted (styleId path) ++ ";"] ++ styleLines)
    unresolved := [] }

/-! ## Projects -/

/-- The module of one file, if its kind has one. -/
def ofFile (settings : Settings) (snapshot : Snapshot) (path content : String) :
    Except Failure Module :=
  match FileKind.ofPath settings path with
  | .stylesheet => .ok (ofStylesheet path content)
  | _ => ofScript settings snapshot path content

end Module

/-- The files that become modules. -/
def Snapshot.loadable (snapshot : Snapshot) (settings : Settings) : FileList :=
  snapshot.files.filter fun f => (FileKind.ofPath settings f.1).isLoadable

/-- The modules of a project in the order of their paths, or the first failure. -/
def Snapshot.modules (snapshot : Snapshot) (settings : Settings) : Except Failure (List Module) :=
  (snapshot.loadable settings).mapM fun f => Module.ofFile settings snapshot f.1 f.2

end Vitrine
