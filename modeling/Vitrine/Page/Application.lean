import Vitrine.Failure
import Vitrine.Html.Parse
import Vitrine.Html.Written
import Vitrine.Page.Script
import Vitrine.Settings

/-!
# The page of a running project (section 4.6)

The entry document of a project names its first module in a script element. In the page that element
is replaced by the import table and the loader, and the capture script is put at the end of the head.

`application` is `synthesize_document`. Its `DocumentBuilder` locates the element (`parse`), puts nodes
in its place (`replace_injection_point`) and one at the end of the head (`append_to_head`), and writes
the result (`serialize`).
-/

namespace Vitrine.Page

open Html (Node)

/-- Whether a node holds more than blank text. -/
def hasContent (n : Node) : Bool :=
  n.children.any fun child =>
    match child with
    | .text text => !Text.isAllBlank text.toList
    | _ => true

/-- The element that names the first module: a module script without content of its own. -/
def isInjectionPoint (entryScript : String) (n : Node) : Bool :=
  n.isTag "script"
    && (match n.value? "type" with
      | some t =>
        Text.equalIgnoringCase (String.ofList (Text.trimBlank t.toList)) "module"
      | none => false)
    && (match n.value? "src" with
      | some s => String.ofList (Text.trimBlank s.toList) = entryScript
      | none => false)
    && !hasContent n

/-- A script element with attributes and a text. -/
def script (attributes : List (String × String)) (body : String) : Node :=
  .element ⟨.html, "script"⟩ (attributes.map fun (name, value) => ⟨.plain, name, value⟩)
    [.text body] []

/-- The scripts that take the place of the injection point. -/
def injected (table : Import.Table) (entryScript : String) : List Node := [
  script [("type", "importmap")] (tableScript table),
  script [("type", "module")] (loaderScript entryScript)]

/-- The tree of the page. The injection point is looked for first, and then replaced where it stands. -/
def tree (settings : Settings) (table : Import.Table) (token : String) (document : List Node) :
    Except Failure (List Node) :=
  match Node.placeOfFirstIn? (isInjectionPoint settings.entryScript) document with
  | none => .error (.missingInjectionPoint settings.entryMarkupPath settings.entryScript)
  | some place =>
    match Node.replaceAtIn? (injected table settings.entryScript) document place with
    | none => .error (.unserializable "injection point is detached")
    | some nodes =>
      if settings.instrument then
        .ok ((Node.addToFirstIn? (·.isTag "head") (script [] (captureScript token)) nodes).getD nodes)
      else .ok nodes

/-- The page of a project with the given entry document. -/
def application (settings : Settings) (table : Import.Table) (token markup : String) :
    Except Failure String :=
  (tree settings table token (Html.parse markup)).map (Node.writtenAll false)

end Vitrine.Page
