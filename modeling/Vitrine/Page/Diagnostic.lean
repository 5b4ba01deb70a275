import Vitrine.Failure
import Vitrine.Page.Escaped
import Vitrine.Page.Style

/-!
# Documents that stand in for a preview (sections 4.6 and 7)

What is shown when there is nothing to preview, and when a preview fails.

The operations are `placeholder_document` and `diagnostic_document`.
-/

namespace Vitrine.Page

/-- What is shown while no file is selected. -/
def placeholder : String := "<html><body>Select a file to preview.</body></html>"

/-- A title and a text over the whole page. -/
def overlay (title message : String) : String :=
  "<html><head><style>" ++ overlayStyle
    ++ "</style></head><body><div id=\"error-overlay\"><h1>" ++ escaped title
    ++ "</h1><pre>" ++ escaped message ++ "</pre></div></body></html>"

/-- What is shown in place of a preview that fails. -/
def diagnostic (failure : Failure) : String :=
  match failure with
  | .missingEntryDocument path =>
    "<html><body>Cannot generate preview: <strong>" ++ escaped path
      ++ "</strong> not found.</body></html>"
  | .missingInjectionPoint entry script =>
    "<html><body>Cannot inject preview script: <strong>"
      ++ escaped ("<script type=\"module\" src=\"" ++ script ++ "\"></script>")
      ++ "</strong> not found in " ++ escaped entry ++ ".</body></html>"
  | .brokenScript .. => overlay "Transform Error" failure.message
  | _ => overlay "Preview Error" failure.message

end Vitrine.Page
