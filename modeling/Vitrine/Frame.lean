import Vitrine.Json.Reader
import Vitrine.Page.Escaped

/-!
# Frames (section 4.8)

A frame is what shows a document apart from the page around it. It grants the document a few
capabilities and nothing else. Whoever shows a frame discards the old context when the key changes;
a document is never changed in place.

A frame is a `SandboxFrame`, and `markup` is `to_iframe_html`.
-/

namespace Vitrine

/-- `pass` counts the renderings, up to sixty-four bits; `sandbox` lists what is granted. -/
structure Frame where
  key : String
  pass : Nat
  sandbox : String
  title : String
  document : String
  deriving DecidableEq

namespace Frame

/-! ## What is granted -/

/-- What a document may do. -/
def granted : List String := ["allow-scripts", "allow-modals", "allow-same-origin"]

/-- What no document may ever do. -/
def denied : List String := [
  "allow-top-navigation",
  "allow-top-navigation-by-user-activation",
  "allow-top-navigation-to-custom-protocols",
  "allow-popups-to-escape-sandbox"]

/-- What is granted, as the value of an attribute. -/
def policy : String := String.intercalate " " granted

/-- The frame of a pass. -/
def ofPass (pass : Nat) (key document : String) : Frame :=
  { key, pass, document, sandbox := policy, title := "Preview" }

/-! ## Reading and writing -/

/-- How a frame is written. -/
def record : Json.Record where
  name := "SandboxFrame"
  fields := [("key", .text), ("pass", .natural), ("sandbox", .text), ("title", .text),
    ("srcdoc", .text)]
  isOpen := false

/-- The frame that all its fields give. -/
def ofFields (fields : Json.Fields) : Frame where
  key := (fields.text? "key").getD ""
  pass := (fields.natural? "pass").getD 0
  sandbox := (fields.text? "sandbox").getD ""
  title := (fields.text? "title").getD ""
  document := (fields.text? "srcdoc").getD ""

/-- The frame that a text holds. -/
def ofText (text : String) : Except Json.Misread Frame :=
  (Json.readAll record.read text).map ofFields

/-- The attributes of the element that shows the frame. -/
def attributes (f : Frame) : List (String × String) :=
  [("data-preview-key", f.key), ("title", f.title), ("sandbox", f.sandbox), ("srcdoc", f.document)]

/-- The element that shows the frame. -/
def markup (f : Frame) : String :=
  "<iframe"
    ++ String.join (f.attributes.map fun a => " " ++ a.1 ++ "=\"" ++ Page.escaped a.2 ++ "\"")
    ++ "></iframe>"

end Frame

end Vitrine
