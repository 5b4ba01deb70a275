/-!
# Style sheets

A style sheet is a list of selectors with their declarations. Here is the one of the error overlay.
-/

namespace Vitrine.Page

/-- Rules as a browser reads them. -/
def styleSheet (rules : List (String × List String)) : String :=
  String.join (rules.map fun (selector, declarations) =>
    selector ++ "\x7b" ++ String.join (declarations.map (· ++ ";")) ++ "\x7d")

/-- Declarations for the overlay, its title and its text. -/
def overlayRules : List (String × List String) := [
  ("#error-overlay",
    ["position:fixed", "top:0", "left:0", "right:0", "bottom:0",
      "background-color:rgba(10,0,0,0.9)", "color:white",
      "font-family:'Consolas','Menlo',monospace", "padding:2rem", "z-index:999999",
      "overflow-y:auto", "border:4px solid #ff5555"]),
  ("#error-overlay h1",
    ["color:#ff5555", "font-size:1.5rem", "margin-top:0", "border-bottom:1px solid #ff5555",
      "padding-bottom:0.5rem"]),
  ("#error-overlay pre",
    ["background-color:#1e1e1e", "padding:1rem", "border-radius:8px", "white-space:pre-wrap",
      "word-wrap:break-word", "font-size:0.9rem", "line-height:1.5"])]

/-- The style sheet of the overlay. -/
def overlayStyle : String := styleSheet overlayRules

end Vitrine.Page
