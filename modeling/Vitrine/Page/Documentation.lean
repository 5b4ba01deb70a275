import Vitrine.Markdown
import Vitrine.Page.Style

/-!
# Documentation pages (section 4.2)

Documentation is shown as a page with a style of its own and nothing else: no scripts, no import table.

The operation is `render_markdown_document`.
-/

namespace Vitrine.Page

/-- How documentation looks. -/
def documentationRules : List (String × List String) := [
  ("body",
    ["font-family:-apple-system,BlinkMacSystemFont,\"Segoe UI\",\"Noto Sans\",Helvetica,Arial,sans-serif",
      "line-height:1.6", "padding:2em 4em", "background-color:#fff", "color:#24292e", "margin:0"]),
  ("h1,h2,h3,h4,h5,h6",
    ["margin-top:24px", "margin-bottom:16px", "font-weight:600", "line-height:1.25",
      "border-bottom:1px solid #eaecef", "padding-bottom:.3em"]),
  ("code",
    ["font-family:\"SFMono-Regular\",Consolas,\"Liberation Mono\",Menlo,Courier,monospace",
      "background-color:rgba(27,31,35,.05)", "border-radius:6px", "padding:.2em .4em",
      "font-size:85%"]),
  ("pre",
    ["padding:16px", "overflow:auto", "font-size:85%", "line-height:1.45",
      "background-color:#f6f8fa", "border-radius:6px", "word-wrap:normal"]),
  ("pre code",
    ["padding:0", "margin:0", "background-color:transparent", "border:0", "display:inline",
      "overflow:visible", "line-height:inherit", "word-wrap:normal"]),
  ("blockquote",
    ["padding:0 1em", "color:#6a737d", "border-left:.25em solid #dfe2e5", "margin-left:0"]),
  ("table",
    ["border-collapse:collapse", "display:block", "width:100%", "overflow:auto"]),
  ("tr",
    ["background-color:#fff", "border-top:1px solid #c6cbd1"]),
  ("tr:nth-child(2n)",
    ["background-color:#f6f8fa"]),
  ("th,td",
    ["border:1px solid #dfe2e5", "padding:6px 13px"]),
  ("img",
    ["max-width:100%"])]

/-- The style sheet of documentation. -/
def documentationStyle : String := styleSheet documentationRules

/-- The page that shows a text. -/
def documentation (text : String) : String :=
  "<!DOCTYPE html><html lang=\"en\"><head><meta charset=\"UTF-8\"><style>" ++ documentationStyle
    ++ "</style></head><body>" ++ Markdown.html text ++ "</body></html>"

end Vitrine.Page
