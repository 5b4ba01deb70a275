import Vitrine.Markdown.Definition

/-!
# Text with emphasis and links

What the text of a block holds: plain text, code, raw HTML, breaks, and emphasis, links and images around
more of it.
-/

namespace Vitrine.Markdown

inductive Inline where
  | text (s : String)
  | code (s : String)
  | raw (html : String)
  | softBreak
  | hardBreak
  | emphasis (content : List Inline)
  | strong (content : List Inline)
  | struck (content : List Inline)
  | link (isEmail : Bool) (target : Target) (content : List Inline)
  | image (target : Target) (content : List Inline)
  deriving Inhabited

end Vitrine.Markdown
