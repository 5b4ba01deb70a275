import Vitrine.Markdown.Document
import Vitrine.Markdown.Inline.Emphasis
import Vitrine.Markdown.Written

/-!
# Markdown (section 4.2)

The text of documentation becomes HTML in three steps: its outline is read, which is a list of blocks and
the definitions of links; the text of each block is read with these definitions; and the blocks are
written.

The whole is `markdown_to_html`.
-/

namespace Vitrine.Markdown

/-- The blocks of a text. -/
def blocks (text : String) : List (Block (List Inline)) :=
  let source : Source := text.toList.toArray
  let outline := source.outline
  Block.mapAll
    (fun content => ({ source, content, definitions := outline.definitions } : Passage).inlines)
    outline.close

/-- A text as HTML. -/
def html (text : String) : String := Block.html (blocks text)

end Vitrine.Markdown
