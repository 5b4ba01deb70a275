import Vitrine.Decimal.Notation
import Vitrine.Markdown.Harmless
import Vitrine.Markdown.Inline

/-!
# Documentation as HTML

Blocks are written one after the other. Most of them start on a line of their own, so what is written is
first a list of chunks, some of which only ask for a new line where none has started.
-/

namespace Vitrine.Markdown

/-! ## Escapes -/

/-- How a character is written in text. -/
def escapedInText (c : Char) : List Char :=
  if c = '&' then "&amp;".toList
  else if c = '<' then "&lt;".toList
  else if c = '>' then "&gt;".toList
  else [c]

/-- How a character is written in the value of an attribute. -/
def escapedInValue (c : Char) : List Char :=
  if c = '"' then "&quot;".toList
  else if c = '\'' then "&#39;".toList
  else escapedInText c

def escapedText (s : String) : String := String.ofList (s.toList.flatMap escapedInText)

def escapedValue (s : String) : String := String.ofList (s.toList.flatMap escapedInValue)

/-- The characters of an address that stand for themselves. -/
def isAddressChar (c : Char) : Bool := c.isAlphanum || "!#$%()*+,-./:;=?@_~".toList.contains c

/-- An upper-case hexadecimal digit. -/
def upperHexDigit (n : Nat) : Char := if n < 10 then Char.ofNat (48 + n) else Char.ofNat (55 + n)

/-- How a character is written in an address: by its bytes in UTF-8, unless it stands for itself or has
a reference. -/
def escapedInAddress (c : Char) : List Char :=
  if isAddressChar c then [c]
  else if c = '&' then "&amp;".toList
  else if c = '\'' then "&#x27;".toList
  else
    (String.ofList [c]).toUTF8.toList.flatMap fun b =>
      ['%', upperHexDigit (b.toNat / 16), upperHexDigit (b.toNat % 16)]

def escapedAddress (s : String) : String := String.ofList (s.toList.flatMap escapedInAddress)

/-- Raw HTML as it stands, or as text if it looks as if it held a script tag. -/
def harmless (html : String) : String :=
  if namesScript html.toList then escapedText html else html

/-! ## Text -/

namespace Inline

mutual

/-- The text that stands for an image. -/
def plain : Inline → String
  | text s => escapedValue s
  | code s => escapedValue s
  | raw html => escapedValue html
  | softBreak => " "
  | hardBreak => " "
  | emphasis content => plainAll content
  | strong content => plainAll content
  | struck content => plainAll content
  | link _ _ content => plainAll content
  | image _ content => plainAll content

def plainAll : List Inline → String
  | [] => ""
  | x :: xs => x.plain ++ plainAll xs

end

/-- The title of a link or an image, up to the quote behind it. -/
def titlePart (title : String) : String :=
  if title.isEmpty then "" else "\" title=\"" ++ escapedValue title

mutual

/-- Text as HTML. -/
def html : Inline → String
  | text s => escapedText s
  | code s => "<code>" ++ escapedText s ++ "</code>"
  | raw html => harmless html
  | softBreak => "\n"
  | hardBreak => "<br />\n"
  | emphasis content => "<em>" ++ htmlAll content ++ "</em>"
  | strong content => "<strong>" ++ htmlAll content ++ "</strong>"
  | struck content => "<del>" ++ htmlAll content ++ "</del>"
  | link isEmail target content =>
    "<a href=\"" ++ (if isEmail then "mailto:" else "") ++ escapedAddress target.destination
      ++ titlePart target.title ++ "\">" ++ htmlAll content ++ "</a>"
  | image target content =>
    "<img src=\"" ++ escapedAddress target.destination ++ "\" alt=\"" ++ plainAll content
      ++ titlePart target.title ++ "\" />"

def htmlAll : List Inline → String
  | [] => ""
  | x :: xs => x.html ++ htmlAll xs

end

end Inline

/-! ## Blocks -/

/-- A part of what is written: a text, or the wish for a new line. -/
inductive Chunk where
  | newLine
  | text (s : String)
  deriving DecidableEq, Repr

/-- Appends a chunk; the flag says whether a line has just started. -/
def Chunk.appendTo (out : String × Bool) : Chunk → String × Bool
  | newLine => if out.2 then out else (out.1 ++ "\n", true)
  | text s => if s.isEmpty then out else (out.1 ++ s, s.back == '\n')

/-- The text of chunks. -/
def Chunk.assemble (chunks : List Chunk) : String :=
  (chunks.foldl Chunk.appendTo ("", true)).1

/-- The box of a task. -/
def taskBox (isDone : Bool) : String :=
  if isDone then "<input disabled=\"\" type=\"checkbox\" checked=\"\"/>\n"
  else "<input disabled=\"\" type=\"checkbox\"/>\n"

/-- The box of a task, if there is one, and a text. -/
def taskText (task? : Option Bool) (text : List Inline) : String :=
  (task?.map taskBox).getD "" ++ Inline.htmlAll text

/-- The class that names the language of code: the first word of what stands behind the fence. -/
def languageClass (info? : Option String) : String :=
  let word := String.ofList ((info?.getD "").toList.takeWhile (· != ' '))
  if word.isEmpty then "" else " class=\"language-" ++ escapedValue word ++ "\""

/-- A line of raw HTML behind its columns. -/
def RawLine.written (l : RawLine) : String := "".pushn ' ' l.indent ++ harmless l.html

/-- How the cells of a column are styled. -/
def Alignment.style : Alignment → String
  | unset => ""
  | left => " style=\"text-align: left\""
  | center => " style=\"text-align: center\""
  | right => " style=\"text-align: right\""

/-- The cells of a row with a tag of their own. -/
def cellsHtml (tag : String) (alignments : List Alignment) (cells : List (List Inline)) : String :=
  String.join ((alignments.zip cells).map fun (alignment, cell) =>
    "<" ++ tag ++ alignment.style ++ ">" ++ Inline.htmlAll cell ++ "</" ++ tag ++ ">")

def tableHtml (alignments : List Alignment) (head : List (List Inline))
    (rows : List (List (List Inline))) : String :=
  "<table><thead><tr>" ++ cellsHtml "th" alignments head ++ "</tr></thead><tbody>\n"
    ++ String.join (rows.map fun row => "<tr>" ++ cellsHtml "td" alignments row ++ "</tr>\n")
    ++ "</tbody></table>\n"

/-- The start tag of a list. -/
def listTag : Option Nat → String
  | none => "<ul>\n"
  | some 1 => "<ol>\n"
  | some n => "<ol start=\"" ++ Decimal.natural n ++ "\">\n"

namespace Block

mutual

/-- A block as chunks. In a tight list, paragraphs have no tags of their own. -/
def chunks (isTight : Bool) : Block (List Inline) → List Chunk
  | paragraph task? text =>
    if isTight then [.text (taskText task? text)]
    else [.newLine, .text ("<p>" ++ taskText task? text ++ "</p>\n")]
  | heading level task? text =>
    let tag := "h" ++ Decimal.natural level
    [.newLine, .text ("<" ++ tag ++ ">" ++ taskText task? text ++ "</" ++ tag ++ ">\n")]
  | code info? text =>
    [.newLine,
      .text ("<pre><code" ++ languageClass info? ++ ">" ++ escapedText text ++ "</code></pre>\n")]
  | raw lines => lines.map fun l => .text l.written
  | rule => [.newLine, .text "<hr />\n"]
  | task isDone => [.text (taskBox isDone)]
  | quote blocks => [.newLine, .text "<blockquote>\n"] ++ chunksAll false blocks
      ++ [.text "</blockquote>\n"]
  | list start? isTight items =>
    [.newLine, .text (listTag start?)] ++ chunksItems isTight items
      ++ [.text (if start?.isSome then "</ol>\n" else "</ul>\n")]
  | table alignments head rows => [.text (tableHtml alignments head rows)]

/-- Blocks as chunks. -/
def chunksAll (isTight : Bool) : List (Block (List Inline)) → List Chunk
  | [] => []
  | b :: bs => b.chunks isTight ++ chunksAll isTight bs

/-- The items of a list as chunks. -/
def chunksItems (isTight : Bool) : List (List (Block (List Inline))) → List Chunk
  | [] => []
  | item :: items =>
    [.newLine, .text "<li>"] ++ chunksAll isTight item ++ [.text "</li>\n"]
      ++ chunksItems isTight items

end

/-- Blocks as HTML. -/
def html (blocks : List (Block (List Inline))) : String := Chunk.assemble (chunksAll false blocks)

end Block

end Vitrine.Markdown
