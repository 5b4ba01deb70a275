import Vitrine.Html.Node

/-!
# Writing a document

A tree is written as tags and text. Text is escaped, except in the elements whose content is read as it
stands. Elements that are always empty get no end tag, and what a template holds is not written.
-/

namespace Vitrine.Html

/-- How a character of text is written. -/
def writtenInText (c : Char) : List Char :=
  if c = '&' then "&amp;".toList
  else if c = '\xa0' then "&nbsp;".toList
  else if c = '<' then "&lt;".toList
  else if c = '>' then "&gt;".toList
  else [c]

/-- How a character of an attribute's value is written. -/
def writtenInAttribute (c : Char) : List Char :=
  if c = '&' then "&amp;".toList
  else if c = '\xa0' then "&nbsp;".toList
  else if c = '"' then "&quot;".toList
  else [c]

/-- Elements that hold nothing and have no end tag. -/
def emptyTags : List String :=
  ["area", "base", "basefont", "bgsound", "br", "col", "embed", "frame", "hr", "img", "input", "keygen",
    "link", "meta", "param", "source", "track", "wbr"]

/-- Elements whose text is written as it stands. -/
def rawTags : List String :=
  ["style", "script", "xmp", "iframe", "noembed", "noframes", "plaintext", "noscript"]

def AttributeSpace.written (space : AttributeSpace) (name : String) : String :=
  match space with
  | .plain => name
  | .xlink => "xlink:" ++ name
  | .xml => "xml:" ++ name
  | .xmlns => if name = "xmlns" then name else "xmlns:" ++ name

def Attribute.written (a : Attribute) : String :=
  " " ++ a.space.written a.name ++ "=\""
    ++ String.ofList (a.value.toList.flatMap writtenInAttribute) ++ "\""

/-- The start tag of an element. -/
def ElementName.startTag (name : ElementName) (attributes : List Attribute) : String :=
  "<" ++ name.tag ++ String.join (attributes.map Attribute.written) ++ ">"

mutual

/-- A node as text; `raw` if the element around it holds raw text. -/
def Node.written (raw : Bool) : Node → String
  | .element name attributes children _ =>
    if name.isHtml emptyTags then name.startTag attributes
    else
      name.startTag attributes ++ Node.writtenAll (name.isHtml rawTags) children
        ++ "</" ++ name.tag ++ ">"
  | .text content =>
    if raw then content else String.ofList (content.toList.flatMap writtenInText)
  | .comment content => "<!--" ++ content ++ "-->"
  | .doctype name => "<!DOCTYPE " ++ name ++ ">"

/-- Nodes as text, one after the other. -/
def Node.writtenAll (raw : Bool) : List Node → String
  | [] => ""
  | n :: ns => n.written raw ++ Node.writtenAll raw ns

end

end Vitrine.Html
