/-!
# Escaped text (section 4.6)

Text in a document and in the quoted value of an attribute is escaped: the five characters that mean
something there are written as references.

The operation is `escape_html`.
-/

namespace Vitrine.Page

/-- How a character is written. -/
def escapedChar (c : Char) : List Char :=
  if c = '&' then "&amp;".toList
  else if c = '<' then "&lt;".toList
  else if c = '>' then "&gt;".toList
  else if c = '"' then "&quot;".toList
  else if c = '\'' then "&#039;".toList
  else [c]

/-- `s` as it is written in a document. -/
def escaped (s : String) : String := String.ofList (s.toList.flatMap escapedChar)

end Vitrine.Page
