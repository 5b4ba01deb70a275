import Vitrine.Html.Token
import Vitrine.Html.Reference

/-!
# Reading a tag

A tag is read one character at a time by a small machine: `Draft.step` says what one character does to
the part read so far, and `Draft.read` runs it to the `>` that ends the tag. A tag that the text breaks
off is no tag.
-/

namespace Vitrine.Html.Lexer

/-- The blanks that separate the parts of a tag. -/
def isSpace (c : Char) : Bool := c = ' ' || c = '\n' || c = '\t' || c = '\x0c'

/-- `c` as it stands in names and raw text: a null character is shown by the replacement character. -/
def shown (c : Char) : Char := if c = '\x00' then '\ufffd' else c

/-- Where in a tag the next character stands. -/
inductive Phase where
  | name
  | beforeAttribute
  | attributeName
  | afterAttributeName
  | beforeValue
  /-- In a value that the given quote ends. -/
  | quoted (quote : Char)
  | unquoted
  | afterQuoted
  | slash
  | complete
  deriving DecidableEq, Repr, Inhabited

/-- A tag as far as it is read. Texts are kept with their last character first. -/
structure Draft where
  phase : Phase := .name
  name : List Char := []
  attributes : List Attribute := []
  /-- The name of the attribute that is being read; empty between attributes. -/
  pending : List Char := []
  value : List Char := []
  closesItself : Bool := false
  deriving Repr, Inhabited

namespace Draft

/-- Files the attribute that is being read. Of two attributes of one name the first counts. -/
def fileAttribute (d : Draft) : Draft :=
  if d.pending.isEmpty then d
  else
    let name := String.ofList d.pending.reverse
    let value := String.ofList (Reference.decode true d.value.reverse)
    let attributes :=
      if d.attributes.any fun a => a.name = name then d.attributes
      else d.attributes ++ [⟨.plain, name, value⟩]
    { d with attributes, pending := [], value := [] }

def startAttribute (d : Draft) (c : Char) : Draft :=
  let d := d.fileAttribute
  { d with phase := .attributeName, pending := [shown c.toLower] }

def finish (d : Draft) : Draft := { d.fileAttribute with phase := .complete }

def enter (d : Draft) (phase : Phase) : Draft := { d with phase }

def beforeAttribute (d : Draft) (c : Char) : Draft :=
  if isSpace c then d.enter .beforeAttribute
  else if c = '/' then d.enter .slash
  else if c = '>' then d.finish
  else d.startAttribute c

def unquoted (d : Draft) (c : Char) : Draft :=
  if isSpace c then d.enter .beforeAttribute
  else if c = '>' then d.finish
  else { d with phase := .unquoted, value := shown c :: d.value }

/-- What one character does to a tag. -/
def step (d : Draft) (c : Char) : Draft :=
  match d.phase with
  | .name =>
    if isSpace c then d.enter .beforeAttribute
    else if c = '/' then d.enter .slash
    else if c = '>' then d.finish
    else { d with name := shown c.toLower :: d.name }
  | .beforeAttribute => d.beforeAttribute c
  | .attributeName =>
    if isSpace c then d.enter .afterAttributeName
    else if c = '/' then d.enter .slash
    else if c = '=' then d.enter .beforeValue
    else if c = '>' then d.finish
    else { d with pending := shown c.toLower :: d.pending }
  | .afterAttributeName =>
    if isSpace c then d
    else if c = '/' then d.enter .slash
    else if c = '=' then d.enter .beforeValue
    else if c = '>' then d.finish
    else d.startAttribute c
  | .beforeValue =>
    if isSpace c then d
    else if c = '"' || c = '\'' then d.enter (.quoted c)
    else d.unquoted c
  | .quoted quote =>
    if c = quote then d.enter .afterQuoted else { d with value := shown c :: d.value }
  | .unquoted => d.unquoted c
  | .afterQuoted =>
    if isSpace c then d.enter .beforeAttribute
    else if c = '/' then d.enter .slash
    else if c = '>' then d.finish
    else d.beforeAttribute c
  | .slash => if c = '>' then { d.finish with closesItself := true } else d.beforeAttribute c
  | .complete => d

/-- Reads to the end of the tag, and gives the tag and the text behind it. -/
def read (d : Draft) : List Char → Option (Tag × List Char)
  | [] => none
  | c :: cs =>
    let d := d.step c
    if d.phase = .complete then
      some (⟨String.ofList d.name.reverse, d.attributes, d.closesItself⟩, cs)
    else d.read cs

end Draft

/-- Reads a tag from the first letter of its name. -/
def tag? (text : List Char) : Option (Tag × List Char) := Draft.read {} text

end Vitrine.Html.Lexer
