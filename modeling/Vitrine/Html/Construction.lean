import Vitrine.Html.Store
import Vitrine.Html.Groups
import Vitrine.Html.Foreign

/-!
# Tree construction: the state

Tokens come one by one. Which rules a token falls under depends on the mode, on the elements that are
open, and on formatting elements that were closed by force and are to be opened again.

Lists of open elements and of formatting elements begin with the most recent one.
-/

namespace Vitrine.Html

/-- Which rules a token falls under. -/
inductive Mode where
  | initial
  | beforeHtml
  | beforeHead
  | inHead
  | afterHead
  | inBody
  | text
  | inTable
  | inTableText
  | inCaption
  | inColumnGroup
  | inTableBody
  | inRow
  | inCell
  | inSelect
  | inSelectInTable
  | inTemplate
  | afterBody
  | inFrameset
  | afterFrameset
  | afterAfterBody
  | afterAfterFrameset
  deriving DecidableEq, Repr, Inhabited

/-- How the text behind a tag is to be read. -/
inductive Reading where
  | markup
  /-- Text up to the end tag, with or without character references. -/
  | raw (tag : String) (references : Bool)
  | script
  /-- All that follows is text. -/
  | plain
  deriving DecidableEq, Repr, Inhabited

structure OpenElement where
  node : NodeId
  name : ElementName
  /-- An annotation in mathematics that holds HTML. -/
  annotates : Bool := false
  deriving Repr, Inhabited

/-- A formatting element, or the mark that keeps those outside a cell or an object apart. -/
inductive FormatEntry where
  | marker
  | element (node : NodeId) (tag : Tag)
  deriving Repr, Inhabited

structure Construction where
  store : Store := {}
  openElements : List OpenElement := []
  formatting : List FormatEntry := []
  mode : Mode := .initial
  /-- The mode to go back to after text. -/
  resumed : Mode := .initial
  templateModes : List Mode := []
  /-- Characters in a table, the last one first, until it is known whether they are all blank. -/
  tableText : List Char := []
  head : Option NodeId := none
  form : Option NodeId := none
  allowsFrames : Bool := true
  /-- What does not belong into a table is put in front of it. -/
  fosters : Bool := false
  /-- A line feed that comes next is dropped. -/
  dropsLineFeed : Bool := false
  isOld : Bool := false
  reading : Reading := .markup
  /-- The token is to be looked at again. -/
  again : Bool := false
  deriving Inhabited

/-- The blanks of documents. -/
def isBlank (c : Char) : Bool := c = ' ' || c = '\n' || c = '\t' || c = '\x0c' || c = '\r'

namespace Construction

/-! ## Open elements -/

def switchTo (s : Construction) (mode : Mode) : Construction := { s with mode }

/-- Leaves the token to the rules of another mode. -/
def retry (s : Construction) (mode : Mode) : Construction := { s with mode, again := true }

def current? (s : Construction) : Option OpenElement := s.openElements.head?

def currentIs (s : Construction) (tags : List String) : Bool :=
  match s.openElements with
  | e :: _ => e.name.isHtml tags
  | [] => false

def pop (s : Construction) : Construction := { s with openElements := s.openElements.drop 1 }

/-- The outermost element. -/
def root? (s : Construction) : Option OpenElement := s.openElements.getLast?

def isOpen (s : Construction) (node : NodeId) : Bool := s.openElements.any (·.node = node)

def hasOpen (s : Construction) (tag : String) : Bool := s.openElements.any (·.name.isHtml [tag])

/-- Removes an element from the open ones, wherever it stands. -/
def close (s : Construction) (node : NodeId) : Construction :=
  { s with openElements := s.openElements.filter (·.node ≠ node) }

/-- Looks for an open element from the innermost one outwards, up to where the scope ends. -/
def inScope (ends : ElementName → Bool) (p : OpenElement → Bool) : List OpenElement → Bool
  | [] => false
  | e :: es => p e || (!ends e.name && inScope ends p es)

/-- Whether one of `tags` is open in the scope that `ends` bounds. -/
def hasScoped (s : Construction) (ends : ElementName → Bool) (tags : List String) : Bool :=
  inScope ends (·.name.isHtml tags) s.openElements

/-- Closes elements up to and including the first that `p` holds of. -/
def popThrough (s : Construction) (p : ElementName → Bool) : Construction :=
  { s with openElements := (s.openElements.dropWhile fun e => !p e.name).drop 1 }

def popThroughTag (s : Construction) (tag : String) : Construction := s.popThrough (·.isHtml [tag])

/-- Closes elements up to the first that is one of `tags`. -/
def popTo (s : Construction) (tags : List String) : Construction :=
  { s with openElements := s.openElements.dropWhile fun e => !e.name.isHtml tags }

/-- Closes elements whose end tag may be left out, those called `kept` apart. -/
def closeImplied (s : Construction) (kept : List String) : Construction :=
  { s with openElements := s.openElements.dropWhile fun e =>
      e.name.isHtml impliedTags && !e.name.isHtml kept }

/-- Closes a paragraph with what is open in it. -/
def closeParagraph (s : Construction) : Construction := (s.closeImplied ["p"]).popThroughTag "p"

/-- Closes a paragraph if one is open. -/
def endParagraph (s : Construction) : Construction :=
  if s.hasScoped (·.endsButtonScope) ["p"] then s.closeParagraph else s

def bodyIfOpen? (s : Construction) : Option NodeId :=
  match s.openElements.reverse with
  | _ :: e :: _ => if e.name.isHtml ["body"] then some e.node else none
  | _ => none

def forbidFrames (s : Construction) : Construction := { s with allowsFrames := false }

/-! ## Where nodes go -/

/-- Where a new node goes. -/
inductive Place where
  | inside (parent : NodeId)
  /-- In front of a table; as the last child of the element around it if the table has no parent. -/
  | before (table around : NodeId)
  deriving Repr, Inhabited

/-- The place in front of the innermost table. -/
def fosterPlace? (store : Store) : List OpenElement → Option Place
  | [] => none
  | e :: es =>
    if e.name.isHtml ["template"] then some (.inside (store.inside e.node))
    else if e.name.isHtml ["table"] then
      some (.before e.node ((es.head?.map OpenElement.node).getD Store.document))
    else fosterPlace? store es

/-- Where a child of `target` goes. -/
def placeIn (s : Construction) (target : OpenElement) : Place :=
  if s.fosters && target.name.isHtml tableParts then
    (fosterPlace? s.store s.openElements).getD
      (.inside ((s.root?.map OpenElement.node).getD Store.document))
  else .inside (s.store.inside target.node)

/-- Where the next node goes. -/
def place (s : Construction) : Place :=
  match s.current? with
  | some e => s.placeIn e
  | none => .inside Store.document

def putAt (s : Construction) (place : Place) (node : NodeId) : Construction :=
  match place with
  | .inside parent => { s with store := s.store.append parent node }
  | .before table around => { s with store := s.store.insertBefore table around node }

def putCharacter (s : Construction) (c : Char) : Construction :=
  match s.place with
  | .inside parent => { s with store := s.store.appendCharacter parent c }
  | .before table around => { s with store := s.store.insertCharacterBefore table around c }

def create (s : Construction) (content : Content) : Construction × NodeId :=
  let (store, id) := s.store.create content
  ({ s with store }, id)

def putComment (s : Construction) (text : String) : Construction :=
  let (s, id) := s.create (.comment text)
  s.putAt s.place id

/-- A comment as the last child of a certain node. -/
def putCommentIn (s : Construction) (parent : NodeId) (text : String) : Construction :=
  let (s, id) := s.create (.comment text)
  s.putAt (.inside parent) id

/-- A new element at the next place. -/
def newElement (s : Construction) (vocabulary : Vocabulary) (tag : Tag) : Construction × OpenElement :=
  let name : ElementName := ⟨vocabulary, tag.name⟩
  let (s, id) := s.create (.element name tag.attributes)
  let annotates := vocabulary = .mathml && tag.name = "annotation-xml" && tag.encodesHtml
  (s.putAt s.place id, ⟨id, name, annotates⟩)

def push (s : Construction) (e : OpenElement) : Construction :=
  { s with openElements := e :: s.openElements }

/-- Opens an element. -/
def insert (s : Construction) (tag : Tag) : Construction :=
  let (s, e) := s.newElement .html tag
  s.push e

/-- Opens an element that has no tag in the text. -/
def insertNamed (s : Construction) (tag : String) : Construction := s.insert { name := tag }

/-- An element that is closed at once. -/
def insertEmpty (s : Construction) (tag : Tag) : Construction := (s.newElement .html tag).1

/-- An element of foreign content. -/
def insertForeign (s : Construction) (vocabulary : Vocabulary) (tag : Tag) : Construction :=
  let (s, e) := s.newElement vocabulary tag
  if tag.closesItself then s else s.push e

/-- An element whose content is text. -/
def insertRaw (s : Construction) (tag : Tag) (reading : Reading) : Construction :=
  { s.insert tag with resumed := s.mode, mode := .text, reading }

/-! ## Which mode comes next -/

/-- The mode that a `select` inside the given elements calls for. -/
def selectMode : List OpenElement → Mode
  | [] => .inSelect
  | e :: es =>
    if e.name.isHtml ["template"] then .inSelect
    else if e.name.isHtml ["table"] then .inSelectInTable
    else selectMode es

/-- The mode that an open element calls for, with the elements around it. -/
def modeOf? (s : Construction) (e : OpenElement) (around : List OpenElement) : Option Mode :=
  let last := around.isEmpty
  if e.name.vocabulary ≠ .html then none
  else match e.name.tag with
  | "select" => some (selectMode around)
  | "td" | "th" => if last then none else some .inCell
  | "tr" => some .inRow
  | "tbody" | "thead" | "tfoot" => some .inTableBody
  | "caption" => some .inCaption
  | "colgroup" => some .inColumnGroup
  | "table" => some .inTable
  | "template" => some (s.templateModes.head?.getD .inTemplate)
  | "head" => if last then none else some .inHead
  | "body" => some .inBody
  | "frameset" => some .inFrameset
  | "html" => some (if s.head.isNone then .beforeHead else .afterHead)
  | _ => none

def openMode (s : Construction) : List OpenElement → Mode
  | [] => .inBody
  | e :: es => (s.modeOf? e es).getD (s.openMode es)

/-- The mode that the open elements call for. -/
def properMode (s : Construction) : Mode := s.openMode s.openElements

end Construction

end Vitrine.Html
