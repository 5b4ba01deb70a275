/-!
# Elements, attributes and tokens

The names of the nodes of a document, and the tokens that its text is read into before the tree is
built.
-/

namespace Vitrine.Html

/-- The three vocabularies that elements come from. -/
inductive Vocabulary where
  | html
  | svg
  | mathml
  deriving DecidableEq, Repr, Inhabited

structure ElementName where
  vocabulary : Vocabulary
  tag : String
  deriving DecidableEq, Repr, Inhabited

/-- An element of HTML with one of the given names. -/
def ElementName.isHtml (name : ElementName) (tags : List String) : Bool :=
  name.vocabulary = .html && tags.contains name.tag

/-- What stands before the colon of an attribute's name, where that is part of the name's meaning. -/
inductive AttributeSpace where
  | plain
  | xlink
  | xml
  | xmlns
  deriving DecidableEq, Repr, Inhabited

structure Attribute where
  space : AttributeSpace
  name : String
  value : String
  deriving DecidableEq, Repr, Inhabited

/-- A tag as it is written, its name in small letters. -/
structure Tag where
  name : String
  attributes : List Attribute := []
  closesItself : Bool := false
  deriving DecidableEq, Repr, Inhabited

/-- The value of the attribute `name`. -/
def Tag.value? (tag : Tag) (name : String) : Option String :=
  (tag.attributes.find? fun a => a.space = .plain && a.name = name).map Attribute.value

/-- The same name and the same attributes, in any order. -/
def Tag.agrees (a b : Tag) : Bool :=
  a.name = b.name && a.attributes.length = b.attributes.length
    && a.attributes.all b.attributes.contains

/-- A document type. `isBroken` marks one that breaks off or goes wrong. -/
structure Doctype where
  name : String := ""
  publicId : Option String := none
  systemId : Option String := none
  isBroken : Bool := false
  deriving Repr, Inhabited

inductive Token where
  | startTag (tag : Tag)
  | endTag (tag : Tag)
  | character (c : Char)
  | comment (text : String)
  | doctype (d : Doctype)
  /-- Something that is dropped, but that separates what stands before it from what follows. -/
  | fault
  | endOfFile
  deriving Repr, Inhabited

end Vitrine.Html
