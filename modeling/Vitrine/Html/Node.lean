import Vitrine.Html.Token
import Vitrine.Text.Ascii

/-!
# Documents as trees

A document is a list of nodes. The content of a `<template>` is kept beside the children of the element:
it belongs to no document, so a search in the document does not see it.
-/

namespace Vitrine.Html

inductive Node where
  | element (name : ElementName) (attributes : List Attribute) (children contents : List Node)
  | text (text : String)
  | comment (text : String)
  | doctype (name : String)
  deriving Inhabited

namespace Node

/-- Whether a node is an element called `tag`, whatever vocabulary it is from. -/
def isTag (tag : String) : Node → Bool
  | .element name _ _ _ => Text.equalIgnoringCase name.tag tag
  | _ => false

/-- The value of the first attribute called `name`. -/
def value? (name : String) : Node → Option String
  | .element _ attributes _ _ =>
    (attributes.find? fun a => Text.equalIgnoringCase a.name name).map Attribute.value
  | _ => none

def children : Node → List Node
  | .element _ _ children _ => children
  | _ => []

mutual

/-- The nodes of a tree in document order. -/
def subtree : Node → List Node
  | .element name attributes children contents =>
    .element name attributes children contents :: subtrees children
  | n => [n]

/-- The nodes of several trees in document order. -/
def subtrees : List Node → List Node
  | [] => []
  | n :: ns => n.subtree ++ subtrees ns

end

/-! ## Places -/

/-- Where a node stands: the numbers of the elements around it among their siblings, and its own. -/
abbrev Place := List Nat

/-- The place behind one sibling more. -/
def Place.behind : Place → Place
  | [] => []
  | k :: place => (k + 1) :: place

mutual

/-- The place, from a node on, of the first node in document order that `p` holds of. -/
def placeOfFirst? (p : Node → Bool) : Node → Option Place
  | .element name attributes children contents =>
    if p (.element name attributes children contents) then some []
    else placeOfFirstIn? p children
  | n => if p n then some [] else none

/-- The place of the first node that `p` holds of in several trees. -/
def placeOfFirstIn? (p : Node → Bool) : List Node → Option Place
  | [] => none
  | n :: ns =>
    match placeOfFirst? p n with
    | some place => some (0 :: place)
    | none => (placeOfFirstIn? p ns).map Place.behind

end

mutual

/-- Puts some nodes in the place of a node, from another one on, if there is a node at the place. -/
def replaceAt? (new : List Node) : Node → Place → Option (List Node)
  | _, [] => some new
  | .element name attributes children contents, k :: place =>
    (replaceAtIn? new children (k :: place)).map fun children =>
      [.element name attributes children contents]
  | _, _ :: _ => none

/-- Puts some nodes in the place of a node in several trees. -/
def replaceAtIn? (new : List Node) : List Node → Place → Option (List Node)
  | [], _ => none
  | _ :: _, [] => none
  | n :: ns, 0 :: place => (replaceAt? new n place).map (· ++ ns)
  | n :: ns, (k + 1) :: place => (replaceAtIn? new ns (k :: place)).map (n :: ·)

end

/-! ## Adding -/

mutual

/-- Adds a last child to the first node in document order that `p` holds of. -/
def addToFirst? (p : Node → Bool) (child : Node) : Node → Option Node
  | .element name attributes children contents =>
    if p (.element name attributes children contents) then
      some (.element name attributes (children ++ [child]) contents)
    else (addToFirstIn? p child children).map fun children =>
      .element name attributes children contents
  | _ => none

/-- Adds a last child to the first element that `p` holds of in several trees. -/
def addToFirstIn? (p : Node → Bool) (child : Node) : List Node → Option (List Node)
  | [] => none
  | n :: ns =>
    match addToFirst? p child n with
    | some n => some (n :: ns)
    | none => (addToFirstIn? p child ns).map (n :: ·)

end

end Node

end Vitrine.Html
