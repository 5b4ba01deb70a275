import Vitrine.Html.Node

/-!
# A document under construction

While a document is built its nodes move: a late end tag can lift an element out of another one, and
text inside a table is put in front of it. So the nodes are kept in a store and refer to each other by
number; `Store.nodes` takes the finished tree out.

Two texts never stand next to each other: text that is put behind text extends it.
-/

namespace Vitrine.Html

/-- The number of a node in a store. -/
abbrev NodeId := Nat

/-- What a node is, its place in the tree apart. -/
inductive Content where
  /-- The document itself, or what a template holds. -/
  | fragment
  | element (name : ElementName) (attributes : List Attribute)
  | text (text : String)
  | comment (text : String)
  | doctype (name : String)
  deriving Inhabited

structure StoredNode where
  content : Content
  parent : Option NodeId := none
  children : Array NodeId := #[]
  /-- Where a template keeps what it holds. -/
  contents : Option NodeId := none
  deriving Inhabited

structure Store where
  slots : Array StoredNode := #[⟨.fragment, none, #[], none⟩]
  deriving Inhabited

namespace Store

/-- The document that every store begins with. -/
def document : NodeId := 0

def update (store : Store) (id : NodeId) (f : StoredNode → StoredNode) : Store :=
  ⟨store.slots.modify id f⟩

/-- A new node without a place, with a fragment of its own if it is a template. -/
def create (store : Store) (content : Content) : Store × NodeId :=
  let id := store.slots.size
  let isTemplate := match content with
    | .element name _ => name.isHtml ["template"]
    | _ => false
  if isTemplate then
    (⟨(store.slots.push { content, contents := some (id + 1) }).push { content := .fragment }⟩, id)
  else (⟨store.slots.push { content }⟩, id)

def parent? (store : Store) (id : NodeId) : Option NodeId :=
  (store.slots[id]?).bind StoredNode.parent

def childrenOf (store : Store) (id : NodeId) : Array NodeId :=
  ((store.slots[id]?).map StoredNode.children).getD #[]

/-- Where the children of an element go: a template keeps them apart. -/
def inside (store : Store) (id : NodeId) : NodeId :=
  ((store.slots[id]?).bind StoredNode.contents).getD id

/-- Takes a node out of its parent. -/
def detach (store : Store) (id : NodeId) : Store :=
  match store.parent? id with
  | none => store
  | some parent =>
    (store.update parent fun n => { n with children := n.children.filter (· ≠ id) }).update id
      fun n => { n with parent := none }

/-- Adds a detached node as the last child. -/
def append (store : Store) (parent child : NodeId) : Store :=
  (store.update parent fun n => { n with children := n.children.push child }).update child
    fun n => { n with parent := some parent }

/-- The place of `id` among the children of its parent. -/
def indexOf (store : Store) (parent id : NodeId) : Nat :=
  ((store.childrenOf parent).findIdx? (· = id)).getD 0

/-- Adds a node in front of `sibling`, or as the last child of `otherwise` if that has no parent. -/
def insertBefore (store : Store) (sibling otherwise child : NodeId) : Store :=
  match store.parent? sibling with
  | none => store.append otherwise child
  | some parent =>
    let at_ := store.indexOf parent sibling
    (store.update parent fun n => { n with children := n.children.insertIdxIfInBounds at_ child }).update
      child fun n => { n with parent := some parent }

def isText (store : Store) (id : NodeId) : Bool :=
  match (store.slots[id]?).map StoredNode.content with
  | some (.text _) => true
  | _ => false

def extendText (store : Store) (id : NodeId) (c : Char) : Store :=
  store.update id fun n =>
    match n with
    | ⟨.text text, parent, children, contents⟩ => ⟨.text (text.push c), parent, children, contents⟩
    | n => n

/-- Adds a character behind the last child. -/
def appendCharacter (store : Store) (parent : NodeId) (c : Char) : Store :=
  match (store.childrenOf parent).back? with
  | some last =>
    if store.isText last then store.extendText last c
    else let (store, id) := store.create (.text (String.singleton c)); store.append parent id
  | none => let (store, id) := store.create (.text (String.singleton c)); store.append parent id

/-- Adds a character in front of `sibling`, or behind the last child of `otherwise`. -/
def insertCharacterBefore (store : Store) (sibling otherwise : NodeId) (c : Char) : Store :=
  match store.parent? sibling with
  | none => store.appendCharacter otherwise c
  | some parent =>
    let at_ := store.indexOf parent sibling
    let previous := if at_ = 0 then none else (store.childrenOf parent)[at_ - 1]?
    match previous.filter store.isText with
    | some text => store.extendText text c
    | none =>
      let (store, id) := store.create (.text (String.singleton c))
      store.insertBefore sibling otherwise id

/-- Moves all children of `source` behind those of `target`. -/
def moveChildren (store : Store) (source target : NodeId) : Store :=
  let moved := store.childrenOf source
  let store := store.update source fun n => { n with children := #[] }
  let store := store.update target fun n => { n with children := n.children ++ moved }
  moved.foldl (fun store id => store.update id fun n => { n with parent := some target }) store

/-- Adds those attributes that an element does not have yet. -/
def addAttributes (store : Store) (id : NodeId) (new : List Attribute) : Store :=
  store.update id fun n =>
    match n.content with
    | .element name attributes =>
      let missing := new.filter fun a =>
        !attributes.any fun b => b.space = a.space && b.name = a.name
      { n with content := .element name (attributes ++ missing) }
    | _ => n

/-- The tree below a node; a fragment gives its children. Fuel counts the levels. -/
def nodesAt (store : Store) : Nat → NodeId → List Node
  | 0, _ => []
  | fuel + 1, id =>
    match store.slots[id]? with
    | none => []
    | some node =>
      let children := node.children.toList.flatMap (store.nodesAt fuel)
      match node.content with
      | .fragment => children
      | .element name attributes =>
        let contents := match node.contents with
          | some held => store.nodesAt fuel held
          | none => []
        [.element name attributes children contents]
      | .text text => [.text text]
      | .comment text => [.comment text]
      | .doctype name => [.doctype name]

/-- The document that is built. No path in it is longer than the number of nodes. -/
def nodes (store : Store) : List Node := store.nodesAt (store.slots.size + 1) document

end Store

end Vitrine.Html
