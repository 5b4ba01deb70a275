import Vitrine.Html.Construction

/-!
# Tree construction: formatting elements

Formatting elements may overlap with others: in `<b><p>x</b>y</p>` the paragraph is split into what is
bold and what is not. `adopt` does this for an end tag; `reopen` opens formatting elements again where
text goes on after they were closed by force.
-/

namespace Vitrine.Html.Construction

/-! ## The list of formatting elements -/

def FormatEntry.isMarker : FormatEntry → Bool
  | .marker => true
  | .element _ _ => false

def FormatEntry.isFor (node : NodeId) : FormatEntry → Bool
  | .marker => false
  | .element n _ => n = node

/-- The entries since the last marker. -/
def recentFormatting (s : Construction) : List FormatEntry :=
  s.formatting.takeWhile fun e => !FormatEntry.isMarker e

def markFormatting (s : Construction) : Construction :=
  { s with formatting := .marker :: s.formatting }

/-- Forgets the entries since the last marker, and the marker. -/
def forgetFormatting (s : Construction) : Construction :=
  { s with formatting := (s.formatting.dropWhile fun e => !FormatEntry.isMarker e).drop 1 }

def dropFormatting (s : Construction) (node : NodeId) : Construction :=
  { s with formatting := s.formatting.filter fun e => !FormatEntry.isFor node e }

/-- Whether an entry needs no reopening. -/
def isSettled (s : Construction) : FormatEntry → Bool
  | .marker => true
  | .element node _ => s.isOpen node

def reopenEntry (s : Construction) : FormatEntry → Construction
  | .marker => s
  | .element _ tag =>
    let (s, e) := s.newElement .html tag
    { s.push e with formatting := .element e.node tag :: s.formatting }

/-- Opens again the formatting elements that were closed by force. -/
def reopen (s : Construction) : Construction :=
  let pending := s.formatting.takeWhile fun e => !s.isSettled e
  let s' := { s with formatting := s.formatting.drop pending.length }
  pending.reverse.foldl reopenEntry s'

/-- Without the last entry that agrees with `tag`, if three or more agree. -/
def withoutFourth (tag : Tag) (entries : List FormatEntry) : List FormatEntry :=
  let agrees : FormatEntry → Bool
    | .marker => false
    | .element _ t => t.agrees tag
  let recent := entries.takeWhile fun e => !FormatEntry.isMarker e
  if (recent.filter agrees).length < 3 then entries
  else
    let (before, rest) := recent.reverse.span fun e => !agrees e
    (before ++ rest.drop 1).reverse ++ entries.drop recent.length

/-- Opens a formatting element. Of more than three equal ones the oldest is forgotten. -/
def insertFormatting (s : Construction) (tag : Tag) : Construction :=
  let s := { s with formatting := withoutFourth tag s.formatting }
  let (s, e) := s.newElement .html tag
  { s.push e with formatting := .element e.node tag :: s.formatting }

/-! ## End tags -/

/-- The end tag of an element without rules of its own: it closes the element unless a special element
stands between. -/
def endOther (s : Construction) (tag : String) : Construction :=
  match s.openElements.find? fun e => e.name.isHtml [tag] || e.name.isSpecial with
  | some e => if e.name.isHtml [tag] then (s.closeImplied [tag]).popThroughTag tag else s
  | none => s

/-- A fold over the open elements between a formatting element and the block in it. -/
structure Lifting where
  state : Construction
  /-- The part of the tree that is lifted out. -/
  lifted : NodeId
  /-- Elements that stay open, the innermost first. -/
  kept : List OpenElement := []
  /-- The entry that the new formatting element comes behind. -/
  behind : Option NodeId := none

/-- One open element between: it is closed, or it is doubled and the copy takes in what is lifted. -/
def Lifting.step (block : NodeId) (l : Lifting) (e : OpenElement) (count : Nat) : Lifting :=
  if 3 < count then { l with state := l.state.dropFormatting e.node }
  else
    match l.state.formatting.find? (FormatEntry.isFor e.node) with
    | some (.element _ tag) =>
      let (s, id) := l.state.create (.element ⟨.html, tag.name⟩ tag.attributes)
      let formatting := s.formatting.map fun entry =>
        if FormatEntry.isFor e.node entry then .element id tag else entry
      let store := (s.store.detach l.lifted).append id l.lifted
      { state := { s with formatting, store }
        lifted := id
        kept := l.kept ++ [⟨id, ⟨.html, tag.name⟩, false⟩]
        behind := if l.lifted = block then some id else l.behind }
    | _ => l

/-- Puts `new` in front of the entry of `node`, where more recent ones stand. -/
def putBefore (new : FormatEntry) (node : NodeId) : List FormatEntry → List FormatEntry
  | [] => []
  | e :: es =>
    if FormatEntry.isFor node e then new :: e :: es else e :: putBefore new node es

/-- Splits the formatting element `node` around the block in it. `inner` are the open elements inside
the block, `between` those between the two, innermost first, and `outer` those around the formatting
element. -/
def splitAround (s : Construction) (element : OpenElement) (tag : Tag)
    (inner : List OpenElement) (block : OpenElement) (between outer : List OpenElement) :
    Construction :=
  let start : Lifting := { state := s, lifted := block.node }
  let l := (between.zipIdx 1).foldl (fun l (e, i) => l.step block.node e i) start
  let s := { l.state with
    openElements := inner ++ block :: l.kept ++ element :: outer
    store := l.state.store.detach l.lifted }
  let s := match outer.head? with
    | some ancestor => s.putAt (s.placeIn ancestor) l.lifted
    | none => s
  let (s, id) := s.create (.element ⟨.html, tag.name⟩ tag.attributes)
  let store := (s.store.moveChildren block.node id).append block.node id
  let entry := FormatEntry.element id tag
  let formatting := match l.behind with
    | none => s.formatting.map fun e => if FormatEntry.isFor element.node e then entry else e
    | some node =>
      (putBefore entry node s.formatting).filter fun e => !FormatEntry.isFor element.node e
  { s with
    store, formatting
    openElements := inner ++ ⟨id, ⟨.html, tag.name⟩, false⟩ :: block :: l.kept ++ outer }

/-- One round for the end tag of a formatting element; the flag says whether another one may follow. -/
def adoptOnce (s : Construction) (subject : String) : Construction × Bool :=
  let isSubject : FormatEntry → Bool
    | .marker => false
    | .element _ tag => tag.name = subject
  match s.recentFormatting.find? isSubject with
  | some (.element node tag) =>
    match s.openElements.dropWhile (·.node ≠ node) with
    | [] => (s.dropFormatting node, false)
    | element :: outer =>
      if !inScope (·.endsScope) (·.node = node) s.openElements then (s, false)
      else
        let inside := s.openElements.takeWhile (·.node ≠ node)
        let (between, rest) := inside.reverse.span fun e => !e.name.isSpecial
        match rest with
        | [] => ({ s.dropFormatting node with openElements := outer }, false)
        | block :: inner =>
          (s.splitAround element tag inner.reverse block between.reverse outer, true)
  | _ => (s.endOther subject, false)

def adoptRounds (subject : String) : Nat → Construction → Construction
  | 0, s => s
  | n + 1, s =>
    match s.adoptOnce subject with
    | (s, true) => adoptRounds subject n s
    | (s, false) => s

/-- The end tag of a formatting element. -/
def adopt (s : Construction) (subject : String) : Construction :=
  match s.current? with
  | some e =>
    if e.name.isHtml [subject] && !s.formatting.any (FormatEntry.isFor e.node) then s.pop
    else adoptRounds subject 8 s
  | none => s

/-- A link cannot stand in a link: one that is open since the last marker is closed. -/
def closeLink (s : Construction) : Construction :=
  let isLink : FormatEntry → Bool
    | .marker => false
    | .element _ tag => tag.name = "a"
  match s.recentFormatting.find? isLink with
  | some (.element node _) => ((s.adopt "a").dropFormatting node).close node
  | _ => s

end Vitrine.Html.Construction
