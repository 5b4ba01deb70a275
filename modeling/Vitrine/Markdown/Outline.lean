import Vitrine.Markdown.Container
import Vitrine.Markdown.Definition

/-!
# The outline of a document while it is read

The blocks that are read so far, the containers that are still open, and what the next line has to know
of the lines before it. A list becomes loose when a blank line parts two of its items, or two blocks of
one item.
-/

namespace Vitrine.Markdown

/-- The outline: open containers, the innermost first, and the closed blocks outside them, the last one
first. `isBlank` says that the last line was blank, `isFresh` that the innermost item has only its mark
yet. A task waits for the paragraph that it belongs to. -/
structure Outline where
  frames : Frames := []
  blocks : List (Block Content) := []
  isBlank : Bool := false
  isFresh : Bool := false
  task? : Option Bool := none
  definitions : Definitions := []
  deriving Inhabited

namespace Outline

/-! ## Adding and closing -/

/-- Adds a block to the innermost container. -/
def add (o : Outline) (b : Block Content) : Outline :=
  match o.frames with
  | [] => { o with blocks := b :: o.blocks }
  | .quote blocks :: rest => { o with frames := .quote (b :: blocks) :: rest }
  | .item indent blocks :: rest => { o with frames := .item indent (b :: blocks) :: rest }
  | .list marker start isTight items :: rest =>
    { o with frames := .list marker start isTight ([b] :: items) :: rest }

/-- Opens a container. -/
def push (o : Outline) (f : Frame) : Outline := { o with frames := f :: o.frames }

/-- Closes the innermost container. -/
def pop (o : Outline) : Outline :=
  match o.frames with
  | [] => o
  | .quote blocks :: rest => { o with frames := rest }.add (.quote blocks.reverse)
  | .list marker start isTight items :: rest =>
    let o := { o with frames := rest, isFresh := o.isFresh && !isTight }
    o.add (.list (if Frame.isOrdered marker then some start else none) isTight items.reverse)
  | .item _ blocks :: .list marker start isTight items :: rest =>
    { o with frames := .list marker start isTight (blocks.reverse :: items) :: rest }
  | .item _ blocks :: rest => { o with frames := rest, blocks := blocks ++ o.blocks }

/-- Closes containers. -/
def popMany : Nat → Outline → Outline
  | 0, o => o
  | n + 1, o => popMany n o.pop

/-- Closes all but some of the outermost containers. -/
def keep (o : Outline) (n : Nat) : Outline := popMany (o.frames.length - n) o

/-! ## Lists -/

/-- Closes an item that holds nothing but a blank line. -/
def closeEmptyItem (o : Outline) : Outline :=
  let o := match o.isFresh && o.isBlank, o.frames with
    | true, .item .. :: _ => o.pop
    | _, _ => o
  { o with isFresh := false }

/-- The list around the innermost container, made loose. -/
def loosenAround : Frames → Frames
  | f :: .list marker start _ items :: rest => f :: .list marker start false items :: rest
  | frames => frames

/-- Closes a list that the next block does not belong to, and makes the list around the block loose if
the last line was blank. -/
def closeList (o : Outline) : Outline :=
  let o := o.closeEmptyItem
  let o := match o.frames with
    | .list .. :: _ => o.pop
    | _ => o
  if o.isBlank then { o with frames := loosenAround o.frames, isBlank := false } else o

/-- Goes on with a list for an item with a mark, or starts a list. -/
def toList (o : Outline) (mark : ListMark) : Outline :=
  let o := o.closeEmptyItem
  let new := { o.closeList.push (.list mark.char mark.number true []) with isBlank := false }
  match o.frames with
  | .list marker start isTight items :: rest =>
    if marker = mark.char then
      { o with
        frames := .list marker start (isTight && !o.isBlank) items :: rest, isBlank := false }
    else new
  | _ => new

/-- Takes notice of a blank line. -/
def blankLine (o : Outline) : Outline :=
  match o.frames with
  | .quote _ :: _ => o
  | .item indent blocks :: rest =>
    { o with frames := .item (if o.isFresh then 0 else indent) blocks :: rest, isBlank := true }
  | _ => { o with isBlank := true }

/-- The blocks of the whole document. -/
def close (o : Outline) : List (Block Content) := (o.keep 0).blocks.reverse

end Outline

end Vitrine.Markdown
