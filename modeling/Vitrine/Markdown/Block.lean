import Vitrine.Markdown.Source

/-!
# Blocks

A document is a list of blocks. Lists, quotes and list items hold blocks; paragraphs, headings and the
cells of tables hold text that is read further. `Block` leaves open what that text is: the blocks of a
source first hold `Content`, which says where the lines of the text stand.
-/

namespace Vitrine.Markdown

/-! ## Text within blocks -/

/-- What stands between a line of text and the next one. A break is hard if a backslash or at least two
blanks stand before it. -/
inductive LineBreak where
  | none
  | soft
  | hard (escaped : Bool)
  deriving DecidableEq, Repr

/-- A line of text: where it starts, where it goes on behind the marks of quotes and items, where its
text starts and stops, and what follows. -/
structure Line where
  first : Nat
  body : Nat
  start : Nat
  stop : Nat
  brk : LineBreak
  deriving DecidableEq, Repr

/-- The lines of a text, where the block around them ends, and whether it is a cell of a table. -/
structure Content where
  lines : List Line
  stop : Nat
  inTable : Bool := false
  deriving DecidableEq, Repr

/-- A cell that holds nothing. -/
def Content.emptyCell : Content := { lines := [], stop := 0, inTable := true }

/-! ## Blocks -/

/-- How the cells of a column are aligned. -/
inductive Alignment where
  | unset | left | center | right
  deriving DecidableEq, Repr

/-- A line of raw HTML, or a part of one, with the columns that stand before it. -/
structure RawLine where
  indent : Nat
  html : String
  deriving DecidableEq, Repr

/-- A block. A paragraph or heading may start with the mark of a task; an item whose task has no text holds the
mark alone. The blocks of a tight list show their paragraphs without space around them. -/
inductive Block (α : Type) where
  | paragraph (task? : Option Bool) (text : α)
  | heading (level : Nat) (task? : Option Bool) (text : α)
  | code (info? : Option String) (text : String)
  | raw (lines : List RawLine)
  | rule
  | task (isDone : Bool)
  | quote (blocks : List (Block α))
  | list (start? : Option Nat) (isTight : Bool) (items : List (List (Block α)))
  | table (alignments : List Alignment) (head : List α) (rows : List (List α))
  deriving Inhabited

namespace Block

variable {α β : Type}

mutual

/-- The block with every text in it changed. -/
def map (f : α → β) : Block α → Block β
  | paragraph task? text => paragraph task? (f text)
  | heading level task? text => heading level task? (f text)
  | code info? text => code info? text
  | raw lines => raw lines
  | rule => rule
  | task isDone => task isDone
  | quote blocks => quote (mapAll f blocks)
  | list start? isTight items => list start? isTight (mapItems f items)
  | table alignments head rows => table alignments (head.map f) (rows.map (·.map f))

/-- The blocks with every text in them changed. -/
def mapAll (f : α → β) : List (Block α) → List (Block β)
  | [] => []
  | b :: bs => map f b :: mapAll f bs

/-- The items of a list with every text in them changed. -/
def mapItems (f : α → β) : List (List (Block α)) → List (List (Block β))
  | [] => []
  | item :: items => mapAll f item :: mapItems f items

end

end Block

end Vitrine.Markdown
