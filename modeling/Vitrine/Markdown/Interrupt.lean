import Vitrine.Markdown.Container
import Vitrine.Markdown.Opening

/-!
# What ends a paragraph

A paragraph goes on from line to line, even out of the containers around it, until a line is blank or
opens a block of its own. Not every block may interrupt a paragraph: an item must have a text and, if it
is numbered, be the first.
-/

namespace Vitrine.Markdown

namespace Source

/-- Whether a line interrupts a text at its first character that is no blank. `isWithin` says that it
goes on in every container; in tables, every item interrupts. -/
def interrupts (s : Source) (isWithin inTable : Bool) (i : Nat) : Bool :=
  s.atLineEnd i || (s.rule? i).isSome || (s.headingLevel? i).isSome || (s.fence? i).isSome
    || s.isAt i '>'
    || (match s.itemMark? i with
      | some mark => !isWithin || inTable || s.interruptsAsItem mark
      | none => false)
    || (s.isAt i '<' && ((s.freeBlockEnd? (i + 1)).isSome || s.startsNamedBlock (i + 1)))

/-- The pipes of a line behind no backslash, and the position behind the line, if a line follows. -/
def pipes? (s : Source) : Nat → Bool → Pipes → Nat → Option (Pipes × Nat)
  | 0, _, _, _ => none
  | n + 1, escaped, pipes, i =>
    match s[i]? with
    | none => none
    | some c =>
      if isLineEnd c then (s.lineEnd? i).map (pipes, ·)
      else if c = '\\' then s.pipes? n true pipes (i + 1)
      else if c = '|' && !escaped then s.pipes? n false ⟨pipes.count + 1, i⟩ (i + 1)
      else s.pipes? n false pipes (i + 1)

/-- The pipes between two positions that are not escaped. -/
def pipesBetween (s : Source) (stop : Nat) : Nat → Pipes → Nat → Pipes
  | 0, pipes, _ => pipes
  | n + 1, pipes, i =>
    if i ≥ stop then pipes
    else if s.isAt i '\\' && s.holds (i + 1) Text.isAsciiPunctuation then
      s.pipesBetween stop n pipes (i + 2)
    else if s.isAt i '|' then s.pipesBetween stop n ⟨pipes.count + 1, i⟩ (i + 1)
    else s.pipesBetween stop n pipes (i + 1)

end Source

namespace Frames

/-- The delimiter row in the line that starts at `next`, if it fits the head row that starts at
`start`: the position behind it, and the alignments of the columns. -/
def tableBelow? (frames : Frames) (s : Source) (pipes : Pipes) (start next : Nat) :
    Option (Nat × List Alignment) := do
  let (isWithin, m) := frames.matchAll s next
  if !isWithin then none
  let (behind, columns) ← s.tableRow? m.pos
  if columns.length == s.columnCount pipes start then some (behind, columns) else none

/-- Whether a table starts with the row of pipes at a position. -/
def startsTable (frames : Frames) (s : Source) (i : Nat) : Bool :=
  s.isAt i '|' &&
    match s.pipes? (s.size + 1) false ⟨0, i⟩ i with
    | some (pipes, next) => (frames.tableBelow? s pipes i next).isSome
    | none => false

/-- As `Source.interrupts`, or by a table. -/
def interrupts (frames : Frames) (s : Source) (isWithin : Bool) (i : Nat) : Bool :=
  s.interrupts isWithin false i || frames.startsTable s i

end Frames

end Vitrine.Markdown
