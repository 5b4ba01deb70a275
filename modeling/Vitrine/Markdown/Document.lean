import Vitrine.Markdown.Leaf
import Vitrine.Markdown.Outline

/-!
# Documents

A document is read block by block. Each step looks at one line: it closes the containers that the line
does not go on in, opens new ones, and reads the block that starts there up to its end.
-/

namespace Vitrine.Markdown

/-! ## New containers -/

/-- The mark of an item in a margin that was indented by some columns, with the columns before the text
of the item and the margin behind the mark. -/
def Margin.itemMark? (m : Margin) (s : Source) (indent : Nat) : Option (ListMark × Nat × Margin) := do
  if (s.rule? m.pos).isSome then none
  let mark ← s.listMark? m.pos
  let (isParted, behind) := { m with pos := mark.behind }.skip s 1
  if !isParted && !behind.atLineEnd s then none
  let width := indent + (mark.behind - m.pos) + 1
  let (further, text) := behind.upTo s 4
  if s.isBlankLine behind.pos || further = 4 then some (mark, width, behind)
  else some (mark, width + further, text)

/-- The mark of a task in a margin, which has a blank behind it: whether the task is done, and the margin
behind the mark. -/
def Margin.taskMark? (m : Margin) (s : Source) : Option (Bool × Margin) := do
  let inner ← (m.upTo s 3).2.char? s '['
  let c ← s[inner.pos]?
  if !(isBlank c || c = 'x' || c = 'X') then none
  let behind ← { inner with pos := inner.pos + 1 }.char? s ']'
  if s.holds behind.pos isBlank then some (!isBlank c, behind) else none

/-- The outline with the containers that a line opens: either the line goes on, or it ends with the
mark of an item. -/
inductive Opened where
  | line (outline : Outline) (margin : Margin)
  | bareItem (outline : Outline) (next : Nat)

namespace Outline

/-- Opens an item. -/
def openItem (o : Outline) (s : Source) (mark : ListMark) (width : Nat) (m : Margin) : Opened :=
  let o := (o.toList mark).push (.item width [])
  match s.blankLine? m.pos with
  | some next => .bareItem { o with isFresh := true } next
  | none =>
    match m.taskMark? s with
    | none => .line o m
    | some (isDone, m) =>
      match s.blankLine? m.pos with
      | some next => .bareItem { o.add (.task isDone) with isFresh := true } next
      | none => .line { o with task? := some isDone } m

/-- Opens the containers whose marks stand in a margin. -/
def openAll (s : Source) : Nat → Outline → Margin → Opened
  | 0, o, m => .line o m
  | n + 1, o, m =>
    let (indent, inner) := m.upTo s 4
    if indent = 4 then .line o m
    else
      match inner.itemMark? s indent with
      | some (mark, width, behind) =>
        match o.openItem s mark width behind with
        | .line o m => openAll s n o m
        | bare => bare
      | none =>
        match inner.quoteMark? s with
        | some behind => openAll s n (o.closeList.push (.quote [])) behind
        | none => .line o m

/-! ## Blocks -/

/-- Adds a block; with where reading goes on. -/
def addLeaf (o : Outline) (leaf : Leaf) : Outline × Nat := (o.add leaf.block, leaf.next)

/-- Reads definitions, and then a paragraph, a heading or a table; with where reading goes on. A line
behind a definition goes on as a line of a paragraph would, even out of the containers around it. -/
def readText (s : Source) : Nat → Outline → Nat → Outline × Nat
  | 0, o, i => (o, i)
  | n + 1, o, i =>
    match o.frames.definition? s i with
    | none => { o with task? := none }.addLeaf (o.frames.paragraph s o.task? i)
    | some (behind, label, target) =>
      let o := { o with definitions := o.definitions.add label target }
      let next := (s.blankLine? behind).getD behind
      let (isWithin, m) := o.frames.matchAll s next
      let (isDeep, m) := m.skip s 4
      let text := (m.skipAll s).pos
      if (!isDeep && o.frames.interrupts s isWithin m.pos) || s.atLineEnd text then (o, next)
      else readText s n o text

/-- Reads the block that starts in a margin; with where reading goes on. -/
def readBlock (o : Outline) (s : Source) (m : Margin) : Outline × Nat :=
  let o := o.closeList
  let (indent, inner) := m.upTo s 4
  let i := inner.pos
  if indent = 4 then
    let (code, next) := o.frames.indentedCode s (s.size + 1) {} inner.pending i
    ({ o.add (.code none (String.join code.kept.reverse)) with isBlank := code.isBlank }, next)
  else
    match o.frames.htmlBlock? s (max m.pending indent) i with
    | some leaf => o.addLeaf leaf
    | none =>
      match s.rule? i, s.headingLevel? i, s.fence? i with
      | some next, _, _ => (o.add .rule, next)
      | none, some level, _ => o.addLeaf (s.heading level i)
      | none, none, some (fence, length) => o.addLeaf (o.frames.fencedBlock s indent fence length i)
      | none, none, none => readText s (s.size + 1) o i

/-- Reads the line that starts at a position, and what belongs to its last block; with where reading
goes on. -/
def step (o : Outline) (s : Source) (start : Nat) : Outline × Nat :=
  let (matched, m) := o.frames.matchLine s start
  match (o.keep matched).openAll s (s.size + 1) m with
  | .bareItem o next => (o, next)
  | .line o m =>
    match s.blankLine? m.pos with
    | some next => (o.blankLine, next)
    | none => o.readBlock s m

/-- Reads all lines from a position on. -/
def readAll (s : Source) : Nat → Outline → Nat → Outline
  | 0, o, _ => o
  | n + 1, o, i =>
    if i ≥ s.size then o
    else
      let (o, next) := o.step s i
      readAll s n o next

end Outline

/-- The outline of a whole source. -/
def Source.outline (s : Source) : Outline := Outline.readAll s (2 * s.size + 1) {} 0

end Vitrine.Markdown
