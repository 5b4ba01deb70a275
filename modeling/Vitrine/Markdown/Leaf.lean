import Vitrine.Markdown.Interrupt
import Vitrine.Markdown.Link
import Vitrine.Text.Replace

/-!
# Blocks that hold no blocks

Code, raw HTML, headings, tables and paragraphs, each from the place in its first line where it is told
from the others to the place where reading goes on.
-/

namespace Vitrine.Markdown

/-- A block, and where reading goes on. -/
structure Leaf where
  block : Block Content
  next : Nat

namespace Source

/-! ## Lines of code -/

/-- Whether a carriage return stands before the last character of the line that ends before `j`. -/
def hasReturn (s : Source) (j : Nat) : Bool :=
  2 ≤ j && s.isAt (j - 2) '\r' && s.holds (j - 1) (·.toNat < 0x80)

/-- A line with its end, in which a carriage return before the last character is left out. -/
def rawLine (s : Source) (i j : Nat) : String :=
  if s.hasReturn j then s.slice i (j - 2) ++ s.slice (j - 1) j else s.slice i j

/-- A line of code behind columns that are part of it. -/
def codeLine (s : Source) (columns i j : Nat) : String :=
  "".pushn ' ' columns ++ s.rawLine i j

/-- A line of raw HTML behind columns. Where a carriage return is left out, the line falls into two. -/
def htmlLines (s : Source) (columns i j : Nat) : List RawLine :=
  if s.hasReturn j then [⟨columns, s.slice i (j - 2)⟩, ⟨0, s.slice (j - 1) j⟩]
  else [⟨columns, s.slice i j⟩]

end Source

namespace Frames

/-! ## Indented code -/

/-- Lines of indented code: those read so far and those up to the last one that is not blank, the last
ones first. -/
structure IndentedCode where
  read : List String := []
  kept : List String := []
  isBlank : Bool := false

/-- Reads a line of indented code and those that follow; with where reading goes on. -/
def indentedCode (frames : Frames) (s : Source) : Nat → IndentedCode → Nat → Nat → IndentedCode × Nat
  | 0, code, _, i => (code, i)
  | n + 1, code, columns, i =>
    let next := s.nextLine i
    let read := s.codeLine columns i next :: code.read
    let code := { code with read, kept := if code.isBlank then code.kept else read }
    let (isWithin, m) := frames.matchAll s next
    let (isDeep, m) := m.skip s 4
    if !isWithin || !(isDeep || m.atLineEnd s) || m.pos ≥ s.size then (code, next)
    else frames.indentedCode s n { code with isBlank := s.isBlankLine m.pos } m.pending m.pos

/-! ## Fenced code -/

/-- Lines of code up to a fence, the last one first; with where reading goes on. -/
def fencedCode (frames : Frames) (s : Source) (indent : Nat) (fence : Char) (length : Nat) :
    Nat → List String → Nat → List String × Nat
  | 0, read, i => (read, i)
  | n + 1, read, i =>
    let (isWithin, m) := frames.matchAll s i
    if !isWithin then (read, i)
    else
      let m := (m.skip s indent).2
      let (isDeep, m') := m.skip s 4
      match if isDeep then none else s.closingFence? fence length m'.pos with
      | some j => (read, (s.blankLine? j).getD j)
      | none =>
        let next := s.nextLine m.pos
        frames.fencedCode s indent fence length n (s.codeLine m.pending m.pos next :: read) next

/-- The block of code behind a fence at a position. -/
def fencedBlock (frames : Frames) (s : Source) (indent : Nat) (fence : Char) (length i : Nat) : Leaf :=
  let start := s.skipBlanks (i + length)
  let next := s.nextLine start
  let info := s.unescaped false start (s.backWhile isSpace start next)
  let (read, next) := frames.fencedCode s indent fence length (s.size + 2) [] next
  ⟨.code (some info) (String.join read.reverse), next⟩

/-! ## Raw HTML -/

/-- Lines of raw HTML up to one that holds a text, the last one first; with where reading goes on. -/
def freeHtml (frames : Frames) (s : Source) (close : String) :
    Nat → List RawLine → Nat → Nat → List RawLine × Nat
  | 0, read, _, i => (read, i)
  | n + 1, read, columns, i =>
    let next := s.nextLine i
    let read := (s.htmlLines columns i next).reverse ++ read
    let (isWithin, m) := frames.matchAll s next
    if !isWithin || Text.occurs close.toList (s.extract i next).toList || m.pos ≥ s.size then
      (read, next)
    else frames.freeHtml s close n read m.pending m.pos

/-- Lines of raw HTML up to a blank line, the last one first; with where reading goes on. -/
def namedHtml (frames : Frames) (s : Source) :
    Nat → List RawLine → Nat → Nat → List RawLine × Nat
  | 0, read, _, i => (read, i)
  | n + 1, read, columns, i =>
    let next := s.nextLine i
    let read := (s.htmlLines columns i next).reverse ++ read
    let (isWithin, m) := frames.matchAll s next
    if !isWithin || m.atLineEnd s || m.pos ≥ s.size || s.isBlankLine m.pos then (read, next)
    else frames.namedHtml s n read m.pending m.pos

/-- The block of raw HTML at a `<`, if one starts there. -/
def htmlBlock? (frames : Frames) (s : Source) (columns i : Nat) : Option Leaf :=
  if !s.isAt i '<' then none
  else
    match s.freeBlockEnd? (i + 1) with
    | some close =>
      let (read, next) := frames.freeHtml s close (s.size + 1) [] columns i
      some ⟨.raw read.reverse, next⟩
    | none =>
      if s.startsNamedBlock (i + 1) || s.isTagLine (i + 1) then
        let (read, next) := frames.namedHtml s (s.size + 1) [] columns i
        some ⟨.raw read.reverse, next⟩
      else none

end Frames

/-! ## Headings -/

/-- The position behind the text of a heading, without the signs that close it. -/
def Source.headingStop (s : Source) (start stop : Nat) : Nat :=
  let limit := s.backWhile (fun c => c == '\n' || c == '\r' || c == ' ') start stop
  let closer := s.backWhile (· == '#') start limit
  if closer = start then start
  else
    let behind := s.backWhile (· == ' ') start closer
    if behind < closer then behind else limit

/-- The heading of a level at a position. -/
def Source.heading (s : Source) (level i : Nat) : Leaf :=
  let behind := i + level
  match s.lineEnd? behind with
  | some next => ⟨.heading level none { lines := [], stop := behind }, next⟩
  | none =>
    let start := s.skipBlanks behind
    let stop := s.skipWhile (!isLineEnd ·) start
    let next := (s.lineEnd? stop).getD stop
    ⟨.heading level none
      { lines := [⟨start, start, start, s.headingStop start stop, .none⟩], stop := next }, next⟩

/-! ## Lines of text -/

/-- How a line of text ends: where its text stops, what breaks it, where its text stops if it is the
last line, and where the next line starts. -/
structure LineTail where
  stop : Nat
  brk : LineBreak
  lastStop : Nat
  next : Nat

/-- The end of the line of text that starts at a position. -/
def Source.lineTail (s : Source) (start : Nat) : LineTail :=
  let stop := s.skipWhile (!isLineEnd ·) start
  let next := (s.lineEnd? stop).getD stop
  let bare := max start (s.backWhile isBlank 0 stop)
  if stop ≥ s.size then ⟨bare, .none, bare, next⟩
  else
    let backslashes := stop - s.backWhile (· == '\\') 0 stop
    if backslashes % 2 = 1 && next < s.size then ⟨stop - 1, .hard true, stop, next⟩
    else if stop - bare ≥ 2 then ⟨bare, .hard false, bare, next⟩
    else ⟨bare, .soft, bare, next⟩

/-! ## Tables -/

/-- Where the cell ends whose text starts at a position: at a pipe or at the end of the line. -/
def Source.cellStop (s : Source) : Nat → Nat → Nat
  | 0, i => i
  | n + 1, i =>
    match s[i]? with
    | none => i
    | some c =>
      if c = '|' || isLineEnd c then i
      else if s.isDoubleEscape i then s.cellStop n (i + 3)
      else if s.isEscape i then s.cellStop n (i + 2)
      else s.cellStop n (i + 1)

/-- The cells of a row, the last one first; with where the next line starts. -/
def Source.cells (s : Source) : Nat → List Content → Nat → List Content × Nat
  | 0, read, i => (read, i)
  | n + 1, read, i =>
    let i := if s.isAt i '|' then i + 1 else i
    let start := s.skipBlanks i
    match s.lineEnd? start with
    | some next => (read, next)
    | none =>
      let stop := s.cellStop (s.size + 1) start
      let line : Line := ⟨start, start, start, s.backWhile isBlank start stop, .none⟩
      s.cells n ({ lines := [line], stop, inTable := true } :: read) stop

/-- As many cells as there are columns. -/
def fitted (columns : Nat) (cells : List Content) : List Content :=
  (cells ++ List.replicate columns Content.emptyCell).take columns

namespace Frames

/-- The rows of a table, the last one first; with where reading goes on. -/
def rows (frames : Frames) (s : Source) (columns : Nat) :
    Nat → List (List Content) → Nat → List (List Content) × Nat
  | 0, read, i => (read, i)
  | n + 1, read, i =>
    let (isWithin, m) := frames.matchAll s i
    let m := m.skipAll s
    if !isWithin || s.interrupts isWithin true m.pos then (read, i)
    else
      let (cells, next) := s.cells (s.size + 1) [] m.pos
      if cells.isEmpty then (read, i)
      else frames.rows s columns n (fitted columns cells.reverse :: read) next

/-- The table whose head row starts at a position, if a delimiter row follows it. -/
def table? (frames : Frames) (s : Source) (start : Nat) : Option Leaf := do
  let tail := s.lineTail start
  if tail.brk = .hard true then none
  let stop := s.skipWhile (!isLineEnd ·) start
  let pipes := s.pipesBetween stop (s.size + 1) ⟨0, start⟩ start
  if stop ≥ s.size || pipes.count = 0 then none
  let (body, alignments) ← frames.tableBelow? s pipes start tail.next
  let columns := alignments.length
  let (head, _) := s.cells (s.size + 1) [] start
  let (read, next) := frames.rows s columns (s.size + 1) [] body
  some ⟨.table alignments (fitted columns head.reverse) read.reverse, next⟩

/-! ## Paragraphs -/

/-- How a paragraph ends: with nothing, or with a line under it that makes it a heading. -/
structure ParagraphEnd where
  lines : List Line
  level? : Option Nat
  next : Nat

/-- Reads lines of a paragraph; `line` is the current one up to its start. -/
def paragraphFrom (frames : Frames) (s : Source) : Nat → List Line → Nat × Nat × Nat → ParagraphEnd
  | 0, read, (_, _, start) => ⟨read.reverse, none, start⟩
  | n + 1, read, (first, body, start) =>
    let tail := s.lineTail start
    let lines := (⟨first, body, start, tail.lastStop, .none⟩ :: read : List Line).reverse
    let (isWithin, m) := frames.matchAll s tail.next
    let (isDeep, m') := m.skip s 4
    match if isWithin && !isDeep then s.underline? m'.pos else none with
    | some (next, level) => ⟨lines, some level, next⟩
    | none =>
      let text := (m'.skipAll s).pos
      if (!isDeep && frames.interrupts s isWithin m'.pos) || s.atLineEnd text then
        ⟨lines, none, tail.next⟩
      else
        frames.paragraphFrom s n (⟨first, body, start, tail.stop, tail.brk⟩ :: read)
          (tail.next, m.pos, text)

/-- The paragraph, heading or table at a position. -/
def paragraph (frames : Frames) (s : Source) (task? : Option Bool) (start : Nat) : Leaf :=
  match frames.table? s start with
  | some leaf => leaf
  | none =>
    let found := frames.paragraphFrom s (s.size + 1) [] (start, start, start)
    let content : Content := { lines := found.lines, stop := found.next }
    match found.level? with
    | some level => ⟨.heading level task? content, found.next⟩
    | none => ⟨.paragraph task? content, found.next⟩

end Frames

end Vitrine.Markdown
