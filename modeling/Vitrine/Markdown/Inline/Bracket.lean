import Vitrine.Markdown.Autolink
import Vitrine.Markdown.Inline.Mark
import Vitrine.Markdown.Inline
import Vitrine.Markdown.Tag

/-!
# Code, raw HTML and links in text

The marks of a text are read from left to right. Accents with as many accents later hold code, angle
brackets hold addresses or raw HTML, and brackets hold links and images if a target stands behind them or
a definition has their label. No link holds a link. What stays are pieces of text and runs of emphasis.
-/

namespace Vitrine.Markdown

inductive Piece where
  | text (s : String)
  | code (s : String)
  | raw (html : String)
  | softBreak
  | hardBreak (isEscaped : Bool)
  | run (char : Char) (count : Nat) (canOpen canClose : Bool)
  | link (isEmail : Bool) (target : Target) (pieces : List Piece)
  | image (target : Target) (pieces : List Piece)
  deriving Inhabited

/-- A text that is read: where it stands, and the definitions of its document. -/
structure Passage where
  source : Source
  content : Content
  definitions : Definitions

namespace Passage

/-! ## Code -/

/-- The characters of code between two positions, with line ends as spaces. -/
def codeFrom (p : Passage) (stop : Nat) : Nat → Nat → List Char
  | 0, _ => []
  | n + 1, i =>
    match p.source[i]? with
    | none => []
    | some c =>
      if i ≥ stop then []
      else if isLineEnd c then ' ' :: p.codeFrom stop n (p.content.bodyAt (i + 1))
      else if p.content.inTable && c = '\\' && p.source.isAt (i + 1) '|' then
        '|' :: p.codeFrom stop n (i + 2)
      else c :: p.codeFrom stop n (i + 1)

/-- Whether a character at the end of code may be left out there. -/
def isCodeEdge (c : Char) : Bool := c = ' ' || isLineEnd c

/-- The code between two positions. A blank at each end is left out, unless there is nothing else. -/
def code (p : Passage) (i j : Nat) : String :=
  let s := p.source
  if s.skipWhile (· == ' ') i ≥ j then s.slice i j
  else
    let trims := s.holds i isCodeEdge && s.holds (j - 1) isCodeEdge
    let start := if trims then i + 1 else i
    let stop := if trims && start < j then j - 1 else j
    String.ofList (p.codeFrom stop (stop - start) start)

/-! ## Raw HTML -/

/-- What a tag passes over at the start of a line. -/
def tagLines (p : Passage) : LineSkip := some p.content.bodyAt

/-- The text between two positions without the marks of containers at the start of its lines. -/
def withoutMargins (p : Passage) (i j : Nat) : String :=
  let inner := p.content.lines.filter fun l => i < l.first && l.body < j
  let (parts, last) := inner.foldl
    (fun (parts, at_) l => (parts ++ [p.source.slice at_ l.first], l.body)) ([], i)
  String.join (parts ++ [p.source.slice last j])

/-- The raw HTML at a `<`, which the position `i` stands behind: where it ends, and its text. -/
def rawHtml? (p : Passage) (bracket i : Nat) : Option (Nat × String) :=
  (p.source.rawInline? p.tagLines p.content.stop i).map fun j =>
    if p.source.isAt i '!' || p.source.isAt i '?' then (j, p.source.slice bracket j)
    else (j, p.withoutMargins bracket j)

/-! ## Targets -/

/-- Behind blanks and at most one line end. -/
def skipSeparator (p : Passage) (i : Nat) : Nat :=
  let s := p.source
  let i := s.skipBlanks i
  match s.lineEnd? i with
  | some j => s.skipBlanks (p.content.bodyAt j)
  | none => i

/-- The target in parentheses at a position, with the position behind them. -/
def inlineTarget? (p : Passage) (i : Nat) : Option (Nat × Target) := do
  let s := p.source
  let inTable := p.content.inTable
  if !s.isAt i '(' then none
  let (j, first, last) ← s.destination? (p.skipSeparator (i + 1))
  let destination := s.unescaped inTable first last
  let j := p.skipSeparator j
  let (j, title) := match s.title? inTable p.content.textAt j with
    | some (k, title) => (p.skipSeparator k, title)
    | none => (j, "")
  if s.isAt j ')' && j < p.content.stop then some (j + 1, { destination, title }) else none

/-- The label whose bracket stands at a position, with the position behind it. -/
def label? (p : Passage) (i : Nat) : Option (Nat × String) :=
  match p.source.label? p.content.inTable (fun j => some (p.content.bodyAt j)) i with
  | some (j, label) => if j ≤ p.content.stop then some (j, label) else none
  | none => none

/-- What stands behind a closing bracket: a label, empty brackets, or neither. -/
inductive Reference where
  | label (stop : Nat) (label : String)
  | empty
  | missing

/-- What follows a closing bracket. A bracket behind a backslash starts no label. -/
def reference (p : Passage) : List Mark → Reference
  | [] => .missing
  | m :: _ =>
    if m.kind = .text true then .missing
    else if p.source.isAt m.start '[' && p.source.isAt (m.start + 1) ']' then .empty
    else
      match p.label? m.start with
      | some (stop, label) => .label stop label
      | none => .missing

end Passage

/-! ## Reading marks -/

/-- A bracket that is still open: where its text starts, and the pieces before it, the last one first.
A link inside disables it. -/
structure OpenBracket where
  isImage : Bool
  isEnabled : Bool
  textStart : Nat
  before : List Piece

/-- The pieces since the innermost open bracket, the last one first; the open brackets, the innermost
first; and where the closing brackets stand that are known to end no label. -/
structure Reading where
  pieces : List Piece := []
  brackets : List OpenBracket := []
  refused : List Nat := []

namespace Reading

def add (r : Reading) (piece : Piece) : Reading := { r with pieces := piece :: r.pieces }

/-- The text of an opening bracket. -/
def bracketText (isImage : Bool) : String := if isImage then "![" else "["

/-- Takes an open bracket for text. -/
def giveUp (r : Reading) (b : OpenBracket) : Reading :=
  { r with pieces := r.pieces ++ .text (bracketText b.isImage) :: b.before }

/-- Disables brackets that would make a link around a link. -/
def disableLinks (bs : List OpenBracket) : List OpenBracket :=
  bs.map fun b => { b with isEnabled := b.isEnabled && b.isImage }

/-- Makes a link or an image of what stands in a bracket. -/
def close (r : Reading) (b : OpenBracket) (target : Target) : Reading :=
  let content := r.pieces.reverse
  if b.isImage then { r with pieces := .image target content :: b.before }
  else
    { r with
      pieces := .link false target content :: b.before, brackets := disableLinks r.brackets }

/-- Takes all brackets that are still open for text; with all pieces in order. -/
def finish (r : Reading) : List Piece :=
  (r.brackets.foldl giveUp r).pieces.reverse

end Reading

namespace Passage

/-- Reads accents: as many of them later end code. -/
def readTicks (p : Passage) (r : Reading) (m : Mark) (isEscaped : Bool) (rest : List Mark) :
    Reading × List Mark :=
  let count := if isEscaped then m.length - 1 else m.length
  let isEnd (m' : Mark) : Bool :=
    match m'.kind with
    | .ticks _ => m'.length == count
    | _ => false
  match if count = 0 then none else rest.find? isEnd with
  | none => (r.add (.text (p.source.slice m.start m.stop)), rest)
  | some last =>
    let r := if isEscaped then r.add (.text "\x60") else r
    (r.add (.code (p.code m.stop last.start)), Mark.resume last.stop rest)

/-- Reads an angle bracket. -/
def readAngle (p : Passage) (r : Reading) (m : Mark) (rest : List Mark) : Reading × List Mark :=
  match rest with
  | [] => (r.add (.text "<"), rest)
  | next :: _ =>
    match p.source.autolink? p.content.stop next.start with
    | some (j, isEmail) =>
      let target : Target := { destination := p.source.slice next.start (j - 1) }
      let shown := p.source.slice (m.start + 1) (j - 1)
      (r.add (.link isEmail target [.text shown]), Mark.resume j rest)
    | none =>
      match p.rawHtml? m.start next.start with
      | some (j, html) => (r.add (.raw html), Mark.resume j rest)
      | none => (r.add (.text "<"), rest)

/-- Reads a closing bracket that ends a reference to a definition, if it does. -/
def readReference (p : Passage) (r : Reading) (b : OpenBracket) (m : Mark) (rest : List Mark) :
    Reading × List Mark :=
  let given := r.giveUp b
  let failed := given.add (.text "]")
  let byOwnLabel (behind : List Mark) : Reading × List Mark :=
    if r.refused.contains m.start then (failed, rest)
    else
      match p.label? (b.textStart - 1) with
      | some (stop, label) =>
        match if stop = m.stop then p.definitions.find? label else none with
        | some target => (r.close b target, behind)
        | none => (failed, rest)
      | none => (failed, rest)
  match p.reference rest with
  | .label stop label =>
    match p.definitions.find? label with
    | some target => (r.close b target, Mark.resume stop rest)
    | none => ({ failed with refused := (stop - 1) :: failed.refused }, rest)
  | .empty => byOwnLabel (rest.drop 2)
  | .missing => byOwnLabel rest

/-- Reads a closing bracket. -/
def readClosing (p : Passage) (r : Reading) (m : Mark) (rest : List Mark) : Reading × List Mark :=
  match r.brackets with
  | [] => (r.add (.text "]"), rest)
  | b :: brackets =>
    let r := { r with brackets }
    if !b.isEnabled then ((r.giveUp b).add (.text "]"), rest)
    else
      match p.inlineTarget? m.stop with
      | some (j, target) => (r.close b target, Mark.resume j rest)
      | none => p.readReference r b m rest

/-- Reads one mark; with the marks that are left. -/
def readMark (p : Passage) (r : Reading) (m : Mark) (rest : List Mark) : Reading × List Mark :=
  match m.kind with
  | .text _ => (r.add (.text (p.source.slice m.start m.stop)), rest)
  | .reference value => (r.add (.text value), rest)
  | .softBreak => (r.add .softBreak, rest)
  | .hardBreak isEscaped => (r.add (.hardBreak isEscaped), rest)
  | .run char canOpen canClose => (r.add (.run char m.length canOpen canClose), rest)
  | .ticks isEscaped => p.readTicks r m isEscaped rest
  | .angle => p.readAngle r m rest
  | .openBracket isImage =>
    ({ r with
      pieces := [], brackets := ⟨isImage, true, m.stop, r.pieces⟩ :: r.brackets }, rest)
  | .closeBracket => p.readClosing r m rest

/-- Reads all marks. -/
def readMarks (p : Passage) : Nat → Reading → List Mark → Reading
  | 0, r, _ => r
  | _ + 1, r, [] => r
  | n + 1, r, m :: rest =>
    let (r, rest) := p.readMark r m rest
    p.readMarks n r rest

/-- The pieces of a text. -/
def pieces (p : Passage) : List Piece :=
  let marks := p.content.marks p.source
  (p.readMarks (marks.length + 1) {} marks).finish

end Passage

end Vitrine.Markdown
