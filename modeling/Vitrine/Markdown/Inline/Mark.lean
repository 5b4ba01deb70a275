import Vitrine.Markdown.Block
import Vitrine.Markdown.Link
import Vitrine.Text.Blank

/-!
# Marks in text

The lines of a text are cut into plain text and marks that may come to mean something: runs of emphasis,
accents around code, brackets of links and the start of raw HTML. What they mean is decided when the
whole text is cut.
-/

namespace Vitrine.Markdown

/-- What a part of a text may be. A run of emphasis may open or close some, or both; accents may have a
backslash in front, which takes the first of them from the run. -/
inductive MarkKind where
  | text (isEscaped : Bool)
  | reference (value : String)
  | softBreak
  | hardBreak (isEscaped : Bool)
  | run (char : Char) (canOpen canClose : Bool)
  | ticks (isEscaped : Bool)
  | angle
  | openBracket (isImage : Bool)
  | closeBracket
  deriving DecidableEq, Repr

/-- A part of a source. -/
structure Mark where
  start : Nat
  stop : Nat
  kind : MarkKind
  deriving DecidableEq, Repr

namespace Mark

def length (m : Mark) : Nat := m.stop - m.start

/-- The marks from a position on. -/
def resume (i : Nat) : List Mark → List Mark
  | [] => []
  | m :: rest => if m.stop ≤ i then resume i rest else { m with start := max m.start i } :: rest

end Mark

/-! ## Runs of emphasis -/

namespace Source

/-- Whether a pipe stands before a position and parts two cells. -/
def isBehindPipe (s : Source) (i : Nat) : Bool :=
  1 ≤ i && s.isAt (i - 1) '|' && !(2 ≤ i && s.isAt (i - 2) '\\')

/-- Whether a run of `c` from `i` to `j` may open emphasis. -/
def canOpen (s : Source) (inTable : Bool) (c : Char) (i j : Nat) : Bool :=
  match s[j]? with
  | none => false
  | some next =>
    if Text.isBlank next then false
    else if i = 0 then true
    else if inTable && s.isBehindPipe i then true
    else if inTable && next = '|' then false
    else if c = '*' && !Text.isPunctuation next then true
    else if c = '~' && j - i > 1 then true
    else
      match s[i - 1]? with
      | none => false
      | some before =>
        (c = '~' && before = '~' && !Text.isPunctuation next)
          || Text.isBlank before || Text.isPunctuation before

/-- Whether a run of `c` from `i` to `j` may close emphasis. -/
def canClose (s : Source) (inTable : Bool) (c : Char) (i j : Nat) : Bool :=
  if i = 0 then false
  else
    match s[i - 1]? with
    | none => false
    | some before =>
      if Text.isBlank before then false
      else
        match s[j]? with
        | none => true
        | some next =>
          if inTable && s.isBehindPipe i then false
          else if inTable && next = '|' then true
          else if (c = '*' || (c = '~' && j - i > 1)) && !Text.isPunctuation before then true
          else if c = '~' && before = '~' then true
          else Text.isBlank next || Text.isPunctuation next

end Source

/-! ## Cutting lines -/

/-- The marks of a line so far, the last one first, and where the text behind them starts. -/
structure Cut where
  marks : List Mark
  textStart : Nat
  isEscaped : Bool := false

namespace Cut

/-- Ends the text at a position. -/
def flush (cut : Cut) (i : Nat) : Cut :=
  if cut.textStart < i then
    { marks := ⟨cut.textStart, i, .text cut.isEscaped⟩ :: cut.marks, textStart := i }
  else { cut with isEscaped := false }

/-- Ends the text at `textStop`, and adds a mark from `i` to `j`. -/
def markBehind (cut : Cut) (textStop i j : Nat) (kind : MarkKind) : Cut :=
  { marks := ⟨i, j, kind⟩ :: (cut.flush textStop).marks, textStart := j }

/-- Ends the text at a mark from `i` to `j`. -/
def mark (cut : Cut) (i j : Nat) (kind : MarkKind) : Cut := cut.markBehind i i j kind

/-- Ends the text, and starts it again behind a backslash. -/
def restart (cut : Cut) (i j : Nat) (isEscaped : Bool) : Cut :=
  { cut.flush i with textStart := j, isEscaped }

end Cut

namespace Source

/-- Cuts an escape; with where to go on. -/
def cutEscape (s : Source) (inTable : Bool) (cut : Cut) (i : Nat) : Cut × Nat :=
  if s.isAt (i + 1) '\x60' then
    let stop := i + 1 + s.runOf '\x60' (i + 1)
    (cut.markBehind i (i + 1) stop (.ticks true), stop)
  else if inTable && s.isAt (i + 1) '|' then (cut.restart i (i + 1) false, i + 2)
  else if inTable && s.isDoubleEscape i then (cut.restart i (i + 2) true, i + 3)
  else (cut.restart i (i + 1) true, i + 2)

/-- Cuts what stands at a position; with where to go on. -/
def cutAt (s : Source) (inTable : Bool) (cut : Cut) (c : Char) (i : Nat) : Cut × Nat :=
  if c = '\\' then if s.isEscape i then s.cutEscape inTable cut i else (cut, i + 1)
  else if c = '*' || c = '_' || c = '~' then
    let stop := i + s.runOf c i
    let opens := s.canOpen inTable c i stop
    let closes := s.canClose inTable c i stop
    if (opens || closes) && (c != '~' || stop - i ≤ 2) then
      (cut.mark i stop (.run c opens closes), stop)
    else (cut, stop)
  else if c = '\x60' then
    let stop := i + s.runOf c i
    (cut.mark i stop (.ticks false), stop)
  else if c = '<' && !s.isAt (i + 1) '\\' then (cut.mark i (i + 1) .angle, i + 1)
  else if c = '!' && s.isAt (i + 1) '[' then (cut.mark i (i + 2) (.openBracket true), i + 2)
  else if c = '[' then (cut.mark i (i + 1) (.openBracket false), i + 1)
  else if c = ']' then (cut.mark i (i + 1) .closeBracket, i + 1)
  else if c = '&' then
    match s.reference? i with
    | some (j, value) => (cut.mark i j (.reference value), j)
    | none => (cut, i + 1)
  else (cut, i + 1)

/-- Cuts up to a position. -/
def cutFrom (s : Source) (inTable : Bool) (stop : Nat) : Nat → Cut → Nat → Cut
  | 0, cut, _ => cut
  | n + 1, cut, i =>
    match s[i]? with
    | none => cut.flush stop
    | some c =>
      if i ≥ stop then cut.flush stop
      else
        let (cut, j) := s.cutAt inTable cut c i
        s.cutFrom inTable stop n cut j

end Source

namespace Line

/-- The break behind a line; `next` is where the next line starts. -/
def breakMark (l : Line) (next : Nat) : List Mark :=
  match l.brk with
  | .none => []
  | .soft => [⟨l.stop, next, .softBreak⟩]
  | .hard isEscaped => [⟨l.stop, next, .hardBreak isEscaped⟩]

/-- The marks of a line. -/
def marks (l : Line) (s : Source) (inTable : Bool) : List Mark :=
  (s.cutFrom inTable l.stop (l.stop - l.start + 1)
    { marks := [], textStart := l.start } l.start).marks.reverse

end Line

namespace Content

/-- The marks of lines and of the breaks between them. -/
def marksOf (s : Source) (inTable : Bool) : List Line → List Mark
  | [] => []
  | [l] => l.marks s inTable
  | l :: next :: rest =>
    l.marks s inTable ++ l.breakMark next.first ++ marksOf s inTable (next :: rest)

def marks (c : Content) (s : Source) : List Mark := marksOf s c.inTable c.lines

/-- Where the line that starts at a position goes on behind the marks of containers. -/
def bodyAt (c : Content) (i : Nat) : Nat :=
  match c.lines.find? (·.first == i) with
  | some l => l.body
  | none => i

/-- Where the text of the line that starts at a position starts. -/
def textAt (c : Content) (i : Nat) : Nat :=
  match c.lines.find? (·.first == i) with
  | some l => l.start
  | none => i

end Content

end Vitrine.Markdown
