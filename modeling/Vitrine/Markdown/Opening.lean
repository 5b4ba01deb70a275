import Vitrine.Markdown.Block
import Vitrine.Markdown.Entity
import Vitrine.Markdown.Margin
import Vitrine.Markdown.Tag

/-!
# What a line opens

How rules, headings, fences, list marks and the delimiter rows of tables are told from text, at the first
character of a line that is no blank.
-/

namespace Vitrine.Markdown

/-- The mark of a list: its character, the number in front, and where the line goes on. -/
structure ListMark where
  char : Char
  number : Nat
  behind : Nat

/-- What the pipes of a head row tell: how many there are, and where the last one stands. -/
structure Pipes where
  count : Nat
  last : Nat

/-- What is known of a delimiter row while it is read. -/
structure DelimiterRow where
  columns : List Alignment := []
  active : Alignment := .unset
  atStart : Bool := true
  hasHyphen : Bool := false
  hasPipe : Bool := false
  anyHyphen : Bool := false

namespace DelimiterRow

/-- The row with one more character, if that may stand in it. -/
def next? (r : DelimiterRow) (c : Char) : Option DelimiterRow :=
  if c = ' ' then some r
  else if c = ':' then
    let active := match r.atStart, r.active with
      | true, .unset => .left
      | false, .left => .center
      | false, .unset => .right
      | _, a => a
    some { r with active, atStart := false }
  else if c = '-' then some { r with atStart := false, hasHyphen := true, anyHyphen := true }
  else if c = '|' then
    if r.hasHyphen then
      some { r with
        columns := r.columns ++ [r.active], active := .unset, atStart := true, hasHyphen := false
        hasPipe := true }
    else none
  else none

/-- The alignments of a whole row. -/
def alignments? (r : DelimiterRow) : Option (List Alignment) :=
  if r.hasPipe && r.anyHyphen then
    some (if r.atStart then r.columns else r.columns ++ [r.active])
  else none

end DelimiterRow

namespace Source

/-! ## Rules, headings and fences -/

/-- The position behind a rule: at least three equal marks and blanks, up to the end of the line. -/
def rule? (s : Source) (i : Nat) : Option Nat :=
  match s[i]? with
  | none => none
  | some c =>
    if c = '*' || c = '-' || c = '_' then
      let stop := s.skipWhile (fun d => d == c || d == ' ' || d == '\t') i
      let marks := (s.extract i stop).foldl (fun n d => if d == c then n + 1 else n) 0
      if marks ≥ 3 then s.lineEnd? stop else none
    else none

/-- The level of a heading that starts with number signs. -/
def headingLevel? (s : Source) (i : Nat) : Option Nat :=
  let level := s.runOf '#' i
  let behind := i + level
  if 1 ≤ level && level ≤ 6 && (behind ≥ s.size || s.holds behind isSpace) then some level else none

/-- The position behind the line under a heading, and the level of the heading. -/
def underline? (s : Source) (i : Nat) : Option (Nat × Nat) :=
  let level? := if s.isAt i '=' then some (1, '=') else if s.isAt i '-' then some (2, '-') else none
  match level? with
  | none => none
  | some (level, c) => (s.blankLine? (i + s.runOf c i)).map (·, level)

/-- The character and the length of a code fence. A fence of accents has none behind it in its
line. -/
def fence? (s : Source) (i : Nat) : Option (Char × Nat) :=
  match s[i]? with
  | none => none
  | some c =>
    let n := s.runOf c i
    if (c = '\x60' || c = '~') && n ≥ 3 then
      if c = '\x60' && (s.extract (i + n) (s.nextLine (i + n))).contains c then none
      else some (c, n)
    else none

/-- The position behind the fence that closes a block, before the end of its line. At the end of the
text every block is closed. -/
def closingFence? (s : Source) (c : Char) (length i : Nat) : Option Nat :=
  if i ≥ s.size then some i
  else
    let n := s.runOf c i
    if n < length then none
    else
      let j := s.skipWhile (· == ' ') (i + n)
      if s.atLineEnd j then some j else none

/-! ## List marks -/

def isBullet (c : Char) : Bool := c = '-' || c = '+' || c = '*'

/-- The mark of a list at a position, whatever stands behind it. -/
def listMark? (s : Source) (i : Nat) : Option ListMark :=
  match s[i]? with
  | none => none
  | some c =>
    if isBullet c then some ⟨c, 0, i + 1⟩
    else if c.isDigit then
      let j := s.skipUpTo Char.isDigit 9 i
      match s[j]? with
      | some d => if d = '.' || d = ')' then some ⟨d, s.number 10 i j, j + 1⟩ else none
      | none => none
    else none

/-- Whether an item may start in the middle of a paragraph: a bullet or the first number, with a text
that starts within two lines. -/
def interruptsAsItem (s : Source) (mark : ListMark) : Bool :=
  (isBullet mark.char || mark.number == 1)
    && !(match s.blankLine? mark.behind with
      | some j => s.isBlankLine j
      | none => false)

/-- Whether a list mark stands at a position with a blank or the end of the line behind it. -/
def itemMark? (s : Source) (i : Nat) : Option ListMark :=
  match s.listMark? i with
  | some mark =>
    if s.holds mark.behind (fun c => c == ' ' || c == '\t') || s.atLineEnd mark.behind then some mark
    else none
  | none => none

/-! ## Tables -/

/-- The row that characters up to the end of the line make. -/
def delimiterRow? (s : Source) : Nat → DelimiterRow → Nat → Option (Nat × DelimiterRow)
  | 0, _, _ => none
  | n + 1, r, i =>
    match s.lineEnd? i with
    | some j => some (j, r)
    | none =>
      match s[i]? with
      | none => none
      | some c =>
        match r.next? c with
        | some r => s.delimiterRow? n r (i + 1)
        | none => none

/-- The delimiter row of a table from the margin of its line on: the position behind it, and the
alignments of the columns. -/
def tableRow? (s : Source) (i : Nat) : Option (Nat × List Alignment) := do
  let (width, m) := (Margin.ofLine i).upTo s 4
  if width > 3 || m.pos ≥ s.size then none
  let piped := s.isAt m.pos '|'
  let start := if piped then m.pos + 1 else m.pos
  let (j, r) ← s.delimiterRow? (s.size + 1) { hasPipe := piped } start
  let columns ← r.alignments?
  some (j, columns)

/-- How many columns a head row has. Pipes at its ends do not part columns. -/
def columnCount (s : Source) (pipes : Pipes) (start : Nat) : Nat :=
  let count := if s.isAt (s.skipBlanks start) '|' then pipes.count - 1 else pipes.count
  if s.isBlankLine (pipes.last + 1) then count else count + 1

end Source

end Vitrine.Markdown
