import Vitrine.Markdown.Source

/-!
# The margin of a line

Indentation is counted in columns. A tab reaches to the next column that is a multiple of four, counted
from the start of the line or from the tab before; when only some of its columns are asked for, the
others stay pending.
-/

namespace Vitrine.Markdown

/-- A place in the margin: how far the line is read, from where columns are counted, and how many
columns of a tab are still pending. -/
structure Margin where
  pos : Nat
  origin : Nat
  pending : Nat := 0
  deriving Inhabited

namespace Margin

/-- The margin of the line that starts at a position. -/
def ofLine (start : Nat) : Margin := { pos := start, origin := start }

/-- Passes over columns; with how many of them are not there. -/
def columns (s : Source) : Nat → Margin → Nat × Margin
  | 0, m => (0, m)
  | n + 1, m =>
    if m.pending > 0 then columns s n { m with pending := m.pending - 1 }
    else
      match s[m.pos]? with
      | some ' ' => columns s n { m with pos := m.pos + 1 }
      | some '\t' =>
        let width := 4 - (m.pos - m.origin) % 4
        columns s n { pos := m.pos + 1, origin := m.pos + 1, pending := width - 1 }
      | _ => (n + 1, m)

/-- Passes over columns; tells whether all of them are there. -/
def skip (m : Margin) (s : Source) (n : Nat) : Bool × Margin :=
  let (missing, m) := columns s n m
  (missing == 0, m)

/-- Passes over up to `n` columns; with their number. -/
def upTo (m : Margin) (s : Source) (n : Nat) : Nat × Margin :=
  let (missing, m) := columns s n m
  (n - missing, m)

/-- Passes over all spaces and tabs. -/
def skipAll (m : Margin) (s : Source) : Margin :=
  { m with pos := s.skipWhile (fun c => c == ' ' || c == '\t') m.pos, pending := 0 }

/-- Passes over a given character, if it is next. -/
def char? (m : Margin) (s : Source) (c : Char) : Option Margin :=
  if s.isAt m.pos c then some { m with pos := m.pos + 1 } else none

def atLineEnd (m : Margin) (s : Source) : Bool := s.atLineEnd m.pos

/-- Passes over the mark of a quote: a `>` with one column behind it, if there is one. -/
def quoteMark? (m : Margin) (s : Source) : Option Margin :=
  (m.char? s '>').map fun m => (m.skip s 1).2

end Margin

end Vitrine.Markdown
