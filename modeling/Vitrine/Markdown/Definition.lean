import Vitrine.Markdown.Interrupt
import Vitrine.Markdown.Link
import Vitrine.Text.CaseFold

/-!
# Definitions of links

A definition gives a label to a destination and, perhaps, a title. Labels that differ in case only are
the same; of definitions with the same label the first one counts.
-/

namespace Vitrine.Markdown

/-- Where a link leads, and its title. -/
structure Target where
  destination : String
  title : String := ""
  deriving DecidableEq, Repr

/-- Targets by folded label. -/
abbrev Definitions := List (String × Target)

namespace Definitions

/-- Adds a definition, unless the label has one. -/
def add (ds : Definitions) (label : String) (target : Target) : Definitions :=
  if (ds.lookup (Text.folded label)).isSome then ds else ds ++ [(Text.folded label, target)]

def find? (ds : Definitions) (label : String) : Option Target := ds.lookup (Text.folded label)

end Definitions

/-! ## Reading a definition -/

namespace Frames

/-- Where a label goes on in the line that starts at `i`, if the line does not interrupt it. -/
def labelBody (frames : Frames) (s : Source) (i : Nat) : Option Nat :=
  let (isWithin, m) := frames.matchAll s i
  if frames.interrupts s isWithin m.pos then none else some m.pos

/-- As `labelBody`, behind up to four columns; a line that is indented by four does not interrupt. -/
def definitionBody (frames : Frames) (s : Source) (i : Nat) : Option Nat :=
  let (isWithin, m) := frames.matchAll s i
  let (isDeep, m) := m.skip s 4
  if !isDeep && frames.interrupts s isWithin m.pos then none else some m.pos

/-- Behind blanks and at most one line end; with the number of line ends. -/
def definitionSpace? (frames : Frames) (s : Source) : Nat → Nat → Nat → Option (Nat × Nat)
  | 0, _, _ => none
  | n + 1, ends, i =>
    let i := s.skipBlanks i
    match s.lineEnd? i with
    | none => some (i, ends)
    | some j =>
      if ends > 0 then none
      else
        match frames.definitionBody s j with
        | some k => frames.definitionSpace? s n (ends + 1) k
        | none => none

/-- The characters of a title from behind its opening mark on, the last one first, with the position
behind its closing mark. -/
def definitionTitleFrom? (frames : Frames) (s : Source) (close : Char) :
    Nat → List Char → Nat → Option (Nat × List Char)
  | 0, _, _ => none
  | n + 1, read, i =>
    match s[i]? with
    | none => none
    | some c =>
      if c = close then some (i + 1, read)
      else if c = '(' && close = ')' then none
      else if c = '\\' then
        match s[i + 1]? with
        | some e => frames.definitionTitleFrom? s close n (e :: c :: read) (i + 2)
        | none => none
      else if c = '\n' || (c = '\r' && !s.isAt (i + 1) '\n') then
        match frames.definitionBody s (i + 1) with
        | some j => frames.definitionTitleFrom? s close n ('\n' :: read) (s.skipBlanks j)
        | none => none
      else frames.definitionTitleFrom? s close n (c :: read) (i + 1)

/-- The title of a definition: the position behind it, and its text. -/
def definitionTitle? (frames : Frames) (s : Source) (i : Nat) : Option (Nat × String) := do
  let close ← Source.titleClose? (← s[i]?)
  let (j, read) ← frames.definitionTitleFrom? s close (s.size + 1) [] (i + 1)
  let title : Source := read.reverse.toArray
  some (j, title.unescaped false 0 title.size)

/-- The target of a definition from behind its colon on, with the position behind it. What fails to be
a title is no part of a definition that has its own line. -/
def target? (frames : Frames) (s : Source) (i : Nat) : Option (Nat × Target) := do
  let (i, _) ← frames.definitionSpace? s (s.size + 1) 0 i
  let (behind, first, last) ← s.destination? i
  if behind = i then none
  let target : Target := { destination := s.unescaped false first last }
  match frames.definitionSpace? s (s.size + 1) 0 behind with
  | none => some (behind, target)
  | some (j, ends) =>
    if j = behind && ends = 0 then none
    else
      let titled := do
        let (k, title) ← frames.definitionTitle? s j
        if s.isBlankLine k then some (k, { target with title }) else none
      match titled with
      | some found => some found
      | none => if ends > 0 then some (behind, target) else none

/-- The definition at a position: the position behind it, its label, and its target. -/
def definition? (frames : Frames) (s : Source) (i : Nat) : Option (Nat × String × Target) := do
  let (j, label) ← s.label? false (frames.labelBody s) i
  if !s.isAt j ':' then none
  let (k, target) ← frames.target? s (j + 1)
  some (k, label, target)

end Frames

end Vitrine.Markdown
