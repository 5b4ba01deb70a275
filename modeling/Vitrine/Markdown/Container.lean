import Vitrine.Markdown.Block
import Vitrine.Markdown.Margin

/-!
# Open containers

While a source is read, the quotes, lists and items that are still open form a stack. A line goes on in
as many of them as its margin shows: a quote needs its mark, an item the columns of its text, and a list
needs nothing of its own.
-/

namespace Vitrine.Markdown

/-- A container that is still open, with what it holds so far, the last one first. A list knows the
character of its marks; an item knows the columns before its text. -/
inductive Frame where
  | quote (blocks : List (Block Content))
  | list (marker : Char) (start : Nat) (isTight : Bool) (items : List (List (Block Content)))
  | item (indent : Nat) (blocks : List (Block Content))
  deriving Inhabited

namespace Frame

/-- The margin of a line behind what the container needs, if the line goes on in it. -/
def match? (s : Source) (m : Margin) : Frame → Option Margin
  | quote _ => (m.upTo s 3).2.quoteMark? s
  | list .. => some m
  | item indent _ =>
    let (all, m') := m.skip s indent
    if all || m'.atLineEnd s then some m' else none

/-- Whether ordered lists have the mark. -/
def isOrdered (marker : Char) : Bool := marker == '.' || marker == ')'

end Frame

/-- How many containers a line goes on in, from the outermost, and what of its margin is left. -/
def matchFrames (s : Source) : List Frame → Margin → Nat × Margin
  | [], m => (0, m)
  | f :: rest, m =>
    match f.match? s m with
    | none => (0, m)
    | some m' =>
      let (n, m'') := matchFrames s rest m'
      (n + 1, m'')

/-- The stack of open containers, the innermost first. -/
abbrev Frames := List Frame

namespace Frames

/-- As `matchFrames`, for the line that starts at a position. -/
def matchLine (frames : Frames) (s : Source) (start : Nat) : Nat × Margin :=
  matchFrames s frames.reverse (.ofLine start)

/-- The margin of a line, and whether it goes on in every container. -/
def matchAll (frames : Frames) (s : Source) (start : Nat) : Bool × Margin :=
  let (n, m) := frames.matchLine s start
  (n == frames.length, m)

end Frames

end Vitrine.Markdown
