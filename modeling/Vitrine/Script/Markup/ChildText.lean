import Vitrine.Script.Entity
import Vitrine.Script.Scan

/-!
# Text among the children of an element

A text on one line counts as it stands. Of a text on several lines, the lines are trimmed where they
meet line ends, blank lines go away, and the others are joined by single spaces. Entities are
replaced line by line.
-/

namespace Vitrine.Script.Markup

/-- The pieces of a text between line ends. -/
def textLines : List Char → List (List Char)
  | [] => [[]]
  | c :: cs =>
    if isLineEnd c then [] :: textLines cs
    else match textLines cs with
      | [] => [[c]]
      | l :: ls => (c :: l) :: ls

def trimStart (line : List Char) : List Char := line.dropWhile isSpace

def trimStop (line : List Char) : List Char := (line.reverse.dropWhile isSpace).reverse

/-- Lines behind the first, trimmed at both ends, the last one only in front. -/
def trimLater : List (List Char) → List (List Char)
  | [] => []
  | [l] => [trimStart l]
  | l :: ls => trimStop (trimStart l) :: trimLater ls

/-- The lines that count, trimmed. -/
def countingLines : List (List Char) → List (List Char)
  | [l] => [l]
  | l :: ls => (trimStop l :: trimLater ls).filter (!·.isEmpty)
  | [] => []

/-- Texts with a space between each two. -/
def spaced : List Text → Text
  | [] => []
  | [t] => t
  | t :: ts => t ++ 32 :: spaced ts

/-- The string that a text stands for; nothing if no line counts. -/
def childText? (raw : List Char) : Option Text :=
  match countingLines (textLines raw) with
  | [] => none
  | ls => some (spaced (ls.map decodeEntities))

end Vitrine.Script.Markup
