import Vitrine.Text.Punctuation

/-!
# Places in a text

Documentation is read in place: a source is the array of its characters, and a reader goes from one
position to another. A line ends with a line feed, with a carriage return, or with both in that order;
blanks within a line are spaces, tabs and the two vertical controls.
-/

namespace Vitrine.Markdown

abbrev Source := Array Char

/-- A blank within a line. -/
def isBlank (c : Char) : Bool := c = ' ' || c = '\t' || c = '\x0b' || c = '\x0c'

/-- The end of a line. -/
def isLineEnd (c : Char) : Bool := c = '\n' || c = '\r'

def isSpace (c : Char) : Bool := isBlank c || isLineEnd c

namespace Source

/-- Whether a given character stands at a position. -/
def isAt (s : Source) (i : Nat) (c : Char) : Bool := s[i]? == some c

/-- Whether a character with a property stands at a position. -/
def holds (s : Source) (i : Nat) (p : Char → Bool) : Bool := s[i]?.any p

/-- The first position from `i` on at which `p` does not hold. -/
def skipWhile (s : Source) (p : Char → Bool) (i : Nat) : Nat :=
  if h : i < s.size then
    if p s[i] then s.skipWhile p (i + 1) else i
  else i
termination_by s.size - i

/-- As `skipWhile`, over at most `n` characters. -/
def skipUpTo (s : Source) (p : Char → Bool) : Nat → Nat → Nat
  | 0, i => i
  | n + 1, i => if s.holds i p then s.skipUpTo p n (i + 1) else i

/-- The first position from `i` on at which `p` holds, if there is one. -/
def find? (s : Source) (p : Char → Bool) (i : Nat) : Option Nat :=
  let j := s.skipWhile (!p ·) i
  if j < s.size then some j else none

/-- The position behind the last character before `i`, but not before `low`, at which `p` does not
hold. -/
def backWhile (s : Source) (p : Char → Bool) (low : Nat) : Nat → Nat
  | 0 => 0
  | i + 1 => if low ≤ i && s.holds i p then s.backWhile p low i else i + 1

/-- How often a character stands from a position on. -/
def runOf (s : Source) (c : Char) (i : Nat) : Nat := s.skipWhile (· == c) i - i

/-- The text between two positions. -/
def slice (s : Source) (i j : Nat) : String := String.ofList (s.extract i j).toList

/-- Whether a text stands at a position. -/
def startsWith (s : Source) (i : Nat) : List Char → Bool
  | [] => true
  | c :: cs => s.isAt i c && s.startsWith (i + 1) cs

/-- Whether a text of small letters stands at a position, in any case. -/
def startsWithAnyCase (s : Source) (i : Nat) : List Char → Bool
  | [] => true
  | c :: cs => s.holds i (·.toLower == c) && s.startsWithAnyCase (i + 1) cs

/-! ## Lines -/

/-- The position behind the end of the line, if the line ends at `i`. The text ends a line too. -/
def lineEnd? (s : Source) (i : Nat) : Option Nat :=
  match s[i]? with
  | none => some i
  | some '\n' => some (i + 1)
  | some '\r' => some (if s.isAt (i + 1) '\n' then i + 2 else i + 1)
  | some _ => none

def atLineEnd (s : Source) (i : Nat) : Bool := (s.lineEnd? i).isSome

/-- Behind the blanks from a position on. -/
def skipBlanks (s : Source) (i : Nat) : Nat := s.skipWhile isBlank i

/-- The position behind the end of the line, if only blanks stand before it. -/
def blankLine? (s : Source) (i : Nat) : Option Nat := s.lineEnd? (s.skipBlanks i)

def isBlankLine (s : Source) (i : Nat) : Bool := (s.blankLine? i).isSome

/-- Behind the next line feed. -/
def nextLine (s : Source) (i : Nat) : Nat :=
  let j := s.skipWhile (· != '\n') i
  if j < s.size then j + 1 else j

end Source

end Vitrine.Markdown
