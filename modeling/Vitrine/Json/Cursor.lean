import Vitrine.Json.Problem

/-!
# A place in a JSON text

A cursor holds the text that is still to be read and where it stands. Most problems are reported behind
the byte that shows them, which is never beyond the end of the text.
-/

namespace Vitrine.Json

structure Cursor where
  rest : List Char
  line : Nat := 1
  /-- Bytes of the line before the cursor. -/
  column : Nat := 0
  deriving Inhabited

namespace Cursor

def ofText (s : String) : Cursor := { rest := s.toList }

/-- Behind the next character. -/
def next (c : Cursor) : Cursor :=
  match c.rest with
  | [] => c
  | '\n' :: cs => ⟨cs, c.line + 1, 0⟩
  | ch :: cs => ⟨cs, c.line, c.column + ch.utf8Size⟩

/-- Behind some characters. -/
def skip (c : Cursor) : Nat → Cursor
  | 0 => c
  | n + 1 => c.next.skip n

/-- A problem at the cursor. -/
def failAt (c : Cursor) (problem : Problem) : Misread := ⟨problem, c.line, c.column⟩

/-- A problem behind the next byte. -/
def failNext (c : Cursor) (problem : Problem) : Misread :=
  match c.rest with
  | [] => ⟨problem, c.line, c.column⟩
  | '\n' :: _ => ⟨problem, c.line + 1, 0⟩
  | _ => ⟨problem, c.line, c.column + 1⟩

/-- A problem behind the next `n` bytes, which may end inside a character. -/
def failBehind (c : Cursor) (problem : Problem) : Nat → List Char → Misread
  | _, [] => c.failAt problem
  | n, ch :: cs =>
    if n = 0 then c.failAt problem
    else if ch.utf8Size ≤ n then c.next.failBehind problem (n - ch.utf8Size) cs
    else ⟨problem, c.line, c.column + n⟩

def isSpace (c : Char) : Bool := c = ' ' || c = '\n' || c = '\t' || c = '\r'

/-- Behind the blanks. -/
def skipSpace (c : Cursor) : Cursor := c.skip (c.rest.takeWhile isSpace).length

def peek? (c : Cursor) : Option Char := c.rest.head?

def atDigit (c : Cursor) : Bool :=
  match c.rest with
  | ch :: _ => ch.isDigit
  | [] => false

/-- Behind all digits. -/
def skipDigits (c : Cursor) : Cursor := c.skip (c.rest.takeWhile Char.isDigit).length

/-- Behind a given word, of which every character must be there. -/
def word (c : Cursor) : List Char → Except Misread Cursor
  | [] => .ok c
  | w :: ws =>
    match c.rest with
    | [] => .error (c.failAt .unfinishedValue)
    | ch :: _ => if ch = w then c.next.word ws else .error (c.failNext .expectedWord)

end Cursor

end Vitrine.Json
