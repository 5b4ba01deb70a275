import Vitrine.Html.Names
import Vitrine.Markdown.Source

/-!
# Character references

`&name;` stands for the characters of the name in HTML, `&#…;` for the character with a number of up to
seven decimal or six hexadecimal digits. Anything else is text.
-/

namespace Vitrine.Markdown

/-- The value of a decimal or hexadecimal digit. -/
def digitValue (c : Char) : Nat :=
  if c.isDigit then c.toNat - 48 else c.toLower.toNat - 87

def isHexDigit (c : Char) : Bool := c.isDigit || ('a' ≤ c.toLower && c.toLower ≤ 'f')

namespace Source

/-- The number that the digits between two positions denote. -/
def number (s : Source) (base i j : Nat) : Nat :=
  (s.extract i j).foldl (fun n c => n * base + digitValue c) 0

/-- The character with a number; zero stands for the replacement character. -/
def charOf? (n : Nat) : Option Char :=
  if n = 0 then some '\ufffd' else if n.isValidChar then some (Char.ofNat n) else none

/-- The reference behind `&#`. -/
def numericReference? (s : Source) (i : Nat) : Option (Nat × String) :=
  let hex := s.holds i (·.toLower == 'x')
  let start := if hex then i + 1 else i
  let stop := if hex then s.skipUpTo isHexDigit 6 start else s.skipUpTo Char.isDigit 7 start
  if stop = start || !s.isAt stop ';' then none
  else
    (charOf? (s.number (if hex then 16 else 10) start stop)).map fun c =>
      (stop + 1, String.ofList [c])

/-- The reference at a `&`: where it ends, and what it stands for. -/
def reference? (s : Source) (i : Nat) : Option (Nat × String) :=
  if s.isAt (i + 1) '#' then s.numericReference? (i + 2)
  else
    let stop := s.skipWhile Char.isAlphanum (i + 1)
    if s.isAt stop ';' then
      (Html.Names.find? (s.slice (i + 1) stop)).map fun cs => (stop + 1, String.ofList cs)
    else none

end Source

end Vitrine.Markdown
