import Vitrine.Text.Blank
import Vitrine.Text.Identifier

/-!
# Script tags in raw HTML

Raw HTML that looks as if it held a script tag is shown and not written. What looks so is a `<`, blanks,
perhaps a slash and more blanks, and the word `script` in any case, with no word character behind it.
-/

namespace Vitrine.Markdown

/-- Parts of identifiers that are no characters of words. -/
def identifierOnly : List (Nat × Nat) :=
  [(0xb7, 0xb7), (0x387, 0x387), (0x1369, 0x1371), (0x19da, 0x19da), (0x2118, 0x2118),
    (0x212e, 0x212e), (0x309b, 0x309c), (0x30fb, 0x30fb), (0xff65, 0xff65)]

/-- Characters of words that are no parts of identifiers: marks around characters, and letters in
circles and squares. -/
def wordOnly : List (Nat × Nat) :=
  [(0x488, 0x489), (0x1abe, 0x1abe), (0x20dd, 0x20e0), (0x20e2, 0x20e4), (0x24b6, 0x24e9),
    (0x2e2f, 0x2e2f), (0xa670, 0xa672), (0x1f130, 0x1f149), (0x1f150, 0x1f169), (0x1f170, 0x1f189)]

def isWithin (ranges : List (Nat × Nat)) (c : Char) : Bool :=
  ranges.any fun (first, last) => first ≤ c.toNat && c.toNat ≤ last

/-- A letter, mark, digit or connector. -/
def isWordChar (c : Char) : Bool :=
  c != '$' && ((Text.isIdentifierPart c && !isWithin identifierOnly c) || isWithin wordOnly c)

/-- Whether a character is a small letter up to case. The long s is an s. -/
def isLetter (letter c : Char) : Bool := c.toLower == letter || (letter == 's' && c == 'ſ')

/-- The rest of a text behind a word of small letters in any case. -/
def afterWord? : List Char → List Char → Option (List Char)
  | [], cs => some cs
  | _ :: _, [] => none
  | w :: ws, c :: cs => if isLetter w c then afterWord? ws cs else none

/-- Whether a text goes on as a script tag does behind its `<`. -/
def startsScript (cs : List Char) : Bool :=
  let cs := cs.dropWhile Text.isBlank
  let cs := match cs with
    | '/' :: rest => rest.dropWhile Text.isBlank
    | _ => cs
  match afterWord? "script".toList cs with
  | none => false
  | some [] => true
  | some (c :: _) => !isWordChar c

/-- Whether a text looks as if it held a script tag. -/
def namesScript : List Char → Bool
  | [] => false
  | c :: cs => (c = '<' && startsScript cs) || namesScript cs

end Vitrine.Markdown
