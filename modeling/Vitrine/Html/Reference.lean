import Vitrine.Html.Names

/-!
# Character references

`&` begins a reference to a character by number or by name. A reference that is not complete, or not
known, is plain text. `decode` replaces the references of a text; in an attribute a name without its
semicolon counts only if neither a letter, a digit nor `=` follows, because addresses hold parameters
such as `&copy=1`.
-/

namespace Vitrine.Html.Reference

/-- The value of a digit in `base` ten or sixteen. -/
def digit? (base : Nat) (c : Char) : Option Nat :=
  let n := c.toNat
  let value :=
    if 48 ≤ n && n ≤ 57 then n - 48
    else if 97 ≤ n && n ≤ 102 then n - 87
    else if 65 ≤ n && n ≤ 70 then n - 55
    else base
  if value < base then some value else none

/-- The characters that numbers from 0x80 to 0x9F stand for; zero where the number stands for itself. -/
def windowsLatin : List Nat :=
  [0x20ac, 0, 0x201a, 0x192, 0x201e, 0x2026, 0x2020, 0x2021, 0x2c6, 0x2030, 0x160, 0x2039, 0x152, 0,
    0x17d, 0, 0, 0x2018, 0x2019, 0x201c, 0x201d, 0x2022, 0x2013, 0x2014, 0x2dc, 0x2122, 0x161, 0x203a,
    0x153, 0, 0x17e, 0x178]

/-- The character that a number refers to: the replacement character for zero, for surrogates and for
what lies beyond Unicode. -/
def ofNumber (n : Nat) : Char :=
  if n = 0 || 0x10ffff < n || (0xd800 ≤ n && n ≤ 0xdfff) then '\ufffd'
  else
    match if 0x80 ≤ n then windowsLatin[n - 0x80]? else none with
    | some m => Char.ofNat (if m = 0 then n else m)
    | none => Char.ofNat n

/-- How many characters of the text behind `&` a reference takes, and what it stands for. -/
abbrev Found := Option (List Char × Nat)

/-- A reference by number, of which `#` and a hexadecimal mark of `mark` characters are read. -/
def number? (base mark : Nat) (digits : List Char) : Found :=
  let run := digits.takeWhile fun c => (digit? base c).isSome
  if run.isEmpty then none
  else
    let n := run.foldl (fun n c => n * base + (digit? base c).getD 0) 0
    let closing := if (digits.drop run.length).head? = some ';' then 1 else 0
    some ([ofNumber n], mark + run.length + closing)

/-- A reference by name. -/
def name? (inAttribute : Bool) (text : List Char) : Found :=
  let word := text.takeWhile Char.isAlphanum
  let closed := (text.drop word.length).head? = some ';'
  match if closed then Names.find? (String.ofList word) else none with
  | some cs => some (cs, word.length + 1)
  | none => do
    let name ← Names.longestUnterminated? word
    let refused := match (text.drop name.length).head? with
      | some c => inAttribute && (c = '=' || c.isAlphanum)
      | none => false
    if refused then none else pure (← Names.find? name, name.length)

/-- The reference that the text behind an `&` begins with. -/
def find? (inAttribute : Bool) : List Char → Found
  | '#' :: 'x' :: cs => number? 16 2 cs
  | '#' :: 'X' :: cs => number? 16 2 cs
  | '#' :: cs => number? 10 1 cs
  | cs => name? inAttribute cs

/-- Decodes behind a reference of which some characters are still to be passed over. -/
def decodeFrom (inAttribute : Bool) : Nat → List Char → List Char
  | _, [] => []
  | n + 1, _ :: cs => decodeFrom inAttribute n cs
  | 0, c :: cs =>
    if c = '&' then
      match find? inAttribute cs with
      | some (out, n) => out ++ decodeFrom inAttribute n cs
      | none => c :: decodeFrom inAttribute 0 cs
    else c :: decodeFrom inAttribute 0 cs

/-- Replaces the character references of a text. -/
def decode (inAttribute : Bool) (text : List Char) : List Char := decodeFrom inAttribute 0 text

end Vitrine.Html.Reference
