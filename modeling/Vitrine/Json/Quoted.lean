/-!
# JSON string literals

Writing escapes the quote, the backslash and the control characters below U+0020, the five common
ones by their letter and the rest as `\u00xx` with lower-case digits. Everything else, line
separators and non-ASCII text included, stands for itself.
-/

namespace Vitrine.Json

/-- Lower-case hexadecimal digit of a number below sixteen. -/
def hexDigit (n : Nat) : Char :=
  if n < 10 then Char.ofNat (n + 48) else Char.ofNat (n + 87)

/-- The characters that stand for `c` inside a string literal. -/
def escapeChar (c : Char) : List Char :=
  if c = '"' then ['\\', '"']
  else if c = '\\' then ['\\', '\\']
  else if c = '\n' then ['\\', 'n']
  else if c = '\r' then ['\\', 'r']
  else if c = '\t' then ['\\', 't']
  else if c.toNat = 8 then ['\\', 'b']
  else if c.toNat = 12 then ['\\', 'f']
  else if c.toNat < 32 then ['\\', 'u', '0', '0', hexDigit (c.toNat / 16), hexDigit (c.toNat % 16)]
  else [c]

/-- The body of a literal, without its quotes. -/
def escape (s : List Char) : List Char := s.flatMap escapeChar

/-- The literal that denotes `s`. -/
def quoted (s : String) : String := String.ofList ('"' :: (escape s.toList ++ ['"']))

@[simp] theorem escape_nil : escape [] = [] := rfl

@[simp] theorem escape_cons (c : Char) (s : List Char) :
    escape (c :: s) = escapeChar c ++ escape s := List.flatMap_cons

theorem escape_append (a b : List Char) : escape (a ++ b) = escape a ++ escape b :=
  List.flatMap_append

end Vitrine.Json
