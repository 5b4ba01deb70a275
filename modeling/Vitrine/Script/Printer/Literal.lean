import Vitrine.Decimal.Notation
import Vitrine.Script.Tree
import Vitrine.Text.Ascii

/-!
# Literals as written

Strings are written between double quotes; a closing `script` tag inside any literal is broken up, so
that the text can stand inside a page. Numbers take their most compact form. A directive keeps its
text, between the quotes that it does not use.
-/

namespace Vitrine.Script.Printer

/-- Breaks up each `</script`, in any case of its letters. -/
def breakTags : List Char → List Char
  | '<' :: '/' :: rest =>
    if Text.lowerAscii (rest.take 6) == "script".toList then '<' :: '\\' :: '/' :: breakTags rest
    else '<' :: breakTags ('/' :: rest)
  | c :: rest => c :: breakTags rest
  | [] => []
termination_by s => s.length

/-- The lower-case hexadecimal digits of a number, at least `width` of them. -/
def hexPadded (width n : Nat) : List Char :=
  let ds := Nat.toDigits 16 n
  List.replicate (width - ds.length) '0' ++ ds

/-- How one code point is written between double quotes, given the code point behind it. -/
def escapeCode (n : Nat) (next : Option Nat) : List Char :=
  if n = 0 then
    if next.any (fun m => 48 ≤ m && m ≤ 57) then "\\x00".toList else "\\0".toList
  else if n = 7 then "\\x07".toList
  else if n = 8 then "\\b".toList
  else if n = 10 then "\\n".toList
  else if n = 11 then "\\v".toList
  else if n = 12 then "\\f".toList
  else if n = 13 then "\\r".toList
  else if n = 27 then "\\x1B".toList
  else if n = 34 then "\\\"".toList
  else if n = 92 then "\\\\".toList
  else if n = 0xA0 then "\\xA0".toList
  else if n = 0x2028 then "\\u2028".toList
  else if n = 0x2029 then "\\u2029".toList
  else if isSurrogate n then '\\' :: 'u' :: hexPadded 4 n
  else [Char.ofNat n]

def escapeCodes : Text → List Char
  | [] => []
  | n :: rest => escapeCode n rest.head? ++ escapeCodes rest

/-- A string between double quotes. -/
def stringText (value : Text) : String :=
  String.ofList ('"' :: breakTags (escapeCodes value) ++ ['"'])

/-- The quote of a directive: the one that its text does not use first. -/
def directiveQuote : List Char → Char
  | '\\' :: _ :: rest => directiveQuote rest
  | '"' :: _ => '\''
  | '\'' :: _ => '"'
  | _ :: rest => directiveQuote rest
  | [] => '"'

def directiveText (d : Directive) : String :=
  let quote := directiveQuote d.text
  String.ofList (quote :: d.text ++ [quote])

/-- A number, which may be infinite but not negative. -/
def numberText (x : Float) : String :=
  if x.isInf then "Infinity" else Decimal.compact x

def literalText : Literal → String
  | .null => "null"
  | .bool b => if b then "true" else "false"
  | .number x _ => numberText x
  | .bigint digits => digits ++ "n"
  | .string value _ => stringText value
  | .regex pattern flags =>
    "/" ++ String.ofList (breakTags pattern.toList) ++ "/" ++ flags

/-- Whether a number is written with digits alone, so that a point behind it would belong to it. -/
def isBareNumber : Literal → Bool
  | .number x _ => (numberText x).toList.all Char.isDigit
  | _ => false

def templatePartText (part : TemplatePart) : String := String.ofList (breakTags part.raw)

/-- The pieces of a template around the texts of its holes. -/
def templateText : List TemplatePart → List String → String
  | part :: parts, e :: es =>
    templatePartText part ++ "$\x7b" ++ e ++ "\x7d" ++ templateText parts es
  | part :: _, [] => templatePartText part
  | [], _ => ""

end Vitrine.Script.Printer
