import Vitrine.Decimal.Notation
import Vitrine.Text.Shown

/-!
# What is wrong with a JSON text or value

Each way in which data can fail to be what is asked for, with its message. A problem in a text has a
place; a problem in a value has none.
-/

namespace Vitrine.Json

/-- What stands where something else is asked for. -/
inductive Found where
  | null
  | boolean (b : Bool)
  | integer (n : Int)
  | float (x : Float)
  | text (s : String)
  | list
  | object
  deriving Inhabited

def Found.describe : Found → String
  | null => "null"
  | boolean b => "boolean \x60" ++ (if b then "true" else "false") ++ "\x60"
  | integer n => "integer \x60" ++ Decimal.integer n ++ "\x60"
  | float x => "floating point \x60" ++ Decimal.report x ++ "\x60"
  | text s => "string " ++ Text.shown s
  | list => "sequence"
  | object => "map"

inductive Problem where
  | unfinishedList
  | unfinishedObject
  | unfinishedString
  | unfinishedValue
  | expectedColon
  | expectedListEnd
  | expectedObjectEnd
  | expectedWord
  | expectedValue
  | badEscape
  | badNumber
  | numberTooLarge
  | controlCharacter
  | keyNotText
  | loneSurrogate
  | brokenSurrogates
  | trailingComma
  | trailingCharacters
  | wrongType (found : Found) (expected : String)
  | wrongValue (found : Found) (expected : String)
  | wrongLength (length : Nat) (expected : String)
  | missingField (name : String)
  | repeatedField (name : String)
  | unknownVariant (name : String) (known : List String)
  deriving Inhabited

/-- `name` between accents. -/
def accented (name : String) : String := "\x60" ++ name ++ "\x60"

def Problem.message : Problem → String
  | unfinishedList => "EOF while parsing a list"
  | unfinishedObject => "EOF while parsing an object"
  | unfinishedString => "EOF while parsing a string"
  | unfinishedValue => "EOF while parsing a value"
  | expectedColon => "expected \x60:\x60"
  | expectedListEnd => "expected \x60,\x60 or \x60]\x60"
  | expectedObjectEnd => "expected \x60,\x60 or \x60\x7d\x60"
  | expectedWord => "expected ident"
  | expectedValue => "expected value"
  | badEscape => "invalid escape"
  | badNumber => "invalid number"
  | numberTooLarge => "number out of range"
  | controlCharacter => "control character (\\u0000-\\u001F) found while parsing a string"
  | keyNotText => "key must be a string"
  | loneSurrogate => "lone leading surrogate in hex escape"
  | brokenSurrogates => "unexpected end of hex escape"
  | trailingComma => "trailing comma"
  | trailingCharacters => "trailing characters"
  | wrongType found expected => "invalid type: " ++ found.describe ++ ", expected " ++ expected
  | wrongValue found expected => "invalid value: " ++ found.describe ++ ", expected " ++ expected
  | wrongLength length expected =>
    "invalid length " ++ Decimal.natural length ++ ", expected " ++ expected
  | missingField name => "missing field " ++ accented name
  | repeatedField name => "duplicate field " ++ accented name
  | unknownVariant name known =>
    "unknown variant " ++ accented name ++ ", expected one of "
      ++ String.intercalate ", " (known.map accented)

/-- A problem at a place in a text: its line, from one, and how many bytes of the line stand before
it. -/
structure Misread where
  problem : Problem
  line : Nat
  column : Nat
  deriving Inhabited

def Misread.message (m : Misread) : String :=
  m.problem.message ++ " at line " ++ Decimal.natural m.line ++ " column "
    ++ Decimal.natural m.column

end Vitrine.Json
