import Vitrine.Decimal.Notation
import Vitrine.Script.Tree

/-!
# Constants

Numbers and strings that are known before a script runs, and the operators on them. Bitwise
operators work on the 32-bit word of a number; addition joins as soon as one side is a string.
-/

namespace Vitrine.Script

inductive Constant where
  | number (value : Float)
  | string (value : Text)

/-! ## Words -/

/-- The 32-bit word of a number: its integral part modulo `2 ^ 32`; what is not finite gives zero. -/
def wordOf (x : Float) : Nat :=
  if x.isNaN || x.isInf then 0
  else
    let w := Decimal.floatToNat x.abs % Nat.pow 2 32
    if x < 0 then (Nat.pow 2 32 - w) % Nat.pow 2 32 else w

/-- A word read with a sign. -/
def signedWord (w : Nat) : Int := if w < Nat.pow 2 31 then w else (w : Int) - Nat.pow 2 32

def ofSignedWord (w : Nat) : Float := Float.ofInt (signedWord (w % Nat.pow 2 32))

/-- The sign of the first and the remainder of the magnitudes. -/
def floatRemainder (x y : Float) : Float :=
  if x.isNaN || y.isNaN || x.isInf || y == 0 then 0.0 / 0.0
  else if y.isInf || x == 0 then x
  else
    let a := Decimal.Binary.ofFloat x.abs
    let b := Decimal.Binary.ofFloat y.abs
    let q := min a.q b.q
    let r := (a.m * Nat.pow 2 (a.q - q).toNat) % (b.m * Nat.pow 2 (b.q - q).toNat)
    let magnitude := (Float.ofNat r).scaleB q
    if x < 0 then -magnitude else magnitude

namespace Constant

/-! ## Operators -/

/-- What a constant contributes to a joined string. -/
def text : Constant → Text
  | number x => Text.ofString (Decimal.script x)
  | string t => t

/-- The value of a binary operator on numbers, if it gives a number. -/
def onNumbers (op : BinaryOp) (x y : Float) : Option Float :=
  match op with
  | .add => some (x + y)
  | .subtract => some (x - y)
  | .multiply => some (x * y)
  | .divide => some (x / y)
  | .remainder => some (floatRemainder x y)
  | .power => some (Float.pow x y)
  | .shiftLeft => some (ofSignedWord (wordOf x * Nat.pow 2 (wordOf y % 32)))
  | .shiftRight => some (Float.ofInt (signedWord (wordOf x) / Nat.pow 2 (wordOf y % 32)))
  | .shiftRightZero => some (Float.ofNat (wordOf x / Nat.pow 2 (wordOf y % 32)))
  | .bitOr => some (ofSignedWord (wordOf x ||| wordOf y))
  | .bitXor => some (ofSignedWord (wordOf x ^^^ wordOf y))
  | .bitAnd => some (ofSignedWord (wordOf x &&& wordOf y))
  | _ => none

def binary (op : BinaryOp) : Constant → Constant → Option Constant
  | number x, number y => (onNumbers op x y).map number
  | a, b => if op == .add then some (string (a.text ++ b.text)) else none

/-- The value of a unary operator. Only minus and the complement see that a string is no number. -/
def unary (op : UnaryOp) : Constant → Option Constant
  | number x =>
    match op with
    | .plus => some (number x)
    | .minus => some (number (-x))
    | .bitNot => some (number (ofSignedWord (Nat.pow 2 32 - 1 - wordOf x)))
    | _ => none
  | string t =>
    match op with
    | .minus => some (number (0.0 / 0.0))
    | .bitNot => some (number (-1))
    | _ => some (string t)

end Constant

end Vitrine.Script
