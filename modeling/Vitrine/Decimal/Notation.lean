import Vitrine.Decimal.Shortest

/-!
# Notations for floats

`script` is the notation that scripts use when they turn a number into text; `compact` shortens it
for source code (no zero before the point, fewest characters among positional, hexadecimal and
exponent forms); `report` is the notation of messages about decoded data, which always shows a point
or an exponent.
-/

namespace Vitrine.Decimal

def zeros (n : Nat) : String := String.ofList (List.replicate n '0')

/-- Exponent notation with one digit before the point and a sign on the exponent. -/
def scientific (ds : List Char) (exponent : Int) : String :=
  let mantissa := match ds with
    | [] => "0"
    | [d] => String.ofList [d]
    | d :: rest => String.ofList (d :: '.' :: rest)
  mantissa ++ "e" ++ (if exponent < 0 then "-" else "+") ++ natural exponent.natAbs

/-- A positive finite float: positional up to twenty-one digits before the point and six zeros
behind it. -/
def scriptPositive (x : Float) : String :=
  let d := shortest (Binary.ofFloat x)
  let ds := Nat.toDigits 10 d.digits
  let n : Int := ds.length
  let k := d.point
  if n ≤ k && k ≤ 21 then String.ofList ds ++ zeros (k - n).toNat
  else if 0 < k && k ≤ 21 then
    String.ofList (ds.take k.toNat) ++ "." ++ String.ofList (ds.drop k.toNat)
  else if -6 < k && k ≤ 0 then "0." ++ zeros (-k).toNat ++ String.ofList ds
  else scientific ds (k - 1)

/-- A number as the text a script would turn it into. -/
def script (x : Float) : String :=
  if x.isNaN then "NaN"
  else if x == 0 then "0"
  else if x.isInf then (if x < 0 then "-Infinity" else "Infinity")
  else if x < 0 then "-" ++ scriptPositive (-x)
  else scriptPositive x

/-- Hexadecimal digits of a number. -/
def hexadecimal (n : Nat) : String := String.ofList (Nat.toDigits 16 n)

/-- The integral value of a non-negative integral float. -/
def floatToNat (x : Float) : Nat :=
  if x == 0 then 0
  else
    let b := Binary.ofFloat x
    if 0 ≤ b.q then b.m * Nat.pow 2 b.q.toNat else b.m / Nat.pow 2 (-b.q).toNat

/-- Drops the plus sign of an exponent. -/
def dropExponentPlus (s : List Char) : List Char :=
  match s with
  | 'e' :: '+' :: rest => 'e' :: rest
  | c :: rest => c :: dropExponentPlus rest
  | [] => []

def takeShorter (best candidate : List Char) : List Char :=
  if candidate.length < best.length then candidate else best

/-- A non-negative finite float in as few characters as source code allows. Integers below one
thousand stay as they are. An integer that is shorter in hexadecimal is written so; otherwise
trailing zeros, leading zeros behind the point and the digits before an exponent are folded into an
exponent where that is shorter. -/
def compact (x : Float) : String :=
  if x < 1000 && x.floor == x then script x
  else
    let text := (script x).toList
    let s := match text with
      | '0' :: '.' :: rest => '.' :: rest
      | _ => text
    let s := dropExponentPlus s
    let isIntegral := x.floor == x
    let hex := "0x".toList ++ (hexadecimal (min (floatToNat x) (Nat.pow 2 128 - 1))).toList
    let isHex := isIntegral && hex.length < s.length
    let best :=
      if isIntegral then takeShorter s hex
      else match s with
        | '.' :: '0' :: rest =>
          let digits := rest.dropWhile (· == '0')
          let skipped := 2 + (rest.takeWhile (· == '0')).length
          if digits.isEmpty then s
          else takeShorter s (digits ++ 'e' :: '-' ::
            (natural (digits.length + skipped - 1)).toList)
        | _ => s
    let trailing := (best.reverse.takeWhile (· == '0')).length
    let result :=
      if !isHex && 0 < trailing then
        takeShorter best (best.take (best.length - trailing) ++ 'e' :: (natural trailing).toList)
      else
        let whole := best.takeWhile (· != '.')
        let behind := (best.dropWhile (· != '.')).drop 1
        let point := behind.takeWhile (· != 'e')
        let exponent := (behind.dropWhile (· != 'e')).drop 1
        if point.isEmpty || exponent.isEmpty then best
        else
          let e : Int := match exponent with
            | '-' :: ds => -(Nat.ofDigitChars 10 ds 0 : Int)
            | ds => Nat.ofDigitChars 10 ds 0
          takeShorter best (whole ++ point ++ 'e' :: (integer (e - point.length)).toList)
    String.ofList result

/-- A float in a message: positional up to sixteen digits before the point and five zeros behind it,
always with a point or an exponent. -/
def report (x : Float) : String :=
  if x.isNaN then "NaN"
  else
    let sign := if x.toBits.toNat / Nat.pow 2 63 = 1 then "-" else ""
    let x := x.abs
    if x.isInf then sign ++ "inf"
    else if x == 0 then sign ++ "0.0"
    else
      let d := shortest (Binary.ofFloat x)
      let ds := Nat.toDigits 10 d.digits
      let n : Int := ds.length
      let k := d.point
      sign ++
        (if n ≤ k && k ≤ 16 then String.ofList ds ++ zeros (k - n).toNat ++ ".0"
        else if 0 < k && k ≤ 16 then
          String.ofList (ds.take k.toNat) ++ "." ++ String.ofList (ds.drop k.toNat)
        else if -5 < k && k ≤ 0 then "0." ++ zeros (-k).toNat ++ String.ofList ds
        else scientific ds (k - 1))

end Vitrine.Decimal
