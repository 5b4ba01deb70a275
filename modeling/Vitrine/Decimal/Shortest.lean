/-!
# The shortest decimal of a binary fraction

A finite 64-bit float is `m · 2 ^ q`. The reals that round to it form an interval around it, with its
ends iff `m` is even. For one, two, ... seventeen digits, `shortest` tries the two neighbours of the
value on the grid of decimals with that many digits; the first grid with a neighbour in the interval
wins, and of two neighbours the nearer one.
-/

namespace Vitrine.Decimal

/-- A positive number `m · 2 ^ q`; `isEdge` says that the gap below it is half the gap above. -/
structure Binary where
  m : Nat
  q : Int
  isEdge : Bool
  deriving DecidableEq, Repr

/-- A positive decimal `0.d₁d₂…dₙ · 10 ^ point`, its digits read as one number. -/
structure Digits where
  digits : Nat
  point : Int
  deriving DecidableEq, Repr

/-- The magnitude of a finite float other than zero. -/
def Binary.ofFloat (x : Float) : Binary :=
  let bits := x.toBits.toNat
  let exponent : Nat := bits / Nat.pow 2 52 % Nat.pow 2 11
  let fraction : Nat := bits % Nat.pow 2 52
  if exponent = 0 then ⟨fraction, -1074, false⟩
  else ⟨fraction + Nat.pow 2 52, (exponent : Int) - 1075, fraction = 0 && 1 < exponent⟩

/-- Decimal digits of a number, at least one. -/
def digitCount (n : Nat) : Nat := (Nat.toDigits 10 n).length

/-- How many factors ten bring `a / b` to at least one, with fuel. -/
def scaleUp : Nat → Nat → Nat → Nat
  | 0, _, _ => 0
  | fuel + 1, a, b => if b ≤ a then 0 else scaleUp fuel (a * 10) b + 1

/-- Compares `c · 10 ^ e` with `x / b`. -/
def compareScaled (c : Nat) (e : Int) (x b : Nat) : Ordering :=
  if 0 ≤ e then compare (c * Nat.pow 10 e.toNat * b) x else compare (c * b) (x * Nat.pow 10 (-e).toNat)

/-- The distance of `c · 10 ^ e` from `x / b`, in a unit that is the same for all `c`. -/
def distance (c : Nat) (e : Int) (x b : Nat) : Nat :=
  let l := if 0 ≤ e then c * Nat.pow 10 e.toNat * b else c * b
  let r := if 0 ≤ e then x else x * Nat.pow 10 (-e).toNat
  (l - r) + (r - l)

/-- The best decimal with `n` digits or more, where `left` more may be tried. -/
def search (low value high b : Nat) (isClosed : Bool) (point : Int) : Nat → Nat → Digits
  | 0, n =>
    let e := point - n
    ⟨if 0 ≤ e then value / (b * Nat.pow 10 e.toNat) else value * Nat.pow 10 (-e).toNat / b, point⟩
  | left + 1, n =>
    let e := point - n
    let c := if 0 ≤ e then value / (b * Nat.pow 10 e.toNat) else value * Nat.pow 10 (-e).toNat / b
    let inside := fun d =>
      let l := compareScaled d e low b
      let h := compareScaled d e high b
      (l == .gt || (isClosed && l == .eq)) && (h == .lt || (isClosed && h == .eq))
    let down := inside c && c ≠ 0
    let up := inside (c + 1)
    let pick := fun d => if digitCount d > n then ⟨d / 10, point + 1⟩ else (⟨d, point⟩ : Digits)
    if down && up then
      if distance c e value b ≤ distance (c + 1) e value b then pick c else pick (c + 1)
    else if down then pick c
    else if up then pick (c + 1)
    else search low value high b isClosed point left (n + 1)

/-- The fewest digits that read back as the number, nearest to it. -/
def shortest (x : Binary) : Digits :=
  let up := Nat.pow 2 x.q.toNat
  let b := 4 * Nat.pow 2 (-x.q).toNat
  let value := 4 * x.m * up
  let low := (4 * x.m - (if x.isEdge then 1 else 2)) * up
  let high := (4 * x.m + 2) * up
  let point : Int :=
    if b ≤ value then (digitCount (value / b) : Int) else 1 - (scaleUp 400 value b : Int)
  search low value high b (x.m % 2 == 0) point 17 1

/-- Decimal text of a natural number. -/
def natural (n : Nat) : String := String.ofList (Nat.toDigits 10 n)

/-- Decimal text of an integer. -/
def integer (n : Int) : String := if n < 0 then "-" ++ natural n.natAbs else natural n.natAbs

end Vitrine.Decimal
