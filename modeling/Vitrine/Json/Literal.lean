import Vitrine.Json.Cursor

/-!
# Reading strings and numbers

A string must pair its surrogates, unless it is passed over. A number without fraction and exponent is an
integer as long as it fits sixty-four bits; every other number is a float.
-/

namespace Vitrine.Json

/-! ## Strings -/

def hexValue? (c : Char) : Option Nat :=
  let n := c.toNat
  if 48 ≤ n && n ≤ 57 then some (n - 48)
  else if 97 ≤ n && n ≤ 102 then some (n - 87)
  else if 65 ≤ n && n ≤ 70 then some (n - 55)
  else none

/-- Four hexadecimal digits. -/
def hexFour (c : Cursor) : Except Misread (Nat × Cursor) :=
  let bytes := (c.rest.take 4).foldl (fun n ch => n + ch.utf8Size) 0
  if bytes < 4 then
    let last := c.skip c.rest.length
    .error (last.failAt .unfinishedString)
  else
    match (c.rest.take 4).mapM hexValue? with
    | some [a, b, x, y] => .ok (((a * 16 + b) * 16 + x) * 16 + y, c.skip 4)
    | _ => .error (c.failBehind .badEscape 4 c.rest)

/-- A character that is written by its number behind `\u`; beyond the first plane, by two. -/
def unicodeEscape (c : Cursor) : Except Misread (Char × Cursor) := do
  let (n, c) ← hexFour c
  if 0xdc00 ≤ n && n ≤ 0xdfff then throw (c.failAt .loneSurrogate)
  if n < 0xd800 || 0xdbff < n then return (Char.ofNat n, c)
  match c.rest with
  | [] => throw (c.failAt .unfinishedString)
  | '\\' :: 'u' :: _ =>
    let (low, c) ← hexFour (c.skip 2)
    if low < 0xdc00 || 0xdfff < low then throw (c.failAt .loneSurrogate)
    return (Char.ofNat ((n - 0xd800) * 0x400 + (low - 0xdc00) + 0x10000), c)
  | ['\\'] => throw (c.next.failAt .unfinishedString)
  | '\\' :: _ => throw (c.next.failNext .brokenSurrogates)
  | _ => throw (c.failNext .brokenSurrogates)

/-- The characters that a letter behind a backslash stands for. -/
def escapes : List (Char × Char) :=
  [('"', '"'), ('\\', '\\'), ('/', '/'), ('b', '\x08'), ('f', '\x0c'), ('n', '\n'), ('r', '\r'),
    ('t', '\t')]

/-- The characters of a string behind its quote, the last one first. Fuel is the length of the text. -/
def stringFrom : Nat → List Char → Cursor → Except Misread (List Char × Cursor)
  | 0, _, c => .error (c.failAt .unfinishedString)
  | n + 1, read, c =>
    match c.rest with
    | [] => .error (c.failAt .unfinishedString)
    | '"' :: _ => .ok (read, c.next)
    | '\\' :: _ =>
      let c := c.next
      match c.rest with
      | [] => .error (c.failAt .unfinishedString)
      | 'u' :: _ => do
        let (ch, c) ← unicodeEscape c.next
        stringFrom n (ch :: read) c
      | e :: _ =>
        match escapes.lookup e with
        | some ch => stringFrom n (ch :: read) c.next
        | none => .error (c.failNext .badEscape)
    | ch :: _ =>
      if ch.toNat < 32 then .error (c.failNext .controlCharacter)
      else stringFrom n (ch :: read) c.next

/-- A string behind its quote. -/
def string (c : Cursor) : Except Misread (String × Cursor) := do
  let (read, c) ← stringFrom (c.rest.length + 1) [] c
  return (String.ofList read.reverse, c)

/-- Passes over a string behind its quote. -/
def skipStringFrom : Nat → Cursor → Except Misread Cursor
  | 0, c => .error (c.failAt .unfinishedString)
  | n + 1, c =>
    match c.rest with
    | [] => .error (c.failAt .unfinishedString)
    | '"' :: _ => .ok c.next
    | '\\' :: _ =>
      let c := c.next
      match c.rest with
      | [] => .error (c.failAt .unfinishedString)
      | 'u' :: _ => do
        let (_, c) ← hexFour c.next
        skipStringFrom n c
      | e :: _ =>
        if (escapes.lookup e).isSome then skipStringFrom n c.next
        else .error (c.failNext .badEscape)
    | ch :: _ =>
      if ch.toNat < 32 then .error (c.failAt .controlCharacter) else skipStringFrom n c.next

def skipString (c : Cursor) : Except Misread Cursor := skipStringFrom (c.rest.length + 1) c

/-! ## Numbers -/

inductive Number where
  | integer (n : Int)
  | float (x : Float)
  deriving Inhabited

def Number.found : Number → Found
  | integer n => .integer n
  | float x => .float x

/-- The largest number of sixty-four bits. -/
def maxNatural : Nat := Nat.pow 2 64 - 1

/-- Divides by powers of ten until the exponent is in reach. Fuel bounds the number of divisions; a
quotient is zero long before it runs out. -/
def shrink : Nat → Float → Nat → Float
  | 0, x, _ => x
  | n + 1, x, e =>
    if e ≤ 308 then x / Float.ofScientific 1 false e
    else if x == 0 then x
    else shrink n (x / Float.ofScientific 1 false 308) (e - 308)

/-- `digits` times ten to the power of `exponent`, computed in two roundings; the cursor is behind the
number. -/
def scaled (c : Cursor) (negative : Bool) (digits : Nat) (exponent : Int) : Except Misread (Number × Cursor) :=
  let x := Float.ofNat digits
  let signed (x : Float) : Number := .float (if negative then -x else x)
  if exponent < 0 then .ok (signed (shrink 20 x exponent.natAbs), c)
  else if 308 < exponent.natAbs then
    if x == 0 then .ok (signed x, c) else .error (c.failAt .numberTooLarge)
  else
    let y := x * Float.ofScientific 1 false exponent.natAbs
    if y.isInf then .error (c.failAt .numberTooLarge) else .ok (signed y, c)

/-- Digits of which all but the first are added to `value` as long as it fits sixty-four bits; also how
many were not added. -/
def significand (value : Nat) : List Char → Nat × Nat
  | [] => (value, 0)
  | d :: ds =>
    let more := value * 10 + (d.toNat - 48)
    if more ≤ maxNatural then significand more ds else (value, ds.length + 1)

/-- Digits of an exponent up to where they exceed thirty-one bits. -/
def exponentDigits (value : Nat) (c : Cursor) : List Char → Option Nat × Cursor
  | [] => (some value, c)
  | d :: ds =>
    let more := value * 10 + (d.toNat - 48)
    if more < Nat.pow 2 31 then exponentDigits more c.next ds else (none, c.next)

/-- The exponent of a number, at its `e`. -/
def exponentPart (c : Cursor) (negative : Bool) (digits : Nat) (start : Int) : Except Misread (Number × Cursor) :=
  let c := c.next
  let down := c.peek? = some '-'
  let c := if down || c.peek? = some '+' then c.next else c
  match c.rest with
  | [] => .error (c.failAt .unfinishedValue)
  | d :: ds =>
    if !d.isDigit then .error (c.failNext .badNumber)
    else
      match exponentDigits (d.toNat - 48) c.next (ds.takeWhile Char.isDigit) with
      | (some e, c) => scaled c negative digits (if down then start - e else start + e)
      | (none, c) =>
        if digits ≠ 0 && !down then .error (c.failAt .numberTooLarge)
        else .ok (.float (if negative then -0.0 else 0.0), c.skipDigits)

def atExponent (c : Cursor) : Bool := c.peek? = some 'e' || c.peek? = some 'E'

/-- The fraction of a number, at its point. -/
def fraction (c : Cursor) (negative : Bool) (digits : Nat) (dropped : Nat) : Except Misread (Number × Cursor) :=
  let c := c.next
  let ds := c.rest.takeWhile Char.isDigit
  let (digits, ignored) := significand digits ds
  if ds.isEmpty then
    if c.rest.isEmpty then .error (c.failNext .unfinishedValue) else .error (c.failNext .badNumber)
  else
    let c := c.skipDigits
    let exponent : Int := dropped - (ds.length - ignored : Nat)
    if atExponent c then exponentPart c negative digits exponent
    else scaled c negative digits exponent

/-- A number behind its sign. -/
def number (c : Cursor) (negative : Bool) : Except Misread (Number × Cursor) :=
  match c.rest with
  | [] => .error (c.failAt .unfinishedValue)
  | d :: ds =>
    if !d.isDigit then .error (c.failNext .badNumber)
    else if d = '0' && c.next.atDigit then .error (c.next.failNext .badNumber)
    else
      let (digits, dropped) := significand (d.toNat - 48) (ds.takeWhile Char.isDigit)
      let c := c.skipDigits
      if c.peek? = some '.' then fraction c negative digits dropped
      else if atExponent c then exponentPart c negative digits dropped
      else if 0 < dropped then scaled c negative digits dropped
      else if !negative then .ok (.integer digits, c)
      else if digits = 0 || Nat.pow 2 63 < digits then .ok (.float (-(Float.ofNat digits)), c)
      else .ok (.integer (-digits), c)

/-- Passes over a number behind its sign. -/
def skipNumber (c : Cursor) : Except Misread Cursor := do
  let leadingZero := c.peek? = some '0'
  if !c.atDigit then throw (c.failNext .badNumber)
  if leadingZero && c.next.atDigit then throw (c.next.failNext .badNumber)
  let c := c.skipDigits
  let c ←
    if c.peek? = some '.' then
      if c.next.atDigit then pure c.next.skipDigits else throw (c.next.failNext .badNumber)
    else pure c
  if atExponent c then
    let c := c.next
    let c := if c.peek? = some '+' || c.peek? = some '-' then c.next else c
    if c.atDigit then pure c.skipDigits else throw (c.failNext .badNumber)
  else pure c

end Vitrine.Json
