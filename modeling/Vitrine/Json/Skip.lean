import Vitrine.Json.Literal

/-!
# Passing over a value

Fields that nobody asks for may hold anything that is JSON. Their values are passed over without being
kept, however deep they are nested.
-/

namespace Vitrine.Json

/-- What an open list or object is. -/
inductive Enclosing where
  | list
  | object
  deriving DecidableEq, Repr, Inhabited

def Enclosing.unfinished : Enclosing → Problem
  | list => .unfinishedList
  | object => .unfinishedObject

def Enclosing.expectedEnd : Enclosing → Problem
  | list => .expectedListEnd
  | object => .expectedObjectEnd

def Enclosing.closing : Enclosing → Char
  | list => ']'
  | object => '\x7d'

/-- Behind the key of an object and its colon. -/
def skipKey (c : Cursor) : Except Misread Cursor := do
  let c := c.skipSpace
  let c ← match c.peek? with
    | some '"' => skipString c.next
    | some _ => throw (c.failNext .keyNotText)
    | none => throw (c.failNext .unfinishedObject)
  let c := c.skipSpace
  match c.peek? with
  | some ':' => pure c.next
  | some _ => throw (c.failNext .expectedColon)
  | none => throw (c.failNext .unfinishedObject)

/-- What is passed over next: a value, or what may follow one. In a list or an object that has just been
opened no comma may follow. -/
inductive Skipping where
  | value
  | behind (comma : Bool)

/-- Passes over the rest of a value inside some open lists and objects, the innermost first. -/
def skipFrom : Nat → Skipping → List Enclosing → Cursor → Except Misread Cursor
  | 0, _, _, c => .ok c
  | n + 1, .value, open_, c => do
    let c := c.skipSpace
    match c.peek? with
    | none => throw (c.failNext .unfinishedValue)
    | some 'n' => skipFrom n (.behind true) open_ (← c.word "null".toList)
    | some 't' => skipFrom n (.behind true) open_ (← c.word "true".toList)
    | some 'f' => skipFrom n (.behind true) open_ (← c.word "false".toList)
    | some '"' => skipFrom n (.behind true) open_ (← skipString c.next)
    | some '-' => skipFrom n (.behind true) open_ (← skipNumber c.next)
    | some '[' => skipFrom n (.behind false) (.list :: open_) c.next
    | some '\x7b' => skipFrom n (.behind false) (.object :: open_) c.next
    | some _ =>
      if c.atDigit then skipFrom n (.behind true) open_ (← skipNumber c)
      else throw (c.failNext .expectedValue)
  | _ + 1, .behind _, [], c => .ok c
  | n + 1, .behind comma, e :: outer, c => do
    let c := c.skipSpace
    let item (c : Cursor) : Except Misread Cursor := if e = .object then skipKey c else .ok c
    match c.peek? with
    | none => throw (c.failNext e.unfinished)
    | some ch =>
      if ch = e.closing then skipFrom n (.behind true) outer c.next
      else if ch = ',' && comma then skipFrom n .value (e :: outer) (← item c.next)
      else if comma then throw (c.failNext e.expectedEnd)
      else skipFrom n .value (e :: outer) (← item c)

/-- Passes over a value. -/
def skipValue (c : Cursor) : Except Misread Cursor :=
  skipFrom (2 * c.rest.length + 2) .value [] c

end Vitrine.Json
