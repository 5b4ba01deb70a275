import Vitrine.Script.Entity
import Vitrine.Script.Parser.TypeExpr

/-!
# Parsing markup elements

Inside an element the text between tags is read by its own rules, so each step that consumes a mark
says how the next token is to be read.
-/

namespace Vitrine.Script.Parser

/-- Consumes a mark; the next token is text of an element if `isChild`. -/
def expectThen (m : String) (isChild : Bool) : Step Unit := do
  if ← sees m then advanceWith (if isChild then Scan.nextChild else Scan.next)
  else expectedHere m

/-- A word of markup, which may hold hyphens. -/
def markupWord : Step Name := do
  let l ← current
  match l.token with
  | .word t _ =>
    reread fun s =>
      let more := (s.rest.drop (l.stop - l.pos)).takeWhile
        (fun c => c = '-' || Text.isIdentifierPart c)
      (.word (t ++ String.ofList more) false, s.drop (l.stop - l.pos + more.length))
    let name ← anyWord
    return name
  | _ => unexpected

/-- The name of an element. -/
def tagName : Step TagName := do
  let name ← markupWord
  if ← sees ":" then
    advance
    let inner ← markupWord
    return .namespaced name.pos name.text inner.text
  if ← sees "." then
    let path ← many do
      if ← sees "." then
        advance
        return some (← markupWord).text
      return none
    return .member name.pos name.text path
  return .plain name.pos name.text

/-- How an element's name is written. -/
def tagWritten : TagName → String
  | .plain _ t => t
  | .member _ root path => String.intercalate "." (root :: path)
  | .namespaced _ space name => space ++ ":" ++ name

/-- An element that stands in braces among children; the mark keeps it apart from an element that is
a child itself. -/
def bracedChild : Expr → Expr
  | .element p tag attrs children => .paren p (.element p tag attrs children)
  | e => e

/-- An expression in braces behind its opening brace. -/
def contained (g : Grammar) (isChild : Bool) : Step (Option Expr) := do
  if ← sees "\x7d" then
    expectThen "\x7d" isChild
    return none
  let e ← withContext ({ · with allowIn := true, inMarkup := true }) g.expression
  expectThen "\x7d" isChild
  return some e

def attributeValue (g : Grammar) : Step Expr := do
  let l ← current
  match l.token with
  | .string _ raw =>
    advance
    return .literal l.pos (.string (decodeEntities raw.toList) raw) l.stop
  | .mark "\x7b" =>
    advance
    match ← contained g false with
    | some e => return e
    | none =>
      note .emptyAttribute
      return .hole
  | .mark "<" => g.markup false
  | _ => unexpected

def tagAttribute (g : Grammar) : Step Member := do
  if ← sees "\x7b" then
    let p ← pos
    advance
    expect "..."
    let e ← allowingIn g.expression
    expect "\x7d"
    return .spread p e
  let first ← markupWord
  let name : AttrName ←
    if ← sees ":" then do
      advance
      let inner ← markupWord
      pure ⟨first.pos, some first.text, inner.text⟩
    else pure ⟨first.pos, none, first.text⟩
  if ← sees "=" then
    advanceWith Scan.nextAttribute
    return .attr name (some (← attributeValue g))
  return .attr name none

/-- The closing tag behind its `</`: its name unless it closes a fragment. -/
def closingTag (isChild : Bool) : Step (Option TagName) := do
  if ← sees ">" then
    expectThen ">" isChild
    return none
  let name ← tagName
  expectThen ">" isChild
  return some name

/-- The children of an element and its closing tag. -/
def childrenAndClosing (g : Grammar) (tag : Option TagName) (isChild : Bool) :
    Step (List Expr) := do
  let (children, _) ← loop (([] : List Expr), ()) fun (acc, _) => do
    let l ← current
    match l.token with
    | .markupText raw =>
      advanceWith Scan.nextChild
      return ((.markupText l.pos raw :: acc, ()), true)
    | .mark "\x7b" =>
      advance
      if ← sees "..." then
        advance
        let e ← allowingIn g.expression
        expectThen "\x7d" true
        return ((.spread l.pos e :: acc, ()), true)
      match ← contained g true with
      | some e => return ((bracedChild e :: acc, ()), true)
      | none => return ((.hole :: acc, ()), true)
    | .mark "<" =>
      if isMark "/" (← peekToken) then
        advance
        advance
        let closing ← closingTag isChild
        match tag, closing with
        | some t, some c => if tagWritten t != tagWritten c then note (.closingTag (tagWritten t))
        | some t, none => note (.closingTag (tagWritten t))
        | none, some _ => note .closingFragment
        | none, none => pure ()
        return ((acc, ()), false)
      return ((( ← g.markup true) :: acc, ()), true)
    | _ => unexpected
  return children.reverse

/-- An element or fragment from its `<` on; the token behind it is text of an element if
`isChild`. -/
def markup (g : Grammar) (isChild : Bool) : Step Expr := do
  let p ← pos
  expect "<"
  if ← sees ">" then
    expectThen ">" true
    let children ← childrenAndClosing g none isChild
    return .element p none [] children
  let tag ← tagName
  if ← hasTypes then
    if (← sees "<") || (← sees "<<") then TypeExpr.arguments g
  let attrs ← many do
    if (← sees ">") || (← sees "/") || (← atStop) || (← sees "<") then return none
    return some (← tagAttribute g)
  if ← sees "/" then
    advance
    expectThen ">" isChild
    return .element p (some tag) attrs []
  expectThen ">" true
  let children ← childrenAndClosing g (some tag) isChild
  return .element p (some tag) attrs children

end Vitrine.Script.Parser
