import Vitrine.Script.Parser.Pattern

/-!
# Parsing functions

What functions, methods and arrow functions share: parameters, an optional type of the result, and a
body whose first statements may be directives.
-/

namespace Vitrine.Script.Parser

/-- A statement that is nothing but a string stands for a directive. -/
def directiveOf? : Stmt → Option Directive
  | .expr _ (.literal p (.string _ raw) _) => some ⟨p, raw.toList⟩
  | _ => none

/-- Statements up to the end of the text, or up to a closing brace if `inBraces`. Directives are told
apart as long as nothing else has been met. -/
def directivesAndStatements (g : Grammar) (placement : Placement) (inBraces : Bool) :
    Step (List Directive × List Stmt) := do
  let (directives, stmts) ← loop (([] : List Directive), ([] : List Stmt)) fun (ds, ss) => do
    if (← atStop) || (inBraces && (← sees "\x7d")) then return ((ds, ss), false)
    let stmt ← g.statement placement
    match ss, directiveOf? stmt with
    | [], some d => return ((d :: ds, []), true)
    | _, _ => return ((ds, stmt :: ss), true)
  return (directives.reverse, stmts.reverse)

/-- Statements in braces, and the place behind them. -/
def braced (g : Grammar) : Step (List Stmt × Nat) := do
  expect "\x7b"
  let stmts ← many do
    if (← sees "\x7d") || (← atStop) then return none
    return some (← g.statement .list)
  expect "\x7d"
  return (stmts, ← previousStop)

/-- The context of the body of a function. -/
def bodyContext (isAsync isGenerator : Bool) (c : Context) : Context :=
  { c with allowIn := true, allowAwait := isAsync, allowYield := isGenerator, allowReturn := true,
           inDecorator := false, inMarkup := false, noConditional := false }

/-- A body in braces. -/
def functionBody (g : Grammar) : Step (List Directive × List Stmt × Nat) := do
  expect "\x7b"
  let (directives, stmts) ← withContext ({ · with allowReturn := true, inMarkup := false })
    (directivesAndStatements g .list true)
  expect "\x7d"
  return (directives, stmts, ← previousStop)

/-- Everything from the type parameters of a function on. Only a script with types may leave out the
body. -/
def functionRest (g : Grammar) (info : FuncInfo) (isConstructor : Bool) : Step Expr := do
  withContext (bodyContext info.isAsync info.isGenerator) do
    let isTyped ← hasTypes
    if isTyped then
      if isConstructor && (← sees "<") then note .constructorTypes
      TypeExpr.parameters g false
    let (params, hasThis) ← parameters g isConstructor
    if isConstructor && hasThis then note .constructorThis
    if isTyped then
      if ← eat ":" then TypeExpr.returnType g
    let info := { info with hasThis }
    if ← sees "\x7b" then
      let (directives, stmts, stop) ← functionBody g
      if info.isDeclared then note .ambientBody
      return .function { info with directives, stop, hasBody := true } params stmts
    if !isTyped then unexpected
    semicolon
    return .function { info with hasBody := false } params []

/-- The name of a function, checked against the surroundings. -/
def functionName? (needsName : Bool) : Step (Option Name) := do
  if ← atName then return some (← bindingName)
  if needsName then
    match ← token with
    | .mark "(" => note .functionName
    | .word .. => expectedHere "Identifier"
    | _ => pure ()
  return none

/-- A function from the keyword on; `pos` is where it starts, perhaps with `async`. -/
def function (g : Grammar) (pos : Nat) (isAsync isExpression needsName isDeclared : Bool) :
    Step Expr := do
  expectWord "function"
  let isGenerator ← eat "*"
  let name ←
    if isExpression then
      withContext ({ · with allowAwait := isAsync, allowYield := isGenerator })
        (functionName? needsName)
    else functionName? needsName
  functionRest g { pos, name, isAsync, isGenerator, isDeclared } false

/-- Whether an async function starts here. -/
def atAsyncFunction : Step Bool := do
  if !(← atWord "async") then return false
  let next ← peek
  return isWord "function" next.token && !next.isOnNewLine

/-- A function that may start with `async`. -/
def asyncOrPlainFunction (g : Grammar) (isExpression needsName isDeclared : Bool) : Step Expr := do
  let p ← pos
  let isAsync ← atAsyncFunction
  if isAsync then advanceWord
  function g p isAsync isExpression needsName isDeclared

/-! ## Methods -/

/-- Whether the token behind the current one can continue a member that starts with a modifier. -/
def nextContinuesMember (sameLine : Bool) : Step Bool := do
  let next ← peek
  if sameLine && next.isOnNewLine then return false
  return match next.token with
    | .word .. | .privateName _ | .string .. | .number .. | .bigint _ => true
    | .mark m => ["[", "\x7b", "*", "..."].contains m
    | _ => false

def isRest : Pattern → Bool
  | .rest .. => true
  | _ => false

/-- Checks the number of parameters of an accessor. -/
def checkAccessor (kind : MethodKind) : Expr → Step Unit
  | .function _ params _ =>
    match kind with
    | .get => if params.isEmpty then pure () else note .getterParameters
    | .set =>
      match params with
      | [p] => if isRest p then note .setterRest else pure ()
      | _ => note .setterParameters
    | _ => pure ()
  | _ => pure ()

/-- The parameters and the body of a method or accessor. -/
def methodRest (g : Grammar) (kind : MethodKind) (isAsync isGenerator : Bool) : Step Expr := do
  let info : FuncInfo := { pos := ← pos, shape := .method, isAsync, isGenerator }
  let value ← functionRest g info (kind == .constructor)
  checkAccessor kind value
  return value

/-! ## Arrow functions -/

/-- Everything of an arrow function up to and with its arrow. -/
structure ArrowHead where
  pos : Nat
  isAsync : Bool
  params : List Pattern
  hasResultType : Bool

/-- The arrow itself, which must stand on the line of what it follows. -/
def arrowMark : Step Unit := do
  if (← sees "=>") && (← onNewLine) then note .newlineBeforeArrow
  expect "=>"

/-- Parenthesized parameters of an arrow function, with what may stand around them. -/
def arrowHead (g : Grammar) : Step ArrowHead := do
  let p ← pos
  let isAsync ← eatWord "async"
  let isTyped ← hasTypes
  let (params, hasResultType) ←
    withContext ({ · with allowIn := true, allowAwait := isAsync }) do
      if isTyped then TypeExpr.parameters g false
      let (params, hasThis) ← parameters g false
      if hasThis then note .arrowThis
      if isTyped && (← sees ":") then
        advance
        TypeExpr.returnType g
        return (params, true)
      return (params, false)
  arrowMark
  return ⟨p, isAsync, params, hasResultType⟩

/-- The body behind an arrow: braces or an expression. -/
def arrowBody (g : Grammar) (head : ArrowHead) (allowResultType : Bool) : Step Expr := do
  if ← sees "\x7b" then
    let (directives, stmts, stop) ←
      withContext (bodyContext head.isAsync false) (functionBody g)
    let info : FuncInfo :=
      { pos := head.pos, shape := .arrow, isAsync := head.isAsync, directives, stop }
    return .function info head.params stmts
  let value ← withContext
    ({ · with allowAwait := head.isAsync, allowYield := false, allowReturn := true })
    (g.assignment allowResultType)
  return .arrow head.pos head.isAsync head.params value

end Vitrine.Script.Parser
