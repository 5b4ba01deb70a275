import Vitrine.Script.Parser.Module

/-!
# Parsing statements

The first token decides what a statement is; a word that is a keyword only in some places is looked
at together with the token behind it.
-/

namespace Vitrine.Script.Parser

def expressionEnd (p : Nat) (e : Expr) : Step Stmt := do
  semicolon
  return .expr p e

/-- A statement that starts like an expression: a name with a colon is a label. -/
def expressionOrLabel (g : Grammar) : Step Stmt := do
  let p ← pos
  let e ← g.expression
  if let .name q t := e then
    if ← eat ":" then return .labeled p ⟨q, t⟩ (← g.statement .label)
  expressionEnd p e

/-- An expression in parentheses. -/
def condition (g : Grammar) : Step Expr := do
  expect "("
  let e ← allowingIn g.expression
  expect ")"
  return e

def block (g : Grammar) : Step Stmt := do
  let p ← pos
  let (stmts, stop) ← braced g
  return .block p stmts stop

def ifStatement (g : Grammar) : Step Stmt := do
  let p ← pos
  advanceWord
  let test ← condition g
  let yes ← g.statement .ifBranch
  if ← eatWord "else" then return .ifElse p test yes [← g.statement .ifBranch]
  return .ifElse p test yes []

def doStatement (g : Grammar) : Step Stmt := do
  let p ← pos
  advanceWord
  let body ← g.statement .loopBody
  expectWord "while"
  let test ← condition g
  let _ ← eat ";"
  return .doWhile p body test

/-! ## `for` -/

/-- Notes what is missing from the declarations of a loop with three parts. -/
def checkLoopVariables : Stmt → Step Unit
  | .var _ kind _ items => items.forM fun
    | .declarator _ _ _ target none => checkDeclarator kind false target
    | _ => pure ()
  | _ => pure ()

/-- The rest of a loop with three parts, from the first semicolon on. -/
def forRest (g : Grammar) (p : Nat) (isAwait : Bool) (init : List Stmt) : Step Stmt := do
  expect ";"
  init.forM checkLoopVariables
  let test ←
    if (← sees ";") || (← sees ")") then pure none
    else do
      let e ← allowingIn g.expression
      pure (some e)
  expect ";"
  let update ←
    if ← sees ")" then pure none
    else do
      let e ← allowingIn g.expression
      pure (some e)
  expect ")"
  if isAwait then note .awaitLoop
  return .for p init test update (← g.statement .loopBody)

/-- The rest of a loop over something, from `in` or `of` on. -/
def forEachRest (g : Grammar) (p : Nat) (isAwait : Bool) (head : Stmt) : Step Stmt := do
  let isIn ← atWord "in"
  advanceWord
  let object ← allowingIn (if isIn then g.expression else g.assignment true)
  expect ")"
  if isAwait && isIn then note .awaitLoop
  let body ← g.statement .loopBody
  return if isIn then .forIn p head object body else .forOf p isAwait head object body

/-- A loop whose head declares variables. -/
def forDeclaration (g : Grammar) (p : Nat) (isAwait : Bool) : Step Stmt := do
  let q ← pos
  let kind ← varKind
  let items ← withContext ({ · with allowIn := false }) (declarators g .loopHead kind)
  let head := Stmt.var q kind false items
  if (← atWord "in") || (← atWord "of") then return ← forEachRest g p isAwait head
  forRest g p isAwait [head]

/-- Whether the head of a loop starts with a declaration. -/
def atLoopDeclaration : Step Bool := do
  if (← atWord "var") || (← atWord "const") then return true
  if ← atWord "let" then
    return match ← peekToken with
      | .word t _ => isNameWord t
      | .mark m => m == "[" || m == "\x7b"
      | _ => false
  atUsing

def forStatement (g : Grammar) : Step Stmt := do
  let p ← pos
  advanceWord
  let isAwait ← atWord "await"
  if isAwait then
    if !(← read).allowAwait then note .awaitPlace
    advanceWord
  expect "("
  if (← sees ";") || (← sees ")") then return ← forRest g p isAwait []
  if ← atLoopDeclaration then return ← forDeclaration g p isAwait
  let isAsyncOf ← if ← atWord "async" then pure (isWord "of" (← peekToken)) else pure false
  let q ← pos
  let e ← withContext ({ · with allowIn := false }) g.expression
  if (← atWord "in") || (← atWord "of") then
    if isAsyncOf && !isAwait && (← atWord "of") then note .loopAsync
    let target ← Target.cover (Target.ofExpr false e)
    return ← forEachRest g p isAwait (.target target)
  forRest g p isAwait [.expr q e]

/-! ## Jumps -/

/-- The label behind `break` or `continue`. -/
def jumpLabel : Step (Option Name) := do
  if ← canEnd then
    semicolon
    return none
  let l ← current
  match l.token with
  | .word t _ =>
    if !isNameWord t then unexpected
    checkName t
    advance
    semicolon
    return some ⟨l.pos, t⟩
  | _ => unexpected

def returnStatement (g : Grammar) : Step Stmt := do
  let p ← pos
  if !(← read).allowReturn then note .returnPlace
  advanceWord
  if ← canEnd then
    semicolon
    return .return p none
  let e ← allowingIn g.expression
  semicolon
  return .return p (some e)

def throwStatement (g : Grammar) : Step Stmt := do
  let p ← pos
  advanceWord
  if ← onNewLine then note (.newlineAfter "throw")
  let e ← allowingIn g.expression
  semicolon
  return .throw p e

/-! ## `switch` and `try` -/

def switchCase (g : Grammar) : Step Stmt := do
  let p ← pos
  let test ←
    if ← eatWord "default" then pure none
    else if ← eatWord "case" then do
      let e ← allowingIn g.expression
      pure (some e)
    else unexpected
  expect ":"
  let stmts ← many do
    if (← atWord "case") || (← atWord "default") || (← sees "\x7d") || (← atStop) then return none
    return some (← g.statement .list)
  return .case p test stmts

def switchStatement (g : Grammar) : Step Stmt := do
  let p ← pos
  advanceWord
  let subject ← condition g
  expect "\x7b"
  let cases ← many do
    if (← sees "\x7d") || (← atStop) then return none
    return some (← switchCase g)
  expect "\x7d"
  return .switch p subject cases (← previousStop)

def catchClause (g : Grammar) : Step Stmt := do
  advanceWord
  let param ←
    if ← eat "(" then do
      let target ← g.pattern
      if ← hasTypes then
        let _ ← TypeExpr.annotation g
      expect ")"
      pure [target]
    else pure []
  return .catch param (← block g)

def tryStatement (g : Grammar) : Step Stmt := do
  let p ← pos
  advanceWord
  let body ← block g
  let handler ← if ← atWord "catch" then pure [← catchClause g] else pure []
  let finalizer ← if ← eatWord "finally" then pure [← block g] else pure []
  if handler.isEmpty && finalizer.isEmpty then note .catchOrFinally
  return .try p [body] handler finalizer

/-! ## Declarations as statements -/

def classStatement (g : Grammar) (placement : Placement) (decos : List Expr) (p : Nat) :
    Step Stmt := do
  let c ← classRest g p decos false false
  if placement.isSingle then note .classPlacement
  return .classDecl p c

def functionStatement (g : Grammar) (placement : Placement) : Step Stmt := do
  let f ← asyncOrPlainFunction g false true false
  if placement.isSingle then
    match f with
    | .function info _ _ =>
      if info.isAsync then note .asyncPlacement
      if info.isGenerator then note .generatorPlacement
    | _ => pure ()
  return .function f

/-- A statement that starts with `let`, which may also be a name. -/
def letStatement (g : Grammar) (placement : Placement) : Step Stmt := do
  let p ← pos
  match ← peekToken with
  | .mark m =>
    if m == ";" then
      let e ← nameReference
      expressionEnd p e
    else if m == "." || m == "(" then
      let e ← g.expression
      expressionEnd p e
    else if (AssignOp.ofLexeme? m).isSome || (BinaryOp.ofLexeme? m).isSome
        || (LogicalOp.ofLexeme? m).isSome then
      let e ← g.assignment true
      expressionEnd p e
    else if placement.isSingle && m != "[" then
      let e ← nameReference
      expressionEnd p e
    else declare p
  | .word "in" _ | .word "instanceof" _ =>
    let e ← g.assignment true
    expressionEnd p e
  | _ =>
    if placement.isSingle then
      let e ← nameReference
      expressionEnd p e
    else declare p
where
  declare (_p : Nat) : Step Stmt := do
    let stmt ← varStatement g false
    if placement.isSingle then note .lexicalPlacement
    return stmt

/-- A variable declaration with a keyword that binds in blocks. -/
def lexicalStatement (g : Grammar) (placement : Placement) : Step Stmt := do
  let stmt ← varStatement g false
  if placement.isSingle then note .lexicalPlacement
  return stmt

def constStatement (g : Grammar) (placement : Placement) : Step Stmt := do
  if (← hasTypes) && isWord "enum" (← peekToken) then
    let p ← pos
    declarationRest g p [] []
  else lexicalStatement g placement

def decoratedStatement (g : Grammar) (placement : Placement) : Step Stmt := do
  let p ← pos
  let decos ← decorators g
  if ← atWord "export" then return ← exportStatement g decos
  let hasModifiers ← ahead do
    let ws ← declarationModifiers
    return !ws.isEmpty && (← atWord "class")
  if (← hasTypes) && hasModifiers then return ← declaration g p decos
  if ← atWord "class" then return ← classStatement g placement decos p
  unexpected

/-! ## All statements -/

/-- Words that may start a declaration of a script with types. -/
def typeDeclarationWords : List String :=
  ["interface", "type", "module", "namespace", "declare", "enum", "private", "protected", "public",
   "abstract", "accessor", "static", "readonly", "global"]

/-- A statement that starts with a word. -/
def wordStatement (g : Grammar) (placement : Placement) (w : String) : Step Stmt := do
  let p ← pos
  match w with
  | "if" => ifStatement g
  | "do" => doStatement g
  | "while" =>
    advanceWord
    let test ← condition g
    return .while p test (← g.statement .loopBody)
  | "for" => forStatement g
  | "continue" =>
    advanceWord
    return .continue p (← jumpLabel)
  | "break" =>
    advanceWord
    return .break p (← jumpLabel)
  | "return" => returnStatement g
  | "with" =>
    advanceWord
    let object ← condition g
    return .with p object (← g.statement .loopBody)
  | "switch" => switchStatement g
  | "throw" => throwStatement g
  | "try" => tryStatement g
  | "debugger" =>
    advanceWord
    semicolon
    return .debugger p
  | "class" => classStatement g placement [] p
  | "function" => functionStatement g placement
  | "var" => varStatement g false
  | "const" => constStatement g placement
  | "export" => exportStatement g []
  | "import" => if ← atImportExpression then expressionOrLabel g else importStatement
  | "let" => letStatement g placement
  | "async" => if ← atAsyncFunction then functionStatement g placement else expressionOrLabel g
  | _ =>
    if ← atUsing then return ← lexicalStatement g placement
    if typeDeclarationWords.contains w && (← hasTypes) && (← atTypeDeclaration) then
      return ← declaration g p []
    expressionOrLabel g

def statement (g : Grammar) (placement : Placement) : Step Stmt := do
  match ← token with
  | .word w _ => wordStatement g placement w
  | .mark "\x7b" => block g
  | .mark ";" =>
    let p ← pos
    advance
    return .empty p
  | .mark "@" => decoratedStatement g placement
  | _ => expressionOrLabel g

end Vitrine.Script.Parser
