import Vitrine.Script.Parser.Class
import Vitrine.Script.Parser.Markup

/-!
# Parsing expressions

From the tightest to the loosest: primary expressions, member access and calls, updates and unary
operators, binary operators by strength, conditionals, arrow functions and assignments. An arrow
function with parameters in parentheses is found by looking ahead; where this does not decide, it is
tried first.
-/

namespace Vitrine.Script.Parser

/-! ## Literals -/

/-- Reads a regular expression at a slash. One with a fault is no expression, and inside markup its
last fault is not reported on its own. -/
def regex : Step Expr := do
  let s ← get
  let (token, scan) := (atCurrent s).regex
  let p ← pos
  if scan.faults.length != s.scan.faults.length then
    let faults := if (← read).inMarkup then scan.faults.drop 1 else scan.faults
    modify fun s => { s with scan := { s.scan with faults } }
    unexpected
  match token with
  | .regex pattern flags =>
    set { s with current := { s.current with token, stop := scan.pos }, scan }
    let stop := scan.pos
    advance
    return .literal p (.regex pattern flags) stop
  | _ => unexpected

/-- Notes a malformed escape where a template has no tag. -/
def checkPart (isTagged : Bool) (part : TemplatePart) : Step Unit :=
  if !isTagged && part.cooked.isNone then note .badTemplateEscape else pure ()

/-- The parts of a template from its first piece on. -/
def template (g : Grammar) (isTagged : Bool) : Step (List TemplatePart × List Expr) := do
  match ← token with
  | .templateWhole part =>
    checkPart isTagged part
    advance
    return ([part], [])
  | .templateHead part =>
    checkPart isTagged part
    advance
    let (parts, holes) ← loop ([part], ([] : List Expr)) fun (parts, holes) => do
      let filling ← allowingIn g.expression
      if ← sees "\x7d" then
        reread fun s => s.bump.template .templateTail .templateMiddle
      match ← token with
      | .templateTail part =>
        checkPart isTagged part
        advance
        return ((part :: parts, filling :: holes), false)
      | .templateMiddle part =>
        checkPart isTagged part
        advance
        return ((part :: parts, filling :: holes), true)
      | .undetermined => unexpected
      | _ => expectedHere "$\x7b\x7d"
    return (parts.reverse, holes.reverse)
  | _ => unexpected

/-! ## Primary expressions -/

def parenthesized (g : Grammar) : Step Expr := do
  let p ← pos
  expect "("
  let (items, trailing) ← withContext ({ · with allowIn := true, inDecorator := false })
    (delimited ")" (g.assignment true))
  if trailing then throw (.expected ")" ",")
  expect ")"
  match items with
  | [] => throw .emptyParens
  | [e] => return .paren p e
  | es => return .paren p (.sequence es)

def arrayItem (g : Grammar) : Step Expr := do
  if ← sees "," then return .hole
  let p ← pos
  if ← eat "..." then return .spread p (← allowingIn (g.assignment true))
  allowingIn (g.assignment true)

def array (g : Grammar) : Step Expr := do
  let p ← pos
  expect "["
  let (items, trailing) ← withContext ({ · with inDecorator := false })
    (delimited "]" (arrayItem g))
  if trailing then modify fun s => { s with trailing := p :: s.trailing }
  expect "]"
  return .array p items

/-- A call of `import` behind the word and its phase. -/
def importCall (g : Grammar) (p : Nat) (phase : Option String) : Step Expr := do
  expect "("
  if ← sees ")" then throw .importSpecifier
  let source ← allowingIn (g.assignment true)
  let options ←
    if ← eat "," then
      if ← sees ")" then pure none
      else do
        let e ← allowingIn (g.assignment true)
        let _ ← eat ","
        pure (some e)
    else pure none
  if !(← sees ")") then throw .importArguments
  advance
  return .importCall p phase source options (← previousStop)

def importExpression (g : Grammar) : Step Expr := do
  let p ← pos
  expectWord "import"
  if ← eat "." then
    if ← eatWord "meta" then return .metaProperty p "import" "meta"
    if ← eatWord "source" then return ← importCall g p (some "source")
    if ← eatWord "defer" then return ← importCall g p (some "defer")
    throw .importMeta
  if ← sees "(" then return ← importCall g p none
  unexpected

def arguments (g : Grammar) : Step (List Expr) := do
  expect "("
  let (items, _) ← withContext ({ · with allowIn := true, inDecorator := false })
    (delimited ")" do
      let p ← pos
      if ← eat "..." then return .spread p (← g.assignment true)
      g.assignment true)
  expect ")"
  return items

def newExpression (g : Grammar) : Step Expr := do
  let p ← pos
  expectWord "new"
  if ← eat "." then
    if ← eatWord "target" then return .metaProperty p "new" "target"
    throw .newMeta
  let callee ← g.newCallee
  let callee := match callee with
    | .typed _ .instantiation e => e
    | e => e
  if ← sees "?." then throw .newChain
  let args ← if ← sees "(" then arguments g else pure []
  if let .importCall .. := callee then note .newImport
  return .new p callee args false (← previousStop)

def superExpression : Step Expr := do
  let p ← pos
  expectWord "super"
  if !((← sees ".") || (← sees "(") || (← sees "[")) then note .superUse
  return .superRef p

def nameReference : Step Expr := do
  let l ← current
  match l.token with
  | .word t _ =>
    if isNameWord t then
      checkName t
      advance
      return .name l.pos t
    else unexpected
  | _ => unexpected

/-- An expression that starts with a word. -/
def wordExpression (g : Grammar) (w : String) : Step Expr := do
  let l ← current
  match w with
  | "this" =>
    advanceWord
    return .thisRef l.pos
  | "null" =>
    advanceWord
    return .literal l.pos .null l.stop
  | "true" =>
    advanceWord
    return .literal l.pos (.bool true) l.stop
  | "false" =>
    advanceWord
    return .literal l.pos (.bool false) l.stop
  | "function" => function g l.pos false true false false
  | "class" => classRest g l.pos [] false false
  | "super" => superExpression
  | "import" => importExpression g
  | "new" => newExpression g
  | "async" =>
    if ← atAsyncFunction then asyncOrPlainFunction g true false false else nameReference
  | _ => nameReference

def primary (g : Grammar) : Step Expr := do
  let l ← current
  match l.token with
  | .word w _ => wordExpression g w
  | .number value raw _ =>
    advance
    return .literal l.pos (.number value raw) l.stop
  | .bigint digits =>
    advance
    return .literal l.pos (.bigint digits) l.stop
  | .string value raw =>
    advance
    return .literal l.pos (.string value raw) l.stop
  | .templateWhole _ | .templateHead _ =>
    let (parts, holes) ← template g false
    return .template l.pos parts holes
  | .mark "(" => parenthesized g
  | .mark "[" => array g
  | .mark "\x7b" => object g
  | .mark "/" | .mark "/=" => regex
  | .mark "@" =>
    let decos ← decorators g
    if ← atWord "class" then classRest g l.pos decos false false else unexpected
  | _ => unexpected

/-! ## Member access and calls -/

/-- An expression under construction; the flag says whether an optional link has been met. -/
abbrev Linked := Expr × Bool

/-- Whether type arguments can be read here, so that the expression in front keeps its meaning. -/
def typeArguments (g : Grammar) : Step Bool := do
  if !(← hasTypes) then return false
  if !((← sees "<") || (← sees "<<")) then return false
  return (← attempt (TypeExpr.argumentsInExpression g)).isSome

/-- The name behind a dot. -/
def memberName (object : Expr) (isOptional : Bool) : Step Expr := do
  match ← token with
  | .privateName t =>
    advance
    if let .superRef _ := object then note .superPrivate
    return .privateMember object t isOptional
  | .word t _ =>
    advance
    return .member object t isOptional
  | _ => unexpected

def indexExpression (g : Grammar) (object : Expr) (isOptional : Bool) : Step Expr := do
  expect "["
  let key ← withContext ({ · with allowIn := true, inDecorator := false }) g.expression
  expect "]"
  return .index object key isOptional

def taggedTemplate (g : Grammar) (tag : Expr) (hasChain : Bool) : Step Expr := do
  let (parts, holes) ← template g true
  if hasChain then note .taggedChain
  return .tagged tag parts holes

/-- One link behind a member expression, if there is one; `allowsOptional` admits those with `?.`. -/
def memberLink (g : Grammar) (allowsOptional : Bool) : Linked → Step (Linked × Bool) :=
    fun (e, hasChain) => do
  let inDecorator := (← read).inDecorator
  match ← token with
  | .mark "." =>
    advance
    return ((← memberName e false, hasChain), true)
  | .mark "?." =>
    if !allowsOptional then return ((e, hasChain), false)
    match ← peekToken with
    | .mark "[" =>
      if inDecorator then return ((e, hasChain), false)
      advance
      return ((← indexExpression g e true, true), true)
    | .word .. | .privateName _ =>
      advance
      return ((← memberName e true, true), true)
    | _ => return ((e, hasChain), false)
  | .mark "[" =>
    if inDecorator then return ((e, hasChain), false)
    return ((← indexExpression g e false, hasChain), true)
  | .mark "!" =>
    if (← hasTypes) && !(← onNewLine) then
      let p ← pos
      advance
      return ((.typed p .nonNull e, hasChain), true)
    return ((e, hasChain), false)
  | .templateWhole _ | .templateHead _ =>
    return ((← taggedTemplate g e hasChain, hasChain), true)
  | .mark "<" | .mark "<<" =>
    let p ← pos
    if ← typeArguments g then return ((.typed p .instantiation e, hasChain), true)
    return ((e, hasChain), false)
  | _ => return ((e, hasChain), false)

/-- The links behind a member expression. -/
def memberLinks (g : Grammar) (allowsOptional : Bool) (start : Linked) : Step Linked :=
  loop start (memberLink g allowsOptional)

/-- A call of what stands in front. Type arguments there belong to the call. -/
def callOf (g : Grammar) (callee : Expr) (isOptional : Bool) : Step Expr := do
  let callee := match callee, isOptional with
    | .typed _ .instantiation e, false => e
    | e, _ => e
  let args ← arguments g
  return .call callee args isOptional false (← previousStop)

/-- Member links and calls in turn. -/
def callLinks (g : Grammar) (start : Linked) : Step Linked :=
  loop start fun linked => do
    let (e, hasChain) ← memberLinks g true linked
    let isOptional ← eat "?."
    let hasChain := hasChain || isOptional
    if isOptional then
      let hasTypeArguments ← typeArguments g
      match ← token with
      | .templateWhole _ | .templateHead _ =>
        return ((← taggedTemplate g e true, hasChain), true)
      | .mark "(" => return ((← callOf g e true, hasChain), true)
      | _ => if hasTypeArguments then expectedHere "(" else unexpected
    if ← sees "(" then return ((← callOf g e false, hasChain), true)
    return ((e, hasChain), false)

/-- Marks the call at the left end of an expression as free of effects. -/
def markPure : Expr → Expr
  | .call callee args isOptional _ stop => .call callee args isOptional true stop
  | .new p callee args _ stop => .new p callee args true stop
  | .chain e => .chain (markPure e)
  | .paren p e => .paren p (markPure e)
  | e => e

/-- Closes a chain of optional links; type arguments at its end stay outside. -/
def closeChain : Linked → Expr
  | (.typed p .instantiation e, true) => .typed p .instantiation (.chain e)
  | (e, true) => .chain e
  | (e, false) => e

/-- An expression that may stand left of an assignment, as far as its shape goes. -/
def leftHand (g : Grammar) : Step Expr := do
  let isPure := (← current).isPure
  let start ← primary g
  let linked ← callLinks g (start, false)
  let e := closeChain linked
  return if isPure then markPure e else e

/-- What `new` makes an instance of: it has no optional links. -/
def newCallee (g : Grammar) : Step Expr := do
  let start ← primary g
  return (← memberLinks g false (start, false)).1

/-! ## Unary operators -/

def unaryOps : List UnaryOp := [.minus, .plus, .not, .bitNot, .typeOf, .void, .delete]

/-- The unary operator at the current token. -/
def atUnary : Step (Option UnaryOp) := do
  match ← token with
  | .mark m => return unaryOps.find? (fun op => op.lexeme == m)
  | .word w _ => return unaryOps.find? (fun op => op.lexeme == w)
  | _ => return none

/-- Whether a word such as `await` is followed by an operand on its line. -/
def nextIsOperand : Step Bool := do
  let next ← peek
  return !next.isOnNewLine && match next.token with
    | .word .. | .string .. | .number .. | .bigint _ | .regex .. => true
    | .templateWhole _ | .templateHead _ => true
    | _ => false

def atAwait : Step Bool := do
  if !(← atWord "await") then return false
  if (← read).allowAwait then return true
  nextIsOperand

def awaitExpression (g : Grammar) : Step Expr := do
  let p ← pos
  if !(← read).allowAwait then note .awaitPlace
  advanceWord
  let arg ← withContext ({ · with allowAwait := true }) g.simpleUnary
  return .await p arg

/-- A unary expression that starts with an operator, `await` or a type in angle brackets. -/
def simpleUnary (g : Grammar) : Step Expr := do
  if let some op ← atUnary then
    let p ← pos
    if let .word .. ← token then advanceWord else advance
    return .unary p op (← g.simpleUnary)
  if (← sees "<") && !(← hasMarkup) then
    let p ← pos
    advance
    g.type
    expect ">"
    return .typed p .angle (← g.simpleUnary)
  if ← atAwait then return ← awaitExpression g
  g.unary

/-- Whether markup starts at the current bracket. -/
def atMarkup : Step Bool := do
  if !(← hasMarkup) || !(← sees "<") then return false
  return match ← peekToken with
    | .word .. => true
    | .mark m => m == ">"
    | _ => false

def atUpdate : Step (Option UpdateOp) := do
  match ← token with
  | .mark "++" => return some .increment
  | .mark "--" => return some .decrement
  | _ => return none

/-- An expression with `++` or `--` before or behind it, or without. -/
def updateExpression (g : Grammar) : Step Expr := do
  let p ← pos
  if let some op ← atUpdate then
    advance
    let arg ← g.unary
    let _ ← Target.cover (Target.simple arg)
    return .update p op true arg
  if ← atMarkup then return ← g.markup false
  let e ← g.leftHand
  if let some op ← atUpdate then
    if !(← onNewLine) then
      let _ ← Target.cover (Target.simple e)
      advance
      return .update p op false e
  return e

/-- Whether a simple unary expression starts here rather than an update. -/
def atSimpleUnary : Step Bool := do
  if (← atUnary).isSome then return true
  if (← sees "<") && !(← hasMarkup) then return true
  atAwait

/-- Any unary expression. A power of one needs parentheses. -/
def unary (g : Grammar) : Step Expr := do
  if ← atSimpleUnary then
    let e ← simpleUnary g
    if ← sees "**" then note .unparenthesizedPower
    return e
  updateExpression g

/-! ## Binary operators -/

/-- Reads the whole operator where only its first bracket has been read so far. -/
def rereadAngle : Step Unit := do
  if ← sees ">" then reread Scan.angle

/-- What stands between two operands. -/
inductive Infix where
  | binary (op : BinaryOp)
  | logical (op : LogicalOp)
  | typeForm (form : TypeForm)

def Infix.strength : Infix → Strength
  | binary op => op.strength
  | logical op => op.strength
  | typeForm _ => .comparison

/-- The operator at the current token. -/
def infix? : Step (Option Infix) := do
  rereadAngle
  match ← token with
  | .mark m =>
    return ((BinaryOp.ofLexeme? m).map .binary).or ((LogicalOp.ofLexeme? m).map .logical)
  | .word w _ =>
    if w == "in" then return if (← read).allowIn then some (.binary .memberOf) else none
    if w == "instanceof" then return some (.binary .instanceOf)
    if ← onNewLine then return none
    if w == "as" then return some (.typeForm .assertion)
    if w == "satisfies" then return some (.typeForm .satisfaction)
    return none
  | _ => return none

def isAndOr : Expr → Bool
  | .logical op _ _ => op != .coalesce
  | _ => false

/-- The type behind `as` or `satisfies`. -/
def typeOperand (g : Grammar) (form : TypeForm) : Step Unit := do
  if form == .assertion && (← atWord "const") then advance else g.type
  if !(← hasTypes) then
    note (.typesOnly (if form == .assertion then "Type assertion expressions"
      else "Type satisfaction expressions"))

/-- Operators that bind more tightly than `least`, and their right operands. -/
def infixRest (g : Grammar) (least : Strength) (start : Expr) : Step Expr :=
  loop start fun left => do
    match ← infix? with
    | none => return (left, false)
    | some op =>
      let isRightToLeft := match op with
        | .binary .power => true
        | _ => false
      let strength := op.strength
      if strength < least || (strength = least && !isRightToLeft) then return (left, false)
      let p ← pos
      advanceWord
      match op with
      | .typeForm form =>
        typeOperand g form
        return (.typed p form left, true)
      | .binary op => return (.binary op left (← g.binary strength), true)
      | .logical op =>
        let right ← g.binary strength
        if op == .coalesce && (isAndOr right || isAndOr left) then note .mixedCoalesce
        return (.logical op left right, true)

/-- An operand and the operators behind it that bind more tightly than `least`. -/
def binary (g : Grammar) (least : Strength) : Step Expr := do
  let l ← current
  match l.token with
  | .privateName t =>
    advance
    expectWord "in"
    let right ← g.binary .comparison
    if let .binary .memberOf (.privateName ..) _ := right then throw .privateOperand
    infixRest g least (.binary .memberOf (.privateName l.pos t) right)
  | _ => infixRest g least (← g.unary)

/-! ## Arrow functions -/

/-- What looking ahead says about an arrow function. -/
inductive Verdict where
  | yes | no | perhaps

/-- Looks behind `<` for the type parameters of an arrow function. -/
def judgeTypeParameters : Step Verdict := do
  if !(← atName) && !(← atWord "const") then return .no
  if !(← hasMarkup) then return .perhaps
  if ← atWord "const" then advance
  advance
  if ← atWord "extends" then
    advance
    if (← sees "=") || (← sees ">") || (← sees "/") then return .no
    return .yes
  if (← sees ",") || (← sees "=") then return .yes
  return .no

/-- Looks behind `(` for the parameters of an arrow function. -/
def judgeParameters : Step Verdict := do
  if ← sees ")" then
    advance
    if (← sees "=>") || (← sees ":") || (← sees "\x7b") then return .yes
    return .no
  if (← sees "[") || (← sees "\x7b") then return .perhaps
  if ← sees "..." then return .yes
  let isModifier := match ← token with
    | .word w _ => (parameterModifiers ++ ["declare", "abstract", "static", "accessor"]).contains w
    | _ => false
  if isModifier && isNameToken (← peekToken) then
    advance
    if ← atWord "as" then return .no
    return .yes
  if !(← atName) && !(← atWord "this") then return .no
  advance
  match ← token with
  | .mark ":" => return .yes
  | .mark "?" =>
    advance
    if (← sees ":") || (← sees ",") || (← sees "=") || (← sees ")") then return .yes
    return .no
  | .mark "," | .mark "=" | .mark ")" => return .perhaps
  | _ => return .no

/-- Whether an arrow function with parenthesized parameters starts here. -/
def judgeArrow : Step Verdict := do
  if !((← sees "(") || (← sees "<") || (← atWord "async")) then return .no
  ahead do
    if ← atWord "async" then
      advance
      if (← onNewLine) || !((← sees "(") || (← sees "<")) then return .no
    if ← eat "(" then judgeParameters
    else
      advance
      judgeTypeParameters

/-- Tries an arrow function. Where a type of the result may also belong to a conditional around it,
that conditional must go on behind it. -/
def possibleArrow (g : Grammar) (allowResultType : Bool) : Step (Option Expr) := do
  let start ← get
  match ← attempt (arrowHead g) with
  | none => return none
  | some head =>
    let e ← arrowBody g head allowResultType
    if !allowResultType && head.hasResultType && !(← sees ":") then
      set start
      return none
    return some e

/-- `async x => …`. -/
def asyncSimpleArrow (g : Grammar) (allowResultType : Bool) : Step (Option Expr) := do
  if !(← atWord "async") then return none
  let next ← peek
  if next.isOnNewLine || !isNameToken next.token then return none
  let isArrow ← ahead do
    advance
    advance
    return (← sees "=>") && !(← onNewLine)
  if !isArrow then return none
  let p ← pos
  advanceWord
  let name ← withContext ({ · with allowAwait := true }) bindingName
  arrowMark
  let params := [.param name.pos {} [] (.name name.pos name.text)]
  return some (← arrowBody g ⟨p, true, params, false⟩ allowResultType)

/-! ## Assignments -/

def atYield : Step Bool := do
  if !(← atWord "yield") then return false
  if (← read).allowYield then return true
  nextIsOperand

def yieldExpression (g : Grammar) : Step Expr := do
  let p ← pos
  if !(← read).allowYield then note .yieldPlace
  advanceWord
  if ← onNewLine then return .yield p false none
  let isDelegate ← eat "*"
  let ends ← match ← token with
    | .stop => pure true
    | .mark m => pure ([";", "\x7d", ")", "]", ",", ":"].contains m)
    | .word w _ => pure (w == "in")
    | _ => pure false
  if ends && !isDelegate then return .yield p false none
  return .yield p isDelegate (some (← g.assignment true))

/-- The assignment operator at the current token. -/
def assignOp? : Step (Option AssignOp) := do
  match ← token with
  | .mark m => return AssignOp.ofLexeme? m
  | _ => return none

/-- The branches of a conditional, if one follows. -/
def conditionalRest (g : Grammar) (test : Expr) (allowResultType : Bool) : Step Expr := do
  if !(← eat "?") then return test
  let yes ← allowingIn (g.assignment false)
  expect ":"
  let no ← g.assignment allowResultType
  return .conditional test yes no

/-- An assignment, an arrow function, or anything that binds more tightly. -/
def assignment (g : Grammar) (allowResultType : Bool) : Step Expr := do
  if ← atYield then return ← yieldExpression g
  match ← judgeArrow with
  | .yes => return ← arrowBody g (← arrowHead g) true
  | .perhaps => if let some e ← possibleArrow g allowResultType then return e
  | .no => pure ()
  if let some e ← asyncSimpleArrow g allowResultType then return e
  let left ← binary g .lowest
  if let .name p t := left then
    if ← sees "=>" then
      arrowMark
      let params := [.param p {} [] (.name p t)]
      return ← arrowBody g ⟨p, false, params, false⟩ allowResultType
  match ← assignOp? with
  | some op =>
    let target ← Target.cover (Target.ofExpr false left)
    advance
    return .assign op target (← g.assignment allowResultType)
  | none => conditionalRest g left allowResultType

/-- One or more assignments with commas between them. -/
def expression (g : Grammar) : Step Expr := do
  let first ← withContext ({ · with inDecorator := false }) (g.assignment true)
  if !(← sees ",") then return first
  let rest ← many do
    if ← eat "," then return some (← g.assignment true)
    return none
  return .sequence (first :: rest)

end Vitrine.Script.Parser
