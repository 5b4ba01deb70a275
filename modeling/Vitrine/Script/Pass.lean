import Vitrine.Script.Tree

/-!
# Passes over trees from the leaves up

A `Pass` says what becomes of an expression, of a pattern, of the members of a class or an object and
of a list of statements, each when the pass has been over everything inside it. So a pass only speaks
of the nodes that it changes. Property names that are plain words are no expressions and stay.
-/

namespace Vitrine.Script

/-- What becomes of nodes when the pass has been over their parts. -/
structure Pass where
  expr : Expr → Expr := id
  /-- An expression in parentheses: its place, what it was, and what it has become. -/
  paren : Nat → Expr → Expr → Expr := fun p _ e => .paren p e
  pattern : Pattern → Pattern := id
  members : List Member → List Member := id
  stmts : List Stmt → List Stmt := id

namespace Pass

/-- A statement in a place that holds exactly one. -/
def single (r : Pass) (s : Stmt) : Stmt :=
  match r.stmts [s] with
  | [t] => t
  | ts => .block 0 ts 0

section

variable (r : Pass)

mutual

def onExpr : Expr → Expr
  | .name p t => r.expr (.name p t)
  | .privateName p t => r.expr (.privateName p t)
  | .thisRef p => r.expr (.thisRef p)
  | .superRef p => r.expr (.superRef p)
  | .literal p v stop => r.expr (.literal p v stop)
  | .template p parts holes => r.expr (.template p parts (onExprs holes))
  | .tagged tag parts holes => r.expr (.tagged (onExpr tag) parts (onExprs holes))
  | .array p items => r.expr (.array p (onExprs items))
  | .object p ms => r.expr (.object p (r.members (onMembers ms)))
  | .function info params body =>
    r.expr (.function info (onPatterns params) (r.stmts (onStmts body)))
  | .arrow p isAsync params value => r.expr (.arrow p isAsync (onPatterns params) (onExpr value))
  | .class info decorators parent ms =>
    r.expr (.class info (onExprs decorators) (onOption parent) (r.members (onMembers ms)))
  | .unary p op e => r.expr (.unary p op (onExpr e))
  | .update p op isBefore e => r.expr (.update p op isBefore (onExpr e))
  | .binary op a b => r.expr (.binary op (onExpr a) (onExpr b))
  | .logical op a b => r.expr (.logical op (onExpr a) (onExpr b))
  | .assign op t e => r.expr (.assign op (onPattern t) (onExpr e))
  | .conditional t y n => r.expr (.conditional (onExpr t) (onExpr y) (onExpr n))
  | .sequence es => r.expr (.sequence (onExprs es))
  | .call callee args isOptional isPure stop =>
    r.expr (.call (onExpr callee) (onExprs args) isOptional isPure stop)
  | .new p callee args isPure stop => r.expr (.new p (onExpr callee) (onExprs args) isPure stop)
  | .member o name isOptional => r.expr (.member (onExpr o) name isOptional)
  | .index o key isOptional => r.expr (.index (onExpr o) (onExpr key) isOptional)
  | .privateMember o name isOptional => r.expr (.privateMember (onExpr o) name isOptional)
  | .chain e => r.expr (.chain (onExpr e))
  | .yield p isDelegate e => r.expr (.yield p isDelegate (onOption e))
  | .await p e => r.expr (.await p (onExpr e))
  | .importCall p phase source options stop =>
    r.expr (.importCall p phase (onExpr source) (onOption options) stop)
  | .metaProperty p o name => r.expr (.metaProperty p o name)
  | .paren p e => r.paren p e (onExpr e)
  | .typed p form e => r.expr (.typed p form (onExpr e))
  | .spread p e => r.expr (.spread p (onExpr e))
  | .hole => .hole
  | .element p tag attrs children => r.expr (.element p tag (onMembers attrs) (onExprs children))
  | .markupText p raw => .markupText p raw

def onExprs : List Expr → List Expr
  | [] => []
  | e :: es => onExpr e :: onExprs es

def onOption : Option Expr → Option Expr
  | none => none
  | some e => some (onExpr e)

def onPattern : Pattern → Pattern
  | .name p t => r.pattern (.name p t)
  | .place e => r.pattern (.place (onExpr e))
  | .object p fields => r.pattern (.object p (onPatterns fields))
  | .array p items => r.pattern (.array p (onPatterns items))
  | .hole => .hole
  | .rest p t => r.pattern (.rest p (onPattern t))
  | .field p isShorthand isComputed key t =>
    r.pattern (.field p isShorthand isComputed (if isComputed then onExpr key else key)
      (onPattern t))
  | .fallback t e => r.pattern (.fallback (onPattern t) (onExpr e))
  | .param p info decorators t => r.pattern (.param p info (onExprs decorators) (onPattern t))
  | .declarator p isDefinite hasType t e =>
    r.pattern (.declarator p isDefinite hasType (onPattern t) (onOption e))

def onPatterns : List Pattern → List Pattern
  | [] => []
  | p :: ps => onPattern p :: onPatterns ps

def onMember : Member → Member
  | .property p isComputed key value => 
    .property p isComputed (if isComputed then onExpr key else key) (onExpr value)
  | .shorthand p t => .shorthand p t
  | .covered p t e => .covered p t (onExpr e)
  | .method p decorators mods kind isComputed key value =>
    .method p (onExprs decorators) mods kind isComputed (if isComputed then onExpr key else key)
      (onExpr value)
  | .field p decorators mods isComputed hasType key value =>
    .field p (onExprs decorators) mods isComputed hasType
      (if isComputed then onExpr key else key) (onOption value)
  | .spread p e => .spread p (onExpr e)
  | .staticBlock p ss stop => .staticBlock p (r.stmts (onStmts ss)) stop
  | .indexSignature p => .indexSignature p
  | .enumMember p name value => .enumMember p name (onOption value)
  | .attr name value => .attr name (onOption value)

def onMembers : List Member → List Member
  | [] => []
  | m :: ms => onMember m :: onMembers ms

def onStmt : Stmt → Stmt
  | .empty p => .empty p
  | .expr p e => .expr p (onExpr e)
  | .target t => .target (onPattern t)
  | .block p ss stop => .block p (r.stmts (onStmts ss)) stop
  | .var p kind isDeclared items => .var p kind isDeclared (onPatterns items)
  | .function e => .function (onExpr e)
  | .classDecl p e => .classDecl p (onExpr e)
  | .ifElse p test yes no =>
    .ifElse p (onExpr test) (r.single (onStmt yes)) (r.stmts (onStmts no))
  | .for p init test update body =>
    .for p (onStmts init) (onOption test) (onOption update) (r.single (onStmt body))
  | .forIn p head o body => .forIn p (onStmt head) (onExpr o) (r.single (onStmt body))
  | .forOf p isAwait head o body =>
    .forOf p isAwait (onStmt head) (onExpr o) (r.single (onStmt body))
  | .while p test body => .while p (onExpr test) (r.single (onStmt body))
  | .doWhile p body test => .doWhile p (r.single (onStmt body)) (onExpr test)
  | .continue p label => .continue p label
  | .break p label => .break p label
  | .return p e => .return p (onOption e)
  | .with p o body => .with p (onExpr o) (r.single (onStmt body))
  | .switch p subject cases stop => .switch p (onExpr subject) (onStmts cases) stop
  | .case p test ss => .case p (onOption test) (r.stmts (onStmts ss))
  | .labeled p label body => .labeled p label (r.single (onStmt body))
  | .throw p e => .throw p (onExpr e)
  | .try p body handler finalizer =>
    .try p (onStmts body) (onStmts handler) (onStmts finalizer)
  | .catch ps body => .catch (onPatterns ps) (onStmt body)
  | .debugger p => .debugger p
  | .importFrom p isType phase bindings source attributes =>
    .importFrom p isType phase bindings source attributes
  | .exportAll p isType name source attributes => .exportAll p isType name source attributes
  | .exportNames p isType items source attributes => .exportNames p isType items source attributes
  | .exportDecl p s => .exportDecl p (onStmt s)
  | .exportDefault p s => .exportDefault p (onStmt s)
  | .typeDecl p kind name isDeclared => .typeDecl p kind name isDeclared
  | .enumDecl p isConst isDeclared name ms => .enumDecl p isConst isDeclared name (onMembers ms)
  | .namespace p isDeclared name ss => .namespace p isDeclared name (r.stmts (onStmts ss))
  | .ambientModule p ss => .ambientModule p (r.stmts (onStmts ss))
  | .importAlias p isType name target => .importAlias p isType name target
  | .exportAssign p e => .exportAssign p (onExpr e)
  | .exportNamespace p => .exportNamespace p

def onStmts : List Stmt → List Stmt
  | [] => []
  | s :: ss => onStmt s :: onStmts ss

end

end

end Pass

/-- The script when a pass has been over it. -/
def Program.run (r : Pass) (p : Program) : Program :=
  { p with stmts := r.stmts (r.onStmts p.stmts) }

end Vitrine.Script
