import Vitrine.Script.Erasure.Alias
import Vitrine.Script.Erasure.Enum
import Vitrine.Script.Erasure.Module

/-!
# Erasing types

What concerns types alone goes away: annotations and assertions, type declarations, overloads,
declarations of what others provide, abstract members and modifiers. What types add to the running
script is written out: enumerations, fields made from constructor parameters, import aliases.

Namespaces are opened before. Imports and exports are left alone here, because whether they stay
depends on the whole script.
-/

namespace Vitrine.Script

namespace Erasure

/-! ## Expressions and patterns -/

def isFunctionExpr : Expr → Bool
  | .function .. | .arrow .. => true
  | _ => false

/-- What stands inside parentheses, except that a function keeps the innermost pair. -/
def unwrapped : Expr → Expr
  | .paren p e => if isFunctionExpr e then .paren p e else unwrapped e
  | e => e

def isTyped : Expr → Bool
  | .typed .. => true
  | _ => false

/-- Parentheses around an assertion go away if a function remains in them. -/
def erasedParen (pos : Nat) (before after : Expr) : Expr :=
  if isTyped before && isFunctionExpr after then after else .paren pos after

def erasedExpr : Expr → Expr
  | .typed _ _ e => unwrapped e
  | e => e

/-- An assigned place that turns out to be a plain name. -/
def erasedPlace (e : Expr) : Pattern :=
  match unwrapped e with
  | .name p t => .name p t
  | e => .place e

def erasedPattern : Pattern → Pattern
  | .place e => erasedPlace e
  | .declarator p _ _ t e => .declarator p false false t e
  | p => p

/-! ## Class members -/

/-- The name that a parameter binds, if it also makes a field. -/
def fieldNames : Pattern → List String
  | .param _ info _ t => if info.isProperty then match t with
      | .name _ n => [n]
      | .fallback (.name _ n) _ => [n]
      | _ => []
    else []
  | _ => []

def plainParam : Pattern → Pattern
  | .param p _ decorators t => .param p {} decorators t
  | p => p

def isSuperCall : Stmt → Bool
  | .expr _ (.call (.superRef _) _ _ _ _) => true
  | _ => false

/-- Statements behind the call of the parent's constructor, or first if there is none. -/
def insertAfterSuper (added body : List Stmt) : List Stmt :=
  if body.any isSuperCall then
    let before := body.takeWhile (!isSuperCall ·)
    let rest := body.drop before.length
    before ++ rest.take 1 ++ added ++ rest.drop 1
  else added ++ body

/-- The assignment that makes a field from the parameter of its name. -/
def fieldStmt (name : String) : Stmt :=
  .expr 0 (Build.assign (.member (.thisRef 0) name false) (Build.name name))

/-- A constructor whose parameters only are parameters. -/
def erasedConstructor : Expr → Expr
  | .function info params body =>
    .function info (params.map plainParam)
      (insertAfterSuper ((params.flatMap fieldNames).map fieldStmt) body)
  | e => e

def hasBody : Expr → Bool
  | .function info _ _ => info.hasBody
  | _ => true

/-- The modifiers that mean something to a running script. -/
def plainModifiers (m : Modifiers) : Modifiers :=
  { isStatic := m.isStatic, isAccessor := m.isAccessor }

def erasedMember : Member → List Member
  | .method p decorators mods kind isComputed key value =>
    if mods.isAbstract || !hasBody value then []
    else
      [.method p decorators (plainModifiers mods) kind isComputed key
        (if kind == .constructor then erasedConstructor value else value)]
  | .field p decorators mods isComputed _ key value =>
    if mods.isAbstract || mods.isDeclared then []
    else [.field p decorators (plainModifiers mods) isComputed false key value]
  | .indexSignature _ => []
  | m => [m]

/-! ## Statements -/

/-- The names that a statement declares before the ones behind it. -/
def namesBefore (s : Stmt) : List String :=
  s.lexicalNames ++ Node.ownVars (.stmt s) ++ match s with
    | .importFrom _ _ _ (some bindings) _ _ => bindings.map (·.bound.text)
    | _ => []

def factsAt (facts : List EnumFacts) (name : Name) : EnumFacts :=
  (facts.find? (·.pos == name.pos)).getD ⟨name.pos, [], true⟩

def erasedClass : Stmt → Stmt
  | .classDecl p (.class info decorators parent ms) =>
    .classDecl p (.class { info with isAbstract := false } decorators parent ms)
  | s => s

/-- What a statement becomes; `earlier` are the names declared before it in its list. -/
def erasedStmt (facts : List EnumFacts) (isTop : Bool) (earlier : List String) : Stmt → List Stmt
  | .enumDecl p _ isDeclared name ms =>
    if isDeclared then []
    else [enumStmt isTop (earlier.contains name.text) none p name.text (factsAt facts name) ms]
  | .importAlias p isType name target => if isType then [] else [aliasDecl p name target]
  | .exportAssign p e =>
    [.expr p (Build.assign (.member (Build.name "module") "exports" false) e)]
  | .exportDecl q s =>
    match s with
    | .enumDecl p isConst isDeclared name ms =>
      if isDeclared then [.exportDecl q (.enumDecl p isConst isDeclared name ms)]
      else
        [enumStmt isTop (earlier.contains name.text) (some q) p name.text (factsAt facts name) ms]
    | .importAlias p isType name target =>
      if isType then [.exportDecl q (.importAlias p isType name target)]
      else [.exportDecl q (aliasDecl p name target)]
    | s => [.exportDecl q (erasedClass s)]
  | .exportDefault q s => [.exportDefault q (erasedClass s)]
  | s => if isTypeOnly s then [] else [erasedClass s]

def erasedStmts (facts : List EnumFacts) (isTop : Bool) (earlier : List String) :
    List Stmt → List Stmt
  | [] => []
  | s :: ss =>
    erasedStmt facts isTop earlier s ++ erasedStmts facts isTop (namesBefore s ++ earlier) ss

/-- Erases types below the top of a script. -/
def eraser (facts : List EnumFacts) : Pass where
  expr := erasedExpr
  paren := erasedParen
  pattern := erasedPattern
  members := List.flatMap erasedMember
  stmts := erasedStmts facts false []

end Erasure

/-- Erases types, imports and exports left aside. -/
def Program.erased (p : Program) : Program :=
  let facts := p.enumFacts
  { p with stmts :=
      Erasure.erasedStmts facts true [] ((Erasure.eraser facts).onStmts p.stmts) }

end Vitrine.Script
