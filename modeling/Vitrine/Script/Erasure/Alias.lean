import Vitrine.Script.Build
import Vitrine.Script.Reference

/-!
# Import aliases

An alias stands for a dotted path or a required module. Unless it is exported it stays only if its
name is used as a value; what an alias that goes away refers to does not count as used by it.
-/

namespace Vitrine.Script

/-- Drops the aliases that nothing uses; `before` are the statements in front that stay. -/
def pruneAliasesFrom (before : List Stmt) : List Stmt → List Stmt
  | [] => []
  | .importAlias p isType name target :: rest =>
    if isType || !(referencesOf (before ++ rest)).contains name.text then
      pruneAliasesFrom before rest
    else
      let s := .importAlias p isType name target
      s :: pruneAliasesFrom (before ++ [s]) rest
  | s :: rest => s :: pruneAliasesFrom (before ++ [s]) rest

mutual

/-- Drops unused aliases from the namespaces in a statement. -/
def Stmt.pruneAliases : Stmt → Stmt
  | .namespace p isDeclared name body =>
    .namespace p isDeclared name (pruneAliasesFrom [] (pruneInside body))
  | .exportDecl p s => .exportDecl p s.pruneAliases
  | s => s

def pruneInside : List Stmt → List Stmt
  | [] => []
  | s :: ss => s.pruneAliases :: pruneInside ss

end

/-- Drops unused aliases at the top and in namespaces. -/
def Program.pruneAliases (p : Program) : Program :=
  { p with stmts := pruneAliasesFrom [] (pruneInside p.stmts) }

/-- The value of a dotted path. -/
def pathValue : List Name → Expr
  | [] => Build.name "undefined"
  | root :: names => names.foldl (fun e n => .member e n.text false) (.name root.pos root.text)

/-- The declaration that an alias becomes. -/
def aliasDecl (pos : Nat) (name : Name) : AliasTarget → Stmt
  | .path names => Build.variableDecl pos .var name.text (some (pathValue names))
  | .required source =>
    Build.variableDecl pos .const name.text
      (some (Build.call (Build.name "require") [Build.text source.value] false))

end Vitrine.Script
