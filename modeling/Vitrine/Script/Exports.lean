import Vitrine.Script.Fault
import Vitrine.Script.Scope

/-!
# Exported names

Which names a module exports, and the faults of a plain script that exports a name twice.
-/

namespace Vitrine.Script

/-- The name of a function or a class. -/
def Expr.declaredName : Expr → Option Name
  | .function info _ _ => info.name
  | .class info _ _ _ => info.name
  | _ => none

/-- The names that a declaration introduces as values. -/
def Stmt.declaredNames : Stmt → List String
  | .var _ _ _ items => (boundNamesOf items).map (·.text)
  | .function e | .classDecl _ e => (e.declaredName.map (·.text)).toList
  | .enumDecl _ _ _ n _ | .namespace _ _ n _ | .importAlias _ _ n _ => [n.text]
  | _ => []

/-- The names under which a statement exports something. -/
def Stmt.exportedNames : Stmt → List String
  | .exportNames _ _ items _ _ => items.map (·.exported.text)
  | .exportAll _ _ (some n) _ _ => [n.text]
  | .exportDecl _ s => s.declaredNames
  | .exportDefault .. => ["default"]
  | _ => []

/-- The elements of a list that occur earlier in it, in order. -/
def repeated (seen : List String) : List String → List String
  | [] => []
  | n :: rest => if seen.contains n then n :: repeated seen rest else repeated (n :: seen) rest

/-- The faults of exporting a name more than once. -/
def exportFaults (stmts : List Stmt) : List Fault :=
  let twice := repeated [] (stmts.flatMap Stmt.exportedNames)
  (twice.filter (· != "default")).map .duplicateExport
    ++ (twice.filter (· == "default")).map fun _ => .severalDefaults

end Vitrine.Script
