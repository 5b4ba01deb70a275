import Vitrine.Script.Build
import Vitrine.Script.Enumeration
import Vitrine.Script.Pass

/-!
# Enumerations as objects

An enumeration becomes an object that a function fills: each member is stored under its name, and
each member that is no string also stores its name under its value.
-/

namespace Vitrine.Script

namespace EnumObject

/-- A number as an expression; a negative one is a sign before its magnitude. -/
def numberExpr (x : Float) : Expr :=
  let magnitude := if x.isInf then Build.name "Infinity" else Build.number x.abs
  if x < 0 || (x == 0 && 1.0 / x < 0) then .unary 0 .minus magnitude
  else if x.isNaN then Build.number x
  else magnitude

/-- A member of the enumeration under the name of the enumeration. -/
def qualified (enum : String) (name : String) : Expr := .member (Build.name enum) name false

/-- Puts the name of the enumeration before the names of known members. -/
def qualifying (enum : String) (known : List Text) : Pass where
  expr
    | .name p t => if known.contains (Text.ofString t) then qualified enum t else .name p t
    | e => e
  members := List.map fun
    | .shorthand p t =>
      if known.contains (Text.ofString t) then .property p false (Build.name t) (qualified enum t)
      else .shorthand p t
    | m => m

/-- What stands for the value of a member. -/
def valueExpr (enum : String) (init : Option Expr) : MemberValue → Expr
  | .constant (.number x) => numberExpr x
  | .constant (.string t) => Build.text t
  | .computed known => ((qualifying enum known).onExpr (init.getD .hole))
  | .after name => .binary .add (Build.number 1) (.index (Build.name enum) (Build.text name) false)

def isStringValue : MemberValue → Bool
  | .constant (.string _) => true
  | _ => false

/-- The statement that stores a member. -/
def storing (enum : String) (value : MemberValue) : Member → List Stmt
  | .enumMember p name init =>
    let slot : Expr := .index (Build.name enum) (Build.text name) false
    let stored := Build.assign slot (valueExpr enum init value)
    [.expr p (if isStringValue value then stored
      else Build.assign (.index (Build.name enum) stored false) (Build.text name))]
  | _ => []

/-- The call that makes the object, starting from `base`. -/
def making (enum : String) (facts : EnumFacts) (members : List Member) (base : Expr) : Expr :=
  let stores := (members.zip facts.values).flatMap fun (m, v) => storing enum v m
  Build.call (Build.function enum (stores ++ [.return 0 (some (Build.name enum))])) [base]
    facts.isPure

end EnumObject

/-- The declaration of an enumeration as a variable. Where the name is declared already, the object
that it holds is filled further. -/
def enumStmt (isTop isDeclaredBefore : Bool) (exportedAt : Option Nat) (pos : Nat) (name : String)
    (facts : EnumFacts) (members : List Member) : Stmt :=
  let isLocal := exportedAt.isSome || !isTop
  let fresh : Expr := .object 0 []
  let base := if isLocal && !isDeclaredBefore then fresh
    else .logical .or (Build.name name) fresh
  let value := EnumObject.making name facts members base
  if isDeclaredBefore then .expr pos (Build.assign (Build.name name) value)
  else
    let decl := Build.variableDecl pos (if isLocal then .let else .var) name (some value)
    match exportedAt with
    | some q => .exportDecl q decl
    | none => decl

end Vitrine.Script
