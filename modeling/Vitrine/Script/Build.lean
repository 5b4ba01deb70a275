import Vitrine.Script.Tree

/-!
# Building trees

What the passes put into a script. Such nodes stand at position zero, before any comment, so that
no comment belongs to them.
-/

namespace Vitrine.Script.Build

def name (t : String) : Expr := .name 0 t

def text (t : Text) : Expr := .literal 0 (.string t "") 0

def number (x : Float) : Expr := .literal 0 (.number x "") 0

def string (t : String) : Expr := text (Text.ofString t)

def call (callee : Expr) (args : List Expr) (isPure : Bool) : Expr :=
  .call callee args false isPure 0

/-- An assignment to a name or to a place that an expression denotes. -/
def assign (target value : Expr) : Expr :=
  match target with
  | .name p t => .assign .plain (.name p t) value
  | e => .assign .plain (.place e) value

def variableDecl (pos : Nat) (kind : VarKind) (name : String) (value : Option Expr) : Stmt :=
  .var pos kind false [.declarator 0 false false (.name 0 name) value]

/-- An anonymous function of one parameter. -/
def function (param : String) (body : List Stmt) : Expr :=
  .function { pos := 0 } [.name 0 param] body

/-- A property of an object literal. -/
def property (key : String) (value : Expr) : Member := .property 0 false (name key) value

end Vitrine.Script.Build
