import Vitrine.Script.Build
import Vitrine.Script.Fault
import Vitrine.Script.FreshName
import Vitrine.Script.Reference

/-!
# Opening namespaces

A namespace that holds values becomes a function that is called at once with the object of the
namespace; what it exports is also stored in that object. Namespaces of types alone and declared
ones vanish. The first declaration of a name declares the variable, a later one only adds to its
object.
-/

namespace Vitrine.Script.Namespace

/-- Statements with the namespaces opened, the names then in use, and what cannot be opened. -/
structure Opened where
  stmts : List Stmt
  used : List String
  faults : List Fault := []

/-- The statements of one result, then those of the next. -/
def Opened.andThen (a : Opened) (next : List String → Opened) : Opened :=
  let b := next a.used
  { stmts := a.stmts ++ b.stmts, used := b.used, faults := a.faults ++ b.faults }

/-- The property of the object `space` for an exported name. -/
def slot (space name : String) : Expr := .member (Build.name space) name false

def store (space name : String) : Expr := Build.assign (slot space name) (Build.name name)

/-- A declaration whose name is exported from a namespace. -/
def stored (space : String) (decl : Stmt) : List Stmt :=
  decl :: decl.lexicalNames.map fun n => .expr 0 (store space n)

/-- A variable that is stored as it is initialized. -/
def storedItem (space : String) : Pattern → Pattern
  | .declarator p isDefinite hasType (.name q t) (some e) =>
    .declarator p isDefinite hasType (.name q t) (some (Build.assign (slot space t) e))
  | item => item

def bindsName : Pattern → Bool
  | .declarator _ _ _ (.name ..) _ => true
  | _ => false

/-- Exported variables: single names are stored in their declaration, patterns behind it. -/
def storedVariables (space : String) (pos : Nat) (kind : VarKind) (items : List Pattern) :
    List Stmt :=
  if items.all bindsName then [.var pos kind false (items.map (storedItem space))]
  else
    [.var pos kind false items,
     .expr 0 (.sequence ((boundNamesOf items).map fun n => store space n.text))]

/-- The object of a namespace, made if there is none yet; `outer` is the namespace that exports
it. -/
def objectOf (outer : Option String) (name : String) : Expr :=
  let fresh := fun target => Build.assign target (.object 0 [])
  match outer with
  | none => .logical .or (Build.name name) (fresh (Build.name name))
  | some space =>
    .logical .or (Build.name name)
      (Build.assign (Build.name name) (.logical .or (slot space name) (fresh (slot space name))))

/-- The statements for an opened namespace. -/
def opening (isExported isFirst : Bool) (outer : Option String) (pos : Nat) (name param : String)
    (body : List Stmt) : List Stmt :=
  let decl := Build.variableDecl 0 .let name none
  let declared := if isFirst then [if isExported then .exportDecl 0 decl else decl] else []
  let callee : Expr := .paren 0 (Build.function param body)
  declared ++ [.expr pos (Build.call callee [objectOf outer name] false)]

/-- Where a statement stands: at the top of a script, or in the namespace with the given
parameter. -/
abbrev Surrounding := Option String

/-- Opens one namespace, given how its statements are opened inside it. -/
def openOne (isExported : Bool) (outer : Surrounding) (earlier used : List String) (pos : Nat)
    (isDeclared : Bool) (name : Name) (body : List Stmt)
    (inside : Surrounding → List String → Opened) : Opened :=
  if isDeclared || !hasValue body then ⟨[], used, []⟩
  else
    let param := freshName used name.text
    let inner := inside (some param) (param :: used)
    let isFirst := !earlier.contains name.text
    ⟨opening isExported isFirst outer pos name.text param inner.stmts, inner.used, inner.faults⟩

/-- What becomes of a declaration, other than a namespace, that the namespace `space` exports. -/
def openExported (space : String) (used : List String) (decl : Stmt) : Opened :=
  match decl with
  | .enumDecl _ _ isDeclared _ _ => ⟨if isDeclared then [] else stored space decl, used, []⟩
  | .classDecl _ (.class info _ _ _) =>
    ⟨if info.isDeclared then [] else stored space decl, used, []⟩
  | .function (.function info _ _) =>
    ⟨if info.isDeclared || !info.hasBody then [] else stored space decl, used, []⟩
  | .var p kind isDeclared items =>
    if isDeclared then ⟨[], used, []⟩
    else
      ⟨storedVariables space p kind items, used,
        if kind == .const then [] else items.map fun _ => .namespaceExport⟩
  | _ => ⟨[], used, []⟩

mutual

/-- Opens the namespaces of a statement; `earlier` are the values declared before it. -/
def openStmt (place : Surrounding) (earlier used : List String) : Stmt → Opened
  | .namespace p isDeclared name body =>
    openOne false none earlier used p isDeclared name body fun inner used =>
      openStmts inner [] used body
  | .exportDecl q s =>
    match s with
    | .namespace p isDeclared name body =>
      openOne place.isNone place earlier used p isDeclared name body fun inner used =>
        openStmts inner [] used body
    | s =>
      match place with
      | none => ⟨[.exportDecl q s], used, []⟩
      | some space => openExported space used s
  | .exportNames p isType items source attributes =>
    match place with
    | none => ⟨[.exportNames p isType items source attributes], used, []⟩
    | some _ => ⟨[], used, []⟩
  | s => ⟨[s], used, []⟩

def openStmts (place : Surrounding) (earlier used : List String) : List Stmt → Opened
  | [] => ⟨[], used, []⟩
  | s :: ss =>
    (openStmt place earlier used s).andThen fun used =>
      openStmts place (earlier ++ s.lexicalNames) used ss

end

end Namespace

/-- Opens all namespaces at the top of a script; `used` are the names in the way of fresh ones. -/
def Program.openNamespaces (p : Program) (used : List String) :
    Program × List String × List Fault :=
  let opened := Namespace.openStmts none [] used p.stmts
  ({ p with stmts := opened.stmts }, opened.used, opened.faults)

end Vitrine.Script
