import Vitrine.Script.Reference

/-!
# Imports and exports that only concern types

An imported name stays if something uses it as a value; an exported name stays unless it stands for
a type. A script that was a module stays one: if all its imports and exports go away, an empty
export takes their place.
-/

namespace Vitrine.Script

/-! ## Declared names -/

/-- How the top of a script knows a name. -/
inductive Standing where
  | value | type | valueImport | typeImport
  deriving DecidableEq

/-- A declaration at the top; `isAmbient` says that it only describes what others provide. -/
structure Declaration where
  name : String
  standing : Standing
  isAmbient : Bool := false

def declaredAs (standing : Standing) (isAmbient : Bool) (names : List String) : List Declaration :=
  names.map fun n => ⟨n, standing, isAmbient⟩

/-- The names that a statement declares at the top of a script, those of nested `var` included. -/
def Stmt.declarations : Stmt → List Declaration
  | .var _ _ isDeclared items => declaredAs .value isDeclared ((boundNamesOf items).map (·.text))
  | .function (.function info _ _) =>
    declaredAs .value info.isDeclared (info.name.map (·.text)).toList
  | .classDecl _ (.class info _ _ _) =>
    declaredAs .value info.isDeclared (info.name.map (·.text)).toList
  | .enumDecl _ _ isDeclared name _ => declaredAs .value isDeclared [name.text]
  | .namespace _ isDeclared name body =>
    declaredAs (if hasValue body then .value else .type) isDeclared [name.text]
  | .typeDecl _ _ name _ => declaredAs .type false [name.text]
  | .importFrom _ isType _ (some bindings) _ _ =>
    (importedNames isType bindings).map fun (n, kind) =>
      ⟨n.text, if kind == .typeImport then .typeImport else .valueImport, false⟩
  | .importAlias _ _ name _ => declaredAs .valueImport false [name.text]
  | .exportDecl _ s => s.declarations
  | .exportDefault _ s => s.declarations
  | s => declaredAs .value false (Node.vars (.stmt s))

/-- What imports and exports depend on: the declarations at the top, the names used as values, and
whether the script holds markup elements. -/
structure ModuleFacts where
  declarations : List Declaration
  references : List String

namespace ModuleFacts

def standings (f : ModuleFacts) (name : String) : List Declaration :=
  f.declarations.filter (·.name == name)

/-- Whether an exported name stands for a type, or for a value that is only described. -/
def isTypeName (f : ModuleFacts) (name : String) : Bool :=
  let ds := f.standings name
  if ds.any (·.standing == .value) then ds.all (·.isAmbient)
  else !ds.isEmpty && !ds.any (·.standing == .valueImport)

/-- Whether an imported name is needed: it is used, and no value declared here hides it. -/
def isNeeded (f : ModuleFacts) (name : String) : Bool :=
  !(f.standings name).any (·.standing == .value) && f.references.contains name

end ModuleFacts

/-! ## What stays -/

/-- Whether a declaration leaves no value behind. -/
def isTypeOnly : Stmt → Bool
  | .typeDecl .. | .namespace .. | .ambientModule .. | .importAlias .. | .enumDecl .. => true
  | .function (.function info _ _) => info.isDeclared || !info.hasBody
  | .classDecl _ (.class info _ _ _) => info.isDeclared
  | .var _ _ isDeclared _ => isDeclared
  | _ => false

def ImportBinding.isKept (f : ModuleFacts) (b : ImportBinding) : Bool :=
  let isTypeItem := match b with
    | .item i => i.isType
    | _ => false
  !isTypeItem && f.isNeeded b.bound.text

/-- What an import or export becomes, which may be nothing; any other statement is no concern. -/
def Stmt.retained (f : ModuleFacts) : Stmt → Option (Option Stmt)
  | .exportDecl p s => some (if isTypeOnly s then none else some (.exportDecl p s))
  | .exportNames p isType items source attributes =>
    some <|
      if isType then none
      else if items.isEmpty then some (.exportNames p isType items source attributes)
      else
        let kept := items.filter fun i =>
          !i.isType && !(source.isNone && f.isTypeName i.bound.text)
        if kept.isEmpty then none else some (.exportNames p isType kept source attributes)
  | .exportAll p isType name source attributes =>
    some (if isType then none else some (.exportAll p isType name source attributes))
  | .exportDefault p (.expr q (.name r t)) =>
    some (if f.isTypeName t then none else some (.exportDefault p (.expr q (.name r t))))
  | .exportDefault p s => some (if isTypeOnly s then none else some (.exportDefault p s))
  | .importFrom p isType phase bindings source attributes =>
    some <|
      if isType then none
      else match bindings with
        | none | some [] => some (.importFrom p isType phase none source attributes)
        | some bs =>
          let kept := bs.filter (·.isKept f)
          if kept.isEmpty then none
          else some (.importFrom p isType phase (some kept) source attributes)
  | .exportNamespace _ => some none
  | _ => none

/-- The statement itself if it is no import or export, or else what becomes of it. -/
def Stmt.retainedList (f : ModuleFacts) (s : Stmt) : List Stmt :=
  match s.retained f with
  | none => [s]
  | some kept => kept.toList

/-- Whether an import or export goes away. -/
def isDropped (f : ModuleFacts) (s : Stmt) : Bool := (s.retained f).any (·.isNone)

/-- Whether an import or export stays. -/
def isRetained (f : ModuleFacts) (s : Stmt) : Bool := (s.retained f).any (·.isSome)

/-- The statements with imports and exports of types dropped. -/
def retainModules (f : ModuleFacts) (ss : List Stmt) : List Stmt :=
  ss.flatMap (·.retainedList f)
    ++ (if ss.any (isDropped f) && !ss.any (isRetained f) then [.exportNames 0 false [] none none]
      else [])

end Vitrine.Script
