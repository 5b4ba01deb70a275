import Vitrine.Script.Node

/-!
# Scopes and the names bound in them

Which names a pattern binds, what a name is bound as, and when two bindings of one name in one scope
exclude each other. Scripts with types let declarations of different sorts share a name.
-/

namespace Vitrine.Script

/-! ## Names in patterns -/

mutual

/-- The names that a pattern binds, in order. -/
def Pattern.boundNames : Pattern → List Name
  | .name p t => [⟨p, t⟩]
  | .place _ => []
  | .object _ ps => boundNamesOf ps
  | .array _ ps => boundNamesOf ps
  | .hole => []
  | .rest _ p => p.boundNames
  | .field _ _ _ _ p => p.boundNames
  | .fallback p _ => p.boundNames
  | .param _ _ _ p => p.boundNames
  | .declarator _ _ _ p _ => p.boundNames

def boundNamesOf : List Pattern → List Name
  | [] => []
  | p :: ps => p.boundNames ++ boundNamesOf ps

end

/-! ## Bindings -/

/-- What a name is bound as. `blockFunction` is a function whose name belongs to its block. -/
inductive BindingKind where
  | param | var | lexical | catchParam | function | blockFunction | classDecl | valueImport | typeImport
  | typeAlias | interface | enum | constEnum | enumMember | space | typeSpace
  deriving DecidableEq, Repr

namespace BindingKind

/-- Bindings that stand for a value. -/
def isValue : BindingKind → Bool
  | param | var | lexical | catchParam | function | blockFunction | classDecl | enum | constEnum
  | enumMember | space => true
  | valueImport | typeImport | typeAlias | interface | typeSpace => false

/-- Bindings that stand for a type. -/
def isType : BindingKind → Bool
  | classDecl | typeAlias | interface | enum | constEnum | enumMember => true
  | _ => false

def isImport : BindingKind → Bool
  | valueImport | typeImport => true
  | _ => false

/-- Whether a new binding of a name is excluded by an old one in a script with types. -/
def clashesTyped (new old : BindingKind) : Bool :=
  match new with
  | param | var | catchParam => old.isValue && !([param, var, catchParam, function].contains old)
  | lexical => old.isValue
  | function | blockFunction =>
    old.isValue && !([function, blockFunction, space, classDecl].contains old)
  | classDecl => (old.isValue || old == typeAlias) && !([function, blockFunction, space].contains old)
  | valueImport | typeImport => old.isImport
  | typeAlias => old.isType
  | interface => old.isType && !([interface, classDecl].contains old)
  | enum => (old.isValue || old.isType) && !([enum, space].contains old)
  | constEnum => (old.isValue || old.isType) && old != constEnum
  | enumMember => old == enumMember
  | space =>
    old.isValue && !([function, blockFunction, classDecl, enum, constEnum, space].contains old)
  | typeSpace => false

/-- Whether a new binding of a name is excluded by an old one in a plain script. -/
def clashesPlain (new old : BindingKind) : Bool :=
  match new with
  | param | var | catchParam | function => !([param, var, catchParam, function].contains old)
  | _ => true

/-- Whether a new binding of a name is excluded by an old one; parameters exclude each other. -/
def clashes (hasTypes : Bool) (new old : BindingKind) : Bool :=
  (new == param && old == param) ||
    if hasTypes then clashesTyped new old else clashesPlain new old

end BindingKind

/-! ## Scopes -/

/-- A scope: the names known in it, and whether `var` declarations inside reach no further out. -/
structure Frame where
  isVarScope : Bool
  isFunction : Bool := false
  isNamespace : Bool := false
  bindings : List (String × BindingKind) := []

namespace Frame

def kinds (f : Frame) (name : String) : List BindingKind :=
  (f.bindings.filter (·.1 == name)).map (·.2)

def add (f : Frame) (name : String) (kind : BindingKind) : Frame :=
  { f with bindings := (name, kind) :: f.bindings }

/-- Whether a new binding is excluded by what the scope knows. -/
def refuses (f : Frame) (hasTypes : Bool) (name : String) (kind : BindingKind) : Bool :=
  (f.kinds name).any (kind.clashes hasTypes ·)

end Frame

/-- Scopes, innermost first. -/
abbrev Frames := List Frame

namespace Frames

/-- The scopes that a `var` declaration passes through, and those further out. -/
def splitVar : Frames → Frames × Frames
  | [] => ([], [])
  | f :: fs => if f.isVarScope then ([f], fs) else ((f :: (splitVar fs).1), (splitVar fs).2)

/-- Binds a name; the flag says whether a binding was there that excludes it. -/
def bind (hasTypes : Bool) (name : String) (kind : BindingKind) (fs : Frames) : Frames × Bool :=
  if kind == .var then
    let (near, far) := splitVar fs
    (near.map (·.add name kind) ++ far, near.any (·.refuses hasTypes name kind))
  else
    match fs with
    | [] => ([], false)
    | f :: rest => (f.add name kind :: rest, f.refuses hasTypes name kind)

end Frames

/-! ## What declarations bind -/

/-- Whether a namespace holds anything that stands for a value. -/
def hasValue : List Stmt → Bool
  | [] => false
  | s :: ss => isValueStmt s || hasValue ss
where
  isValueStmt : Stmt → Bool
    | .typeDecl .. | .exportNamespace _ | .importAlias .. => false
    | .exportDecl _ (.importAlias ..) => true
    | .exportDecl _ s => isValueStmt s
    | .namespace _ _ _ body => hasValue body
    | .importFrom _ true _ _ _ _ => false
    | _ => true

/-- The names that an import binds. -/
def importedNames (isType : Bool) (bindings : List ImportBinding) :
    List (Name × BindingKind) :=
  bindings.map fun b =>
    let isTypeItem := match b with
      | .item i => i.isType
      | _ => false
    (b.bound, if isType || isTypeItem then .typeImport else .valueImport)

end Vitrine.Script
