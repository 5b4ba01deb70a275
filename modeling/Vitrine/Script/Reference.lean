import Vitrine.Script.Scope

/-!
# References

Which names a part of a script refers to as values without binding them itself. A name counts if
something inside a node uses it and no scope between the use and the node binds it; names in types
never count.
-/

namespace Vitrine.Script

/-! ## Names that scopes bind -/

/-- The names that a statement declares in the scope around it, imports and `var` left aside. -/
def Stmt.lexicalNames : Stmt → List String
  | .var _ kind _ items => if kind.isLexical then (boundNamesOf items).map (·.text) else []
  | .function (.function info _ _) => (info.name.map (·.text)).toList
  | .classDecl _ (.class info _ _ _) => (info.name.map (·.text)).toList
  | .enumDecl _ _ _ name _ => [name.text]
  | .namespace _ _ name body => if hasValue body then [name.text] else []
  | .importAlias _ _ name _ => [name.text]
  | .exportDecl _ s => s.lexicalNames
  | .exportDefault _ s => s.lexicalNames
  | _ => []

def lexicalNamesOf (ss : List Stmt) : List String := ss.flatMap Stmt.lexicalNames

namespace Node

/-- Whether `var` declarations inside a node stay inside. -/
def holdsVars : Node → Bool
  | expr (.function ..) | expr (.arrow ..) | member (.staticBlock ..) | stmt (.namespace ..)
  | stmt (.ambientModule ..) => true
  | _ => false

/-- The names of the `var` declarations at a node itself. -/
def ownVars : Node → List String
  | stmt (.var _ .var _ items) => (boundNamesOf items).map (·.text)
  | _ => []

/-- The names of the `var` declarations that reach the scope of a node. -/
def vars (n : Node) : List String :=
  ownVars n ++ n.parts.attach.flatMap fun p => if p.1.2.holdsVars then [] else vars p.1.2
termination_by n.weight
decreasing_by exact weight_lt_of_mem_parts p.2

/-- What a body of statements binds. -/
def bodyNames (ss : List Stmt) : List String :=
  lexicalNamesOf ss ++ ss.flatMap fun s => vars (stmt s)

/-- What the first part of a loop binds. -/
def headNames : Stmt → List String
  | .var _ kind _ items => if kind.isLexical then (boundNamesOf items).map (·.text) else []
  | _ => []

/-- The name of an enumeration member. -/
def memberNames : Member → List String
  | .enumMember _ name _ => [String.ofList (name.map Char.ofNat)]
  | _ => []

/-- The names that the scope of a node binds for what is inside the node. -/
def scopeNames : Node → List String
  | expr (.function info params body) =>
    (info.name.map (·.text)).toList ++ (boundNamesOf params).map (·.text) ++ bodyNames body
  | expr (.arrow _ _ params _) => (boundNamesOf params).map (·.text)
  | expr (.class info _ _ _) => (info.name.map (·.text)).toList
  | stmt (.block _ ss _) => lexicalNamesOf ss
  | stmt (.for _ init _ _ _) => init.flatMap headNames
  | stmt (.forIn _ head _ _) => headNames head
  | stmt (.forOf _ _ head _ _) => headNames head
  | stmt (.switch _ _ cases _) => cases.flatMap fun
    | .case _ _ ss => lexicalNamesOf ss
    | _ => []
  | stmt (.catch ps _) => (boundNamesOf ps).map (·.text)
  | stmt (.namespace _ _ _ body) => bodyNames body
  | stmt (.ambientModule _ body) => bodyNames body
  | stmt (.enumDecl _ _ _ _ ms) => ms.flatMap memberNames
  | member (.staticBlock _ ss _) => bodyNames ss
  | _ => []

/-! ## References -/

/-- Whether the name of an element stands for itself and refers to nothing. -/
def isIntrinsic (text : String) : Bool :=
  match text.toList with
  | c :: cs => c.isLower || (c :: cs).contains '-'
  | [] => true

def tagReferences : TagName → List String
  | .plain _ t => if isIntrinsic t then [] else [t]
  | .member _ root _ => [root]
  | .namespaced .. => []

/-- The names that a node itself refers to. -/
def ownReferences : Node → List String
  | expr (.name _ t) => [t]
  | expr (.assign _ t _) => t.boundNames.map (·.text)
  | expr (.element _ (some tag) _ _) => tagReferences tag
  | member (.shorthand _ t) => [t]
  | member (.covered _ t _) => [t]
  | stmt (.target t) => t.boundNames.map (·.text)
  | stmt (.exportNames _ false items none _) =>
    (items.filter (!·.isType)).map (·.bound.text)
  | stmt (.importAlias _ false _ (.path (root :: _))) => [root.text]
  | _ => []

/-- The names that a node refers to and does not bind itself. -/
def references (n : Node) : List String :=
  ownReferences n ++ (n.parts.attach.flatMap fun p => references p.1.2).filter
    (!(scopeNames n).contains ·)
termination_by n.weight
decreasing_by exact weight_lt_of_mem_parts p.2

theorem references_eq (n : Node) :
    n.references = ownReferences n
      ++ (n.parts.flatMap fun p => p.2.references).filter (!(scopeNames n).contains ·) := by
  rw [references, List.flatMap_subtype, List.unattach_attach]
  exact fun _ _ => rfl

end Node

/-- The names that statements refer to and do not bind in scopes of their own. -/
def referencesOf (ss : List Stmt) : List String := ss.flatMap fun s => (Node.stmt s).references

end Vitrine.Script
