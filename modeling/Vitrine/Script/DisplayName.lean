import Vitrine.Script.Build
import Vitrine.Script.Pass

/-!
# Display names

A component that is made from an object by `createReactClass` or `React.createClass` gets the name
of what it is assigned to as its display name, unless the object has one. A component that is the
default export is named after its file.
-/

namespace Vitrine.Script.DisplayName

/-- Whether a function makes components from objects. -/
def isMaker : Expr → Bool
  | .name _ t => t == "createReactClass"
  | .member (.name _ o) name _ => o == "React" && name == "createClass"
  | .index (.name _ o) (.literal _ (.string t _) _) _ =>
    o == "React" && t == Text.ofString "createClass"
  | _ => false

/-- The name that a property key denotes. -/
def keyName : Expr → Option String
  | .name _ t => some t
  | .literal _ (.string t _) _ => some (String.ofList (t.map Char.ofNat))
  | _ => none

def isDisplayName : Member → Bool
  | .property _ false key _ => keyName key == some "displayName"
  | .shorthand _ t => t == "displayName"
  | .method _ _ _ _ false key _ => keyName key == some "displayName"
  | _ => false

/-- The members of a component's object with a display name in front. -/
def withName (name : String) (ms : List Member) : List Member :=
  if ms.any isDisplayName then ms else Build.property "displayName" (Build.string name) :: ms

mutual

/-- Names the components that an expression makes, as far as no other name is nearer. -/
def named (name : String) : Expr → Expr
  | .call callee args isOptional isPure stop =>
    match args with
    | [.object p ms] =>
      if isMaker callee then .call callee [.object p (withName name ms)] isOptional isPure stop
      else .call (named name callee) [.object p ms] isOptional isPure stop
    | args => .call (named name callee) (namedAll name args) isOptional isPure stop
  | .new p callee args isPure stop => .new p (named name callee) (namedAll name args) isPure stop
  | .paren p e => .paren p (named name e)
  | .conditional t y n => .conditional (named name t) (named name y) (named name n)
  | .logical op a b => .logical op (named name a) (named name b)
  | .binary op a b => .binary op (named name a) (named name b)
  | .sequence es => .sequence (namedAll name es)
  | .array p es => .array p (namedAll name es)
  | .spread p e => .spread p (named name e)
  | .unary p op e => .unary p op (named name e)
  | .await p e => .await p (named name e)
  | .chain e => .chain (named name e)
  | .member o n isOptional => .member (named name o) n isOptional
  | .index o k isOptional => .index (named name o) (named name k) isOptional
  | e => e

def namedAll (name : String) : List Expr → List Expr
  | [] => []
  | e :: es => named name e :: namedAll name es

end

/-- The name of what is assigned to. -/
def targetName : Pattern → Option String
  | .name _ t => some t
  | .place (.member _ n _) => some n
  | .place (.index _ (.literal _ (.string t _) _) _) => some (String.ofList (t.map Char.ofNat))
  | _ => none

def namedBy (name : Option String) (e : Expr) : Expr :=
  match name with
  | some n => named n e
  | none => e

/-- Names components; `fileName` is the name for the default export. -/
def naming (fileName : String) : Pass where
  expr
    | .assign op t e => .assign op t (namedBy (targetName t) e)
    | e => e
  pattern
    | .declarator p isDefinite hasType (.name q t) (some e) =>
      .declarator p isDefinite hasType (.name q t) (some (named t e))
    | p => p
  members := List.map fun
    | .property p isComputed key e =>
      .property p isComputed key (namedBy (if isComputed then none else keyName key) e)
    | m => m
  stmts := List.map fun
    | .exportDefault p (.expr q e) => .exportDefault p (.expr q (named fileName e))
    | s => s

end Vitrine.Script.DisplayName
