import Vitrine.Script.Node

/-!
# Fresh names

Names for what a pass adds to a script: an underscore before a base name, and a number behind it if
such a name is already in use. Only names that start with an underscore can be in the way.
-/

namespace Vitrine.Script

/-! ## Names in use -/

/-- The names that an import binding or a tag mentions. -/
def tagNames : TagName → List String
  | .plain _ t => [t]
  | .member _ root _ => [root]
  | .namespaced .. => []

namespace Node

/-- The names that a node itself binds or refers to. -/
def ownNames : Node → List String
  | expr (.name _ t) => [t]
  | expr (.function info _ _) => (info.name.map (·.text)).toList
  | expr (.class info _ _ _) => (info.name.map (·.text)).toList
  | expr (.element _ (some tag) _ _) => tagNames tag
  | pattern (.name _ t) => [t]
  | member (.shorthand _ t) => [t]
  | member (.covered _ t _) => [t]
  | member (.enumMember _ name _) => [String.ofList (name.map Char.ofNat)]
  | stmt (.importFrom _ _ _ (some bindings) _ _) => bindings.map (·.bound.text)
  | stmt (.exportNames _ _ items none _) => items.map (·.bound.text)
  | stmt (.typeDecl _ _ name _) => [name.text]
  | stmt (.enumDecl _ _ _ name _) => [name.text]
  | stmt (.namespace _ _ name _) => [name.text]
  | stmt (.importAlias _ _ name _) => [name.text]
  | _ => []

end Node

/-- The names in a script that a fresh name could meet. -/
def Program.underscoreNames (p : Program) : List String :=
  (p.stmts.flatMap fun s => (Node.stmt s).collect Node.ownNames).filter fun t =>
    t.toList.head? == some '_'

/-! ## Choosing -/

/-- A name taken apart: underscores in front, the base, and the number behind it. -/
structure NameParts where
  underscores : Nat
  base : List Char
  number : Nat

/-- A name without a number counts as the first of its base. -/
def NameParts.ofName (name : String) : NameParts :=
  let cs := name.toList
  let rest := cs.dropWhile (· == '_')
  let digits := (rest.reverse.takeWhile Char.isDigit).reverse
  { underscores := cs.length - rest.length
    base := rest.take (rest.length - digits.length)
    number := if digits.isEmpty then 1 else digits.foldl (fun n d => 10 * n + (d.toNat - 48)) 0 }

/-- A name in use that has the base, the one with the most underscores and the highest number. -/
def lastOf (used : List String) (base : List Char) : Option NameParts :=
  (used.map NameParts.ofName).foldl (fun best n =>
    if n.base != base then best
    else match best with
      | none => some n
      | some b =>
        if b.underscores < n.underscores
          || (b.underscores == n.underscores && b.number < n.number) then some n else best) none

/-- A name that is not in use, made from the base of the wanted one. -/
def freshName (used : List String) (wanted : String) : String :=
  let base := (NameParts.ofName wanted).base
  match lastOf used base with
  | none => String.ofList ('_' :: base)
  | some n =>
    String.ofList (List.replicate n.underscores '_' ++ base ++ Nat.toDigits 10 (n.number + 1))

end Vitrine.Script
