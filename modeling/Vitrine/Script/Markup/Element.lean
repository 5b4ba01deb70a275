import Vitrine.Script.Build
import Vitrine.Script.Markup.ChildText
import Vitrine.Script.Markup.Pragma
import Vitrine.Script.Reference
import Vitrine.Script.Pass

/-!
# Elements as calls

An element becomes the call of a function with its name, its attributes as an object, and its
children. The runtime functions take the children as one more property and the key as one more
argument; a key behind spread attributes, and every element under a function in scope, goes the
older way with the children as further arguments.
-/

namespace Vitrine.Script.Markup

/-- What a script takes from the runtime. -/
inductive Helper where
  | single | several | fragment | older
  deriving DecidableEq

/-- The name under which the runtime exports a helper. -/
def Helper.exported : Helper → String
  | single => "jsx"
  | several => "jsxs"
  | fragment => "Fragment"
  | older => "createElement"

/-- How elements are called in a script: its pragmas, and its names for the helpers. -/
structure Style where
  pragmas : Pragmas
  nameOf : Helper → String

/-! ## Parts of an element -/

/-- A child as it is passed on, if it is. -/
def passedChild : Expr → Option Expr
  | .markupText p raw => (childText? raw).map fun t => .literal p (.string t "") 0
  | .hole => none
  | e => some e

def passedChildren (children : List Expr) : List Expr := children.filterMap passedChild

def isSpread : Expr → Bool
  | .spread .. => true
  | _ => false

/-- Whether a key stands behind spread attributes. -/
def hasLateKey : List Member → Bool
  | [] => false
  | .spread .. :: ms => ms.any isKey
  | _ :: ms => hasLateKey ms
where
  isKey : Member → Bool
    | .attr name _ => name.space.isNone && name.text == "key"
    | _ => false

def isPrototype : Member → Bool
  | .property _ false (.name _ t) _ => t == "__proto__"
  | .property _ false (.literal _ (.string t _) _) _ => t == Text.ofString "__proto__"
  | _ => false

/-- The key of the property that an attribute becomes. -/
def attrKey (name : AttrName) : Expr :=
  match name.space with
  | some space => .literal name.pos (.string (Text.ofString (space ++ ":" ++ name.text)) "") 0
  | none =>
    if name.text.toList.contains '-' then
      .literal name.pos (.string (Text.ofString name.text) "") 0
    else .name name.pos name.text

/-- A word without a value stands for truth. -/
def attrValue (value : Option Expr) : Expr := value.getD (.literal 0 (.bool true) 0)

/-- The properties that attributes become, the key among them only if `withKey`. A spread object
literal gives its own members. -/
def properties (withKey : Bool) : List Member → List Member
  | [] => []
  | .attr name value :: ms =>
    if !withKey && name.space.isNone && name.text == "key" then properties withKey ms
    else .property name.pos false (attrKey name) (attrValue value) :: properties withKey ms
  | .spread p (.object q inner) :: ms =>
    (if inner.any isPrototype then [.spread p (.object q inner)] else inner)
      ++ properties withKey ms
  | m :: ms => m :: properties withKey ms

/-- The key of an element: the last one written. -/
def keyValue (attrs : List Member) : Option Expr :=
  attrs.foldl (fun found m => match m with
    | .attr name (some e) => if name.space.isNone && name.text == "key" then some e else found
    | _ => found) none

/-- What the name of an element stands for. -/
def tagValue : TagName → Expr
  | .plain p t =>
    if t == "this" then .thisRef p
    else if Node.isIntrinsic t then .literal p (.string (Text.ofString t) "") 0
    else .name p t
  | .member p root path =>
    path.foldl (fun e n => .member e n false) (if root == "this" then .thisRef p else .name p root)
  | .namespaced p space name =>
    .literal p (.string (Text.ofString (space ++ ":" ++ name)) "") 0

/-- The pieces of a dotted word. -/
def dotted : List Char → List (List Char)
  | [] => [[]]
  | c :: cs =>
    if c == '.' then [] :: dotted cs
    else match dotted cs with
      | [] => [[c]]
      | w :: ws => (c :: w) :: ws

/-- The value of a dotted word. -/
def dottedValue (pos : Nat) (word : String) : Expr :=
  match (dotted word.toList).map String.ofList with
  | [] => .name pos word
  | root :: path =>
    path.foldl (fun e n => .member e n false) (if root == "this" then .thisRef pos else .name pos root)

/-! ## Calls -/

/-- What stands for the name of a fragment. -/
def fragmentValue (style : Style) : Expr :=
  if style.pragmas.isClassic then dottedValue 0 (style.pragmas.fragment.getD "React.Fragment")
  else Build.name (style.nameOf .fragment)

/-- The value of the `children` property. -/
def childrenValue : List Expr → Expr
  | [e] => if isSpread e then .array 0 [e] else e
  | es => .array 0 es

/-- Whether an element is called the older way. -/
def isOlder (pragmas : Pragmas) (attrs : List Member) : Bool :=
  pragmas.isClassic || hasLateKey attrs

/-- The helper that makes an element. -/
def helperFor (attrs : List Member) (children : List Expr) : Helper :=
  if hasLateKey attrs then .older
  else if (passedChildren children).length > 1 then .several else .single

def calleeOf (style : Style) (pos : Nat) (attrs : List Member) (children : List Expr) : Expr :=
  if style.pragmas.isClassic then
    dottedValue pos (style.pragmas.function.getD "React.createElement")
  else .name pos (style.nameOf (helperFor attrs children))

/-- The second argument of a call in the older way. -/
def olderProps (isClassic : Bool) (attrs : List Member) : Expr :=
  match isClassic, attrs with
  | true, [.spread p (.object q inner)] =>
    if inner.any isPrototype then .object 0 [.spread p (.object q inner)] else .object 0 inner
  | true, [.spread _ e] => e
  | _, _ =>
    match properties true attrs with
    | [] => .literal 0 .null 0
    | ps => .object 0 ps

/-- The call that an element becomes; the elements inside it are calls already. -/
def elementCall (style : Style) (pos : Nat) (tag : Option TagName) (attrs : List Member)
    (children : List Expr) : Expr :=
  let first := match tag with
    | some t => tagValue t
    | none => fragmentValue style
  let passed := passedChildren children
  let args :=
    if isOlder style.pragmas attrs then
      first :: olderProps style.pragmas.isClassic attrs :: passed
    else
      let kids := if passed.isEmpty then []
        else [Build.property "children" (childrenValue passed)]
      first :: .object 0 (properties false attrs ++ kids) :: (keyValue attrs).toList
  .call (calleeOf style pos attrs children) args false true 0

/-- Turns every element into its call. -/
def lowering (style : Style) : Pass where
  expr
    | .element p tag attrs children => elementCall style p tag attrs children
    | e => e

end Vitrine.Script.Markup
