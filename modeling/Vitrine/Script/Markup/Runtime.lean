import Vitrine.Script.FreshName
import Vitrine.Script.Markup.Element

/-!
# What elements take from the runtime

The helpers that a script needs and the faults of its elements, in the order in which elements are
turned into calls: those that stand in expressions first, inner ones before outer ones; then an
element, its children that are elements themselves before its own name and function.
-/

namespace Vitrine.Script.Markup

/-- What turning an element into a call brings about. -/
inductive Effect where
  | uses (h : Helper)
  | fails (f : Fault)

/-- The faults of attributes: a key needs a value. -/
def attrEffects : Member → List Effect
  | .attr name none =>
    if name.space.isNone && name.text == "key" then [.fails .markupKey] else []
  | _ => []

/-- The faults of a name: it belongs to no namespace. -/
def tagEffects (pragmas : Pragmas) : Option TagName → List Effect
  | none => if pragmas.isClassic then [] else [.uses .fragment]
  | some (.namespaced ..) => [.fails .markupNamespace]
  | some _ => []

/-- What an element brings about by itself. -/
def ownEffects (pragmas : Pragmas) : Node → List Effect
  | .expr (.element _ tag attrs children) =>
    attrs.flatMap attrEffects ++ tagEffects pragmas tag
      ++ (if pragmas.isClassic then [] else [.uses (helperFor attrs children)])
  | _ => []

def isElement : Node → Bool
  | .expr (.element ..) => true
  | _ => false

/-- What happens before a node is turned into a call, and what happens then. -/
def phases (pragmas : Pragmas) (n : Node) : List Effect × List Effect :=
  let inner := n.parts.attach.map fun p => (isElement p.1.2, phases pragmas p.1.2)
  if isElement n then
    (inner.flatMap fun (isChild, early, late) => if isChild then early else early ++ late,
     (inner.flatMap fun (isChild, _, late) => if isChild then late else [])
       ++ ownEffects pragmas n)
  else (inner.flatMap fun (_, early, late) => early ++ late, [])
termination_by n.weight
decreasing_by exact Node.weight_lt_of_mem_parts p.2

/-- All effects of the elements of a script, in order. -/
def effects (pragmas : Pragmas) (p : Program) : List Effect :=
  p.stmts.flatMap fun s =>
    let (early, late) := phases pragmas (.stmt s)
    early ++ late

def faultsOf (es : List Effect) : List Fault :=
  es.filterMap fun
    | .fails f => some f
    | .uses _ => none

/-- The helpers in the order of their first use. -/
def helpersOf (es : List Effect) : List Helper :=
  (es.filterMap fun
    | .uses h => some h
    | .fails _ => none).eraseDups

/-! ## Imports -/

/-- The module that exports a helper. -/
def moduleOf (package : String) : Helper → String
  | .older => package
  | _ => package ++ "/jsx-runtime"

def importItem (nameOf : Helper → String) (h : Helper) : ImportBinding :=
  .item { imported := ⟨0, h.exported, none⟩, bound := ⟨0, nameOf h⟩ }

/-- The import of all helpers of one module. -/
def importOf (nameOf : Helper → String) (source : String) (helpers : List Helper) : Stmt :=
  .importFrom 0 false none (some (helpers.map (importItem nameOf)))
    ⟨0, 0, Text.ofString source, ""⟩ none

/-- The imports of the helpers, by module in the order of first use. -/
def runtimeImports (package : String) (nameOf : Helper → String) (helpers : List Helper) :
    List Stmt :=
  let sources := (helpers.map (moduleOf package)).eraseDups
  sources.map fun source => importOf nameOf source (helpers.filter (moduleOf package · == source))

def isImport : Stmt → Bool
  | .importFrom .. => true
  | _ => false

/-- Puts statements behind the last import, or first if there is none. -/
def insertAfterImports (added ss : List Stmt) : List Stmt :=
  let tail := (ss.reverse.takeWhile (!isImport ·)).reverse
  ss.take (ss.length - tail.length) ++ added
    ++ tail

end Vitrine.Script.Markup
