import Vitrine.Script.DisplayName
import Vitrine.Script.Erasure
import Vitrine.Script.Markup.Runtime
import Vitrine.Script.Namespace
import Vitrine.Script.Parser
import Vitrine.Script.Printer
import Vitrine.Script.Rules

/-!
# Compiling scripts

A script with types and markup elements becomes one with neither that does the same: namespaces are
opened, types erased, elements turned into calls, and imports adjusted. A script that breaks a rule
of the language is refused with all that is wrong with it at the first step that finds anything.
-/

namespace Vitrine.Script

/-- Whether a script holds a tag, and whether it holds a fragment. -/
def Program.markupUse (p : Program) : Bool × Bool :=
  let tags := p.stmts.flatMap fun s => (Node.stmt s).collect fun
    | .expr (.element _ tag _ _) => [tag.isSome]
    | _ => []
  (tags.contains true, tags.contains false)

/-- The names that the elements of a script need in scope. -/
def markupReferences (pragmas : Markup.Pragmas) (p : Program) : List String :=
  let (hasTag, hasFragment) := p.markupUse
  (if hasTag then [pragmas.scopeNames.1] else [])
    ++ (if hasFragment then [pragmas.scopeNames.2] else [])

/-- What decides which imports and exports stay. -/
def Program.moduleFacts (pragmas : Markup.Pragmas) (p : Program) : ModuleFacts :=
  { declarations := p.stmts.flatMap Stmt.declarations
    references := referencesOf p.stmts ++ markupReferences pragmas p }

/-- The script without types and elements, or what stands in the way. -/
def Program.lowered (hasTypes : Bool) (pragmas : Markup.Pragmas) (fileName : String)
    (p : Program) : Except (List Fault) Program :=
  let start := if hasTypes then p.pruneAliases else p
  let (opened, used, refused) :=
    if hasTypes then start.openNamespaces start.underscoreNames
    else (start, start.underscoreNames, [])
  let plain := if hasTypes then opened.erased else opened
  let effects := Markup.effects pragmas plain
  let nameOf := fun (h : Markup.Helper) => freshName used h.exported
  let helpers := Markup.helpersOf effects
  let called := (plain.run (DisplayName.naming fileName)).run (Markup.lowering ⟨pragmas, nameOf⟩)
  let stmts := Markup.insertAfterImports
    (Markup.runtimeImports pragmas.package nameOf helpers) called.stmts
  let facts := start.moduleFacts pragmas
  let facts := { facts with references := facts.references ++ helpers.map nameOf }
  match pragmas.faults ++ refused ++ Markup.faultsOf effects with
  | [] => .ok { called with stmts := if hasTypes then retainModules facts stmts else stmts }
  | faults => .error faults

/-- Compiles the text of a script; `fileName` names a component that is its default export. -/
def compile (dialect : Dialect) (fileName : String) (text : List Char) :
    Except (List Fault) String := do
  let reading ← Reading.ofText dialect text
  match reading.program.brokenRules dialect.hasTypes with
  | [] =>
    let program ← reading.program.lowered dialect.hasTypes (Markup.Pragmas.ofComments reading.comments)
      fileName
    return Printer.programText reading.comments program
  | faults => throw faults

end Vitrine.Script
