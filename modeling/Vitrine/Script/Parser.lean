import Vitrine.Script.Exports
import Vitrine.Script.Parser.Statement

/-!
# Parsing whole scripts

`grammar` ties the nonterminals together. It is unfolded once for each step into the grammar, so a
depth that exceeds what the length of the text allows is never used up. `Reading.ofText` yields the
tree and the comments, or all faults: first those of tokens, then those of the grammar in the order
in which they were met.
-/

namespace Vitrine.Script

namespace Parser

/-- The nonterminals, to be entered at most `depth` times inside each other. -/
def grammar : Nat → Grammar
  | 0 =>
    { expression := unexpected, assignment := fun _ => unexpected, binary := fun _ => unexpected,
      unary := unexpected, simpleUnary := unexpected, newCallee := unexpected,
      leftHand := unexpected, pattern := unexpected, statement := fun _ => unexpected,
      type := unexpected, typeOperator := unexpected, markup := fun _ => unexpected }
  | depth + 1 =>
    { expression := fun c s => Parser.expression (grammar depth) c s
      assignment := fun allow c s => Parser.assignment (grammar depth) allow c s
      binary := fun least c s => Parser.binary (grammar depth) least c s
      unary := fun c s => Parser.unary (grammar depth) c s
      simpleUnary := fun c s => Parser.simpleUnary (grammar depth) c s
      newCallee := fun c s => Parser.newCallee (grammar depth) c s
      leftHand := fun c s => Parser.leftHand (grammar depth) c s
      pattern := fun c s => bindingPattern (grammar depth) c s
      statement := fun placement c s => Parser.statement (grammar depth) placement c s
      type := fun c s => TypeExpr.type (grammar depth) c s
      typeOperator := fun c s => TypeExpr.operator (grammar depth) c s
      markup := fun isChild c s => Parser.markup (grammar depth) isChild c s }

/-- A depth that no text of a given length uses up. -/
def depthFor (length : Nat) : Nat := 16 * (length + 16)

/-- Directives and statements up to the end of the text. -/
def programBody (g : Grammar) : Step (List Directive × List Stmt × Nat) := do
  let (directives, stmts) ← directivesAndStatements g .topLevel false
  return (directives, stmts, ← pos)

end Parser

/-- A script as read: its tree, and its comments in the order of the text. -/
structure Reading where
  program : Program
  comments : List Comment

/-- A first line that names an interpreter, and what follows it. -/
def splitHashbang : List Char → Option (List Char) × List Char
  | '#' :: '!' :: rest =>
    (some (rest.takeWhile (!isLineEnd ·)), rest.dropWhile (!isLineEnd ·))
  | text => (none, text)

namespace Reading

/-- The state at the start of a text. -/
def start (text : List Char) : Option (List Char) × Parser.State :=
  let (hashbang, rest) := splitHashbang text
  let scan := Scan.ofText rest
  let scan := match hashbang with
    | some line => { scan with pos := line.length + 2 }
    | none => scan
  let (current, next) := scan.next
  (hashbang, { current, scan := next, prior := scan, previousStop := scan.pos })

/-- Whether a fault that stops the reading only follows from a fault of a token: it does where no
token could be read, and where something else is missing as well. -/
def isConsequence (s : Parser.State) (fatal : Fault) : Bool :=
  let misses := match fatal with
    | .expected .. => true
    | _ => s.depth != 0
  !s.scan.faults.isEmpty && (misses || match s.current.token with
    | .stop | .undetermined => true
    | _ => false)

/-- All faults that a state has collected, and those that follow from unfinished shorthands. -/
def faultsOf (s : Parser.State) (fatal : Option Fault) : List Fault :=
  s.scan.faults.reverse ++ s.faults.reverse
    ++ (match fatal with
      | some f => if isConsequence s f then [] else [f]
      | none => [])
    ++ s.covered.map (fun _ => .coveredInitializer)

/-- Reads a whole script. -/
def ofText (dialect : Dialect) (text : List Char) : Except (List Fault) Reading :=
  let (hashbang, state) := start text
  let context : Parser.Context :=
    { hasTypes := dialect.hasTypes, hasMarkup := dialect.hasMarkup }
  match Parser.programBody (Parser.grammar (Parser.depthFor text.length)) context state with
  | .error f s => .error (faultsOf s (some f))
  | .ok (directives, stmts, stop) s =>
    match faultsOf s none ++ (if dialect.hasTypes then [] else exportFaults stmts) with
    | [] => .ok ⟨⟨hashbang, directives, stmts, stop⟩, s.scan.settled.reverse⟩
    | faults => .error faults

end Reading

end Vitrine.Script
