import Vitrine.Script.Printer.Comment

/-!
# Places of expressions and starts of nodes

How an expression is written depends on its place: what binds to it from outside, and whether it
starts a statement, the body of an arrow function or a default export. Comments are found by the
start of what they stand before.
-/

namespace Vitrine.Script.Printer

/-- What an expression is the very start of. -/
inductive Lead where
  | none | statement | arrowBody | defaultExport
  deriving DecidableEq

/-- The place of an expression: a weaker expression than `strength` needs parentheses, `in` may not
stand bare where `noIn`, and calls may not where `noCall`. -/
structure Place where
  strength : Strength := .lowest
  noIn : Bool := false
  noCall : Bool := false
  lead : Lead := .none

namespace Place

/-- A place inside brackets or behind a comma. -/
def level (s : Strength) : Place := { strength := s }

/-- The place of an operand at the same spot, unless parentheses stand between. -/
def operand (p : Place) (isWrapped : Bool) (s : Strength) : Place :=
  { p with strength := s, noCall := false, noIn := p.noIn && !isWrapped,
           lead := if isWrapped then .none else p.lead }

/-- The place of an operand that does not stand at the start. -/
def later (p : Place) (isWrapped : Bool) (s : Strength) : Place :=
  { strength := s, noIn := p.noIn && !isWrapped }

def isStatement (p : Place) : Bool := p.lead == .statement

def isDefaultExport (p : Place) : Bool := p.lead == .defaultExport

def isArrowBody (p : Place) : Bool := p.lead == .arrowBody

end Place

def wrap (isWrapped : Bool) (s : String) : String := if isWrapped then "(" ++ s ++ ")" else s

def commaJoined (items : List String) : String := String.intercalate ", " items

/-- The comments that belong to what starts at `pos`. -/
def commentsAt (comments : List Comment) (pos : Nat) : List Comment :=
  comments.filter fun c => c.owner == some pos && c.kind == .ordinary

def TagName.pos : TagName → Nat
  | .plain p _ | .member p _ _ | .namespaced p _ _ => p

mutual

/-- Where an expression starts. -/
def exprStart : Expr → Nat
  | .name p _ | .privateName p _ | .thisRef p | .superRef p | .literal p _ _ | .template p _ _
  | .array p _ | .object p _ | .arrow p _ _ _ | .unary p _ _ | .yield p _ _ | .await p _
  | .importCall p _ _ _ _ | .metaProperty p _ _ | .paren p _ | .spread p _ | .new p _ _ _ _
  | .element p _ _ _ | .markupText p _ => p
  | .function info _ _ => info.pos
  | .class info _ _ _ => info.pos
  | .update p _ isBefore e => if isBefore then p else exprStart e
  | .typed p form e => if form == .angle then p else exprStart e
  | .tagged e _ _ | .binary _ e _ | .logical _ e _ | .conditional e _ _ | .call e _ _ _ _
  | .member e _ _ | .index e _ _ | .privateMember e _ _ | .chain e => exprStart e
  | .assign _ t _ => patternStart t
  | .sequence es => match es with
    | e :: _ => exprStart e
    | [] => 0
  | .hole => 0

def patternStart : Pattern → Nat
  | .name p _ | .object p _ | .array p _ | .rest p _ | .field p _ _ _ _ | .param p _ _ _
  | .declarator p _ _ _ _ => p
  | .place e => exprStart e
  | .fallback t _ => patternStart t
  | .hole => 0

end

/-- Where a statement starts. -/
def stmtStart : Stmt → Nat
  | .empty p | .expr p _ | .block p _ _ | .var p _ _ _ | .classDecl p _ | .ifElse p _ _ _
  | .for p _ _ _ _ | .forIn p _ _ _ | .forOf p _ _ _ _ | .while p _ _ | .doWhile p _ _
  | .continue p _ | .break p _ | .return p _ | .with p _ _ | .switch p _ _ _ | .case p _ _
  | .labeled p _ _ | .throw p _ | .try p _ _ _ | .debugger p | .importFrom p _ _ _ _ _
  | .exportAll p _ _ _ _ | .exportNames p _ _ _ _ | .exportDecl p _ | .exportDefault p _
  | .typeDecl p _ _ _ | .enumDecl p _ _ _ _ | .namespace p _ _ _ | .ambientModule p _
  | .importAlias p _ _ _ | .exportAssign p _ | .exportNamespace p => p
  | .function e => exprStart e
  | .target t => patternStart t
  | .catch _ _ => 0

/-- Where a member starts. -/
def memberStart : Member → Nat
  | .property p _ _ _ | .shorthand p _ | .covered p _ _ | .method p _ _ _ _ _ _
  | .field p _ _ _ _ _ _ | .spread p _ | .staticBlock p _ _ | .indexSignature p
  | .enumMember p _ _ => p
  | .attr name _ => name.pos

/-! ## Lists of texts -/

/-- Arguments in parentheses; if one of them has a comment, each gets a line of its own. -/
def argumentsText (comments : List Comment) (indent : Nat) (starts : List Nat) (texts : List String)
    (stop : Nat) : String :=
  let atEnd := commentsAt comments (stop - 1)
  if atEnd.isEmpty && starts.all (fun p => (commentsAt comments p).isEmpty) then
    "(" ++ commaJoined texts ++ ")"
  else
    let lines := (starts.zip texts).map fun (p, t) =>
      beforeArgument (commentsAt comments p) (indent + 1) ++ "\n" ++ tabs (indent + 1) ++ t
    "(" ++ String.intercalate "," lines ++ beforeArgument atEnd (indent + 1) ++ "\n" ++ tabs indent
      ++ ")"

/-- Whether arguments are written on lines of their own. -/
def argumentsAreSplit (comments : List Comment) (starts : List Nat) (stop : Nat) : Bool :=
  !(commentsAt comments (stop - 1)).isEmpty
    || starts.any fun p => !(commentsAt comments p).isEmpty

/-- Items on lines of their own between brackets. -/
def linesBetween (opening closing : String) (indent : Nat) (items : List String) : String :=
  opening ++ "\n" ++ String.intercalate ",\n" (items.map (tabs (indent + 1) ++ ·)) ++ "\n"
    ++ tabs indent ++ closing

def isHole : Expr → Bool
  | .hole => true
  | _ => false

/-- The items of an array; a hole at the end needs a comma of its own. -/
def arrayText (indent : Nat) (items : List Expr) (texts : List String) : String :=
  let texts := if items.getLast?.any isHole then
      texts.take (texts.length - 1) ++ [","]
    else texts
  if items.length > 2 then linesBetween "[" "]" indent texts
  else "[" ++ commaJoined texts ++ "]"

/-- The indentation of the items of an array or an object. -/
def innerIndent (isSplit : Bool) (indent : Nat) : Nat := if isSplit then indent + 1 else indent

def objectText (indent : Nat) (texts : List String) : String :=
  match texts with
  | [] => "\x7b\x7d"
  | [t] => "\x7b " ++ t ++ " \x7d"
  | ts => linesBetween "\x7b" "\x7d" indent ts

/-- Braces around lines, or nothing between them. -/
def braces (isEmpty : Bool) (indent : Nat) (lines : String) : String :=
  if isEmpty then "\x7b\x7d" else "\x7b\n" ++ lines ++ tabs indent ++ "\x7d"

/-- A body with directives, statements and comments before its closing brace. -/
def bodyText (comments : List Comment) (indent stop : Nat) (directives : List Directive)
    (lines : String) : String :=
  let atEnd := if stop = 0 then [] else commentsAt comments (stop - 1)
  let isEmpty := directives.isEmpty && lines.isEmpty
  if isEmpty && atEnd.all (fun c => !c.afterNewline && !c.beforeNewline) then
    "\x7b" ++ (match atEnd with
      | [] => ""
      | cs => closing cs indent) ++ "\x7d"
  else
    let ds := directives.map fun d =>
      leading (commentsAt comments d.pos) (indent + 1) false ++ directiveText d ++ ";\n"
    braces false indent (String.join ds ++ lines ++ closing atEnd (indent + 1))

end Vitrine.Script.Printer
