import Vitrine.Script.Printer.Place

/-!
# Printing scripts

A tree without types and markup is written as a script again: one statement a line, tabs for
indentation, parentheses only where the strength of an operator asks for them, and comments only
before statements, class members, directives and arguments.

A function or an arrow function that stood in parentheses keeps them.
-/

namespace Vitrine.Script.Printer

/-! ## Small pieces -/

/-- Strengths for the operands of a binary operator. -/
def operandStrengths (op : BinaryOp) : Strength × Strength :=
  if op == .power then (op.strength, op.strength - 1) else (op.strength - 1, op.strength)

/-- Operands that a power takes only in parentheses on its left. -/
def isPrefixed : Expr → Bool
  | .unary .. | .await .. => true
  | .paren _ e => isPrefixed e
  | _ => false

def isAndOr : Expr → Bool
  | .logical op _ _ => op != .coalesce
  | .paren _ e => isAndOr e
  | _ => false

/-- Separates two signs that would run together. -/
def signed (op : String) (arg : String) : String :=
  if (op == "-" || op == "+") && op.toList.head? == arg.toList.head? then op ++ " " ++ arg
  else op ++ arg

/-- A property name, in brackets if it is computed. -/
def keyed (isComputed : Bool) (key : String) : String :=
  if isComputed then "[" ++ key ++ "]" else key

/-- A word that stands before another text. -/
def worded (isPresent : Bool) (word : String) : String := if isPresent then word else ""

def optionalMark (isOptional : Bool) (mark plain : String) : String :=
  if isOptional then mark else plain

/-- Whether a name stands for itself as a property, so that the key is left out. -/
def isSameName (key : Expr) (isComputed : Bool) : Expr → Bool
  | .name _ t => match key with
    | .name _ k => !isComputed && k == t && k != "__proto__"
    | _ => false
  | .paren _ e => isSameName key isComputed e
  | _ => false

/-- The same for what a pattern binds. -/
def isSameTarget (key : Expr) (isComputed : Bool) (target : Pattern) : Bool :=
  match key, target with
  | .name _ k, .name _ t => !isComputed && k == t
  | .name _ k, .fallback (.name _ t) _ => !isComputed && k == t
  | _, _ => false

def isObjectTarget : Pattern → Bool
  | .object .. => true
  | _ => false

/-- Whether an expression in parentheses keeps them. -/
def keepsParens : Expr → Bool
  | .function .. | .arrow .. => true
  | _ => false

/-- The items of an array pattern; a hole at the end needs a comma of its own. -/
def arrayPatternText (items : List Pattern) (texts : List String) : String :=
  let endsInHole := match items.getLast? with
    | some .hole => true
    | _ => false
  "[" ++ commaJoined texts ++ worded endsInHole "," ++ "]"

def objectPatternText (isTarget : Bool) (texts : List String) : String :=
  if isTarget then "\x7b" ++ commaJoined texts ++ "\x7d"
  else if texts.isEmpty then "\x7b\x7d"
  else "\x7b " ++ commaJoined texts ++ " \x7d"

def isNumberLiteral : Expr → Bool
  | .literal _ v _ => isBareNumber v
  | .paren _ e => isNumberLiteral e
  | _ => false

def isIfElse : Stmt → Bool
  | .ifElse .. => true
  | _ => false

def isBlock : Stmt → Bool
  | .block .. => true
  | _ => false

def isEmptyStmt : Stmt → Bool
  | .empty _ => true
  | _ => false

/-- A statement behind the head that governs it: a block on the same line, any other statement with
its comments. -/
def governed (comments : List Comment) (indent : Nat) (s : Stmt) (text : String) : String :=
  if isBlock s then " " ++ text
  else if isEmptyStmt s then text
  else leading (commentsAt comments (stmtStart s)) indent true ++ text

/-- The first branch of a conditional, ready for an `else` if one follows. -/
def branchText (comments : List Comment) (indent : Nat) (hasElse : Bool) (s : Stmt)
    (text : String) : String :=
  let gap := if isBlock s then " " else "\n" ++ tabs indent
  governed comments indent s text ++ (if hasElse then gap else "")

def decoratorsText (texts : List String) : String :=
  String.join (texts.map fun t => "@" ++ t ++ " ")

/-- What stands before the key of a method. -/
def methodStart (isStatic : Bool) (kind : MethodKind) (info : Option FuncInfo) : String :=
  let isAsync := info.any (·.isAsync)
  let isGenerator := info.any (·.isGenerator)
  worded isStatic "static " ++ (match kind with
    | .get => "get "
    | .set => "set "
    | _ => "") ++ worded isAsync "async " ++ worded isGenerator "*"

def funcInfo? : Expr → Option FuncInfo
  | .function info _ _ => some info
  | _ => none

def labelText : Option Name → String
  | some l => " " ++ l.text
  | none => ""

/-! ## Names in modules -/

def moduleNameText (n : ModuleName) : String :=
  match n.quoted with
  | some q => stringText q.value
  | none => n.text

def attributesText : AttributeClause → String
  | none => ""
  | some (keyword, items) =>
    let entries := items.map fun a => moduleNameText a.key ++ ": " ++ stringText a.value.value
    " " ++ keyword ++ " " ++
      (if entries.isEmpty then "\x7b\x7d" else "\x7b " ++ commaJoined entries ++ " \x7d")

def renamed (outer inner : String) (isSame : Bool) : String :=
  if isSame then outer else outer ++ " as " ++ inner

def importItemText (i : ImportItem) : String :=
  renamed (moduleNameText i.imported) i.bound.text (i.imported.text == i.bound.text)

def exportItemText (i : ExportItem) : String :=
  renamed (moduleNameText i.bound) (moduleNameText i.exported) (i.bound.text == i.exported.text)

/-- The names that an import statement binds, up to its source. -/
def bindingsText (bindings : List ImportBinding) : String :=
  let whole := bindings.filterMap fun
    | .default n => some n.text
    | .namespace n => some ("* as " ++ n.text)
    | .item _ => none
  let items := bindings.filterMap fun
    | .item i => some (importItemText i)
    | _ => none
  let listed := if items.isEmpty then [] else ["\x7b " ++ commaJoined items ++ " \x7d"]
  if bindings.isEmpty then "\x7b\x7d" else commaJoined (whole ++ listed)

def sourceText (q : Quote) (attributes : AttributeClause) : String :=
  stringText q.value ++ attributesText attributes ++ ";"

def importText (phase : Option String) (bindings : Option (List ImportBinding)) (source : Quote)
    (attributes : AttributeClause) : String :=
  let phaseWord := match phase with
    | some w => " " ++ w
    | none => ""
  let names := match bindings with
    | some bs => " " ++ bindingsText bs ++ " from"
    | none => ""
  "import" ++ phaseWord ++ names ++ " " ++ sourceText source attributes

def exportAllText (name : Option ModuleName) (source : Quote) (attributes : AttributeClause) :
    String :=
  let as := match name with
    | some n => " as " ++ moduleNameText n
    | none => ""
  "export *" ++ as ++ " from " ++ sourceText source attributes

def exportNamesText (items : List ExportItem) (source : Option Quote)
    (attributes : AttributeClause) : String :=
  let listed := if items.isEmpty then "\x7b\x7d"
    else "\x7b " ++ commaJoined (items.map exportItemText) ++ " \x7d"
  let tail := match source with
    | some q => " from " ++ sourceText q attributes
    | none => ";"
  "export " ++ listed ++ tail

/-- A call of `import`; with comments before its source it is split into lines. -/
def importCallText (comments : List Comment) (indent : Nat) (phase : Option String)
    (starts : List Nat) (texts : List String) (stop : Nat) : String :=
  let phaseText := match phase with
    | some w => "." ++ w
    | none => ""
  "import" ++ phaseText ++ argumentsText comments indent starts texts stop

/-! ## All nodes -/

section

variable (comments : List Comment)

mutual

/-- An expression at a place. -/
def exprText (indent : Nat) (p : Place) : Expr → String
  | .name _ t => t
  | .privateName _ t => "#" ++ t
  | .thisRef _ => "this"
  | .superRef _ => "super"
  | .literal _ v _ => literalText v
  | .template _ parts holes =>
    "\x60" ++ templateText parts (exprTexts indent .lowest holes) ++ "\x60"
  | .tagged tag parts holes =>
    exprText indent (p.operand false .suffix) tag ++ "\x60"
      ++ templateText parts (exprTexts indent .lowest holes) ++ "\x60"
  | .array _ items =>
    arrayText indent items (exprTexts (innerIndent (items.length > 2) indent) .comma items)
  | .object _ ms =>
    wrap (p.isStatement || p.isArrowBody)
      (objectText indent (memberTexts (innerIndent (ms.length > 1) indent) ms))
  | .function info params body =>
    if info.shape == .arrow then
      wrap (Strength.assign ≤ p.strength)
        (worded info.isAsync "async " ++ "(" ++ commaJoined (patternTexts indent false params)
          ++ ") => " ++ bodyText comments indent info.stop info.directives
            (stmtLines (indent + 1) body))
    else
      wrap (p.isStatement || p.isDefaultExport)
        (worded info.isAsync "async " ++ "function" ++ worded info.isGenerator "* "
          ++ (match info.name with
            | some n => worded (!info.isGenerator) " " ++ n.text
            | none => "")
          ++ "(" ++ commaJoined (patternTexts indent false params) ++ ")"
          ++ (if info.hasBody then " " ++ bodyText comments indent info.stop info.directives
            (stmtLines (indent + 1) body) else ";"))
  | .arrow _ isAsync params value =>
    wrap (Strength.assign ≤ p.strength)
      (worded isAsync "async " ++ "(" ++ commaJoined (patternTexts indent false params) ++ ") => "
        ++ exprText indent { strength := .comma, noIn := p.noIn, lead := .arrowBody } value)
  | .class info decorators parent ms =>
    wrap (p.isStatement || p.isDefaultExport)
      (decoratorsText (exprTexts indent .lowest decorators) ++ "class"
        ++ (match info.name with
          | some n => " " ++ n.text
          | none => "")
        ++ parentText indent parent ++ " "
        ++ braces ms.isEmpty indent (memberLines (indent + 1) ms))
  | .unary _ op e =>
    let w := Strength.unary ≤ p.strength
    let arg := exprText indent (p.later w .power) e
    wrap w (if op.isWord then op.lexeme ++ " " ++ arg else signed op.lexeme arg)
  | .update _ op isBefore e =>
    if isBefore then
      let w := Strength.unary ≤ p.strength
      wrap w (op.lexeme ++ exprText indent (p.later w .unary) e)
    else
      let w := Strength.suffix ≤ p.strength
      wrap w (exprText indent (p.operand w .suffix) e ++ op.lexeme)
  | .binary op l r =>
    let w := op.strength ≤ p.strength || (op == .memberOf && p.noIn)
    let (sl, sr) := operandStrengths op
    let sl := if op == .power && isPrefixed l then .call else sl
    wrap w (exprText indent (p.operand w sl) l ++ " " ++ op.lexeme ++ " "
      ++ exprText indent (p.later w sr) r)
  | .logical op l r =>
    let w := op.strength ≤ p.strength
    let sl := if op == .coalesce && isAndOr l then .unary else op.strength - 1
    let sr := if op == .coalesce && isAndOr r then .unary else op.strength
    wrap w (exprText indent (p.operand w sl) l ++ " " ++ op.lexeme ++ " "
      ++ exprText indent (p.later w sr) r)
  | .assign op target value =>
    let w := Strength.assign ≤ p.strength
      || ((p.isStatement || p.isArrowBody) && isObjectTarget target)
    wrap w (patternText indent (p.operand w .comma) true target ++ " " ++ op.lexeme ++ " "
      ++ exprText indent (p.later w .comma) value)
  | .conditional t y n =>
    let w := Strength.conditional ≤ p.strength
    wrap w (exprText indent (p.operand w .conditional) t ++ " ? "
      ++ exprText indent (.level .yield) y ++ " : " ++ exprText indent (p.later w .yield) n)
  | .sequence [] => ""
  | .sequence (e :: es) =>
    let w := Strength.comma ≤ p.strength
    wrap w (commaJoined (exprText indent (p.operand w .lowest) e :: exprTexts indent .lowest es))
  | .call callee args isOptional isPure stop =>
    let w := Strength.new ≤ p.strength || p.noCall || (isPure && Strength.suffix ≤ p.strength)
    let starts := args.map exprStart
    let inner := innerIndent (argumentsAreSplit comments starts stop) indent
    let lead := if w then Lead.none else p.lead
    wrap w (worded isPure "/* @__PURE__ */ "
      ++ exprText indent { strength := .suffix, lead } callee ++ worded isOptional "?."
      ++ argumentsText comments indent starts (exprTexts inner .comma args) stop)
  | .new _ callee args isPure stop =>
    let w := Strength.call ≤ p.strength || (isPure && Strength.suffix ≤ p.strength)
    let starts := args.map exprStart
    let inner := innerIndent (argumentsAreSplit comments starts stop) indent
    wrap w (worded isPure "/* @__PURE__ */ " ++ "new "
      ++ exprText indent { strength := .new, noCall := true } callee
      ++ argumentsText comments indent starts (exprTexts inner .comma args) stop)
  | .member o name isOptional =>
    exprText indent { strength := .suffix, noCall := p.noCall, lead := p.lead } o
      ++ worded (!isOptional && isNumberLiteral o) " " ++ optionalMark isOptional "?." "." ++ name
  | .privateMember o name isOptional =>
    exprText indent { strength := .suffix, noCall := p.noCall, lead := p.lead } o
      ++ optionalMark isOptional "?.#" ".#" ++ name
  | .index o key isOptional =>
    exprText indent { strength := .suffix, noCall := p.noCall, lead := p.lead } o
      ++ optionalMark isOptional "?.[" "[" ++ exprText indent {} key ++ "]"
  | .chain e =>
    let w := Strength.suffix ≤ p.strength
    wrap w (exprText indent (if w then {} else p) e)
  | .yield _ isDelegate arg =>
    let w := Strength.assign ≤ p.strength
    wrap w ("yield" ++ worded isDelegate "*" ++ operandText indent (p.later w .yield) arg)
  | .await _ e =>
    let w := Strength.unary ≤ p.strength
    wrap w ("await " ++ exprText indent (p.later w .power) e)
  | .importCall _ phase source options stop =>
    let w := Strength.new ≤ p.strength || p.noCall
    let starts := exprStart source :: (options.map exprStart).toList
    let inner := innerIndent (argumentsAreSplit comments starts stop) indent
    wrap w (importCallText comments indent phase starts
      (exprText inner (.level .comma) source :: optionTexts inner options) stop)
  | .metaProperty _ o name => o ++ "." ++ name
  | .paren _ e =>
    if keepsParens e then "(" ++ exprText indent {} e ++ ")" else exprText indent p e
  | .typed _ _ e => exprText indent p e
  | .spread _ e => "..." ++ exprText indent (.level .comma) e
  | .hole => ""
  | .element .. => ""
  | .markupText .. => ""

/-- Expressions in a list. -/
def exprTexts (indent : Nat) (s : Strength) : List Expr → List String
  | [] => []
  | e :: es => exprText indent (.level s) e :: exprTexts indent s es

/-- What a class extends. -/
def parentText (indent : Nat) : Option Expr → String
  | some e => " extends " ++ exprText indent (.level .suffix) e
  | none => ""

/-- An operand that may be left out. -/
def operandText (indent : Nat) (p : Place) : Option Expr → String
  | some e => " " ++ exprText indent p e
  | none => ""

/-- An argument that may be left out. -/
def optionTexts (indent : Nat) : Option Expr → List String
  | some e => [exprText indent (.level .comma) e]
  | none => []

/-- A value behind an equals sign that may be left out. -/
def valueText (indent : Nat) (noIn : Bool) : Option Expr → String
  | some e => " = " ++ exprText indent { strength := .comma, noIn } e
  | none => ""

/-- A pattern of a declaration, or of an assignment if `isTarget`. -/
def patternText (indent : Nat) (p : Place) (isTarget : Bool) : Pattern → String
  | .name _ t => t
  | .place e => exprText indent p e
  | .object _ ps => objectPatternText isTarget (patternTexts indent isTarget ps)
  | .array _ ps => arrayPatternText ps (patternTexts indent isTarget ps)
  | .hole => ""
  | .rest _ t => "..." ++ patternText indent {} isTarget t
  | .field _ isShorthand isComputed key t =>
    let value := patternText indent {} isTarget t
    if isShorthand || (!isTarget && isSameTarget key isComputed t) then value
    else keyed isComputed (exprText indent (.level .comma) key) ++ ": " ++ value
  | .fallback t e =>
    patternText indent {} isTarget t ++ " = " ++ exprText indent (.level .comma) e
  | .param _ _ decorators t =>
    decoratorsText (exprTexts indent .lowest decorators) ++ patternText indent {} isTarget t
  | .declarator _ _ _ t value =>
    patternText indent {} isTarget t ++ valueText indent p.noIn value

def patternTexts (indent : Nat) (isTarget : Bool) : List Pattern → List String
  | [] => []
  | p :: ps => patternText indent {} isTarget p :: patternTexts indent isTarget ps

/-- The variables of a declaration. -/
def declaratorTexts (indent : Nat) (noIn : Bool) : List Pattern → List String
  | [] => []
  | p :: ps => patternText indent { noIn } false p :: declaratorTexts indent noIn ps

/-- The parameters and the body of a method. -/
def methodText (indent : Nat) : Expr → String
  | .function info params body =>
    "(" ++ commaJoined (patternTexts indent false params) ++ ")"
      ++ (if info.hasBody then " " ++ bodyText comments indent info.stop info.directives
        (stmtLines (indent + 1) body) else ";")
  | _ => ""

/-- A member of an object literal, or a class member without comments and indentation. -/
def memberText (indent : Nat) : Member → String
  | .property _ isComputed key value =>
    if isSameName key isComputed value then exprText indent (.level .comma) value
    else keyed isComputed (exprText indent (.level .comma) key) ++ ": " ++ exprText indent (.level .comma) value
  | .shorthand _ t => t
  | .covered _ t e => t ++ " = " ++ exprText indent (.level .comma) e
  | .method _ decorators mods kind isComputed key value =>
    decoratorsText (exprTexts indent .lowest decorators)
      ++ methodStart mods.isStatic kind (funcInfo? value) ++ keyed isComputed (exprText indent (.level .comma) key)
      ++ methodText indent value
  | .field _ decorators mods isComputed _ key value =>
    decoratorsText (exprTexts indent .lowest decorators) ++ worded mods.isStatic "static "
      ++ worded mods.isAccessor "accessor " ++ keyed isComputed (exprText indent (.level .comma) key)
      ++ valueText indent false value ++ ";"
  | .spread _ e => "..." ++ exprText indent (.level .comma) e
  | .staticBlock _ ss _ => "static " ++ braces ss.isEmpty indent (stmtLines (indent + 1) ss)
  | .indexSignature _ => ""
  | .enumMember .. => ""
  | .attr .. => ""

/-- Members of an object literal. -/
def memberTexts (indent : Nat) : List Member → List String
  | [] => []
  | m :: ms => memberText indent m :: memberTexts indent ms

/-- Members of a class, each with its comments on lines of its own. -/
def memberLines (indent : Nat) : List Member → String
  | [] => ""
  | m :: ms =>
    leading (commentsAt comments (memberStart m)) indent false ++ memberText indent m ++ "\n"
      ++ memberLines indent ms

/-- A statement without its comments and the indentation of its first line. -/
def stmtText (indent : Nat) : Stmt → String
  | .empty _ => ";"
  | .expr _ e => exprText indent { lead := .statement } e ++ ";"
  | .target t => patternText indent { noIn := true } true t
  | .block _ ss _ => braces ss.isEmpty indent (stmtLines (indent + 1) ss)
  | .var _ kind _ items =>
    kind.lexeme ++ " " ++ commaJoined (declaratorTexts indent false items) ++ ";"
  | .function e => exprText indent {} e
  | .classDecl _ e => exprText indent {} e
  | .ifElse _ test yes no =>
    "if (" ++ exprText indent {} test ++ ")"
      ++ branchText comments indent (!no.isEmpty) yes (stmtText indent yes) ++ elseText indent no
  | .for _ init test update body =>
    "for (" ++ headTexts indent init ++ ";" ++ operandText indent {} test ++ ";"
      ++ operandText indent {} update ++ ")" ++ governed comments indent body (stmtText indent body)
  | .forIn _ head o body =>
    "for (" ++ headText indent head ++ " in " ++ exprText indent {} o ++ ")"
      ++ governed comments indent body (stmtText indent body)
  | .forOf _ isAwait head o body =>
    "for " ++ worded isAwait "await " ++ "(" ++ headText indent head ++ " of "
      ++ exprText indent (.level .comma) o ++ ")"
      ++ governed comments indent body (stmtText indent body)
  | .while _ test body =>
    "while (" ++ exprText indent {} test ++ ")"
      ++ governed comments indent body (stmtText indent body)
  | .doWhile _ body test =>
    (if isBlock body then "do " ++ stmtText indent body ++ " "
      else "do\n" ++ leading (commentsAt comments (stmtStart body)) (indent + 1) false
        ++ stmtText (indent + 1) body ++ "\n" ++ tabs indent)
      ++ "while (" ++ exprText indent {} test ++ ");"
  | .continue _ label => "continue" ++ labelText label ++ ";"
  | .break _ label => "break" ++ labelText label ++ ";"
  | .return _ e => "return" ++ operandText indent {} e ++ ";"
  | .with _ o body =>
    "with (" ++ exprText indent {} o ++ ")" ++ governed comments indent body (stmtText indent body)
  | .switch _ subject cases _ =>
    "switch (" ++ exprText indent {} subject ++ ") "
      ++ braces cases.isEmpty indent (caseLines (indent + 1) cases)
  | .case .. => ""
  | .labeled _ label body =>
    label.text ++ ":" ++ governed comments indent body (stmtText indent body)
  | .throw _ e => "throw " ++ exprText indent {} e ++ ";"
  | .try _ body handler finalizer =>
    "try " ++ firstText indent body ++ handlerText indent handler
      ++ (if finalizer.isEmpty then "" else " finally " ++ firstText indent finalizer)
  | .catch .. => ""
  | .debugger _ => "debugger;"
  | .importFrom _ _ phase bindings source attributes =>
    importText phase bindings source attributes
  | .exportAll _ _ name source attributes => exportAllText name source attributes
  | .exportNames _ _ items source attributes => exportNamesText items source attributes
  | .exportDecl _ s => "export " ++ stmtText indent s
  | .exportDefault _ (.expr _ e) =>
    "export default " ++ exprText indent { strength := .comma, lead := .defaultExport } e ++ ";"
  | .exportDefault _ s => "export default " ++ stmtText indent s
  | .typeDecl .. => ""
  | .enumDecl .. => ""
  | .namespace .. => ""
  | .ambientModule .. => ""
  | .importAlias .. => ""
  | .exportAssign .. => ""
  | .exportNamespace _ => ""

/-- Statements on lines of their own, with their comments. -/
def stmtLines (indent : Nat) : List Stmt → String
  | [] => ""
  | s :: ss =>
    leading (commentsAt comments (stmtStart s)) indent false ++ stmtText indent s ++ "\n"
      ++ stmtLines indent ss

/-- The first statement of a list, without its comments. -/
def firstText (indent : Nat) : List Stmt → String
  | [] => ""
  | s :: _ => stmtText indent s

/-- The alternative of a conditional. -/
def elseText (indent : Nat) : List Stmt → String
  | [] => ""
  | s :: _ =>
    if isIfElse s then "else " ++ stmtText indent s
    else "else" ++ governed comments indent s (stmtText indent s)

/-- The first part of a loop with three parts. -/
def headTexts (indent : Nat) : List Stmt → String
  | [] => ""
  | s :: _ => headText indent s

/-- What a loop declares, assigns or evaluates first. -/
def headText (indent : Nat) : Stmt → String
  | .var _ kind _ items => kind.lexeme ++ " " ++ commaJoined (declaratorTexts indent true items)
  | .expr _ e => exprText indent { noIn := true } e
  | .target t => patternText indent { noIn := true } true t
  | _ => ""

/-- The cases of a switch; a single statement stays on the line of its case. -/
def caseLines (indent : Nat) : List Stmt → String
  | [] => ""
  | .case _ test ss :: rest =>
    tabs indent ++ (if test.isSome then "case" else "default") ++ operandText indent {} test ++ ":"
      ++ (if ss.length == 1 then soleText indent ss else "\n" ++ stmtLines (indent + 1) ss)
      ++ caseLines indent rest
  | _ :: rest => caseLines indent rest

/-- The only statement of a case. -/
def soleText (indent : Nat) : List Stmt → String
  | [] => ""
  | s :: _ => governed comments indent s (stmtText indent s) ++ "\n"

def handlerText (indent : Nat) : List Stmt → String
  | .catch ps body :: _ =>
    " catch " ++ (if ps.isEmpty then "" else
      "(" ++ commaJoined (patternTexts indent false ps) ++ ") ") ++ stmtText indent body
  | _ => ""

end

end

/-! ## Whole scripts -/

/-- A script with the comments of the text that it was read from. -/
def programText (comments : List Comment) (p : Program) : String :=
  let hashbang := match p.hashbang with
    | some line => "#!" ++ String.ofList line ++ "\n"
    | none => ""
  let directives := p.directives.map fun d =>
    leading (commentsAt comments d.pos) 0 false ++ directiveText d ++ ";\n"
  hashbang ++ String.join directives ++ stmtLines comments 0 p.stmts
    ++ closing (commentsAt comments p.stop) 0

end Vitrine.Script.Printer
