import Vitrine.Script.Parser.Expression

/-!
# Parsing declarations

Variables, and the declarations that only scripts with types have: aliases, interfaces, enumerations,
namespaces and ambient declarations.
-/

namespace Vitrine.Script.Parser

/-! ## Variables -/

/-- Where variables are declared. -/
inductive VarPlace where
  | statement | loopHead
  deriving DecidableEq

/-- Notes what is missing from a declaration without a value. -/
def checkDeclarator (kind : VarKind) (isAmbient : Bool) (target : Pattern) : Step Unit := do
  if isAmbient then return
  match target with
  | .name .. =>
    match kind with
    | .const => note .constInitializer
    | .managed | .awaitManaged => note .usingInitializer
    | _ => return
  | _ => note .patternInitializer

def declarator (g : Grammar) (place : VarPlace) (kind : VarKind) : Step Pattern := do
  let p ← pos
  let target ← g.pattern
  let isTyped ← hasTypes
  let isDefinite ← if isTyped && (← sees "!") && !(← onNewLine) then eat "!" else pure false
  let hasType ← if isTyped then TypeExpr.annotation g else pure false
  if isDefinite && !hasType then note .definiteType
  let value ←
    if ← eat "=" then do
      let e ← g.assignment true
      pure (some e)
    else pure none
  if isDefinite && value.isSome then note .definiteInitializer
  if value.isNone && place == .statement then
    checkDeclarator kind (← read).isAmbient target
  return .declarator p isDefinite hasType target value

/-- The variables behind the keyword. -/
def declarators (g : Grammar) (place : VarPlace) (kind : VarKind) : Step (List Pattern) := do
  let first ← declarator g place kind
  let rest ← many do
    if ← eat "," then return some (← declarator g place kind)
    return none
  return first :: rest

/-- Reads the keyword of a variable declaration. -/
def varKind : Step VarKind := do
  if ← eatWord "var" then return .var
  if ← eatWord "let" then return .let
  if ← eatWord "const" then return .const
  if ← atWord "await" then
    advance
    advance
    return .awaitManaged
  expectWord "using"
  return .managed

def varStatement (g : Grammar) (isDeclared : Bool) : Step Stmt := do
  let p ← pos
  let kind ← varKind
  let items ← declarators g .statement kind
  semicolon
  return .var p kind isDeclared items

/-- Whether a `using` declaration starts here. -/
def atUsing : Step Bool := do
  if ← atWord "await" then
    return ← ahead do
      advance
      if !(← atWord "using") || (← onNewLine) then return false
      advance
      return (← atName) && !(← onNewLine)
  if !(← atWord "using") then return false
  ahead do
    advance
    if (← onNewLine) || !(← atName) then return false
    if ← atWord "of" then return false
    return true

/-! ## Type declarations -/

def typeAlias (g : Grammar) (p : Nat) (isDeclared : Bool) : Step Stmt := do
  expectWord "type"
  let name ← bindingName
  TypeExpr.parameters g true
  expect "="
  if (← atWord "intrinsic") && !isMark "." (← peekToken) then advance else g.type
  semicolon
  return .typeDecl p .alias name isDeclared

/-- Whether an expression is a name or a property of one, perhaps with type arguments. -/
def isDottedName : Expr → Bool
  | .name .. | .member _ _ false => true
  | .typed _ .instantiation e => isDottedName e
  | _ => false

def interface (g : Grammar) (p : Nat) (isDeclared : Bool) : Step Stmt := do
  expectWord "interface"
  let name ← bindingName
  TypeExpr.parameters g true
  let clauses ← heritage g
  TypeExpr.members g
  if clauses.hasInterfaces then note .interfaceImplements
  clauses.parents.forM fun parent => if isDottedName parent then pure () else note .interfaceParent
  return .typeDecl p .interface name isDeclared

/-! ## Enumerations -/

/-- The name of an enumeration member. -/
def enumName (g : Grammar) : Step Text := do
  match ← token with
  | .string value _ =>
    advance
    return value
  | .number .. | .bigint _ => throw .enumNumeric
  | .templateWhole _ | .templateHead _ => throw .enumComputed
  | .mark "[" =>
    advance
    let key ← allowingIn g.expression
    expect "]"
    match key with
    | .literal _ (.string value _) _ => return value
    | .template _ [part] [] => return part.cooked.getD []
    | .literal _ (.number ..) _ => throw .enumNumeric
    | _ => throw .enumComputed
  | .word t _ =>
    advance
    return Text.ofString t
  | _ => unexpected

def enumMember (g : Grammar) : Step Member := do
  let p ← pos
  let name ← enumName g
  let value ←
    if ← eat "=" then do
      let e ← allowingIn (g.assignment true)
      pure (some e)
    else pure none
  return .enumMember p name value

def enumeration (g : Grammar) (p : Nat) (isConst isDeclared : Bool) : Step Stmt := do
  expectWord "enum"
  let name ← bindingName
  expect "\x7b"
  let (members, _) ← delimited "\x7d" (enumMember g)
  expect "\x7d"
  return .enumDecl p isConst isDeclared name members

/-! ## Namespaces -/

/-- The body of a namespace. -/
def namespaceBody (g : Grammar) : Step (List Stmt) := do
  let (stmts, _) ← braced g
  return stmts

/-- The rest of a namespace behind its first name; a dotted name stands for nested namespaces. -/
def namespaceRest (g : Grammar) (p : Nat) (isDeclared : Bool) (name : Name) : Step Stmt := do
  let inner ← many do
    if ← eat "." then
      let q ← pos
      return some (q, ← bindingName)
    return none
  let stmts ← namespaceBody g
  let body := inner.foldr (fun (q, n) body => [.exportDecl q (.namespace q isDeclared n body)]) stmts
  return .namespace p isDeclared name body

def namespaceOrModule (g : Grammar) (p : Nat) (isDeclared : Bool) : Step Stmt := do
  let isModule ← atWord "module"
  advanceWord
  match ← token with
  | .string .. =>
    if !isModule then unexpected
    advance
    if ← sees "\x7b" then
      let body ← withContext ({ · with isAmbient := true }) (namespaceBody g)
      return .ambientModule p body
    semicolon
    return .ambientModule p []
  | _ =>
    let name ← bindingName
    namespaceRest g p isDeclared name

/-- Whether a namespace or a module starts here. -/
def atNamespace : Step Bool := do
  if !((← atWord "namespace") || (← atWord "module")) then return false
  let next ← peek
  return !next.isOnNewLine && match next.token with
    | .word t _ => isNameWord t
    | .string .. => true
    | _ => false

/-! ## Import aliases -/

/-- What an import alias stands for. -/
def aliasTarget : Step AliasTarget := do
  if (← atWord "require") && isMark "(" (← peekToken) then
    advance
    advance
    let source ← quote
    expect ")"
    return .required source
  let first ← bindingName
  let rest ← many do
    if ← eat "." then return some (← anyWord)
    return none
  return .path (first :: rest)

/-- An import alias behind its name. -/
def importAliasRest (p : Nat) (isType : Bool) (name : Name) : Step Stmt := do
  expect "="
  let target ← aliasTarget
  match target with
  | .path _ => if isType then note .importAliasType
  | .required _ => pure ()
  semicolon
  return .importAlias p isType name target

/-! ## Declarations with modifiers -/

/-- Modifiers in front of a declaration. -/
def declarationModifierWords : List String :=
  ["declare", "abstract", "async", "public", "private", "protected", "readonly", "static",
   "accessor", "override"]

/-- Whether what starts here is a declaration that only scripts with types have. -/
def atTypeDeclaration : Step Bool := ahead do
  loop false fun _ => do
    match ← token with
    | .word w _ =>
      if ["var", "let", "const", "function", "class", "enum"].contains w then return (true, false)
      if w == "interface" || w == "type" then
        advance
        return ((← atName) && !(← onNewLine), false)
      if w == "module" || w == "namespace" then return (← atNamespace, false)
      if w == "global" then
        advance
        return ((← sees "\x7b") || (← atName) || (← atWord "export"), false)
      if w == "import" then
        advance
        let follows := match ← token with
          | .string .. | .word .. => true
          | .mark m => m == "*" || m == "\x7b"
          | _ => false
        return (follows, false)
      if w == "static" then
        advance
        return (false, true)
      if declarationModifierWords.contains w then
        advance
        if ← onNewLine then return (false, false)
        if w == "declare" && (← atWord "type") then return (true, false)
        return (false, true)
      return (false, false)
    | _ => return (false, false)

/-- Consumes the modifiers in front of a declaration. -/
def declarationModifiers : Step (List String) := do
  let words ← loop ([] : List String) fun ws => do
    match ← token with
    | .word w _ =>
      if declarationModifierWords.contains w then
        let next ← peek
        if w == "async" && isWord "function" next.token then return (ws, false)
        let follows := match next.token with
          | .word .. => true
          | _ => false
        if follows && !next.isOnNewLine then
          advance
          return (w :: ws, true)
      return (ws, false)
    | _ => return (ws, false)
  return words.reverse

/-- Notes modifiers that a declaration cannot have, and decorators of anything but a class. -/
def checkDeclarationModifiers (ws : List String) (decos : List Expr) : Stmt → Step Unit
  | .classDecl .. => refuse ["declare", "abstract"]
  | .function _ => do
    refuseDecorators decos
    refuse ["declare", "async"]
  | _ => do
    refuseDecorators decos
    refuse ["declare"]
where
  refuse (allowed : List String) : Step Unit :=
    ws.forM fun w => if allowed.contains w then pure () else note (.modifierHere w)

/-- What a declaration with given modifiers declares. -/
def declared (g : Grammar) (p : Nat) (ws : List String) (decos : List Expr) : Step Stmt := do
  let isDeclared := ws.contains "declare"
  match ← token with
  | .word "namespace" _ | .word "module" _ => namespaceOrModule g p isDeclared
  | .word "global" _ =>
    advance
    return .ambientModule p (← namespaceBody g)
  | .word "type" _ => typeAlias g p isDeclared
  | .word "interface" _ => interface g p isDeclared
  | .word "enum" _ => enumeration g p false isDeclared
  | .word "class" _ =>
    let c ← classRest g p decos (ws.contains "abstract") isDeclared
    return .classDecl p c
  | .word "function" _ => return .function (← function g p false false true isDeclared)
  | .word "async" _ => return .function (← asyncOrPlainFunction g false true isDeclared)
  | .word "import" _ =>
    advance
    let name ← bindingName
    importAliasRest p false name
  | .word "const" _ =>
    if isWord "enum" (← peekToken) then
      advance
      return ← enumeration g p true isDeclared
    varStatement g isDeclared
  | .word "var" _ | .word "let" _ => varStatement g isDeclared
  | _ => if ← atUsing then varStatement g isDeclared else unexpected

/-- A declaration behind its modifiers. -/
def declarationRest (g : Grammar) (p : Nat) (ws : List String) (decos : List Expr) : Step Stmt := do
  let stmt ← declared g p ws decos
  checkDeclarationModifiers ws decos stmt
  return stmt

/-- A declaration of a script with types, modifiers included. -/
def declaration (g : Grammar) (p : Nat) (decos : List Expr) : Step Stmt := do
  let ws ← declarationModifiers
  let decos ← if ← sees "@" then do
      let more ← decorators g
      pure (decos ++ more)
    else pure decos
  if ws.contains "declare" then
    withContext ({ · with isAmbient := true }) (declarationRest g p ws decos)
  else declarationRest g p ws decos

end Vitrine.Script.Parser
