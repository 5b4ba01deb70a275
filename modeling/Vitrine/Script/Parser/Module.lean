import Vitrine.Script.Parser.Declaration

/-!
# Parsing imports and exports

The word `type` in front of an imported or exported name may be a modifier or the name itself;
`moduleItem` decides by what follows, and only in scripts with types.
-/

namespace Vitrine.Script.Parser

/-! ## Names in lists -/

/-- A name of another module: any word or a string. -/
def moduleName : Step ModuleName := do
  let l ← current
  match l.token with
  | .string value _ =>
    let q ← quote
    return ⟨l.pos, String.ofList (value.map Char.ofNat), some q⟩
  | .word t _ =>
    advance
    return ⟨l.pos, t, none⟩
  | _ => unexpected

def atModuleName : Step Bool := do
  match ← token with
  | .word .. | .string .. => return true
  | _ => return false

/-- An entry of a list: its name, the name behind `as` if there is one, and whether it is a type. -/
structure ModuleItem where
  first : ModuleName
  second : Option ModuleName
  isType : Bool

/-- The rest of an entry that starts with the word `type`. -/
def typeItem (word : ModuleName) : Step ModuleItem := do
  if ← atWord "as" then
    let firstAs ← moduleName
    if ← atWord "as" then
      let secondAs ← moduleName
      if ← atModuleName then return ⟨firstAs, some (← moduleName), true⟩
      return ⟨word, some secondAs, false⟩
    if ← atModuleName then return ⟨word, some (← moduleName), false⟩
    return ⟨firstAs, none, true⟩
  if ← atModuleName then
    let name ← moduleName
    if ← eatWord "as" then return ⟨name, some (← moduleName), true⟩
    return ⟨name, none, true⟩
  return ⟨word, none, false⟩

def moduleItem : Step ModuleItem := do
  let first ← moduleName
  if first.text == "type" && first.quoted.isNone && (← hasTypes) then return ← typeItem first
  if ← eatWord "as" then return ⟨first, some (← moduleName), false⟩
  return ⟨first, none, false⟩

/-- The bound name of an imported entry. -/
def boundName (n : ModuleName) : Step Name := do
  if n.quoted.isSome then unexpected
  if isReservedWord n.text then throw (.reservedHere n.text)
  checkName n.text
  return ⟨n.pos, n.text⟩

def importItem : Step ImportItem := do
  let item ← moduleItem
  let bound ← boundName (item.second.getD item.first)
  return ⟨item.first, bound, item.isType⟩

def exportItem : Step ExportItem := do
  let item ← moduleItem
  return ⟨item.first.pos, item.first, item.second.getD item.first, item.isType⟩

/-! ## Attributes -/

def importAttribute : Step ImportAttribute := do
  let key ← moduleName
  expect ":"
  return ⟨key, ← quote⟩

/-- The `with` clause behind a source, if there is one. -/
def attributeClause : Step AttributeClause := do
  let keyword ←
    if ← atWord "with" then pure (some "with")
    else if (← atWord "assert") && !(← onNewLine) then pure (some "assert")
    else pure none
  match keyword with
  | none => return none
  | some keyword =>
    advance
    expect "\x7b"
    let (items, _) ← delimited "\x7d" importAttribute
    expect "\x7d"
    return some (keyword, items)

/-! ## Imports -/

/-- What stands in braces or behind a star. -/
def namedBindings : Step (List ImportBinding) := do
  if ← eat "*" then
    expectWord "as"
    return [.namespace (← bindingName)]
  expect "\x7b"
  let (items, _) ← delimited "\x7d" importItem
  expect "\x7d"
  return items.map .item

/-- The source of an import and everything behind it. -/
def importTail (p : Nat) (isType : Bool) (phase : Option String)
    (bindings : Option (List ImportBinding)) : Step Stmt := do
  if bindings.isSome then expectWord "from"
  let source ← quote
  let attributes ← attributeClause
  semicolon
  return .importFrom p isType phase bindings source attributes

/-- An import whose default name has been read. -/
def importDefault (p : Nat) (isType : Bool) (name : Name) : Step Stmt := do
  if ← eat "," then
    if !((← sees "*") || (← sees "\x7b")) then unexpected
    let others ← namedBindings
    if isType then throw .typeImportShape
    importTail p isType none (some (.default name :: others))
  else importTail p isType none (some [.default name])

/-- An import behind its keyword. -/
def importRest (p : Nat) : Step Stmt := do
  if let .string .. ← token then return ← importTail p false none none
  if (← sees "*") || (← sees "\x7b") then
    return ← importTail p false none (some (← namedBindings))
  if (← atWord "source") || (← atWord "defer") then
    let next ← peekToken
    let isPhase :=
      if ← atWord "defer" then isMark "*" next
      else isNameToken next && !isWord "from" next
    if isPhase then
      let phase ← anyWord
      if ← sees "*" then
        return ← importTail p false (some phase.text) (some (← namedBindings))
      return ← importTail p false (some phase.text) (some [.default (← bindingName)])
  let name ← bindingName
  if name.text == "type" && (← hasTypes) then
    let isModifier ←
      if ← atWord "from" then ahead do
        advance
        return (← atWord "from") || (← sees "=")
      else pure true
    if isModifier then
      if (← sees "*") || (← sees "\x7b") then
        return ← importTail p true none (some (← namedBindings))
      if ← atName then
        let name ← bindingName
        if ← sees "=" then return ← importAliasRest p true name
        return ← importDefault p true name
  if ← sees "=" then
    let stmt ← importAliasRest p false name
    if !(← hasTypes) then note (.typesOnly "'import ... ='")
    return stmt
  importDefault p false name

def importStatement : Step Stmt := do
  let p ← pos
  expectWord "import"
  importRest p

/-- Whether the word `import` starts an expression. -/
def atImportExpression : Step Bool := do
  match ← peekToken with
  | .mark m => return m == "(" || m == "."
  | _ => return false

/-! ## Exports -/

/-- Without a source every exported entry must be the name of a binding. -/
def checkLocal (item : ExportItem) : Step Unit := do
  if item.bound.quoted.isSome then note .exportString
  else if isReservedWord item.bound.text then note .exportReserved

def exportNames (p : Nat) (isType : Bool) : Step Stmt := do
  expect "\x7b"
  let (items, _) ← delimited "\x7d" exportItem
  expect "\x7d"
  let source ←
    if ← eatWord "from" then do
      let q ← quote
      pure (some q)
    else pure none
  let attributes ← if source.isSome then attributeClause else pure none
  if source.isNone then
    for item in items do checkLocal item
  semicolon
  return .exportNames p isType items source attributes

def exportAll (p : Nat) (isType : Bool) : Step Stmt := do
  expect "*"
  let name ←
    if ← eatWord "as" then do
      let n ← moduleName
      pure (some n)
    else pure none
  expectWord "from"
  let source ← quote
  let attributes ← attributeClause
  semicolon
  return .exportAll p isType name source attributes

/-- Decorators behind `export`, which must not stand before it as well. -/
def moreDecorators (g : Grammar) (decos : List Expr) : Step (List Expr) := do
  let more ← decorators g
  if !decos.isEmpty && !more.isEmpty then note .decoratorsTwice
  return decos ++ more

def exportDefault (g : Grammar) (p : Nat) (decos : List Expr) : Step Stmt := do
  expectWord "default"
  let decos ← if ← sees "@" then moreDecorators g decos else pure decos
  let q ← pos
  if ← atWord "class" then
    return .exportDefault p (.classDecl q (← classRest g q decos false false))
  if ← hasTypes then
    let next ← peek
    if (← atWord "abstract") && isWord "class" next.token && !next.isOnNewLine then
      advance
      return .exportDefault p (.classDecl q (← classRest g q decos true false))
    if (← atWord "interface") && isNameToken next.token && !next.isOnNewLine then
      return .exportDefault p (← interface g q false)
  if (← atWord "function") || (← atAsyncFunction) then
    return .exportDefault p (.function (← asyncOrPlainFunction g false false false))
  let e ← g.assignment true
  semicolon
  return .exportDefault p (.expr q e)

/-- Whether a declaration that every script knows starts here. -/
def atPlainDeclaration : Step Bool := do
  if (← atWord "var") || (← atWord "let") || (← atWord "const") || (← atWord "class")
      || (← atWord "function") || (← sees "@") then return true
  if ← atAsyncFunction then return true
  atUsing

/-- Words that start a declaration behind `export` in a script with types. -/
def exportedTypeWords : List String :=
  ["declare", "abstract", "type", "interface", "enum", "namespace", "module", "global"]

def exportStatement (g : Grammar) (decos : List Expr) : Step Stmt := do
  let p ← pos
  expectWord "export"
  let isTyped ← hasTypes
  if ← atWord "default" then return ← exportDefault g p decos
  if ← sees "*" then return ← exportAll p false
  if ← sees "\x7b" then return ← exportNames p false
  if isTyped then
    if ← eat "=" then
      let e ← allowingIn g.expression
      semicolon
      return .exportAssign p e
    if (← atWord "as") && isWord "namespace" (← peekToken) then
      advance
      advance
      let _ ← bindingName
      semicolon
      return .exportNamespace p
    if ← atWord "type" then
      let next ← peekToken
      if isMark "\x7b" next then
        advance
        return ← exportNames p true
      if isMark "*" next then
        advance
        return ← exportAll p true
    if ← atWord "import" then
      let q ← pos
      advance
      if (← atWord "type") && isNameToken (← peekToken) then
        advance
        return .exportDecl p (← importAliasRest q true (← bindingName))
      return .exportDecl p (← importAliasRest q false (← bindingName))
  let decos ← if ← sees "@" then moreDecorators g decos else pure decos
  let q ← pos
  let isTypeDecl ← match ← token with
    | .word w _ => pure (isTyped && exportedTypeWords.contains w)
    | _ => pure false
  if isTypeDecl || (← atPlainDeclaration) then return .exportDecl p (← declaration g q decos)
  unexpected

end Vitrine.Script.Parser
