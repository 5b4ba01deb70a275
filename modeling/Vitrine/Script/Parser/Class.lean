import Vitrine.Script.Parser.Function

/-!
# Parsing classes and object literals

Members carry modifiers, which are words that are modifiers only if a member follows them. Those of
object literals may have `async` alone.
-/

namespace Vitrine.Script.Parser

/-! ## Modifiers of members -/

def memberModifierWords : List String :=
  ["static", "public", "private", "protected", "abstract", "override", "readonly", "declare",
   "accessor", "async", "export", "default", "const", "in", "out"]

/-- The modifiers before a member, in order; `names` are words that are not modifiers there. -/
def memberModifiers (names : List String) : Step (List String) := do
  let words ← loop ([] : List String) fun ws => do
    match ← token with
    | .word w _ =>
      if names.contains w || !memberModifierWords.contains w then return (ws, false)
      if w == "static" then
        let next ← peek
        if isMark "\x7b" next.token || ws.contains "static" then return (ws, false)
      if ← nextContinuesMember (w != "static") then
        advanceWord
        return (w :: ws, true)
      return (ws, false)
    | _ => return (ws, false)
  return words.reverse

def accessWords : List String := ["public", "private", "protected"]

/-- Modifiers that a modifier must stand before. -/
def laterModifiers (w : String) : List String :=
  if accessWords.contains w then ["override", "static", "accessor", "readonly", "async"]
  else if w == "static" then ["readonly", "async", "accessor", "override"]
  else if w == "override" then ["readonly", "accessor", "async"]
  else if w == "abstract" then ["override", "accessor"]
  else []

/-- Modifiers that a modifier excludes. -/
def excludedModifiers (w : String) : List String :=
  if w == "private" || w == "static" || w == "async" then ["abstract"]
  else if w == "abstract" then ["static", "private", "async"]
  else if w == "accessor" then ["readonly", "declare"]
  else if w == "readonly" then ["accessor"]
  else []

/-- What is wrong with a modifier behind others. -/
def modifierFault? (seen : List String) (w : String) : Option Fault :=
  if accessWords.contains w && seen.any accessWords.contains then some .accessTwice
  else if seen.contains w then some (.modifierTwice w)
  else
    match (laterModifiers w).find? seen.contains with
    | some other => some (.modifierOrder w other)
    | none =>
      match (excludedModifiers w).find? seen.contains with
      | some other =>
        some (if w == "abstract" then .modifierPair other w else .modifierPair w other)
      | none =>
        if accessWords.contains w && seen.contains "abstract" then
          some (.modifierOrder w "abstract")
        else none

/-- Notes what is wrong with the modifiers of a member among each other. -/
def checkModifierOrder : List String → List String → Step Unit
  | _, [] => pure ()
  | seen, w :: rest => do
    if let some f := modifierFault? seen w then note f
    checkModifierOrder (w :: seen) rest

/-! ## Object literals -/

/-- Notes modifiers that a member of an object literal cannot have. -/
def checkObjectModifiers (ws allowed : List String) : Step Unit :=
  ws.forM fun w => if allowed.contains w then pure () else note (.modifierHere w)

/-- A member of an object literal. Only methods have a modifier, which is `async`. -/
def objectMember (g : Grammar) : Step Member := do
  let p ← pos
  if ← eat "..." then return .spread p (← allowingIn (g.assignment true))
  let ws ← memberModifiers ["const", "default"]
  checkModifierOrder [] ws
  let isAsync := ws.contains "async"
  let accessor : Option MethodKind ←
    if (← atWord "get") && (← nextContinuesMember false) then pure (some .get)
    else if (← atWord "set") && (← nextContinuesMember false) then pure (some .set)
    else pure none
  if let some kind := accessor then
    advanceWord
    let (key, isComputed) ← propertyName g
    let value ← methodRest g kind false false
    checkObjectModifiers ws []
    return .method p [] {} kind isComputed key value
  let isGenerator ← eat "*"
  let l ← current
  let isReference := isNameToken l.token
  match l.token with
  | .privateName _ => unexpected
  | _ => pure ()
  let (key, isComputed) ← propertyName g
  if isGenerator || (← sees "(") || ((← hasTypes) && (← sees "<")) then
    checkObjectModifiers ws ["async"]
    let value ← methodRest g .method isAsync isGenerator
    return .method p [] {} .method isComputed key value
  checkObjectModifiers ws []
  if isReference && !(← sees ":") then
    match l.token with
    | .word text _ =>
      checkName text
      if ← sees "=" then
        modify fun s => { s with covered := l.pos :: s.covered }
        advance
        let value ← allowingIn (g.assignment true)
        return .covered l.pos text value
      return .shorthand l.pos text
    | _ => unexpected
  expect ":"
  return .property p isComputed key (← allowingIn (g.assignment true))

def object (g : Grammar) : Step Expr := do
  let p ← pos
  expect "\x7b"
  let (members, trailing) ← withContext ({ · with inDecorator := false })
    (delimited "\x7d" (objectMember g))
  if trailing then modify fun s => { s with trailing := p :: s.trailing }
  expect "\x7d"
  return .object p members

/-! ## Modifiers of class members -/

def Modifiers.ofWords (ws : List String) : Modifiers where
  isStatic := ws.contains "static"
  isAbstract := ws.contains "abstract"
  isDeclared := ws.contains "declare"
  isOverride := ws.contains "override"
  isReadonly := ws.contains "readonly"
  isAccessor := ws.contains "accessor"
  accessibility := ws.find? (["public", "private", "protected"].contains ·)

/-- Notes what is wrong with modifiers among each other, and one that a plain script does not have. -/
def checkModifiers (ws : List String) : Step Unit := do
  checkModifierOrder [] ws
  if !(← hasTypes) then
    match ws.find? (fun w => !(["static", "async", "accessor"].contains w)) with
    | some w => note (.typesOnly ("'" ++ w ++ "' modifier"))
    | none => pure ()

/-- Modifiers that a class member cannot have whatever it is. -/
def strangeModifiers : List String := ["export", "default", "in", "out"]

/-- Notes modifiers that a member of this kind cannot have: those in `refused`, and any that no member
has. -/
def checkMemberModifiers (ws refused : List String) (key : Expr) : Step Unit := do
  let isTyped ← hasTypes
  if isTyped then
    if ws.contains "const" then note .constMember
    if let .privateName .. := key then
      if ws.any accessWords.contains then note .privateAccess
  (ws.filter (isTyped || ["async", "accessor"].contains ·)).forM fun w =>
    if strangeModifiers.contains w || (w != "readonly" && refused.contains w) then
      note (.modifierHere w)
    else if refused.contains w then note .readonlyPlace
    else pure ()

/-! ## Class members -/

/-- The text of a property name that is no expression. -/
def keyText : Expr → Option String
  | .name _ t => some t
  | .literal _ (.string v _) _ => some (String.ofList (v.map Char.ofNat))
  | .literal _ (.number _ raw) _ => some raw
  | .privateName _ t => some ("#" ++ t)
  | _ => none

def isConstructorKey : Expr → Bool
  | .name _ t => t == "constructor"
  | .literal _ (.string v _) _ => v == Text.ofString "constructor"
  | _ => false

def hasBody : Expr → Bool
  | .function info _ _ => info.hasBody
  | _ => false

/-- Notes a body that an abstract member must not have. -/
def checkAbstract (mods : Modifiers) (key value : Expr) : Step Unit := do
  if mods.isAbstract && hasBody value then note (.abstractBody ((keyText key).getD ""))

/-- A field behind its name. -/
def fieldRest (g : Grammar) (p : Nat) (decos : List Expr) (ws : List String) (mods : Modifiers)
    (key : Expr) (isComputed : Bool) : Step Member := do
  let isTyped ← hasTypes
  let isDefinite ← if isTyped && (← sees "!") && !(← onNewLine) then eat "!" else pure false
  if isDefinite && mods.isOptional then note .optionalDefinite
  let hasType ← if isTyped then TypeExpr.annotation g else pure false
  let value ←
    if ← eat "=" then do
      let e ← withContext ({ · with allowIn := true, allowAwait := false, allowYield := false })
        (g.assignment true)
      pure (some e)
    else pure none
  if mods.isAbstract && value.isSome then note (.abstractInitializer ((keyText key).getD ""))
  checkMemberModifiers ws ["async"] key
  if ← canEnd then
    let _ ← eat ";"
  else expectedHere ";"
  return .field p decos { mods with isDefinite } isComputed hasType key value

/-- Notes decorators of members that have none. -/
def refuseDecorators (decos : List Expr) : Step Unit := decos.forM fun _ => note .decoratorsPlace

/-- A class member behind its modifiers. -/
def memberRest (g : Grammar) (p : Nat) (decos : List Expr) (ws : List String) : Step Member := do
  let mods := Modifiers.ofWords ws
  let isAsync := ws.contains "async"
  let accessor : Option MethodKind ←
    if (← atWord "get") && (← nextContinuesMember false) then pure (some .get)
    else if (← atWord "set") && (← nextContinuesMember false) then pure (some .set)
    else pure none
  if let some kind := accessor then
    advanceWord
    let (key, isComputed) ← propertyName g
    let value ← methodRest g kind isAsync false
    checkMemberModifiers ws ["async", "declare", "readonly", "accessor"] key
    checkAbstract mods key value
    return .method p decos mods kind isComputed key value
  if (← hasTypes) && (← TypeExpr.atIndexSignature) then
    refuseDecorators decos
    ws.forM fun w => if ["readonly", "static"].contains w then pure ()
      else note (.modifierPlace w "an index signature")
    TypeExpr.indexSignature g
    TypeExpr.memberEnd
    return .indexSignature p
  let isGenerator ← eat "*"
  let (key, isComputed) ← propertyName g
  let isOptional ← if ← hasTypes then eat "?" else pure false
  let mods := { mods with isOptional }
  if isGenerator || (← sees "(") || ((← hasTypes) && (← sees "<")) then
    let isConstructor := !isComputed && !mods.isStatic && isConstructorKey key
    let value ← methodRest g (if isConstructor then .constructor else .method) isAsync isGenerator
    checkMemberModifiers ws (if isConstructor then ["accessor"] else ["declare", "readonly", "accessor"])
      key
    checkAbstract mods key value
    if isConstructor && !isGenerator then refuseDecorators decos
    return .method p decos mods (if isConstructor then .constructor else .method) isComputed key
      value
  fieldRest g p decos ws mods key isComputed

/-- A block that runs when the class is made. -/
def staticBlock (g : Grammar) (p : Nat) : Step Member := do
  advance
  let (stmts, stop) ←
    withContext (fun c => { bodyContext true false c with allowReturn := false }) (braced g)
  return .staticBlock p stmts stop

def classMember (g : Grammar) : Step Member := do
  let p ← pos
  let decos ← decorators g
  let ws ← memberModifiers []
  if (← atWord "static") && isMark "\x7b" (← peekToken) then
    refuseDecorators decos
    return ← staticBlock g p
  checkModifiers ws
  memberRest g p decos ws

def classBody (g : Grammar) : Step (List Member × Nat) := do
  expect "\x7b"
  let members ← withContext ({ · with inDecorator := false }) do
    many do
      loop () fun _ => return ((), ← eat ";")
      if (← sees "\x7d") || (← atStop) then return none
      return some (← classMember g)
  expect "\x7d"
  return (members, ← previousStop)

/-! ## Heads of classes -/

/-- What stands between the name and the body of a class or an interface. -/
structure Heritage where
  parents : List Expr := []
  hasInterfaces : Bool := false

/-- The expressions behind `extends`. -/
def parentClause (g : Grammar) : Step (List Expr) := do
  advanceWord
  let parents ← loop ([] : List Expr) fun parents => do
    let parent ← g.leftHand
    if ← hasTypes then
      if (← sees "<") || (← sees "<<") then TypeExpr.arguments g
    return (parent :: parents, ← eat ",")
  return parents.reverse

/-- The clauses behind a name. Of two clauses that say what is extended the last counts. -/
def heritage (g : Grammar) : Step Heritage :=
  loop {} fun found => do
    if ← atWord "extends" then
      if !found.parents.isEmpty then note (.heritageTwice "extends")
      else if found.hasInterfaces then note .heritageOrder
      return ({ found with parents := ← parentClause g }, true)
    if (← hasTypes) && (← atWord "implements") then
      if found.hasInterfaces then note (.heritageTwice "implements")
      advanceWord
      loop () fun _ => do
        TypeExpr.reference g
        return ((), ← eat ",")
      return ({ found with hasInterfaces := true }, true)
    return (found, false)

/-- A class from the keyword on. -/
def classRest (g : Grammar) (p : Nat) (decos : List Expr) (isAbstract isDeclared : Bool) :
    Step Expr := do
  expectWord "class"
  let name ←
    if (← atName) && !(← atWord "implements") then do
      let n ← bindingName
      pure (some n)
    else pure none
  if ← hasTypes then TypeExpr.parameters g true
  let clauses ← heritage g
  (clauses.parents.drop 1).forM fun _ => note .severalParents
  let (members, stop) ← classBody g
  return .class { pos := p, name, isAbstract, isDeclared, stop } decos clauses.parents.head? members

end Vitrine.Script.Parser
