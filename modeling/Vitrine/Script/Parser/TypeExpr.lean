import Vitrine.Script.Parser.Basic

/-!
# Parsing types

Types leave no trace in the tree: these steps only find out where a type ends, and refuse text that
is no type.
-/

namespace Vitrine.Script.Parser.TypeExpr

variable (g : Grammar)

/-- A dotted path of words. -/
def path : Step Unit := do
  let _ ← anyWord
  loop () fun _ => do
    if ← sees "." then
      advance
      let _ ← anyWord
      return ((), true)
    return ((), false)

/-- Splits a mark that starts with `<` so that the bracket stands alone. -/
def splitOpen : Step Unit := do
  match ← token with
  | .mark m => if m.startsWith "<" && m != "<" then reread fun s => (.mark "<", s.bump)
  | _ => return

/-- `<` types `>`. -/
def arguments : Step Unit := do
  splitOpen
  expect "<"
  let (types, _) ← delimited ">" g.type
  expect ">"
  if types.isEmpty then note .emptyTypeArguments

def argumentsIfAny : Step Unit := do
  if (← sees "<") || (← sees "<<") then
    if !(← onNewLine) then arguments g

/-- A reference to a named type. -/
def reference : Step Unit := do
  path
  argumentsIfAny g

/-- Whether the current token may start a type. -/
def atTypeStart : Step Bool := do
  match ← token with
  | .word w _ =>
    return isNameWord w ||
      ["void", "null", "this", "typeof", "new", "true", "false", "import"].contains w
  | .mark m => return ["\x7b", "[", "<", "|", "&", "(", "-", "*", "?", "!", "..."].contains m
  | .string .. | .number .. | .bigint _ | .templateWhole _ | .templateHead _ => return true
  | _ => return false

/-! ## Members and parameters -/

/-- Words that stand before what they modify, and may be names themselves. -/
def modifierWords : List String :=
  ["public", "private", "protected", "readonly", "static", "abstract", "override", "declare",
   "async", "accessor", "out"]

/-- The modifiers in front of a type parameter, the last one first. -/
def parameterModifiers : Step (List String) :=
  loop [] fun ws => do
    match ← token with
    | .word w _ =>
      let next ← peek
      let follows := modifierWords.contains w && isAnyWord next.token && !next.isOnNewLine
      if w != "const" && w != "in" && !follows then return (ws, false)
      if !(["const", "in", "out"].contains w) then note (.typeParameterModifier w)
      advance
      return (w :: ws, true)
    | _ => return (ws, false)

/-- The name that a type parameter binds. -/
def parameterName : Step Unit := do
  let name ← bindingName
  if builtInTypes.contains name.text then note (.typeName "Type parameter" name.text)

/-- Type parameters, if there are any; `hasVariance` admits those that say in which direction they
vary. -/
def parameters (hasVariance : Bool) : Step Unit := do
  if ← sees "<" then
    advance
    let (names, _) ← delimited ">" do
      let ws ← parameterModifiers
      parameterName
      if !hasVariance then
        (["in", "out"].filter ws.contains).forM fun w => note (.varianceModifier w)
      if ← eatWord "extends" then g.type
      if ← eat "=" then g.type
    expect ">"
    if names.isEmpty then note .emptyTypeParameters

/-- Reads a type that says what something is, which has no mark before or behind it. -/
def unmarked (type : Step Unit) : Step Unit := do
  let start ← pos
  type
  if let some (first, stop, fault) := (← get).markedType then
    if first == start && stop == (← previousStop) then note fault

def annotation : Step Bool := do
  if ← eat ":" then
    withContext ({ · with noConditional := false }) (unmarked g.type)
    return true
  return false

/-- A type where a function says what it returns: `x is T` and `asserts x` are allowed too. -/
def resultType : Step Unit := withContext ({ · with noConditional := false }) do
  if (← atWord "asserts") then
    let next ← peek
    if !next.isOnNewLine && (isNameToken next.token || isWord "this" next.token) then
      advance
      advance
      if ← eatWord "is" then g.type
      return
  if (← atName) || (← atWord "this") then
    let next ← peek
    if isWord "is" next.token && !next.isOnNewLine then
      advance
      advance
      g.type
      return
  g.type

/-- What a function returns, behind the mark that announces it. -/
def returnType : Step Unit := unmarked (resultType g)

/-- One parameter of a function type. -/
def parameter : Step Unit := do
  loop () fun _ => do
    match ← token with
    | .word w _ =>
      let next ← peek
      let follows := !next.isOnNewLine && match next.token with
        | .word .. => true
        | .mark m => m == "[" || m == "\x7b"
        | _ => false
      if modifierWords.contains w && follows then
        if w != "readonly" then note (.modifierPlace w "a parameter")
        advance
        return ((), true)
      return ((), false)
    | _ => return ((), false)
  let _ ← g.pattern
  let isOptional ← eat "?"
  let _ ← annotation g
  if ← sees "=" then
    if isOptional then note .questionInitializer
    advance
    let _ ← allowingIn (g.assignment true)

/-- The last parameter of a function type, which takes in all that is left. -/
def restParameter : Step Unit := do
  advance
  let _ ← g.pattern
  if ← eat "?" then note .restOptional
  let _ ← annotation g
  if ← eat "=" then
    note .restInitializer
    let _ ← allowingIn (g.assignment true)

def parameterList : Step Unit := do
  expect "("
  if ← eatWord "this" then
    let _ ← annotation g
    if !(← sees ")") then expect ","
  let _ ← delimitedWithRest ")" (parameter g) (restParameter g) .restParameterNotLast
  expect ")"

/-- The key of a member of a type. -/
def memberKey : Step Unit := do
  match ← token with
  | .word .. | .string .. | .number .. | .bigint _ | .privateName _ => advance
  | .mark "[" =>
    advance
    let _ ← allowingIn (g.assignment true)
    expect "]"
  | _ => unexpected

/-- Whether an index signature starts here: `[name:` or its relatives. -/
def atIndexSignature : Step Bool := do
  if !(← sees "[") then return false
  ahead do
    advance
    if (← sees "...") || (← sees "]") then return true
    if !(← atName) then return false
    advance
    if (← sees ":") || (← sees ",") then return true
    if !(← sees "?") then return false
    advance
    return (← sees ":") || (← sees ",") || (← sees "]")

/-- An index signature, whose key and value have types. -/
def indexSignature : Step Unit := do
  expect "["
  let _ ← delimited "]" do
    let _ ← anyWord
    if !(← annotation g) then unexpected
  expect "]"
  if !(← annotation g) then unexpected

/-- The end of a member of a type: a comma or a semicolon, but nothing has to stand there. -/
def memberEnd : Step Unit := do
  if ← eat "," then return
  let _ ← eat ";"

def signature : Step Unit := do
  parameters g false
  parameterList g
  if ← eat ":" then returnType g

/-- One member of an interface or of a type between braces. -/
def member : Step Unit := do
  if (← sees "(") || (← sees "<") then
    signature g
    memberEnd
    return
  if (← atWord "new") then
    let next ← peekToken
    if isMark "(" next || isMark "<" next then
      advance
      signature g
      memberEnd
      return
  loop () fun _ => do
    match ← token with
    | .word w _ =>
      if ["readonly", "public", "private", "protected", "static", "abstract", "declare"].contains w
          && (← isModifierOfNext) then
        if w != "readonly" then note (.modifierPlace w "a type member")
        advance
        return ((), true)
      return ((), false)
    | _ => return ((), false)
  if ((← atWord "get") || (← atWord "set")) && (← isModifierOfNext) then
    advance
    memberKey g
    signature g
    memberEnd
    return
  if ← atIndexSignature then
    indexSignature g
    memberEnd
    return
  memberKey g
  let _ ← eat "?"
  if (← sees "(") || (← sees "<") then signature g
  else
    let _ ← annotation g
  memberEnd

/-- Members between braces. -/
def members : Step Unit := do
  expect "\x7b"
  loop () fun _ => do
    if (← sees "\x7d") || (← atStop) then return ((), false)
    member g
    return ((), true)
  expect "\x7d"

/-! ## Types -/

def atMappedType : Step Bool := ahead do
  advance
  if (← sees "+") || (← sees "-") then
    advance
    return ← atWord "readonly"
  if (← atWord "readonly") && isMark "[" (← peekToken) then advance
  if !(← sees "[") then return false
  advance
  if !isAnyWord (← token) then return false
  advance
  atWord "in"

def mappedType : Step Unit := do
  expect "\x7b"
  if (← sees "+") || (← sees "-") then advance
  let _ ← eatWord "readonly"
  expect "["
  parameterName
  expectWord "in"
  g.type
  if ← eatWord "as" then g.type
  expect "]"
  if (← sees "+") || (← sees "-") then
    advance
    expect "?"
  else
    let _ ← eat "?"
  if ← eat ":" then g.type
  let _ ← eat ";"
  expect "\x7d"

/-- An element of a tuple type, named or not. -/
def tupleElement : Step Unit := do
  let isNamed ← ahead do
    let _ ← eat "..."
    if !isAnyWord (← token) then return false
    advance
    if ← sees ":" then return true
    if ← sees "?" then
      advance
      return ← sees ":"
    return false
  let isRest ← eat "..."
  if isNamed then
    advance
    let isOptional ← eat "?"
    if isRest && isOptional then note .tupleOptionalRest
    expect ":"
    let _ ← eat "..."
    g.type
  else g.type

/-- `import("…")` as a type. -/
def importType : Step Unit := do
  expectWord "import"
  expect "("
  match ← token with
  | .string .. => advance
  | _ => throw .importTypeSource
  if ← eat "," then
    if !(← sees ")") then
      let _ ← allowingIn (g.assignment true)
      let _ ← eat ","
  expect ")"
  loop () fun _ => do
    if ← eat "." then
      let _ ← anyWord
      return ((), true)
    return ((), false)
  argumentsIfAny g

/-- Remembers that the type from `start` up to here has a mark. -/
def markType (start : Nat) (mark : String) (isBefore : Bool) : Step Unit := do
  let stop ← previousStop
  modify fun s => { s with markedType := some (start, stop, .markedType mark isBefore) }

/-- Types between the holes of a template type. -/
def templateType : Step Unit := do
  advance
  loop () fun _ => do
    g.type
    if !(← sees "\x7d") then expectedHere "\x7d"
    reread fun s => s.bump.template .templateTail .templateMiddle
    match ← token with
    | .templateTail _ =>
      advance
      return ((), false)
    | .templateMiddle _ =>
      advance
      return ((), true)
    | _ => unexpected

/-- A type with nothing before or behind it. -/
def primary : Step Unit := do
  match ← token with
  | .string .. | .number .. | .bigint _ | .templateWhole _ => advance
  | .templateHead _ => templateType g
  | .mark "-" =>
    advance
    match ← token with
    | .number .. | .bigint _ => advance
    | _ => unexpected
  | .mark "\x7b" => if ← atMappedType then mappedType g else members g
  | .mark "[" =>
    advance
    let _ ← delimited "]" (tupleElement g)
    expect "]"
  | .mark "(" =>
    advance
    withContext ({ · with noConditional := false }) g.type
    expect ")"
  | .mark "?" =>
    let start ← pos
    advance
    let isAlone := match ← token with
      | .mark m => [",", "\x7d", ")", "=", "|"].contains m || m.startsWith ">"
      | _ => false
    if !isAlone then
      g.type
      markType start "?" true
  | .word "this" _ =>
    advance
    if (← atWord "is") && !(← onNewLine) then
      advance
      g.type
  | .word "typeof" _ =>
    advance
    if ← atWord "import" then importType g
    else
      if ← atWord "this" then
        advance
        loop () fun _ => do
          if ← eat "." then
            let _ ← anyWord
            return ((), true)
          return ((), false)
      else path
      argumentsIfAny g
  | .word "import" _ => importType g
  | .word "asserts" _ =>
    let next ← peek
    if !next.isOnNewLine && (isNameToken next.token || isWord "this" next.token) then
      advance
      advance
      if ← eatWord "is" then g.type
    else reference g
  | .word w _ =>
    if ["null", "true", "false", "void"].contains w then advance else reference g
  | _ => unexpected

/-- A type that may have exclamation marks before it. -/
def marked : Step Unit := do
  let start ← pos
  let hasMark ← loop false fun found => do
    if ← eat "!" then return (true, true)
    return (found, false)
  primary g
  if hasMark then markType start "!" true

/-- Array, index and optional marks behind a type. -/
def suffixed : Step Unit := do
  let start ← pos
  let isTuple ← sees "["
  marked g
  let isList ← loop isTuple fun isList => do
    if ← onNewLine then return (isList, false)
    if ← sees "!" then
      advance
      markType start "!" false
      return (false, true)
    if ← sees "?" then
      let isConditional ← ahead do
        advance
        atTypeStart
      if isConditional then return (isList, false)
      advance
      markType start "?" false
      return (false, true)
    if ← sees "[" then
      advance
      if ← sees "]" then
        advance
        return (true, true)
      g.type
      expect "]"
      return (false, true)
    return (isList, false)
  modify fun s => { s with isListType := isList }

/-- Prefix operators of types. -/
def operator : Step Unit := do
  if ((← atWord "keyof") || (← atWord "unique") || (← atWord "readonly")) then
    let isReadonly ← atWord "readonly"
    advance
    g.typeOperator
    if isReadonly && !(← get).isListType then note .readonlyType
    modify fun s => { s with isListType := false }
  else if ← atWord "infer" then
    advance
    parameterName
    if ← atWord "extends" then
      let constraint ← attempt do
        advance
        withContext ({ · with noConditional := true }) g.type
        if !(← read).noConditional && (← sees "?") then unexpected
      if constraint.isNone then return
  else withContext ({ · with noConditional := false }) (suffixed g)

/-- Operands with a mark between them and perhaps one in front. -/
def separated (separator : String) (p : Step Unit) : Step Unit := do
  let _ ← eat separator
  p
  loop () fun _ => do
    if ← eat separator then
      p
      return ((), true)
    return ((), false)

def union : Step Unit := separated "|" (separated "&" (operator g))

/-- Whether a function type starts at the current parenthesis. -/
def atFunctionParens : Step Bool := ahead do
  advance
  if (← sees ")") || (← sees "...") then return true
  loop () fun _ => do
    if ["public", "private", "protected", "readonly", "override"].any (isWord · (← token))
        && isAnyWord (← peekToken) then
      advance
      return ((), true)
    return ((), false)
  let started ←
    if (← atName) || (← atWord "this") then do
      advance
      pure true
    else if (← sees "[") || (← sees "\x7b") then return (← attempt g.pattern).isSome
    else pure false
  if !started then return false
  if (← sees ":") || (← sees ",") || (← sees "?") || (← sees "=") then return true
  if ← sees ")" then
    advance
    return ← sees "=>"
  return false

def atFunctionType : Step Bool := do
  if ← sees "<" then return true
  if ← sees "(" then return ← atFunctionParens g
  if ← atWord "new" then return true
  if ← atWord "abstract" then return isWord "new" (← peekToken)
  return false

def functionType : Step Unit := do
  let _ ← eatWord "abstract"
  let _ ← eatWord "new"
  parameters g false
  parameterList g
  advance
  returnType g

/-- A whole type. -/
def type : Step Unit := do
  if ← atFunctionType g then
    functionType g
    return
  union g
  if !(← read).noConditional && !(← onNewLine) && (← atWord "extends") then
    advance
    withContext ({ · with noConditional := true }) g.type
    expect "?"
    withContext ({ · with noConditional := false }) g.type
    expect ":"
    withContext ({ · with noConditional := false }) g.type

/-! ## Type arguments in expressions -/

/-- Whether the current token may start an expression. -/
def atExpressionStart : Step Bool := do
  match ← token with
  | .word w _ =>
    return isNameWord w || ["this", "super", "null", "true", "false", "function", "class", "new",
      "delete", "typeof", "void", "import"].contains w
  | .mark m =>
    return ["(", "[", "\x7b", "/", "/=", "+", "-", "~", "!", "++", "--", "<", "@"].contains m
  | .string .. | .number .. | .bigint _ | .templateWhole _ | .templateHead _ | .privateName _
  | .regex .. => return true
  | _ => return false

def atBinaryOperator : Step Bool := do
  match ← token with
  | .mark m => return (BinaryOp.ofLexeme? m).isSome || (LogicalOp.ofLexeme? m).isSome
  | .word w _ => return ["in", "instanceof", "as", "satisfies"].contains w
  | _ => return false

/-- Type arguments behind an expression, if what follows them allows this reading. -/
def argumentsInExpression : Step Unit := do
  splitOpen
  expect "<"
  let (types, _) ← delimited ">" g.type
  if !(← sees ">") then unexpected
  let s ← get
  if isMark ">=" ((atCurrent s).angle).1 then unexpected
  advance
  if types.isEmpty then note .emptyTypeArguments
  match ← token with
  | .mark "(" | .templateWhole _ | .templateHead _ => return
  | .mark "<" | .mark ">" | .mark "+" | .mark "-" => unexpected
  | _ =>
    if (← onNewLine) || (← atBinaryOperator) || !(← atExpressionStart) then return
    unexpected

end Vitrine.Script.Parser.TypeExpr
