import Vitrine.Script.Parser.TypeExpr

/-!
# Parsing patterns, property names and parameters

Patterns of declarations and parameters are read directly. The left side of an assignment is read as
an expression first; `Target.ofExpr` turns it into a pattern, or refuses it.
-/

namespace Vitrine.Script.Parser

/-! ## Assignment targets -/

namespace Target

/-- The expression inside parentheses and type notations. -/
def bare : Expr → Expr
  | .paren _ e => bare e
  | .typed _ _ e => bare e
  | e => e

/-- Whether an expression is a name or a member, so that a single value can be assigned to it. -/
def isPlace : Expr → Bool
  | .name .. | .member _ _ false | .index _ _ false | .privateMember _ _ false => true
  | _ => false

/-- The places of shorthand defaults that a pattern makes legal, and of literals that end in a rest
element. -/
structure Places where
  shorthands : List Nat := []
  rests : List Nat := []

instance : Append Places := ⟨fun a b => ⟨a.shorthands ++ b.shorthands, a.rests ++ b.rests⟩⟩

/-- A pattern together with the places that matter when it is one. -/
abbrev Found := Except Fault (Pattern × Places)

/-- The places of a literal whose elements are known. -/
def Places.around (p : Nat) (elements : List Pattern) (places : Places) : Places :=
  match elements.getLast? with
  | some (.rest ..) => { places with rests := p :: places.rests }
  | _ => places

/-- A target for a single value. -/
def simple : Expr → Found
  | .name p t => .ok (.name p t, {})
  | .paren _ e => simple e
  | .typed p form e =>
    if isPlace (bare e) then .ok (.place (.typed p form e), {}) else .error .cannotAssign
  | e => if isPlace e then .ok (.place e, {}) else .error .cannotAssign

mutual

/-- A target for any value. Inside a pattern (`isInner`) it may have a default or be left out. -/
def ofExpr (isInner : Bool) : Expr → Found
  | .array p items => do
    let (ps, cs) ← ofItems items
    return (.array p ps, cs.around p ps)
  | .object p members => do
    let (ps, cs) ← ofMembers members
    return (.object p ps, cs.around p ps)
  | .paren _ e =>
    match e with
    | .array .. | .object .. => .error .cannotAssign
    | e => simple e
  | .assign .plain target value =>
    if isInner then .ok (.fallback target value, {}) else .error .cannotAssign
  | .hole => .ok (.hole, {})
  | e => simple e

def ofItems : List Expr → Except Fault (List Pattern × Places)
  | [] => .ok ([], {})
  | .spread p e :: rest => do
    if !rest.isEmpty then throw .spreadNotLast
    let (t, cs) ← ofExpr false e
    return ([.rest p t], cs)
  | e :: rest => do
    let (t, cs) ← ofExpr true e
    let (ts, ds) ← ofItems rest
    return (t :: ts, cs ++ ds)

def ofMembers : List Member → Except Fault (List Pattern × Places)
  | [] => .ok ([], {})
  | m :: rest => do
    let (t, cs) ← ofMember m
    if let .rest .. := t then
      if !rest.isEmpty then throw .spreadNotLast
    let (ts, ds) ← ofMembers rest
    return (t :: ts, cs ++ ds)

def ofMember : Member → Found
  | .property p isComputed key value => do
    let (t, cs) ← ofExpr true value
    return (.field p false isComputed key t, cs)
  | .shorthand p text => .ok (.field p true false (.name p text) (.name p text), {})
  | .covered p text value =>
    .ok (.field p true false (.name p text) (.fallback (.name p text) value), ⟨[p], []⟩)
  | .spread p e => do
    let (t, cs) ← simple e
    return (.rest p t, cs)
  | _ => .error .cannotAssign

end

/-- Turns the left side of an assignment into a pattern. -/
def cover (found : Found) : Step Pattern := do
  match found with
  | .error f => throw f
  | .ok (p, places) =>
    if !places.shorthands.isEmpty then
      modify fun s => { s with covered := s.covered.filter (!places.shorthands.contains ·) }
    let trailing := (← get).trailing
    places.rests.forM fun q => if trailing.contains q then note .restTrailingComma else pure ()
    return p

end Target

/-! ## Property names -/

/-- A property name; the flag says whether it is computed. -/
def propertyName (g : Grammar) : Step (Expr × Bool) := do
  let l ← current
  match l.token with
  | .word t _ =>
    advance
    return (.name l.pos t, false)
  | .string value raw =>
    advance
    return (.literal l.pos (.string value raw) l.stop, false)
  | .number value raw _ =>
    advance
    return (.literal l.pos (.number value raw) l.stop, false)
  | .bigint digits =>
    advance
    return (.literal l.pos (.bigint digits) l.stop, false)
  | .privateName t =>
    advance
    return (.privateName l.pos t, false)
  | .mark "[" =>
    advance
    let e ← allowingIn (g.assignment true)
    expect "]"
    return (e, true)
  | _ => unexpected

/-! ## Binding patterns -/

/-- A default behind a pattern, if there is one. -/
def withFallback (g : Grammar) (p : Pattern) : Step Pattern := do
  if ← eat "=" then return .fallback p (← allowingIn (g.assignment true))
  return p

def restPattern (g : Grammar) : Step Pattern := do
  let p ← pos
  expect "..."
  let target ← g.pattern
  if ← sees "=" then
    note .restInitializer
    advance
    let _ ← allowingIn (g.assignment true)
  return .rest p target

def patternField (g : Grammar) : Step Pattern := do
  let p ← pos
  let l ← current
  let isShort ← match l.token with
    | .word t _ =>
      if isNameWord t then
        let next ← peekToken
        pure !(isMark ":" next)
      else pure false
    | _ => pure false
  if isShort then
    let name ← bindingName
    let target ← withFallback g (.name name.pos name.text)
    return .field p true false (.name name.pos name.text) target
  match l.token with
  | .privateName _ => unexpected
  | .word t _ =>
    if !isNameWord t && !(isMark ":" (← peekToken)) then throw (.reservedHere t)
  | _ => pure ()
  let (key, isComputed) ← propertyName g
  expect ":"
  let target ← withFallback g (← g.pattern)
  return .field p false isComputed key target

def arrayPatternItem (g : Grammar) : Step Pattern := do
  if ← sees "," then return .hole
  withFallback g (← g.pattern)

/-- A pattern in a declaration or a parameter list, without default. -/
def bindingPattern (g : Grammar) : Step Pattern := do
  let p ← pos
  if ← sees "[" then
    advance
    let items ← delimitedWithRest "]" (arrayPatternItem g) (restPattern g) .restNotLast
    expect "]"
    return .array p items
  if ← sees "\x7b" then
    advance
    let fields ← delimitedWithRest "\x7d" (patternField g) (restPattern g) .restNotLast
    match fields.getLast? with
    | some (.rest _ (.name ..)) => pure ()
    | some (.rest ..) => throw .restName
    | _ => pure ()
    expect "\x7d"
    return .object p fields
  let name ← bindingName
  return .name name.pos name.text

/-! ## Decorators and parameters -/

/-- Decorators in front of something. -/
def decorators (g : Grammar) : Step (List Expr) :=
  many do
    if ← sees "@" then
      advance
      return some (← withContext ({ · with inDecorator := true }) g.leftHand)
    return none

/-- The modifiers that a parameter may carry. -/
def parameterModifiers : List String :=
  ["public", "private", "protected", "readonly", "override"]

/-- A parameter; only constructors may turn parameters into fields. -/
def parameter (g : Grammar) (isConstructor : Bool) : Step Pattern := do
  let p ← pos
  let decos ← decorators g
  let mods ← many do
    match ← token with
    | .word w _ =>
      if parameterModifiers.contains w || ["declare", "abstract", "static", "async"].contains w then
        let next ← peek
        let follows := !next.isOnNewLine && match next.token with
          | .word .. => true
          | .mark m => m == "[" || m == "\x7b"
          | _ => false
        if follows then
          advance
          return some w
      return none
    | _ => return none
  if !mods.isEmpty then
    if !(← hasTypes) then note (.typesOnly "Parameter modifiers")
    else
      match mods.find? (fun w => !isConstructor || !parameterModifiers.contains w) with
      | some w => note (.modifierPlace w "a parameter")
      | none => pure ()
  let target ← g.pattern
  let isTyped ← hasTypes
  let isOptional ← if isTyped then eat "?" else pure false
  let hasType ← if isTyped then TypeExpr.annotation g else pure false
  if isOptional && (← sees "=") then note .questionInitializer
  let target ← withFallback g target
  return .param p { isProperty := !mods.isEmpty, isOptional, hasType } decos target

def restParameter (g : Grammar) : Step Pattern := do
  let p ← pos
  expect "..."
  let target ← g.pattern
  if ← hasTypes then
    if ← eat "?" then note .restOptional
    let _ ← TypeExpr.annotation g
  if ← sees "=" then
    note .restInitializer
    advance
    let _ ← allowingIn (g.assignment true)
  return .rest p target

/-- Parameters in parentheses. The flag says whether a `this` parameter stands in front. -/
def parameters (g : Grammar) (isConstructor : Bool) : Step (List Pattern × Bool) := do
  expect "("
  let hasThis ←
    if (← hasTypes) && (← atWord "this") then do
      advance
      let _ ← TypeExpr.annotation g
      if !(← sees ")") then expect ","
      pure true
    else pure false
  let items ← delimitedWithRest ")" (parameter g isConstructor)
    (do
      let decos ← decorators g
      let _ := decos
      restParameter g) .restParameterNotLast
  expect ")"
  return (items, hasThis)

end Vitrine.Script.Parser
