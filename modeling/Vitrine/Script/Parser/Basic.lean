import Vitrine.Script.Scan

/-!
# Parsing: state and steps

A parser step reads a context (which dialect, which surroundings), changes a state (the current
token, the place behind it, faults found so far) and either yields a value or stops with a fault. A
fault that does not stop is recorded with `note`. Steps that recur into the grammar take it as an
argument: `Grammar` is the record of all nonterminals that recur, and it is tied together by depth in
the module that reads whole programs.
-/

namespace Vitrine.Script

/-- Which notations a script may use. -/
structure Dialect where
  hasTypes : Bool
  hasMarkup : Bool
  deriving DecidableEq, Repr

/-- Where a statement stands. -/
inductive Placement where
  | list | ifBranch | loopBody | label | topLevel
  deriving DecidableEq, Repr

/-- A statement that is the whole body of another one. -/
def Placement.isSingle : Placement → Bool
  | list | topLevel => false
  | _ => true

namespace Parser

structure Context where
  hasTypes : Bool
  hasMarkup : Bool
  allowIn : Bool := true
  allowYield : Bool := false
  allowAwait : Bool := true
  allowReturn : Bool := false
  isAmbient : Bool := false
  inDecorator : Bool := false
  inMarkup : Bool := false
  noConditional : Bool := false

/-- The current token, the place behind it, and the place before it. `depth` counts the brackets that
are open; `covered` and `trailing` are the places of shorthand defaults and of literals with a comma
at their end, which only patterns may have or must not have; `isListType` tells whether the type read
last is an array or a tuple, and `markedType` where a type with a mark before or behind it stood last,
with the fault of it. -/
structure State where
  current : Lexeme
  scan : Scan
  prior : Scan
  previousStop : Nat
  faults : List Fault := []
  covered : List Nat := []
  trailing : List Nat := []
  depth : Nat := 0
  isListType : Bool := false
  markedType : Option (Nat × Nat × Fault) := none

/-- A parser step. -/
abbrev Step := ReaderT Context (EStateM Fault State)

/-- The nonterminals that recur. -/
structure Grammar where
  expression : Step Expr
  assignment : Bool → Step Expr
  binary : Strength → Step Expr
  unary : Step Expr
  simpleUnary : Step Expr
  newCallee : Step Expr
  leftHand : Step Expr
  pattern : Step Pattern
  statement : Placement → Step Stmt
  type : Step Unit
  typeOperator : Step Unit
  markup : Bool → Step Expr

/-! ## Tokens -/

def current : Step Lexeme := return (← get).current

def token : Step Token := return (← get).current.token

def pos : Step Nat := return (← get).current.pos

def previousStop : Step Nat := return (← get).previousStop

def onNewLine : Step Bool := return (← get).current.isOnNewLine

/-- How many brackets are open behind a token. -/
def depthBehind (depth : Nat) : Token → Nat
  | .mark m =>
    if m == "(" || m == "[" || m == "\x7b" then depth + 1
    else if m == ")" || m == "]" || m == "\x7d" then depth - 1
    else depth
  | .templateHead _ => depth + 1
  | .templateTail _ => depth - 1
  | _ => depth

/-- Installs the token that `read` yields at the place behind the current one. -/
def advanceWith (read : Scan → Lexeme × Scan) : Step Unit :=
  modify fun s =>
    let (lexeme, scan) := read s.scan
    { s with
      current := lexeme, scan, prior := s.scan, previousStop := s.current.stop,
      depth := depthBehind s.depth s.current.token }

/-- Goes on to the next token. -/
def advance : Step Unit := advanceWith Scan.next

/-- The place at the start of the current token. -/
def atCurrent (s : State) : Scan :=
  { s.scan with rest := s.prior.rest.drop (s.current.pos - s.prior.pos), pos := s.current.pos }

/-- Reads the current token again with another reader. -/
def reread (read : Scan → Token × Scan) : Step Unit :=
  modify fun s =>
    let (token, scan) := read (atCurrent s)
    { s with current := { s.current with token, stop := scan.pos }, scan }

/-- Records a fault and goes on. -/
def note (f : Fault) : Step Unit := modify fun s => { s with faults := f :: s.faults }

def unexpected {α : Type} : Step α := throw .unexpectedToken

/-- Runs a step and forgets what it did. -/
def ahead {α : Type} (p : Step α) : Step α := do
  let s ← get
  let a ← try p catch f => do set s; throw f
  set s
  return a

/-- Runs a step; if it stops, forgets what it did. -/
def attempt {α : Type} (p : Step α) : Step (Option α) := do
  let s ← get
  try
    let a ← p
    return some a
  catch _ => do
    set s
    return none

def isMark (m : String) : Token → Bool
  | .mark l => l == m
  | _ => false

def isWord (w : String) : Token → Bool
  | .word t _ => t == w
  | _ => false

def sees (m : String) : Step Bool := return isMark m (← token)

def atWord (w : String) : Step Bool := return isWord w (← token)

def atStop : Step Bool := return match ← token with
  | .stop => true
  | _ => false

/-- Consumes the current word as a keyword, which may not be spelled with escapes. -/
def advanceWord : Step Unit := do
  if let .word _ true ← token then note .escapedKeyword
  advance

def eat (m : String) : Step Bool := do
  if ← sees m then
    advance
    return true
  return false

def eatWord (w : String) : Step Bool := do
  if ← atWord w then
    advanceWord
    return true
  return false

def expectedHere {α : Type} (wanted : String) : Step α := do
  throw (.expected wanted (← token).describe)

def expect (m : String) : Step Unit := do
  if ← sees m then advance else expectedHere m

def expectWord (w : String) : Step Unit := do
  if ← atWord w then advanceWord else expectedHere w

/-- The token behind the current one. -/
def peek : Step Lexeme := ahead do
  advance
  current

def peekToken : Step Token := return (← peek).token

/-- Whether a statement may end here without a semicolon. -/
def canEnd : Step Bool := do
  let l ← current
  return l.isOnNewLine || match l.token with
    | .mark m => m == ";" || m == "\x7d"
    | .stop => true
    | _ => false

/-- The end of a statement. -/
def semicolon : Step Unit := do
  if ← canEnd then
    let _ ← eat ";"
  else throw .missingSemicolon

def limit : Step Nat := return (← get).scan.limit

def hasTypes : Step Bool := return (← read).hasTypes

def hasMarkup : Step Bool := return (← read).hasMarkup

def withContext {α : Type} (f : Context → Context) (p : Step α) : Step α := withReader f p

def allowingIn {α : Type} (p : Step α) : Step α := withContext ({ · with allowIn := true }) p

/-! ## Repetition -/

/-- Repeats a step as long as it yields something. -/
def manyUpTo {α : Type} (p : Step (Option α)) : Nat → List α → Step (List α)
  | 0, acc => return acc.reverse
  | n + 1, acc => do
    match ← p with
    | none => return acc.reverse
    | some a => manyUpTo p n (a :: acc)

def many {α : Type} (p : Step (Option α)) : Step (List α) := do
  manyUpTo p (← limit) []

/-- Repeats a step that changes a value until it says that it is done. -/
def loopUpTo {α : Type} (p : α → Step (α × Bool)) : Nat → α → Step α
  | 0, a => return a
  | n + 1, a => do
    match ← p a with
    | (a, true) => loopUpTo p n a
    | (a, false) => return a

/-- `loop a p` repeats `p` from `a`; the flag of a result asks for one more round. -/
def loop {α : Type} (a : α) (p : α → Step (α × Bool)) : Step α := do
  loopUpTo p (← limit) a

/-- Elements with commas between them, up to but without the closing mark. The flag says whether a
comma stands before the closing mark. -/
def delimited {α : Type} (close : String) (p : Step α) : Step (List α × Bool) := do
  if (← sees close) || (← atStop) then return ([], false)
  let first ← p
  let (items, trailing) ← loop ([first], false) fun (acc, _) => do
    if (← sees close) || (← atStop) then return ((acc, false), false)
    if !(← sees ",") then throw (.expectedOneOf "," close (← token).describe)
    advance
    if ← sees close then return ((acc, true), false)
    let a ← p
    return ((a :: acc, false), true)
  return (items.reverse, trailing)

/-- Elements with commas between them, the last of which may be a rest element. -/
def delimitedWithRest {α : Type} (close : String) (p rest : Step α) (notLast : Fault) :
    Step (List α) := do
  let (items, _) ← loop (([] : List α), false) fun (acc, hasRest) => do
    if (← sees close) || (← atStop) then return ((acc, hasRest), false)
    if !acc.isEmpty then
      if !(← sees ",") then throw (.expectedOneOf "," close (← token).describe)
      advance
      if ← sees close then
        if hasRest then note .restTrailingComma
        return ((acc, hasRest), false)
    if hasRest then throw notLast
    if ← sees "..." then
      let a ← rest
      return ((a :: acc, true), true)
    let a ← p
    return ((a :: acc, false), true)
  return items.reverse

/-! ## Names -/

/-- Words that a binding or a reference may use as far as the grammar is concerned. -/
def isNameWord (s : String) : Bool := !isReservedWord s

/-- Whether the current token can name something. -/
def atName : Step Bool := return match ← token with
  | .word t _ => isNameWord t
  | _ => false

def isNameToken : Token → Bool
  | .word t _ => isNameWord t
  | _ => false

def isAnyWord : Token → Bool
  | .word .. => true
  | _ => false

/-- Notes the use of a word that the surroundings give a meaning. -/
def checkName (text : String) : Step Unit := do
  let c ← read
  if text == "await" && c.allowAwait then note .awaitName
  if text == "yield" && c.allowYield then note .yieldName

/-- A name that is bound here. -/
def bindingName : Step Name := do
  let l ← current
  match l.token with
  | .word t _ =>
    if isNameWord t then
      checkName t
      advance
      return ⟨l.pos, t⟩
    else throw (.reservedHere t)
  | _ => unexpected

/-- Any word at all. -/
def anyWord : Step Name := do
  let l ← current
  match l.token with
  | .word t _ =>
    advance
    return ⟨l.pos, t⟩
  | _ => unexpected

/-- A string literal in a place where only a string can stand. -/
def quote : Step Quote := do
  let l ← current
  match l.token with
  | .string value raw =>
    advance
    return ⟨l.pos, l.stop, value, raw⟩
  | _ => unexpected

/-- Whether a contextual keyword at the current token is followed by something that it modifies. -/
def isModifierOfNext : Step Bool := do
  let l ← peek
  return match l.token with
    | .word .. | .privateName _ | .string .. | .number .. | .bigint _ => true
    | .mark m => m == "["
    | _ => false

end Parser

end Vitrine.Script
