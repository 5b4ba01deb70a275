import Vitrine.Script.Fault
import Vitrine.Script.Token
import Vitrine.Script.Scope

/-!
# Rules about names and places

What a script must obey beyond its grammar: names are bound once, words that are reserved in modules
name nothing, jumps have targets, `super` and private names stand where they mean something, and so
on. A script is a module, so the strict rules hold everywhere.

`Rules.check` walks over a node. The surroundings of a part follow from those of the whole and from
the role of the part (`Surroundings.inside`); scopes open before the parts of a node are visited and
close behind them. A rule about a node itself is checked when its parts are done.
-/

namespace Vitrine.Script

/-! ## Surroundings -/

/-- Where a call of the parent's constructor may stand. -/
inductive SuperCall where
  | allowed | withoutParent | forbidden
  deriving DecidableEq

/-- A label that can be jumped to; `isLoop` if it stands before a loop. -/
structure Label where
  name : String
  isLoop : Bool

/-- What the rules need to know about the place of a node. -/
structure Surroundings where
  hasTypes : Bool
  isTopLevel : Bool := true
  inModuleBody : Bool := true
  isTarget : Bool := false
  inParams : Bool := false
  inFunction : Bool := false
  superProperty : Bool := false
  superCall : SuperCall := .forbidden
  newTarget : Bool := false
  argumentsPlace : Option String := none
  inStaticBlock : Bool := false
  labels : List Label := []
  inLoop : Bool := false
  inSwitch : Bool := false
  inClass : Bool := false
  isClassMember : Bool := false
  privates : List String := []
  hasParent : Bool := false
  isAbstractClass : Bool := false
  isAmbient : Bool := false

namespace Surroundings

/-- No jump leads out of here. -/
def withoutJumps (c : Surroundings) : Surroundings :=
  { c with labels := [], inLoop := false, inSwitch := false }

/-- The surroundings of what a function consists of; `own` is the role of the function. -/
def insideFunction (c : Surroundings) (own : Role) (info : FuncInfo) : Surroundings :=
  let c := { c.withoutJumps with inFunction := true }
  if info.shape == .arrow then c
  else
    let c := { c with newTarget := true, argumentsPlace := none }
    match own with
    | .method kind _ =>
      { c with
        superProperty := true
        superCall :=
          if kind == .constructor then
            if c.hasParent then .allowed else .withoutParent
          else .forbidden }
    | _ => { c with superProperty := false, superCall := .forbidden }

/-- The surroundings of code that runs when an instance or a class is made. -/
def insideInitializer (c : Surroundings) (place : String) : Surroundings :=
  { c.withoutJumps with
    inFunction := true, superProperty := true, superCall := .forbidden, newTarget := true,
    argumentsPlace := some place }

/-- The text of a property name. -/
def keyText : Expr → Option String
  | .name _ t => some t
  | .literal _ (.string v _) _ => some (String.ofList (v.map Char.ofNat))
  | _ => none

/-- The private names that a member declares. -/
def privateNameOf : Member → List String
  | .method _ _ _ _ false (.privateName _ t) _ => [t]
  | .field _ _ _ false _ (.privateName _ t) _ => [t]
  | _ => []

/-- Statements that a label with `continue` may stand before. -/
def isLoop : Stmt → Bool
  | .for .. | .forIn .. | .forOf .. | .while .. | .doWhile .. => true
  | .labeled _ _ body => isLoop body
  | _ => false

/-- Nodes that pass on that they are assigned to. -/
def passesTarget : Node → Bool
  | .pattern (.place _) => false
  | .pattern _ => true
  | .expr (.paren ..) | .expr (.typed ..) => true
  | _ => false

/-- Nodes whose parts are no longer in the scope around them. -/
def isEnclosure (own : Role) : Node → Bool
  | .expr (.function ..) | .expr (.arrow ..) | .expr (.class ..) => true
  | .stmt (.block ..) => own != .handler
  | .stmt (.for ..) | .stmt (.forIn ..) | .stmt (.forOf ..) | .stmt (.switch ..)
  | .stmt (.catch ..) => true
  | _ => false

/-- The surroundings of a part: `own` is the role of the node itself, `role` that of its part. -/
def inside (c : Surroundings) (own : Role) (n : Node) (role : Role) : Surroundings :=
  let isTarget := role == .target || (c.isTarget && passesTarget n && role == .plain)
  let c :=
    { c with
      isTarget, isTopLevel := false
      inModuleBody := c.inModuleBody && role == .exported
      inStaticBlock := c.inStaticBlock && !isEnclosure own n }
  match n with
  | .expr (.function info _ _) =>
    { c.insideFunction own info with inParams := role == .param }
  | .expr (.arrow pos isAsync _ _) =>
    { c.insideFunction own { pos, isAsync, shape := .arrow } with inParams := role == .param }
  | .expr (.class info _ parent members) =>
    if role == .plain || role == .parent then
      { c with
        inClass := true
        isClassMember := role == .plain
        privates := members.flatMap privateNameOf ++ c.privates
        hasParent := if role == .plain then parent.isSome else c.hasParent
        isAbstractClass := if role == .plain then info.isAbstract else c.isAbstractClass
        isAmbient := c.isAmbient || info.isDeclared }
    else c
  | .expr (.object ..) => { c with isClassMember := false }
  | .member (.field ..) =>
    if role == .fieldValue then c.insideInitializer "class field initializer" else c
  | .member (.staticBlock ..) =>
    { c.insideInitializer "static initialization block" with inStaticBlock := true }
  | .stmt (.for ..) | .stmt (.forIn ..) | .stmt (.forOf ..) | .stmt (.while ..)
  | .stmt (.doWhile ..) => if role == .branch then { c with inLoop := true } else c
  | .stmt (.switch ..) => { c with inSwitch := true }
  | .stmt (.labeled _ label body) => { c with labels := ⟨label.text, isLoop body⟩ :: c.labels }
  | .stmt (.namespace _ isDeclared _ _) =>
    { c.withoutJumps with inModuleBody := true, isAmbient := c.isAmbient || isDeclared }
  | .stmt (.ambientModule ..) => { c.withoutJumps with inModuleBody := true, isAmbient := true }
  | _ => c

end Surroundings

namespace Rules

open Surroundings (keyText)

/-- Scopes that are open, and the faults found so far, newest first. -/
structure State where
  frames : Frames
  faults : List Fault := []

abbrev Check := StateM State

def note (f : Fault) : Check Unit := modify fun s => { s with faults := f :: s.faults }

def noteIf (b : Bool) (f : Fault) : Check Unit := if b then note f else pure ()

def noteUnless (b : Bool) (f : Fault) : Check Unit := noteIf (!b) f

/-! ## Binding -/

def bind (c : Surroundings) (name : String) (kind : BindingKind) : Check Unit := do
  let s ← get
  let (frames, isRefused) := s.frames.bind c.hasTypes name kind
  set { s with frames }
  noteIf isRefused (.redeclared name)

def bindAll (c : Surroundings) (names : List Name) (kind : BindingKind) : Check Unit :=
  names.forM fun n => bind c n.text kind

def openFrame (f : Frame) : Check Unit := modify fun s => { s with frames := f :: s.frames }

def closeFrame : Check Unit := modify fun s => { s with frames := s.frames.drop 1 }

/-- The kind of binding that variables of a kind are. -/
def kindOfVar : VarKind → BindingKind
  | .var => .var
  | _ => .lexical

/-- Whether the name of a function declared here belongs to the nearest function. -/
def atFunctionScope : Check Bool := do
  return match (← get).frames with
    | f :: _ => f.isFunction
    | [] => false

/-- The kind of a catch parameter. -/
def catchKind : Pattern → BindingKind
  | .name .. => .catchParam
  | _ => .lexical

/-- Whether a node opens a scope, and which. -/
def frameOf (role : Role) : Node → Option Frame
  | .expr (.function ..) | .expr (.arrow ..) => some { isVarScope := true, isFunction := true }
  | .member (.staticBlock ..) => some { isVarScope := true, isFunction := true }
  | .stmt (.block ..) => if role == .handler then none else some { isVarScope := false }
  | .stmt (.for ..) | .stmt (.forIn ..) | .stmt (.forOf ..) | .stmt (.switch ..)
  | .stmt (.catch ..) | .stmt (.enumDecl ..) => some { isVarScope := false }
  | .stmt (.namespace ..) | .stmt (.ambientModule ..) =>
    some { isVarScope := true, isNamespace := true }
  | _ => none

/-- Binds what a declaration adds to the scope around it. -/
def declare (c : Surroundings) (role : Role) : Node → Check Unit
  | .pattern (.declarator _ _ _ target _) =>
    match role with
    | .item kind => bindAll c target.boundNames (kindOfVar kind)
    | _ => pure ()
  | .expr (.function info _ _) => do
    if role == .declaration then
      if let some n := info.name then
        bind c n.text (if ← atFunctionScope then .function else .blockFunction)
  | .expr (.class info _ _ _) => do
    if role == .declaration then
      if let some n := info.name then bind c n.text .classDecl
  | .stmt (.importFrom _ isType _ (some bindings) _ _) =>
    (importedNames isType bindings).forM fun (n, kind) => bind c n.text kind
  | .stmt (.importAlias _ isType n _) =>
    bind c n.text (if isType then .typeImport else .valueImport)
  | .stmt (.typeDecl _ kind n _) => bind c n.text (match kind with
    | .alias => .typeAlias
    | .interface => .interface)
  | .stmt (.enumDecl _ isConst _ n _) => bind c n.text (if isConst then .constEnum else .enum)
  | .stmt (.namespace _ _ n body) => bind c n.text (if hasValue body then .space else .typeSpace)
  | _ => pure ()

/-- Binds what belongs to the scope that a node opens. -/
def declareInside (c : Surroundings) : Node → Check Unit
  | .expr (.function _ params _) | .expr (.arrow _ _ params _) =>
    bindAll c (boundNamesOf params) .param
  | .stmt (.catch ps _) => ps.forM fun p => bindAll c p.boundNames (catchKind p)
  | .member (.enumMember _ name _) =>
    bind c (String.ofList (name.map Char.ofNat)) .enumMember
  | _ => pure ()

/-! ## Words -/

/-- A word that names nothing in a module. -/
def checkWord (t : String) : Check Unit := do
  if t == "await" || strictReservedWords.contains t then
    let inNamespace := match (← get).frames with
      | f :: _ => f.isNamespace
      | [] => false
    noteUnless inNamespace (.reservedWord t)

/-- Names that cannot be assigned to. -/
def isFixedName (t : String) : Bool := t == "eval" || t == "arguments"

/-- A name that is bound or assigned. -/
def checkBound (t : String) : Check Unit := do
  checkWord t
  noteIf (isFixedName t) (.strictAssignment t)

def checkReference (c : Surroundings) (t : String) : Check Unit := do
  checkWord t
  noteIf (c.isTarget && isFixedName t) (.strictAssignment t)
  match c.argumentsPlace with
  | some place => noteIf (t == "arguments") (.argumentsPlace place)
  | none => pure ()

/-! ## Literals -/

/-- Whether the digits of a number start with an idle zero. -/
def hasLeadingZero : List Char → Bool
  | '0' :: c :: _ => c.isDigit
  | _ => false

def checkNumber (raw : List Char) : Check Unit :=
  if hasLeadingZero raw then
    note (if raw.all (fun c => '0' ≤ c && c ≤ '7') then .legacyOctal else .leadingZero)
  else pure ()

/-- The first escape in a string that a module does not allow. -/
def badEscape? : List Char → Option Fault
  | '\\' :: '0' :: c :: rest =>
    if '1' ≤ c && c ≤ '9' then some .legacyOctal else badEscape? (c :: rest)
  | '\\' :: c :: rest =>
    if '1' ≤ c && c ≤ '7' then some .legacyOctal
    else if c = '8' || c = '9' then some .invalidEscape
    else badEscape? rest
  | _ :: rest => badEscape? rest
  | [] => none

def checkString (raw : List Char) : Check Unit :=
  match badEscape? raw with
  | some f => note f
  | none => pure ()

def checkLiteral : Literal → Check Unit
  | .number _ raw => checkNumber raw.toList
  | .string _ raw => checkString raw.toList
  | _ => pure ()

def checkDirectives (ds : List Directive) : Check Unit := ds.forM fun d => checkString d.text

/-! ## Functions -/

def isSimpleParam : Pattern → Bool
  | .param _ _ _ (.name ..) => true
  | _ => false

/-- Whether a required parameter stands behind an optional one, once for each. -/
def checkOptional : Bool → List Pattern → Check Unit
  | hasOptional, .param _ info _ target :: rest => do
    let isFallback := match target with
      | .fallback .. => true
      | _ => false
    noteIf (hasOptional && !info.isOptional && !isFallback) .requiredAfterOptional
    checkOptional (hasOptional || info.isOptional) rest
  | hasOptional, _ :: rest => checkOptional hasOptional rest
  | _, [] => pure ()

def checkFunction (info : FuncInfo) (params : List Pattern) : Check Unit := do
  checkDirectives info.directives
  noteIf (info.directives.any (String.ofList ·.text == "use strict") && !params.all isSimpleParam)
    .strictDirective
  checkOptional false params
  if let some n := info.name then checkBound n.text

/-! ## Classes -/

def isFunctionBody : Expr → Bool
  | .function info _ _ => info.hasBody
  | _ => false

/-- A member as far as the rules on pairs of members look at it: its name, and whether it is an
overload without body. -/
structure MethodView where
  key : Option String
  kind : MethodKind
  isBare : Bool

def methodView? : Member → Option MethodView
  | .method _ _ mods kind isComputed key value =>
    let key := if isComputed then none else match key with
      | .privateName _ t => some ("#" ++ t)
      | k => keyText k
    some ⟨key, kind, !isFunctionBody value && !mods.isAbstract && !mods.isOptional⟩
  | _ => none

/-- Overloads must be followed by another form of the same method. -/
def checkOverloads : List Member → Check Unit
  | [] => pure ()
  | m :: rest => do
    if let some v := methodView? m then
      let isFollowed := match rest with
        | next :: _ => match methodView? next with
          | some w => w.key == v.key
          | none => false
        | [] => false
      if v.isBare && !isFollowed then
        match v.kind with
        | .constructor => note .constructorMissing
        | .method => note .missingImplementation
        | _ => pure ()
    checkOverloads rest

/-- Which private members of one name can stand together: a reader and a writer of one sort. -/
structure PrivateView where
  name : String
  kind : MethodKind
  isStatic : Bool

def privateView? : Member → Option PrivateView
  | .method _ _ mods kind false (.privateName _ t) value =>
    if isFunctionBody value then some ⟨t, kind, mods.isStatic⟩ else none
  | .field _ _ mods false _ (.privateName _ t) _ => some ⟨t, .method, mods.isStatic⟩
  | _ => none

def PrivateView.pairs (a b : PrivateView) : Bool :=
  a.isStatic == b.isStatic &&
    ((a.kind == .get && b.kind == .set) || (a.kind == .set && b.kind == .get))

/-- Notes private names that are declared again. -/
def checkPrivates : List PrivateView → List PrivateView → Check Unit
  | _, [] => pure ()
  | seen, v :: rest => do
    match seen.find? (·.name == v.name) with
    | some w => noteUnless (w.pairs v) (.redeclared ("#" ++ v.name))
    | none => pure ()
    checkPrivates (v :: seen) rest

def isConstructor : Member → Bool
  | .method _ _ _ .constructor _ _ value => isFunctionBody value
  | _ => false

/-- A name of a type; `what` is the sort of its declaration. -/
def checkTypeName (what t : String) : Check Unit :=
  noteIf (builtInTypes.contains t) (.typeName what t)

def checkClass (c : Surroundings) (info : ClassInfo) (members : List Member) : Check Unit := do
  if let some n := info.name then
    checkBound n.text
    if c.hasTypes then checkTypeName "Class" n.text
  ((members.filter isConstructor).drop 1).forM fun _ => note .severalConstructors
  checkPrivates [] (members.filterMap privateView?)
  if c.hasTypes && !info.isDeclared then checkOverloads members

/-- Whether a parameter makes a field. -/
def isFieldParam : Pattern → Bool
  | .param _ info _ _ => info.isProperty
  | _ => false

/-- The rules on a method, reader or writer without a body. -/
def checkBare (mods : Modifiers) (kind : MethodKind) : Expr → Check Unit
  | .function info params _ =>
    if info.hasBody then pure ()
    else match kind with
      | .constructor => (params.filter isFieldParam).forM fun _ => note .parameterField
      | .get | .set => noteUnless mods.isAbstract .accessorBody
      | .method => pure ()
  | _ => pure ()

/-- Rules on the name of a member. -/
def checkMemberName (mods : Modifiers) (kind : Option MethodKind) (isComputed : Bool) (key value : Expr) :
    Check Unit := do
  if isComputed then return
  if let .privateName _ t := key then
    noteIf (t == "constructor") .privateConstructor
    return
  let text := keyText key
  noteIf (mods.isStatic && text == some "prototype") .staticPrototype
  if text == some "constructor" then
    match kind with
    | none => note .constructorField
    | some kind =>
      if !mods.isStatic then
        noteIf (kind == .get || kind == .set) .constructorAccessor
        match value with
        | .function info _ _ =>
          noteIf info.isAsync .constructorAsync
          noteIf info.isGenerator .constructorGenerator
        | _ => pure ()

/-! ## Statements -/

/-- Whether a statement is a function that stands where none may stand. -/
def isFunctionStmt : Stmt → Bool
  | .function _ => true
  | _ => false

def checkBreak (c : Surroundings) : Option Name → Check Unit
  | none => noteUnless (c.inLoop || c.inSwitch) .breakPlace
  | some l =>
    if c.labels.any (·.name == l.text) then pure ()
    else note (if c.inFunction then .jumpCrossing else .undefinedLabel)

def checkContinue (c : Surroundings) : Option Name → Check Unit
  | none => noteUnless c.inLoop .continuePlace
  | some l =>
    match c.labels.find? (·.name == l.text) with
    | some label => noteUnless label.isLoop .continueLabel
    | none => note (if c.inFunction then .jumpCrossing else .undefinedLabel)

/-- Rules on what a loop over something declares. -/
def checkLoopHead (loop word : String) : Stmt → Check Unit
  | .var _ _ _ items => do
    let hasInit := items.any fun
      | .declarator _ _ _ _ value => value.isSome
      | _ => false
    let hasType := items.any fun
      | .declarator _ _ hasType _ _ => hasType
      | _ => false
    if hasInit then note (.loopInitializer loop)
    else if items.length > 1 then note (.loopSeveral word)
    else noteIf hasType (.loopType word)
  | _ => pure ()

/-- Notes each `default` behind the first. -/
def checkCases (cases : List Stmt) : Check Unit :=
  let defaults := cases.filter fun
    | .case _ none _ => true
    | _ => false
  (defaults.drop 1).forM fun _ => note (.redeclared "default")

/-- Whether the next member of an enumeration without a value can follow a value. -/
def countsOn : Expr → Bool
  | .literal _ (.number ..) _ | .name .. | .member .. | .index .. | .privateMember .. | .binary ..
  | .unary .. => true
  | _ => false

def checkEnumValues : Bool → List Member → Check Unit
  | isOpen, .enumMember _ _ value :: rest => do
    match value with
    | some e => checkEnumValues (!countsOn e) rest
    | none =>
      noteIf isOpen .enumInitializer
      checkEnumValues isOpen rest
  | isOpen, _ :: rest => checkEnumValues isOpen rest
  | _, [] => pure ()

/-- A plain script has its imports and exports at the top. -/
def checkTopLevel (c : Surroundings) (what : String) : Check Unit :=
  noteIf (!c.hasTypes && !c.isTopLevel) (.notTopLevel what)

/-! ## All rules -/

/-- A pattern can only be assigned as it is. -/
def checkAssign (op : AssignOp) : Pattern → Check Unit
  | .array .. | .object .. => noteIf (op != .plain) .compoundTarget
  | _ => pure ()

/-- Whether several expressions stand where one is expected. -/
def isSequence : Expr → Bool
  | .sequence _ => true
  | _ => false

/-- The values in braces that belong to a markup element: its children and its attributes. -/
def bracedValues (attrs : List Member) (children : List Expr) : List Expr :=
  attrs.filterMap (fun
    | .attr _ value => value
    | _ => none) ++ children

/-- The expression inside parentheses. -/
def unparenthesized : Expr → Expr
  | .paren _ e => unparenthesized e
  | e => e

/-- The faults of taking something away with `delete`. -/
def checkDelete (e : Expr) : Check Unit :=
  match unparenthesized e with
  | .name .. => note .deleteName
  | .privateMember .. => note .deletePrivate
  | .chain (.privateMember ..) => note .deletePrivate
  | _ => pure ()

def checkSuper (c : Surroundings) (role : Role) : Check Unit :=
  if role == .callee then
    match c.superCall with
    | .allowed => pure ()
    | .withoutParent => note .superCallClass
    | .forbidden => note .superCallPlace
  else noteUnless c.superProperty .superPropertyPlace

def checkPrivate (c : Surroundings) (t : String) : Check Unit :=
  if !c.inClass then note (.privateOutsideClass t)
  else noteUnless (c.privates.contains t) (.privateUndeclared t)

/-- Whether a member sets the prototype of the object that it belongs to. -/
def isPrototype : Member → Bool
  | .property _ false key _ => keyText key == some "__proto__"
  | _ => false

def checkTag : TagName → Check Unit
  | .plain _ t =>
    if t.toList.head?.any (fun c => !('a' ≤ c && c ≤ 'z')) then checkWord t else pure ()
  | .member _ root _ => if root == "this" then pure () else checkWord root
  | .namespaced .. => pure ()

/-- The rules on an expression. -/
def checkExpr (c : Surroundings) (role : Role) : Expr → Check Unit
  | .name _ t => checkReference c t
  | .privateName _ t => checkPrivate c t
  | .superRef _ => checkSuper c role
  | .literal _ v _ => checkLiteral v
  | .object _ ms => ((ms.filter isPrototype).drop 1).forM fun _ => note (.redeclared "__proto__")
  | .function info params _ => checkFunction info params
  | .arrow _ _ params _ => checkOptional false params
  | .class info _ _ ms => checkClass c info ms
  | .unary _ .delete e => checkDelete e
  | .privateMember _ t _ => checkPrivate c t
  | .yield .. => noteIf c.inParams .yieldParameter
  | .await .. => do
    noteIf c.inParams .awaitParameter
    noteIf c.inStaticBlock .staticAwait
  | .metaProperty _ "new" _ => noteUnless c.newTarget .newTargetPlace
  | .assign op target _ => checkAssign op target
  | .element _ tag attrs children => do
    ((bracedValues attrs children).filter isSequence).forM fun _ => note .markupSequence
    if let some tag := tag then checkTag tag
  | _ => pure ()

/-- The rules on a member. -/
def checkMember (c : Surroundings) : Member → Check Unit
  | .shorthand _ t => checkReference c t
  | .method _ _ mods kind isComputed key value => do
    noteIf (mods.isAbstract && !c.isAbstractClass) .abstractMethodPlace
    if !c.isAmbient then checkBare mods kind value
    if c.isClassMember then checkMemberName mods (some kind) isComputed key value
  | .field _ _ mods isComputed _ key _ => do
    noteIf (mods.isAbstract && !c.isAbstractClass) .abstractPropertyPlace
    checkMemberName mods none isComputed key (.thisRef 0)
  | _ => pure ()

/-- A class as a statement must have a name, except as what a module exports by default. -/
def checkClassName : Stmt → Check Unit
  | .classDecl _ (.class info _ _ _) => noteIf info.name.isNone .className
  | _ => pure ()

/-- The rules on a statement. -/
def checkStmt (c : Surroundings) : Stmt → Check Unit
  | .ifElse _ _ yes no => do
    noteIf (isFunctionStmt yes) .functionPlacement
    noteIf (no.any isFunctionStmt) .functionPlacement
  | .for _ _ _ _ body | .while _ _ body | .doWhile _ body _ =>
    noteIf (isFunctionStmt body) .functionPlacement
  | .forIn _ head _ body => do
    noteIf (isFunctionStmt body) .functionPlacement
    checkLoopHead "for-in" "for...in" head
  | .forOf _ _ head _ body => do
    noteIf (isFunctionStmt body) .functionPlacement
    checkLoopHead "for-of" "for...of" head
  | .with _ _ body => do
    note .withStatement
    noteIf (isFunctionStmt body) .functionPlacement
  | .continue _ label => checkContinue c label
  | .break _ label => checkBreak c label
  | .switch _ _ cases _ => checkCases cases
  | .labeled _ label body => do
    checkWord label.text
    noteIf (c.labels.any (·.name == label.text)) (.labelTwice label.text)
    noteIf (isFunctionStmt body) .functionPlacement
  | .importFrom _ _ _ bindings source _ => do
    (bindings.getD []).forM fun b => checkBound b.bound.text
    checkString source.raw.toList
    checkTopLevel c "import statement"
  | .exportAll _ _ _ source _ => do
    checkString source.raw.toList
    checkTopLevel c "export statement"
  | .exportNames _ _ items source _ => do
    match source with
    | none => items.forM fun i => checkWord i.bound.text
    | some q => checkString q.raw.toList
    checkTopLevel c "export statement"
  | .exportDecl _ s => do
    checkClassName s
    checkTopLevel c "export statement"
  | .exportDefault .. => checkTopLevel c "export statement"
  | .importAlias _ _ n _ => checkBound n.text
  | .typeDecl _ kind n _ => do
    checkBound n.text
    checkTypeName (if kind == .alias then "Type alias" else "Interface") n.text
  | .namespace _ _ n _ => do
    checkBound n.text
    noteUnless c.inModuleBody .namespacePlacement
  | .ambientModule .. => noteUnless c.inModuleBody .namespacePlacement
  | .enumDecl _ _ _ n ms => do
    checkBound n.text
    checkTypeName "Enum" n.text
    checkEnumValues false ms
  | _ => pure ()

/-- The rules on a node, for when its parts are done. -/
def checkNode (c : Surroundings) (role : Role) : Node → Check Unit
  | .expr e => checkExpr c role e
  | .pattern (.name _ t) => checkBound t
  | .pattern _ => pure ()
  | .member m => checkMember c m
  | .stmt s => do
    if role != .exported then checkClassName s
    checkStmt c s

/-- Checks a node and everything inside it. -/
def check (c : Surroundings) (role : Role) (n : Node) : Check Unit := do
  declare c role n
  let frame := frameOf role n
  if let some f := frame then openFrame f
  declareInside c n
  n.parts.attach.forM fun p => check (c.inside role n p.1.1) p.1.1 p.1.2
  if frame.isSome then closeFrame
  checkNode c role n
termination_by n.weight
decreasing_by exact Node.weight_lt_of_mem_parts p.2

/-! ## Whole scripts -/

def isExportAssign : Stmt → Bool
  | .exportAssign .. => true
  | _ => false

/-- Statements that export something. -/
def isOtherExport : Stmt → Bool
  | .exportAll .. | .exportNames .. | .exportDecl .. | .exportDefault .. => true
  | _ => false

/-- Names without source in an export list must be bound at the top of a plain script. -/
def checkExports (known : List String) (s : Stmt) : Check Unit :=
  match s with
  | .exportNames _ _ items none _ =>
    items.forM fun i => noteUnless (known.contains i.bound.text) (.undefinedExport i.bound.text)
  | _ => pure ()

def checkProgram (hasTypes : Bool) (p : Program) : Check Unit := do
  p.stmts.forM fun s => check { hasTypes } .plain (.stmt s)
  checkDirectives p.directives
  if !hasTypes then
    let known := match (← get).frames with
      | f :: _ => f.bindings.map (·.1)
      | [] => []
    p.stmts.forM (checkExports known)
  else
    noteIf (p.stmts.any isExportAssign && p.stmts.any isOtherExport) .exportAssignmentMix

end Rules

/-- The rules that a script breaks, in the order in which they are found. -/
def Program.brokenRules (hasTypes : Bool) (p : Program) : List Fault :=
  let start : Rules.State := { frames := [{ isVarScope := true }] }
  (Rules.checkProgram hasTypes p start).2.faults.reverse

end Vitrine.Script
