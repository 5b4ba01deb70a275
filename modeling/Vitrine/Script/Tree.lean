import Vitrine.Script.Operator

/-!
# Syntax trees of scripts

One tree covers plain scripts, type annotations as far as they matter (types themselves are read
and left out, only their presence is kept where a rule needs it), and markup elements. The passes
that erase types and lower markup go from this tree to this tree; what they leave out is absent in
their results.

Positions are offsets of characters from the start of the text. They say where comments belong and
where the string literals of module specifiers stand.
-/

namespace Vitrine.Script

/-- A string value of the language: code points, unpaired surrogates included. -/
abbrev Text := List Nat

/-- The text of ordinary characters. -/
def Text.ofString (s : String) : Text := s.toList.map Char.toNat

/-- Whether a code point is half of a surrogate pair. -/
def isSurrogate (n : Nat) : Bool := 0xD800 ≤ n && n ≤ 0xDFFF

inductive Literal where
  | null
  | bool (value : Bool)
  | number (value : Float) (raw : String)
  | bigint (digits : String)
  | string (value : Text) (raw : String)
  | regex (pattern flags : String)

/-- A name with the place where it is written. -/
structure Name where
  pos : Nat
  text : String
  deriving DecidableEq, Inhabited, Repr

/-- A string literal with its place: `pos` is its opening quote, `stop` lies behind the closing one. -/
structure Quote where
  pos : Nat
  stop : Nat
  value : Text
  raw : String
  deriving Inhabited

/-- One stretch of literal text in a template; `cooked` is absent if an escape is malformed. -/
structure TemplatePart where
  raw : List Char
  cooked : Option Text
  deriving Inhabited

/-- Text of a directive between its quotes, as written. -/
structure Directive where
  pos : Nat
  text : List Char
  deriving Inhabited

inductive VarKind where
  | var | let | const | managed | awaitManaged
  deriving DecidableEq, Repr, Inhabited

def VarKind.lexeme : VarKind → String
  | .var => "var" | .let => "let" | .const => "const" | .managed => "using"
  | .awaitManaged => "await using"

/-- Bound in the nearest block rather than in the nearest function. -/
def VarKind.isLexical : VarKind → Bool
  | var => false
  | _ => true

inductive MethodKind where
  | method | get | set | constructor
  deriving DecidableEq, Repr, Inhabited

/-- What the modifiers of a class member say. -/
structure Modifiers where
  isStatic : Bool := false
  isAbstract : Bool := false
  isDeclared : Bool := false
  isOverride : Bool := false
  isReadonly : Bool := false
  isAccessor : Bool := false
  isOptional : Bool := false
  isDefinite : Bool := false
  accessibility : Option String := none
  deriving Inhabited

/-- The forms around an expression that only concern types. -/
inductive TypeForm where
  | assertion | satisfaction | angle | nonNull | instantiation
  deriving DecidableEq, Repr

/-- The name of a markup element. -/
inductive TagName where
  | plain (pos : Nat) (text : String)
  | member (pos : Nat) (root : String) (path : List String)
  | namespaced (pos : Nat) (space name : String)
  deriving Inhabited, Repr

/-- The name of a markup attribute. -/
structure AttrName where
  pos : Nat
  space : Option String
  text : String
  deriving Inhabited, Repr

/-- A name in an import or export list; a string may stand for any name outside the module. -/
structure ModuleName where
  pos : Nat
  text : String
  quoted : Option Quote := none
  deriving Inhabited

structure ImportItem where
  imported : ModuleName
  bound : Name
  isType : Bool := false
  deriving Inhabited

structure ExportItem where
  pos : Nat
  bound : ModuleName
  exported : ModuleName
  isType : Bool := false
  deriving Inhabited

/-- What an import statement binds. -/
inductive ImportBinding where
  | default (name : Name)
  | namespace (name : Name)
  | item (item : ImportItem)
  deriving Inhabited

def ImportBinding.bound : ImportBinding → Name
  | default n | .namespace n => n
  | item i => i.bound

/-- A `with` clause entry. -/
structure ImportAttribute where
  key : ModuleName
  value : Quote
  deriving Inhabited

/-- Where an import alias points: a dotted path or a required module. -/
inductive AliasTarget where
  | path (names : List Name)
  | required (source : Quote)
  deriving Inhabited

/-- Which kind of declaration introduces a name that only types know. -/
inductive TypeDeclKind where
  | alias | interface
  deriving DecidableEq, Repr, Inhabited

/-- How a function is written. -/
inductive FuncShape where
  | ordinary | arrow | method
  deriving DecidableEq, Repr, Inhabited

/-- All of a function but its parameters and statements. Without a body it is an overload or a
declaration. `stop` lies behind the closing brace. -/
structure FuncInfo where
  pos : Nat
  name : Option Name := none
  shape : FuncShape := .ordinary
  isAsync : Bool := false
  isGenerator : Bool := false
  isDeclared : Bool := false
  hasBody : Bool := true
  hasThis : Bool := false
  directives : List Directive := []
  stop : Nat := 0
  deriving Inhabited

structure ClassInfo where
  pos : Nat
  name : Option Name := none
  isAbstract : Bool := false
  isDeclared : Bool := false
  stop : Nat := 0
  deriving Inhabited

/-- `isProperty`: an accessibility or `readonly` modifier makes the parameter a field as well. -/
structure ParamInfo where
  isProperty : Bool := false
  isOptional : Bool := false
  hasType : Bool := false
  deriving Inhabited

/-- The `with` clause of an import or export: its keyword and its entries. -/
abbrev AttributeClause := Option (String × List ImportAttribute)

mutual

/-- Expressions. Arguments and elements may also be `spread` and `hole`; the children of a markup
element may also be `markupText`, and a `hole` there is an empty container. A property name is an
expression too: a `name`, a `literal`, a `privateName`, or any expression if it is computed. -/
inductive Expr where
  | name (pos : Nat) (text : String)
  | privateName (pos : Nat) (text : String)
  | thisRef (pos : Nat)
  | superRef (pos : Nat)
  | literal (pos : Nat) (value : Literal) (stop : Nat)
  | template (pos : Nat) (parts : List TemplatePart) (holes : List Expr)
  | tagged (tag : Expr) (parts : List TemplatePart) (holes : List Expr)
  | array (pos : Nat) (items : List Expr)
  | object (pos : Nat) (members : List Member)
  | function (info : FuncInfo) (params : List Pattern) (body : List Stmt)
  | arrow (pos : Nat) (isAsync : Bool) (params : List Pattern) (value : Expr)
  | class (info : ClassInfo) (decorators : List Expr) (parent : Option Expr) (members : List Member)
  | unary (pos : Nat) (op : UnaryOp) (arg : Expr)
  | update (pos : Nat) (op : UpdateOp) (isBefore : Bool) (arg : Expr)
  | binary (op : BinaryOp) (left right : Expr)
  | logical (op : LogicalOp) (left right : Expr)
  | assign (op : AssignOp) (target : Pattern) (value : Expr)
  | conditional (test yes no : Expr)
  | sequence (items : List Expr)
  | call (callee : Expr) (args : List Expr) (isOptional isPure : Bool) (stop : Nat)
  | new (pos : Nat) (callee : Expr) (args : List Expr) (isPure : Bool) (stop : Nat)
  | member (object : Expr) (property : String) (isOptional : Bool)
  | index (object key : Expr) (isOptional : Bool)
  | privateMember (object : Expr) (property : String) (isOptional : Bool)
  | chain (whole : Expr)
  | yield (pos : Nat) (isDelegate : Bool) (arg : Option Expr)
  | await (pos : Nat) (arg : Expr)
  | importCall (pos : Nat) (phase : Option String) (source : Expr) (options : Option Expr)
      (stop : Nat)
  | metaProperty (pos : Nat) (object property : String)
  | paren (pos : Nat) (inner : Expr)
  | typed (pos : Nat) (form : TypeForm) (inner : Expr)
  | spread (pos : Nat) (inner : Expr)
  | hole
  | element (pos : Nat) (tag : Option TagName) (attrs : List Member) (children : List Expr)
  | markupText (pos : Nat) (raw : List Char)

/-- What is bound or assigned to. `place` is an assignable expression that is no plain name; `field`
and `rest` occur in object patterns, `hole` and `rest` in array patterns, `param` and `rest` in
parameter lists, `declarator` in declarations. -/
inductive Pattern where
  | name (pos : Nat) (text : String)
  | place (expr : Expr)
  | object (pos : Nat) (fields : List Pattern)
  | array (pos : Nat) (items : List Pattern)
  | hole
  | rest (pos : Nat) (target : Pattern)
  | field (pos : Nat) (isShorthand isComputed : Bool) (key : Expr) (target : Pattern)
  | fallback (target : Pattern) (value : Expr)
  | param (pos : Nat) (info : ParamInfo) (decorators : List Expr) (target : Pattern)
  | declarator (pos : Nat) (isDefinite hasType : Bool) (target : Pattern) (value : Option Expr)

/-- Members of object literals, classes, enumerations and markup tags. `covered` is a shorthand with
a default, which is an error unless its literal turns out to be a pattern. -/
inductive Member where
  | property (pos : Nat) (isComputed : Bool) (key value : Expr)
  | shorthand (pos : Nat) (text : String)
  | covered (pos : Nat) (text : String) (fallback : Expr)
  | method (pos : Nat) (decorators : List Expr) (mods : Modifiers) (kind : MethodKind)
      (isComputed : Bool) (key value : Expr)
  | field (pos : Nat) (decorators : List Expr) (mods : Modifiers) (isComputed hasType : Bool)
      (key : Expr) (value : Option Expr)
  | spread (pos : Nat) (expr : Expr)
  | staticBlock (pos : Nat) (stmts : List Stmt) (stop : Nat)
  | indexSignature (pos : Nat)
  | enumMember (pos : Nat) (name : Text) (value : Option Expr)
  | attr (name : AttrName) (value : Option Expr)

/-- Statements and declarations. Classes and functions are kept as expressions. The first part of
a `for` head is a statement: nothing, a declaration, an expression, or an assignment `target`. An
absent alternative is an empty list. -/
inductive Stmt where
  | empty (pos : Nat)
  | expr (pos : Nat) (expr : Expr)
  | target (pattern : Pattern)
  | block (pos : Nat) (stmts : List Stmt) (stop : Nat)
  | var (pos : Nat) (kind : VarKind) (isDeclared : Bool) (items : List Pattern)
  | function (value : Expr)
  | classDecl (pos : Nat) (value : Expr)
  | ifElse (pos : Nat) (test : Expr) (yes : Stmt) (no : List Stmt)
  | for (pos : Nat) (init : List Stmt) (test update : Option Expr) (body : Stmt)
  | forIn (pos : Nat) (head : Stmt) (object : Expr) (body : Stmt)
  | forOf (pos : Nat) (isAwait : Bool) (head : Stmt) (object : Expr) (body : Stmt)
  | while (pos : Nat) (test : Expr) (body : Stmt)
  | doWhile (pos : Nat) (body : Stmt) (test : Expr)
  | continue (pos : Nat) (label : Option Name)
  | break (pos : Nat) (label : Option Name)
  | return (pos : Nat) (value : Option Expr)
  | with (pos : Nat) (object : Expr) (body : Stmt)
  | switch (pos : Nat) (subject : Expr) (cases : List Stmt) (stop : Nat)
  | case (pos : Nat) (test : Option Expr) (stmts : List Stmt)
  | labeled (pos : Nat) (label : Name) (body : Stmt)
  | throw (pos : Nat) (value : Expr)
  | try (pos : Nat) (body handler finalizer : List Stmt)
  | catch (param : List Pattern) (body : Stmt)
  | debugger (pos : Nat)
  | importFrom (pos : Nat) (isType : Bool) (phase : Option String)
      (bindings : Option (List ImportBinding)) (source : Quote) (attributes : AttributeClause)
  | exportAll (pos : Nat) (isType : Bool) (asName : Option ModuleName) (source : Quote)
      (attributes : AttributeClause)
  | exportNames (pos : Nat) (isType : Bool) (items : List ExportItem) (source : Option Quote)
      (attributes : AttributeClause)
  | exportDecl (pos : Nat) (decl : Stmt)
  | exportDefault (pos : Nat) (decl : Stmt)
  | typeDecl (pos : Nat) (kind : TypeDeclKind) (name : Name) (isDeclared : Bool)
  | enumDecl (pos : Nat) (isConst isDeclared : Bool) (name : Name) (members : List Member)
  | namespace (pos : Nat) (isDeclared : Bool) (name : Name) (body : List Stmt)
  | ambientModule (pos : Nat) (body : List Stmt)
  | importAlias (pos : Nat) (isType : Bool) (name : Name) (target : AliasTarget)
  | exportAssign (pos : Nat) (value : Expr)
  | exportNamespace (pos : Nat)

end

/-- A whole module. -/
structure Program where
  hashbang : Option (List Char)
  directives : List Directive
  stmts : List Stmt
  stop : Nat

instance : Inhabited Expr := ⟨.thisRef 0⟩
instance : Inhabited Stmt := ⟨.empty 0⟩
instance : Inhabited Pattern := ⟨.name 0 ""⟩
instance : Inhabited Member := ⟨.indexSignature 0⟩

end Vitrine.Script
