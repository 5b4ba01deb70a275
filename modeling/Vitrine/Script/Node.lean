import Vitrine.Script.Tree

/-!
# Nodes and their parts

A `Node` is any tree of a script, whatever its sort. `Node.parts` lists what stands directly inside
it, in the order of the text, each with the role that it plays there. Analyses are written once over
nodes: what they do at a node, and how they go on to its parts.

`Node.lt_of_mem_parts` says that parts are smaller, so going on to them ends. `Node.collect` is the
simplest analysis: it joins what every node inside a node contributes.
-/

namespace Vitrine.Script

inductive Node where
  | expr (e : Expr)
  | pattern (p : Pattern)
  | member (m : Member)
  | stmt (s : Stmt)

/-- The role of a part in the whole. -/
inductive Role where
  | plain
  | target
  | callee
  | item (kind : VarKind)
  | param
  | body
  | handler
  | fallback
  | decorator
  | parent
  | key
  | method (kind : MethodKind) (isStatic : Bool)
  | fieldValue
  | declaration
  | branch
  | labeled
  | loopHead
  | exported
  deriving DecidableEq

namespace Node

/-- The part that a property name contributes: nothing if it is just a word. -/
def keyParts (isComputed : Bool) (key : Expr) : List (Role × Node) :=
  match isComputed, key with
  | true, e => [(.key, .expr e)]
  | false, .literal p v stop => [(.key, .expr (.literal p v stop))]
  | false, _ => []

def exprs (role : Role) (es : List Expr) : List (Role × Node) := es.map fun e => (role, .expr e)

def patterns (role : Role) (ps : List Pattern) : List (Role × Node) :=
  ps.map fun p => (role, .pattern p)

def members (ms : List Member) : List (Role × Node) := ms.map fun m => (.plain, .member m)

def stmts (role : Role) (ss : List Stmt) : List (Role × Node) := ss.map fun s => (role, .stmt s)

def optional (role : Role) (e : Option Expr) : List (Role × Node) :=
  match e with
  | some e => [(role, .expr e)]
  | none => []

def exprParts : Expr → List (Role × Node)
  | .name .. | .privateName .. | .thisRef _ | .superRef _ | .literal .. | .metaProperty ..
  | .hole | .markupText .. => []
  | .template _ _ holes => exprs .plain holes
  | .tagged tag _ holes => (.plain, .expr tag) :: exprs .plain holes
  | .array _ items => exprs .plain items
  | .object _ ms => members ms
  | .function _ params body => patterns .param params ++ stmts .body body
  | .arrow _ _ params value => patterns .param params ++ [(.body, .expr value)]
  | .class _ decorators parent ms =>
    exprs .decorator decorators ++ optional .parent parent ++ members ms
  | .unary _ _ e => [(.plain, .expr e)]
  | .update _ _ _ e => [(.target, .expr e)]
  | .binary _ l r | .logical _ l r => [(.plain, .expr l), (.plain, .expr r)]
  | .assign _ target value => [(.target, .pattern target), (.plain, .expr value)]
  | .conditional t y n => [(.plain, .expr t), (.plain, .expr y), (.plain, .expr n)]
  | .sequence es => exprs .plain es
  | .call callee args _ _ _ => (.callee, .expr callee) :: exprs .plain args
  | .new _ callee args _ _ => (.plain, .expr callee) :: exprs .plain args
  | .member o _ _ | .privateMember o _ _ => [(.plain, .expr o)]
  | .index o k _ => [(.plain, .expr o), (.plain, .expr k)]
  | .chain e | .await _ e | .paren _ e | .typed _ _ e | .spread _ e => [(.plain, .expr e)]
  | .yield _ _ e => optional .plain e
  | .importCall _ _ source options _ => (.plain, .expr source) :: optional .plain options
  | .element _ _ attrs children => members attrs ++ exprs .plain children

def patternParts : Pattern → List (Role × Node)
  | .name .. | .hole => []
  | .place e => [(.target, .expr e)]
  | .object _ ps | .array _ ps => patterns .plain ps
  | .rest _ p => [(.plain, .pattern p)]
  | .field _ _ isComputed key target => keyParts isComputed key ++ [(.plain, .pattern target)]
  | .fallback target value => [(.plain, .pattern target), (.fallback, .expr value)]
  | .param _ _ decorators target => exprs .decorator decorators ++ [(.plain, .pattern target)]
  | .declarator _ _ _ target value => (.plain, .pattern target) :: optional .plain value

def memberParts : Member → List (Role × Node)
  | .property _ isComputed key value => keyParts isComputed key ++ [(.plain, .expr value)]
  | .shorthand .. | .indexSignature _ => []
  | .covered _ _ e => [(.plain, .expr e)]
  | .method _ decorators mods kind isComputed key value =>
    exprs .decorator decorators ++ keyParts isComputed key
      ++ [(.method kind mods.isStatic, .expr value)]
  | .field _ decorators _ isComputed _ key value =>
    exprs .decorator decorators ++ keyParts isComputed key ++ optional .fieldValue value
  | .spread _ e => [(.plain, .expr e)]
  | .staticBlock _ ss _ => stmts .body ss
  | .enumMember _ _ value => optional .plain value
  | .attr _ value => optional .plain value

def stmtParts : Stmt → List (Role × Node)
  | .empty _ | .continue .. | .break .. | .debugger _ | .importFrom .. | .exportAll ..
  | .exportNames .. | .typeDecl .. | .importAlias .. | .exportNamespace _ => []
  | .expr _ e => [(.plain, .expr e)]
  | .target p => [(.target, .pattern p)]
  | .block _ ss _ => stmts .plain ss
  | .var _ kind _ items => patterns (.item kind) items
  | .function e => [(.declaration, .expr e)]
  | .classDecl _ e => [(.declaration, .expr e)]
  | .ifElse _ test yes no =>
    (.plain, .expr test) :: (.branch, .stmt yes) :: stmts .branch no
  | .for _ init test update body =>
    stmts .loopHead init ++ optional .plain test ++ optional .plain update
      ++ [(.branch, .stmt body)]
  | .forIn _ head o body | .forOf _ _ head o body =>
    [(.loopHead, .stmt head), (.plain, .expr o), (.branch, .stmt body)]
  | .while _ test body => [(.plain, .expr test), (.branch, .stmt body)]
  | .doWhile _ body test => [(.branch, .stmt body), (.plain, .expr test)]
  | .return _ e => optional .plain e
  | .with _ o body => [(.plain, .expr o), (.branch, .stmt body)]
  | .switch _ subject cases _ => (.plain, .expr subject) :: stmts .plain cases
  | .case _ test ss => optional .plain test ++ stmts .plain ss
  | .labeled _ _ body => [(.labeled, .stmt body)]
  | .throw _ e => [(.plain, .expr e)]
  | .try _ body handler finalizer =>
    stmts .plain body ++ stmts .plain handler ++ stmts .plain finalizer
  | .catch ps body => patterns .param ps ++ [(.handler, .stmt body)]
  | .exportDecl _ s | .exportDefault _ s => [(.exported, .stmt s)]
  | .enumDecl _ _ _ _ ms => members ms
  | .namespace _ _ _ ss | .ambientModule _ ss => stmts .body ss
  | .exportAssign _ e => [(.plain, .expr e)]

/-- What stands directly inside a node, in order. -/
def parts : Node → List (Role × Node)
  | expr e => exprParts e
  | pattern p => patternParts p
  | member m => memberParts m
  | stmt s => stmtParts s

/-! ## Parts are smaller -/

/-- The measure that decreases towards the parts. -/
noncomputable def weight : Node → Nat
  | expr e => sizeOf e
  | pattern p => sizeOf p
  | member m => sizeOf m
  | stmt s => sizeOf s

/-- All nodes of a list weigh less than `k`. -/
def Below (k : Nat) (ps : List (Role × Node)) : Prop := ∀ p ∈ ps, p.2.weight < k

theorem Below.nil {k : Nat} : Below k [] := fun _ h => nomatch h

theorem Below.cons {k : Nat} {r : Role} {n : Node} {ps : List (Role × Node)} (hn : n.weight < k)
    (h : Below k ps) : Below k ((r, n) :: ps) := by
  intro p hp
  rcases List.mem_cons.1 hp with rfl | hp
  · exact hn
  · exact h p hp

theorem Below.append {k : Nat} {ps qs : List (Role × Node)} (h : Below k ps) (h' : Below k qs) :
    Below k (ps ++ qs) := by
  intro p hp
  rcases List.mem_append.1 hp with hp | hp
  · exact h p hp
  · exact h' p hp

theorem Below.exprs {k : Nat} {role : Role} {es : List Expr} (h : sizeOf es ≤ k) :
    Below k (Node.exprs role es) := by
  intro p hp
  obtain ⟨e, he, rfl⟩ := List.mem_map.1 hp
  exact Nat.lt_of_lt_of_le (List.sizeOf_lt_of_mem he) h

theorem Below.patterns {k : Nat} {role : Role} {ps : List Pattern} (h : sizeOf ps ≤ k) :
    Below k (Node.patterns role ps) := by
  intro p hp
  obtain ⟨q, hq, rfl⟩ := List.mem_map.1 hp
  exact Nat.lt_of_lt_of_le (List.sizeOf_lt_of_mem hq) h

theorem Below.members {k : Nat} {ms : List Member} (h : sizeOf ms ≤ k) :
    Below k (Node.members ms) := by
  intro p hp
  obtain ⟨m, hm, rfl⟩ := List.mem_map.1 hp
  exact Nat.lt_of_lt_of_le (List.sizeOf_lt_of_mem hm) h

theorem Below.stmts {k : Nat} {role : Role} {ss : List Stmt} (h : sizeOf ss ≤ k) :
    Below k (Node.stmts role ss) := by
  intro p hp
  obtain ⟨s, hs, rfl⟩ := List.mem_map.1 hp
  exact Nat.lt_of_lt_of_le (List.sizeOf_lt_of_mem hs) h

theorem Below.optional {k : Nat} {role : Role} {e : Option Expr} (h : sizeOf e ≤ k) :
    Below k (Node.optional role e) := by
  cases e with
  | none => exact Below.nil
  | some e =>
    refine Below.cons ?_ Below.nil
    simp at h
    simp [weight]
    omega

theorem Below.keyParts {k : Nat} {isComputed : Bool} {key : Expr} (h : sizeOf key < k) :
    Below k (Node.keyParts isComputed key) := by
  unfold Node.keyParts
  split
  · exact Below.cons h Below.nil
  · exact Below.cons h Below.nil
  · exact Below.nil

theorem below_exprParts (e : Expr) : Below (sizeOf e) (exprParts e) := by
  cases e <;> unfold exprParts <;>
    repeat' first
      | exact Below.nil
      | apply Below.append
      | apply Below.cons
      | apply Below.exprs
      | apply Below.patterns
      | apply Below.members
      | apply Below.stmts
      | apply Below.optional
  all_goals simp [weight] <;> omega

theorem below_patternParts (p : Pattern) : Below (sizeOf p) (patternParts p) := by
  cases p <;> unfold patternParts <;>
    repeat' first
      | exact Below.nil
      | apply Below.append
      | apply Below.cons
      | apply Below.exprs
      | apply Below.patterns
      | apply Below.keyParts
      | apply Below.optional
  all_goals simp [weight] <;> omega

theorem below_memberParts (m : Member) : Below (sizeOf m) (memberParts m) := by
  cases m <;> unfold memberParts <;>
    repeat' first
      | exact Below.nil
      | apply Below.append
      | apply Below.cons
      | apply Below.exprs
      | apply Below.stmts
      | apply Below.keyParts
      | apply Below.optional
  all_goals simp [weight] <;> omega

theorem below_stmtParts (s : Stmt) : Below (sizeOf s) (stmtParts s) := by
  cases s <;> unfold stmtParts <;>
    repeat' first
      | exact Below.nil
      | apply Below.append
      | apply Below.cons
      | apply Below.patterns
      | apply Below.members
      | apply Below.stmts
      | apply Below.optional
  all_goals simp [weight] <;> omega

/-- The parts of a node weigh less than the node. -/
theorem weight_lt_of_mem_parts {n m : Node} {r : Role} (h : (r, m) ∈ n.parts) :
    m.weight < n.weight := by
  cases n with
  | expr e => exact below_exprParts e _ h
  | pattern p => exact below_patternParts p _ h
  | member q => exact below_memberParts q _ h
  | stmt s => exact below_stmtParts s _ h

/-! ## Collecting -/

/-- What a node and the nodes inside it contribute, outer nodes first. -/
def collect {α : Type} (own : Node → List α) (n : Node) : List α :=
  own n ++ n.parts.attach.flatMap fun p => collect own p.1.2
termination_by n.weight
decreasing_by exact weight_lt_of_mem_parts p.2

theorem collect_eq {α : Type} (own : Node → List α) (n : Node) :
    n.collect own = own n ++ n.parts.flatMap fun p => p.2.collect own := by
  rw [collect, List.flatMap_subtype, List.unattach_attach]
  exact fun _ _ => rfl

end Node

end Vitrine.Script
