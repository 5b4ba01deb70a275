import Mathlib.Data.List.Basic
import Vitrine.Script.Compile
import Vitrine.Script.Specifiers

/-!
# Imports of a compiled script (section 4.4)

Compiling goes over a script many times. The statements that name other modules (`Stmt.isLink`) go through
all of it as they are, with two exceptions at the end: the imports of the runtime of markup are added, and
in a script with types those that only concern types are dropped or lose names.

These are the steps of `transpile_script` behind parsing: the erasure of types, the automatic runtime of JSX,
and what the names of a script come to.

* `linksOf_pruneAliases`, `linksOf_openNamespaces`, `linksOf_erased`, `linksOf_run_naming`,
  `linksOf_run_lowering`: no other step touches them.
* `Program.declares_of_lowered`: so the modules that a compiled script names in such statements are those
  that the script names and keeps, and those of the runtime.
-/

namespace Vitrine.Script

/-! ## Statements that name modules -/

/-- The module that an import or export statement names. -/
def Stmt.source? : Stmt → Option Quote
  | .importFrom _ _ _ _ source _ => some source
  | .exportAll _ _ _ source _ => some source
  | .exportNames _ _ _ source _ => source
  | _ => none

/-- A statement that names another module. -/
def Stmt.isLink (s : Stmt) : Bool := s.source?.isSome

/-- The statements of a list that name other modules. -/
def linksOf (ss : List Stmt) : List Stmt := ss.filter Stmt.isLink

/-- The modules that statements name, in order. -/
def sourcesOf (ss : List Stmt) : List Quote := ss.filterMap Stmt.source?

theorem linksOf_cons (s : Stmt) (ss : List Stmt) : linksOf (s :: ss) = linksOf [s] ++ linksOf ss := by
  rw [linksOf, linksOf, linksOf, ← List.filter_append, List.singleton_append]

/-- The statements of two lists stand one behind the other. -/
theorem linksOf_append (ss ts : List Stmt) : linksOf (ss ++ ts) = linksOf ss ++ linksOf ts :=
  List.filter_append ss ts

theorem linksOf_singleton_of_not {s : Stmt} (h : s.isLink = false) : linksOf [s] = [] :=
  List.filter_cons_of_neg (by rw [h]; nofun)

/-- A step on each statement that leaves links as they are and makes no new ones. -/
theorem linksOf_map {f : Stmt → Stmt} (h : ∀ s, linksOf [f s] = linksOf [s]) (ss : List Stmt) :
    linksOf (ss.map f) = linksOf ss := by
  induction ss with
  | nil => rfl
  | cons s ss ih => rw [List.map_cons, linksOf_cons, h, ih, ← linksOf_cons]

/-- Statements with the same links name a module in the same statements. -/
theorem mem_of_linksOf_eq {ss ts : List Stmt} (h : linksOf ss = linksOf ts) {s : Stmt}
    (hs : s.isLink = true) : s ∈ ss ↔ s ∈ ts := by
  have hmem : s ∈ linksOf ss ↔ s ∈ linksOf ts := by rw [h]
  rwa [linksOf, linksOf, List.mem_filter, List.mem_filter, and_iff_left hs, and_iff_left hs] at hmem

/-! ## Aliases -/

/-- An alias that is not used is dropped, and no alias names a module. -/
theorem linksOf_pruneAliasesFrom (before ss : List Stmt) :
    linksOf (pruneAliasesFrom before ss) = linksOf ss := by
  fun_induction pruneAliasesFrom before ss with
  | case1 before => rfl
  | case2 before p isType name target rest hunused ih =>
    rw [ih, linksOf_cons (.importAlias p isType name target), linksOf_singleton_of_not rfl,
      List.nil_append]
  | case3 before p isType name target rest hused s ih =>
    rw [linksOf_cons, ih, ← linksOf_cons]
  | case4 before s rest hs ih => rw [linksOf_cons, ih, ← linksOf_cons]

theorem pruneInside_eq (ss : List Stmt) : pruneInside ss = ss.map Stmt.pruneAliases := by
  induction ss with
  | nil => rfl
  | cons s ss ih => rw [pruneInside, ih, List.map_cons]

theorem linksOf_pruned (s : Stmt) : linksOf [s.pruneAliases] = linksOf [s] := by
  cases s <;> rw [Stmt.pruneAliases] <;> first | rfl | nofun

theorem linksOf_pruneAliases (p : Program) : linksOf p.pruneAliases.stmts = linksOf p.stmts := by
  rw [Program.pruneAliases, linksOf_pruneAliasesFrom, pruneInside_eq, linksOf_map linksOf_pruned]

/-! ## Namespaces -/

/-- What a namespace is opened to names no module. -/
theorem linksOf_openOne (isExported : Bool) (outer : Namespace.Surrounding) (earlier used : List String)
    (pos : Nat) (isDeclared : Bool) (name : Name) (body : List Stmt)
    (inside : Namespace.Surrounding → List String → Namespace.Opened) :
    linksOf (Namespace.openOne isExported outer earlier used pos isDeclared name body inside).stmts = [] := by
  rw [Namespace.openOne]
  split
  · rfl
  · simp only [Namespace.opening, linksOf_append]
    split
    · split <;> rfl
    · rfl

theorem linksOf_openStmt (earlier used : List String) (s : Stmt) :
    linksOf (Namespace.openStmt none earlier used s).stmts = linksOf [s] := by
  unfold Namespace.openStmt
  split
  · rw [linksOf_openOne]
    rfl
  · split
    · rw [linksOf_openOne]
      rfl
    · rfl
  · rfl
  · rfl

/-- Namespaces are opened statement by statement, and what is not one stays. -/
theorem linksOf_openStmts (earlier used : List String) (ss : List Stmt) :
    linksOf (Namespace.openStmts none earlier used ss).stmts = linksOf ss := by
  induction ss generalizing earlier used with
  | nil => rfl
  | cons s ss ih =>
    rw [Namespace.openStmts, Namespace.Opened.andThen, linksOf_append, linksOf_openStmt, ih,
      ← linksOf_cons]

theorem linksOf_openNamespaces (p : Program) (used : List String) :
    linksOf (p.openNamespaces used).1.stmts = linksOf p.stmts :=
  linksOf_openStmts [] used p.stmts

/-! ## Passes -/

/-- A pass over expressions changes statements within themselves alone. -/
theorem linksOf_onStmts (r : Pass) (ss : List Stmt) : linksOf (r.onStmts ss) = linksOf ss := by
  induction ss with
  | nil => rfl
  | cons s ss ih =>
    have hs : linksOf [r.onStmt s] = linksOf [s] := by
      cases s <;> rw [Pass.onStmt] <;> rfl
    rw [Pass.onStmts, linksOf_cons, hs, ih, ← linksOf_cons]

/-- An enumeration becomes a variable. -/
theorem linksOf_enumStmt (isTop isDeclaredBefore : Bool) (exportedAt : Option Nat) (pos : Nat)
    (name : String) (facts : EnumFacts) (members : List Member) :
    linksOf [enumStmt isTop isDeclaredBefore exportedAt pos name facts members] = [] := by
  refine linksOf_singleton_of_not ?_
  rw [enumStmt]
  split
  · rfl
  · cases exportedAt <;> rfl

/-- Statements that only concern types and are erased here name no module. -/
theorem not_isLink_of_isTypeOnly {s : Stmt} (h : isTypeOnly s = true) : s.isLink = false := by
  unfold isTypeOnly at h
  split at h
  all_goals first | rfl | exact absurd h nofun

theorem linksOf_erasedClass (s : Stmt) : linksOf [Erasure.erasedClass s] = linksOf [s] := by
  unfold Erasure.erasedClass
  split <;> rfl

theorem linksOf_erasedStmt (facts : List EnumFacts) (isTop : Bool) (earlier : List String) (s : Stmt) :
    linksOf (Erasure.erasedStmt facts isTop earlier s) = linksOf [s] := by
  unfold Erasure.erasedStmt
  split
  case h_1 =>
    split
    · rfl
    · rw [linksOf_enumStmt]
      rfl
  case h_2 p isType name target =>
    split
    · rfl
    · cases target <;> rfl
  case h_3 => rfl
  case h_4 =>
    split
    · split
      · rfl
      · rw [linksOf_enumStmt]
        rfl
    · split <;> rfl
    · rfl
  case h_5 => rfl
  case h_6 =>
    split
    case isTrue htype =>
      rw [linksOf_singleton_of_not (not_isLink_of_isTypeOnly htype)]
      rfl
    case isFalse htype => exact linksOf_erasedClass _

/-- Erasing types drops and splits statements, but none that names a module. -/
theorem linksOf_erasedStmts (facts : List EnumFacts) (isTop : Bool) (earlier : List String)
    (ss : List Stmt) : linksOf (Erasure.erasedStmts facts isTop earlier ss) = linksOf ss := by
  induction ss generalizing earlier with
  | nil => rfl
  | cons s ss ih => rw [Erasure.erasedStmts, linksOf_append, linksOf_erasedStmt, ih, ← linksOf_cons]

theorem linksOf_erased (p : Program) : linksOf p.erased.stmts = linksOf p.stmts := by
  rw [Program.erased, linksOf_erasedStmts, linksOf_onStmts]

theorem linksOf_run_naming (fileName : String) (p : Program) :
    linksOf (p.run (DisplayName.naming fileName)).stmts = linksOf p.stmts := by
  rw [Program.run, DisplayName.naming, linksOf_map, linksOf_onStmts]
  intro s
  split <;> rfl

theorem linksOf_run_lowering (style : Markup.Style) (p : Program) :
    linksOf (p.run (Markup.lowering style)).stmts = linksOf p.stmts :=
  linksOf_onStmts _ p.stmts

/-! ## What is added and dropped -/

theorem mem_sourcesOf {q : Quote} {ss : List Stmt} :
    q ∈ sourcesOf ss ↔ ∃ s ∈ ss, s.source? = some q := List.mem_filterMap

/-- What is inserted is added, and nothing is lost. -/
theorem mem_insertAfterImports {added ss : List Stmt} {s : Stmt} :
    s ∈ Markup.insertAfterImports added ss ↔ s ∈ added ∨ s ∈ ss := by
  let tail := (ss.reverse.takeWhile (!Markup.isImport ·)).reverse
  have hsuffix : tail <:+ ss := by
    rw [← List.reverse_prefix, List.reverse_reverse]
    exact List.takeWhile_prefix _
  obtain ⟨front, hfront⟩ := hsuffix
  have htake : ss.take (ss.length - tail.length) = front := by
    rw [← hfront, List.length_append, Nat.add_sub_cancel, List.take_left']
    rfl
  have hss : s ∈ ss ↔ s ∈ front ∨ s ∈ tail := by rw [← hfront, List.mem_append]
  show s ∈ ss.take (ss.length - tail.length) ++ added ++ tail ↔ _
  rw [htake, List.mem_append, List.mem_append, hss, or_right_comm, or_comm]

/-- An import that loses names still names its module. -/
theorem source?_of_retained {f : ModuleFacts} {s t : Stmt} (h : s.retained f = some (some t)) :
    t.source? = s.source? := by
  unfold Stmt.retained at h
  split at h
  case h_7 => exact absurd (Option.some.inj h) nofun
  case h_8 => exact absurd h nofun
  -- What stays keeps its source, whichever of its names go.
  all_goals
    simp only [Option.some.injEq] at h
    repeat' split at h
    all_goals
      cases h
      try rfl

/-- What is no concern of imports and exports names no module. -/
theorem source?_of_not_retained {f : ModuleFacts} {s : Stmt} (h : s.retained f = none) :
    s.source? = none := by
  cases s with
  | importFrom p isType phase bindings source attributes => exact absurd h nofun
  | exportAll p isType name source attributes => exact absurd h nofun
  | exportNames p isType items source attributes => exact absurd h nofun
  | _ => rfl

/-- An import or export that stays names the module that it named. -/
theorem sourcesOf_retainedList (f : ModuleFacts) (s : Stmt) :
    sourcesOf (s.retainedList f) = if isDropped f s then [] else s.source?.toList := by
  rw [Stmt.retainedList, isDropped]
  cases hretained : s.retained f with
  | none =>
    have hnone := source?_of_not_retained hretained
    show sourcesOf [s] = s.source?.toList
    rw [hnone]
    exact List.filterMap_cons_none hnone
  | some kept =>
    cases kept with
    | none => rfl
    | some t =>
      show sourcesOf [t] = s.source?.toList
      rw [← source?_of_retained hretained]
      cases ht : t.source? with
      | none => exact List.filterMap_cons_none ht
      | some q => exact List.filterMap_cons_some ht

/-- A module is still named exactly if one of the statements that name it is not dropped. -/
theorem mem_sourcesOf_retainModules {f : ModuleFacts} {ss : List Stmt} {q : Quote} :
    q ∈ sourcesOf (retainModules f ss) ↔ ∃ s ∈ ss, s.source? = some q ∧ isDropped f s = false := by
  have hempty : sourcesOf (if ss.any (isDropped f) && !ss.any (isRetained f)
      then [.exportNames 0 false [] none none] else []) = [] := by
    split <;> rfl
  rw [sourcesOf, retainModules, List.filterMap_append, List.filterMap_flatMap, ← sourcesOf, hempty,
    List.append_nil, List.mem_flatMap]
  refine exists_congr fun s => and_congr_right fun _ => ?_
  show q ∈ sourcesOf (s.retainedList f) ↔ _
  rw [sourcesOf_retainedList]
  cases isDropped f s with
  | true => simp
  | false => simp

/-- The runtime is imported for the helpers that elements need. -/
theorem helper_of_runtimeImports {package : String} {nameOf : Markup.Helper → String}
    {helpers : List Markup.Helper} {q : Quote}
    (h : q ∈ sourcesOf (Markup.runtimeImports package nameOf helpers)) :
    ∃ helper ∈ helpers, q.value = Text.ofString (Markup.moduleOf package helper) := by
  obtain ⟨s, hs, hq⟩ := mem_sourcesOf.mp h
  obtain ⟨source, hsource, rfl⟩ := List.mem_map.mp hs
  obtain ⟨helper, hhelper, rfl⟩ := List.mem_map.mp (List.mem_eraseDups.mp hsource)
  obtain rfl := Option.some.inj hq
  exact ⟨helper, hhelper, rfl⟩

/-! ## Compiled scripts -/

namespace Program

/-- The script with its namespaces open, the names then in use, and what cannot be opened. -/
def opened (hasTypes : Bool) (p : Program) : Program × List String × List Fault :=
  if hasTypes then p.pruneAliases.openNamespaces p.pruneAliases.underscoreNames
  else (p, p.underscoreNames, [])

/-- The script without types, imports and exports left aside. -/
def plain (hasTypes : Bool) (p : Program) : Program :=
  if hasTypes then (p.opened hasTypes).1.erased else (p.opened hasTypes).1

/-- What the elements of the script need from the runtime. -/
def helpers (hasTypes : Bool) (pragmas : Markup.Pragmas) (p : Program) : List Markup.Helper :=
  Markup.helpersOf (Markup.effects pragmas (p.plain hasTypes))

/-- How the script calls a helper. -/
def helperName (hasTypes : Bool) (p : Program) (h : Markup.Helper) : String :=
  freshName (p.opened hasTypes).2.1 h.exported

/-- What decides which imports and exports stay: the script itself, and its names for the helpers. -/
def finalFacts (hasTypes : Bool) (pragmas : Markup.Pragmas) (p : Program) : ModuleFacts :=
  let facts := p.pruneAliases.moduleFacts pragmas
  { facts with
    references := facts.references ++ (p.helpers hasTypes pragmas).map (p.helperName hasTypes) }

/-- Whether an import or export of the script stays: without types all do, and with types those that name
values that are used. -/
def keeps (hasTypes : Bool) (pragmas : Markup.Pragmas) (p : Program) (s : Stmt) : Bool :=
  !hasTypes || !isDropped (p.finalFacts hasTypes pragmas) s

/-- The specifier of a module of the runtime that the elements of the script need. -/
def IsRuntime (hasTypes : Bool) (pragmas : Markup.Pragmas) (p : Program) (q : Quote) : Prop :=
  ∃ helper ∈ p.helpers hasTypes pragmas,
    q.value = Text.ofString (Markup.moduleOf pragmas.package helper)

theorem linksOf_opened (hasTypes : Bool) (p : Program) :
    linksOf (p.opened hasTypes).1.stmts = linksOf p.stmts := by
  rw [opened]
  split
  · rw [linksOf_openNamespaces, linksOf_pruneAliases]
  · rfl

/-- The script with its elements turned into calls. -/
def called (hasTypes : Bool) (pragmas : Markup.Pragmas) (fileName : String) (p : Program) : Program :=
  ((p.plain hasTypes).run (DisplayName.naming fileName)).run
    (Markup.lowering ⟨pragmas, p.helperName hasTypes⟩)

/-- The statements of the script with its elements turned into calls and the runtime imported. -/
def supplied (hasTypes : Bool) (pragmas : Markup.Pragmas) (fileName : String) (p : Program) : List Stmt :=
  Markup.insertAfterImports
    (Markup.runtimeImports pragmas.package (p.helperName hasTypes) (p.helpers hasTypes pragmas))
    (p.called hasTypes pragmas fileName).stmts

/-- Compiling step by step: what is added, and what is dropped last. -/
theorem lowered_eq (hasTypes : Bool) (pragmas : Markup.Pragmas) (fileName : String) (p : Program) :
    p.lowered hasTypes pragmas fileName =
      match pragmas.faults ++ (p.opened hasTypes).2.2
        ++ Markup.faultsOf (Markup.effects pragmas (p.plain hasTypes)) with
      | [] => .ok { p.called hasTypes pragmas fileName with
          stmts :=
            if hasTypes then
              retainModules (p.finalFacts hasTypes pragmas) (p.supplied hasTypes pragmas fileName)
            else p.supplied hasTypes pragmas fileName }
      | faults => .error faults := by
  cases hasTypes <;> rfl

theorem linksOf_called (hasTypes : Bool) (pragmas : Markup.Pragmas) (fileName : String) (p : Program) :
    linksOf (p.called hasTypes pragmas fileName).stmts = linksOf p.stmts := by
  rw [called, linksOf_run_lowering, linksOf_run_naming, plain]
  split
  · rw [linksOf_erased, linksOf_opened]
  · rw [linksOf_opened]

/-- Without types no statement is dropped. -/
theorem mem_sourcesOf_retained {hasTypes : Bool} {pragmas : Markup.Pragmas} {p : Program}
    {ss : List Stmt} {q : Quote} :
    q ∈ sourcesOf (if hasTypes then retainModules (p.finalFacts hasTypes pragmas) ss else ss) ↔
      ∃ s ∈ ss, s.source? = some q ∧ p.keeps hasTypes pragmas s = true := by
  cases hasTypes with
  | true =>
    rw [if_pos rfl, mem_sourcesOf_retainModules]
    simp only [keeps, Bool.not_true, Bool.false_or, Bool.not_eq_true']
  | false =>
    rw [if_neg Bool.false_ne_true, mem_sourcesOf]
    simp only [keeps, Bool.not_false, Bool.true_or, and_true]

/-- What a statement of the script names is one of its specifiers. -/
theorem mem_specifiers {p : Program} {s : Stmt} {q : Quote} (hs : s ∈ p.stmts) (hq : s.source? = some q) :
    q ∈ p.specifiers := by
  refine List.mem_flatMap.mpr ⟨s, hs, ?_⟩
  rw [Node.collect_eq]
  refine List.mem_append_left _ ?_
  unfold Stmt.source? at hq
  split at hq
  · obtain rfl := Option.some.inj hq
    exact List.mem_singleton_self _
  · obtain rfl := Option.some.inj hq
    exact List.mem_singleton_self _
  · exact Option.mem_toList.mpr hq
  · exact absurd hq nofun

/-- The imports and exports of a script that `p` was compiled to, as against those of `p`. -/
structure Declares (hasTypes : Bool) (pragmas : Markup.Pragmas) (p program : Program) : Prop where
  /-- Each names a module of the runtime, or one that `p` names and keeps. -/
  origin : ∀ q ∈ sourcesOf program.stmts, p.IsRuntime hasTypes pragmas q
    ∨ ∃ s ∈ p.stmts, s.source? = some q ∧ p.keeps hasTypes pragmas s = true
  kept : ∀ s ∈ p.stmts, p.keeps hasTypes pragmas s = true → ∀ q, s.source? = some q →
    q ∈ sourcesOf program.stmts

/-- **The modules that a compiled script names** in imports and exports are those that the script names and
keeps, and those of the runtime. -/
theorem declares_of_lowered {hasTypes : Bool} {pragmas : Markup.Pragmas} {fileName : String}
    {p program : Program} (h : p.lowered hasTypes pragmas fileName = .ok program) :
    p.Declares hasTypes pragmas program := by
  have hown : ∀ (s : Stmt) (q : Quote), s.source? = some q →
      (s ∈ (p.called hasTypes pragmas fileName).stmts ↔ s ∈ p.stmts) := fun s q hs =>
    mem_of_linksOf_eq (linksOf_called hasTypes pragmas fileName p) (by rw [Stmt.isLink, hs]; rfl)
  rw [lowered_eq] at h
  split at h
  · obtain rfl := Except.ok.inj h
    constructor
    · intro q hq
      obtain ⟨s, hs, hsource, hkeeps⟩ := mem_sourcesOf_retained.mp hq
      rcases mem_insertAfterImports.mp hs with hadded | hcalled
      · exact Or.inl (helper_of_runtimeImports (mem_sourcesOf.mpr ⟨s, hadded, hsource⟩))
      · exact Or.inr ⟨s, (hown s q hsource).mp hcalled, hsource, hkeeps⟩
    · intro s hs hkeeps q hsource
      refine mem_sourcesOf_retained.mpr ⟨s, ?_, hsource, hkeeps⟩
      exact mem_insertAfterImports.mpr (Or.inr ((hown s q hsource).mpr hs))
  · exact absurd h nofun

end Program

end Vitrine.Script
