import Vitrine.Page.Application
import Vitrine.Proofs.Html.Place

/-!
# When an entry document makes a page (section 4.6)

An entry document makes a page exactly if some node of it is an injection point. The place that was found
is in the document still when the scripts are put there, so no page fails for a detached injection point.

A page is what `synthesize_document` gives. `MissingInjectionPoint` is the one error; the other, of
`replace_injection_point`, cannot come up.

* `application_error_iff`: a page fails in one way only, for want of an injection point.
* `application_ok`: the page is written from a tree that holds the import table as a script.
* `loaderNode_mem_tree`: it holds the loader in any case.
-/

namespace Vitrine.Page

open Html (Node)

variable {settings : Settings} {table : Import.Table} {token markup : String} {document : List Node}

/-- Some node of the document names the first module. -/
def HasInjectionPoint (settings : Settings) (document : List Node) : Prop :=
  ∃ n ∈ Node.subtrees document, isInjectionPoint settings.entryScript n = true

instance : Decidable (HasInjectionPoint settings document) :=
  inferInstanceAs (Decidable (∃ n ∈ Node.subtrees document, _))

/-- The failure of an entry document without an injection point. -/
def missing (settings : Settings) : Failure :=
  .missingInjectionPoint settings.entryMarkupPath settings.entryScript

/-- The script that holds the import table. -/
def tableNode (table : Import.Table) : Node := script [("type", "importmap")] (tableScript table)

/-- The script that imports the first module. -/
def loaderNode (entryScript : String) : Node := script [("type", "module")] (loaderScript entryScript)

/-- The scripts in place of the injection point: first the table, then the loader. -/
theorem injected_eq (table : Import.Table) (entryScript : String) :
    injected table entryScript = [tableNode table, loaderNode entryScript] := rfl

theorem not_hasInjectionPoint_iff : ¬ HasInjectionPoint settings document ↔
    Node.placeOfFirstIn? (isInjectionPoint settings.entryScript) document = none := by
  rw [Node.placeOfFirstIn?_eq_none_iff]
  simp [HasInjectionPoint]

theorem HasInjectionPoint.exists_place (h : HasInjectionPoint settings document) :
    ∃ place, Node.placeOfFirstIn? (isInjectionPoint settings.entryScript) document = some place :=
  Option.ne_none_iff_exists'.mp fun hnone => not_hasInjectionPoint_iff.mpr hnone h

/-! ## The tree -/

theorem tree_missing (table : Import.Table) (token : String)
    (h : ¬ HasInjectionPoint settings document) :
    tree settings table token document = .error (missing settings) := by
  rw [tree, not_hasInjectionPoint_iff.mp h]
  rfl

/-- Only a document with an injection point has a tree. -/
theorem hasInjectionPoint_of_tree {nodes : List Node} (h : tree settings table token document = .ok nodes) :
    HasInjectionPoint settings document := by
  refine Decidable.byContradiction fun hnone => ?_
  rw [tree_missing table token hnone] at h
  cases h

theorem isTag_head_script (attributes : List (String × String)) (body : String) :
    ∀ n ∈ (script attributes body).subtree, n.isTag "head" = false := by
  intro n hn
  simp only [script, Node.subtree, Node.subtrees, List.append_nil, List.mem_cons, List.not_mem_nil,
    or_false] at hn
  rcases hn with rfl | rfl
  · show Text.equalIgnoringCase "script" "head" = false
    decide
  · rfl

/-- A node that is put in place of the injection point, and is no head, stays when a script is added to
the head. -/
theorem mem_addCapture {n added : Node} {nodes : List Node} (hn : n ∈ Node.subtrees nodes)
    (hhead : ∀ m ∈ n.subtree, m.isTag "head" = false) :
    n ∈ Node.subtrees ((Node.addToFirstIn? (·.isTag "head") added nodes).getD nodes) := by
  cases hadd : Node.addToFirstIn? (·.isTag "head") added nodes with
  | none => exact hn
  | some ms => exact Node.mem_subtrees_addToFirstIn? nodes hadd hn hhead

/-- With an injection point there is a tree, and the table and the loader are in it. -/
theorem tree_placed (table : Import.Table) (token : String) (h : HasInjectionPoint settings document) :
    ∃ nodes, tree settings table token document = .ok nodes ∧
      tableNode table ∈ Node.subtrees nodes ∧ loaderNode settings.entryScript ∈ Node.subtrees nodes := by
  obtain ⟨place, hplace⟩ := h.exists_place
  obtain ⟨nodes, hnodes, hnew⟩ :=
    Node.replaceAtIn?_of_found (injected table settings.entryScript) document hplace
  have htable : tableNode table ∈ Node.subtrees nodes := hnew _ List.mem_cons_self
  have hloader : loaderNode settings.entryScript ∈ Node.subtrees nodes := by
    refine hnew _ ?_
    rw [injected_eq, Node.subtrees, Node.subtrees, List.mem_append, List.mem_append]
    exact Or.inr (Or.inl (Node.self_mem_subtree _))
  rw [tree, hplace]
  simp only [hnodes]
  split
  · exact ⟨_, rfl, mem_addCapture htable (isTag_head_script _ _),
      mem_addCapture hloader (isTag_head_script _ _)⟩
  · exact ⟨nodes, rfl, htable, hloader⟩

/-- The script that reports errors of a pass. -/
def captureNode (token : String) : Node := script [] (captureScript token)

/-! ## The page -/

/-- **A page fails for want of an injection point, and for nothing else.** -/
theorem application_error_iff {failure : Failure} :
    application settings table token markup = .error failure ↔
      ¬ HasInjectionPoint settings (Html.parse markup) ∧ failure = missing settings := by
  by_cases h : HasInjectionPoint settings (Html.parse markup)
  · obtain ⟨nodes, hnodes, -⟩ := tree_placed table token h
    rw [application, hnodes]
    exact ⟨nofun, fun hn => absurd h hn.1⟩
  · rw [application, tree_missing table token h]
    exact ⟨fun he => ⟨h, (Except.error.inj he).symm⟩, fun hf => by rw [hf.2]; rfl⟩

/-- A page is written from a tree with the import table in it. -/
theorem application_ok {page : String} (h : application settings table token markup = .ok page) :
    HasInjectionPoint settings (Html.parse markup) ∧
      ∃ nodes, tree settings table token (Html.parse markup) = .ok nodes ∧
        page = Node.writtenAll false nodes ∧ tableNode table ∈ Node.subtrees nodes := by
  by_cases hpoint : HasInjectionPoint settings (Html.parse markup)
  · obtain ⟨nodes, hnodes, htable, -⟩ := tree_placed table token hpoint
    rw [application, hnodes] at h
    exact ⟨hpoint, nodes, hnodes, (Except.ok.inj h).symm, htable⟩
  · rw [application, tree_missing table token hpoint] at h
    exact absurd h nofun

/-- The tree of a page holds the loader as well. -/
theorem loaderNode_mem_tree {nodes : List Node} (h : tree settings table token document = .ok nodes) :
    loaderNode settings.entryScript ∈ Node.subtrees nodes := by
  obtain ⟨nodes', hnodes, -, hloader⟩ := tree_placed table token (hasInjectionPoint_of_tree h)
  obtain rfl := Except.ok.inj (hnodes.symm.trans h)
  exact hloader

end Vitrine.Page
