import Vitrine.Proofs.Html.Shape
import Vitrine.Proofs.Page.Application

/-!
# The page differs from the entry document in two places (section 4.6)

The scripts take the place of the first element that names the first module, the capture script goes to the
end of the first head, and everything else of the document stays as it is and where it is. There is always a
head, and a node that was found is found again from its parent, so a page fails for want of such an element
only.

The operation is `synthesize_document`: `find_first` finds the candidate, `replace_injection_point` puts
the import map and the loader in its place, and `append_to_head` adds what `error_capture_script` gives.

* `isInjectionPoint_iff`: which elements name the first module.
* `tree_eq_editedAll`: the tree of the page is the document after the edits `pageEdit`.
* `captureNode_mem_tree`: so the capture script is in it, if errors are to be reported.
* `page_edited_in_place`: what becomes of any entry document.
-/

namespace Vitrine.Page

open Html (Node)

variable {settings : Settings} {table : Import.Table} {token markup : String} {document : List Node}
variable {candidate head : Node.Place}

/-! ## What names the first module -/

/-- A script, of any vocabulary, of type `module`, that takes its text from the first module and has no
content of its own. Blanks around type and source do not count, nor does the case of the type. -/
structure NamesFirstModule (entryScript : String) (n : Node) : Prop where
  script : n.isTag "script" = true
  module : ∃ t, n.value? "type" = some t ∧
    Text.equalIgnoringCase (String.ofList (Text.trimBlank t.toList)) "module" = true
  source : ∃ s, n.value? "src" = some s ∧ String.ofList (Text.trimBlank s.toList) = entryScript
  blank : ∀ child ∈ n.children, ∃ text, child = .text text ∧ ∀ c ∈ text.toList, Text.isBlank c = true

theorem hasContent_eq_false_iff {n : Node} : hasContent n = false ↔
    ∀ child ∈ n.children, ∃ text, child = .text text ∧ ∀ c ∈ text.toList, Text.isBlank c = true := by
  rw [hasContent, List.any_eq_false]
  refine forall₂_congr fun child _ => ?_
  cases child <;> simp [Text.isAllBlank]

theorem isInjectionPoint_iff {entryScript : String} {n : Node} :
    isInjectionPoint entryScript n = true ↔ NamesFirstModule entryScript n := by
  rw [isInjectionPoint]
  simp only [Bool.and_eq_true, Bool.not_eq_true', hasContent_eq_false_iff]
  constructor
  · rintro ⟨⟨⟨hscript, hmodule⟩, hsource⟩, hblank⟩
    refine ⟨hscript, ?_, ?_, hblank⟩
    · cases ht : n.value? "type" with
      | none => rw [ht] at hmodule; exact absurd hmodule nofun
      | some t => rw [ht] at hmodule; exact ⟨t, rfl, hmodule⟩
    · cases hs : n.value? "src" with
      | none => rw [hs] at hsource; exact absurd hsource nofun
      | some s => rw [hs] at hsource; exact ⟨s, rfl, of_decide_eq_true hsource⟩
  · rintro ⟨hscript, ⟨t, ht, hmodule⟩, ⟨s, hs, hsource⟩, hblank⟩
    rw [ht, hs]
    exact ⟨⟨⟨hscript, hmodule⟩, decide_eq_true hsource⟩, hblank⟩

/-! ## The edits -/

/-- What becomes of the nodes of a document whose first module is named at `candidate`, and whose head is at
`head`: the import table and then the loader take the place of the candidate, and the capture script goes to the
end of the head, if errors are to be reported. -/
def pageEdit (settings : Settings) (table : Import.Table) (token : String) (candidate head : Node.Place) :
    Node.Place → Node.Edit :=
  let scripts := [tableNode table, loaderNode settings.entryScript]
  let replaced := Function.update Node.noEdit candidate (.replace scripts)
  if settings.instrument then Function.update replaced head (.grow (captureNode token)) else replaced

/-- The capture script goes to the head, the scripts take the place of the candidate, and all else is kept. -/
theorem pageEdit_cases (settings : Settings) (table : Import.Table) (token : String)
    (candidate head place : Node.Place) :
    let edit := pageEdit settings table token candidate head
    (place = head ∧ edit place = .grow (captureNode token)) ∨
      (place = candidate ∧ edit place = .replace [tableNode table, loaderNode settings.entryScript]) ∨
      (place ≠ candidate ∧ edit place = .keep) := by
  let replaced := Function.update Node.noEdit candidate
    (.replace [tableNode table, loaderNode settings.entryScript])
  have hreplaced : (place = candidate ∧
        replaced place = .replace [tableNode table, loaderNode settings.entryScript]) ∨
      (place ≠ candidate ∧ replaced place = .keep) := by
    by_cases hplace : place = candidate
    · subst hplace
      exact .inl ⟨rfl, Function.update_self _ _ _⟩
    · exact .inr ⟨hplace, Function.update_of_ne hplace _ _⟩
  dsimp only [pageEdit]
  split
  · by_cases hplace : place = head
    · subst hplace
      exact .inl ⟨rfl, Function.update_self _ _ _⟩
    · rw [Function.update_of_ne hplace]
      exact .inr hreplaced
  · exact .inr hreplaced

/-- Neither the import table nor the loader is a head. -/
theorem isTag_head_scripts (table : Import.Table) (entryScript : String) :
    ∀ m ∈ Node.subtrees [tableNode table, loaderNode entryScript], m.isTag "head" = false := by
  rw [Node.subtrees, Node.subtrees, Node.subtrees, List.append_nil, List.forall_mem_append]
  exact ⟨isTag_head_script _ _, isTag_head_script _ _⟩

theorem isTag_texts {tag : String} {ns : List Node} (h : ∀ n ∈ ns, ∃ text, n = .text text) :
    ∀ m ∈ Node.subtrees ns, m.isTag tag = false := by
  induction ns with
  | nil => exact List.forall_mem_nil _
  | cons n ns ih =>
    rw [List.forall_mem_cons] at h
    obtain ⟨text, rfl⟩ := h.1
    exact List.forall_mem_cons.mpr ⟨rfl, ih h.2⟩

/-- An element that names the first module is no head, and there is none in it. -/
theorem NamesFirstModule.no_head {entryScript : String} {n : Node} (h : NamesFirstModule entryScript n) :
    ∀ m ∈ n.subtree, m.isTag "head" = false := by
  have hscript := h.script
  cases n with
  | element name attributes children contents =>
    rw [Node.subtree, List.forall_mem_cons]
    exact ⟨Node.isTag_eq_false (by decide) hscript,
      isTag_texts fun child hchild => (h.blank child hchild).imp fun _ => And.left⟩
  | text | comment | doctype => exact absurd hscript Bool.false_ne_true

/-- The scripts take away no head and bring none. -/
theorem sparing_replace (table : Import.Table) (entryScript : String)
    (hcandidate : Node.IsFirst (NamesFirstModule entryScript) document candidate) :
    Node.Sparing (Node.isTag "head")
      (Function.update Node.noEdit candidate (.replace [tableNode table, loaderNode entryScript])) document := by
  intro place n hn
  by_cases hplace : place = candidate
  · subst hplace
    obtain ⟨m, hm, hnames⟩ := hcandidate.holds
    obtain rfl : m = n := Option.some.inj (hm.symm.trans hn)
    rw [Function.update_self]
    exact ⟨hnames.no_head, isTag_head_scripts table entryScript⟩
  · rw [Function.update_of_ne hplace]
    trivial

/-- Once the scripts are put in place of the candidate, the capture script is added to the head that was there
before. -/
theorem addCapture_replaced (table : Import.Table) (token : String) {replaced : List Node}
    (hcandidate : Node.placeOfFirstIn? (isInjectionPoint settings.entryScript) document = some candidate)
    (hhead : Node.placeOfFirstIn? (Node.isTag "head") document = some head)
    (hreplaced : Node.replaceAtIn? [tableNode table, loaderNode settings.entryScript] document candidate =
      some replaced) (hinstrument : settings.instrument = true) :
    Node.addToFirstIn? (Node.isTag "head") (captureNode token) replaced =
      some (Node.editedAll (pageEdit settings table token candidate head) document) := by
  have hfirst := (Node.isFirst_of_placeOfFirstIn? document hcandidate).congr fun _ => isInjectionPoint_iff
  rw [Node.replaceAtIn?_eq_editedAll document hreplaced, pageEdit, if_pos hinstrument]
  exact Node.addToFirstIn?_editedAll document (sparing_replace table settings.entryScript hfirst) hhead

/-- **The tree of the page is the document after the edits.** -/
theorem tree_eq_editedAll (table : Import.Table) (token : String)
    (hcandidate : Node.placeOfFirstIn? (isInjectionPoint settings.entryScript) document = some candidate)
    (hhead : Node.placeOfFirstIn? (Node.isTag "head") document = some head) :
    tree settings table token document =
      .ok (Node.editedAll (pageEdit settings table token candidate head) document) := by
  obtain ⟨replaced, hreplaced, -⟩ :=
    Node.replaceAtIn?_of_found [tableNode table, loaderNode settings.entryScript] document hcandidate
  rw [tree, hcandidate]
  simp only [injected_eq, hreplaced]
  split
  · have hadded := addCapture_replaced table token hcandidate hhead hreplaced ‹_›
    exact congrArg (fun ms => Except.ok (Option.getD ms replaced)) hadded
  · rw [Node.replaceAtIn?_eq_editedAll document hreplaced, pageEdit, if_neg ‹_›]

/-- **The tree of a page holds the capture script of the token** if errors are to be reported: a document has a
head, and the scripts do not take it away. -/
theorem captureNode_mem_tree {nodes : List Node} (hinstrument : settings.instrument = true)
    (h : tree settings table token (Html.parse markup) = .ok nodes) :
    captureNode token ∈ Node.subtrees nodes := by
  obtain ⟨candidate, hcandidate⟩ := (hasInjectionPoint_of_tree h).exists_place
  obtain ⟨head, hhead⟩ := Html.exists_placeOfHead markup
  obtain ⟨replaced, hreplaced, -⟩ :=
    Node.replaceAtIn?_of_found [tableNode table, loaderNode settings.entryScript] _ hcandidate
  obtain rfl := Except.ok.inj ((tree_eq_editedAll table token hcandidate hhead).symm.trans h)
  exact Node.child_mem_addToFirstIn? replaced
    (addCapture_replaced table token hcandidate hhead hreplaced hinstrument)

/-! ## Every entry document -/

/-- **What becomes of an entry document**, whatever its text is. In the store it is taken from, every child
names its parent and stands there once, so what is found is never detached. If nothing in it names the first
module, the page fails and says so. Otherwise the page is the document with the scripts in place of the first
element that does, and with the capture script at the end of the first head if errors are to be reported. -/
theorem page_edited_in_place (settings : Settings) (table : Import.Table) (token markup : String) :
    (Html.parse markup = (Html.built markup).nodes ∧ (Html.built markup).Linked) ∧
    ((∀ place n, Node.nodeAt? (Html.parse markup) place = some n →
        ¬ NamesFirstModule settings.entryScript n) ∧
      application settings table token markup =
        .error (.missingInjectionPoint settings.entryMarkupPath settings.entryScript) ∨
    ∃ candidate head,
      Node.IsFirst (NamesFirstModule settings.entryScript) (Html.parse markup) candidate ∧
      Node.IsFirst (·.isTag "head" = true) (Html.parse markup) head ∧
      application settings table token markup = .ok (Node.writtenAll false
        (Node.editedAll (pageEdit settings table token candidate head) (Html.parse markup)))) := by
  refine ⟨⟨Html.parse_eq markup, Html.linked_built markup⟩, ?_⟩
  cases hcandidate : Node.placeOfFirstIn? (isInjectionPoint settings.entryScript) (Html.parse markup) with
  | none =>
    refine .inl ⟨fun place n hn hnames => ?_, ?_⟩
    · have hnone := (Node.placeOfFirstIn?_eq_none_iff _).mp hcandidate n (Node.mem_subtrees_of_nodeAt? hn)
      rw [isInjectionPoint_iff.mpr hnames] at hnone
      cases hnone
    · exact application_error_iff.mpr ⟨not_hasInjectionPoint_iff.mpr hcandidate, rfl⟩
  | some candidate =>
    obtain ⟨head, hhead⟩ := Html.exists_placeOfHead markup
    refine .inr ⟨candidate, head, ?_, Node.isFirst_of_placeOfFirstIn? _ hhead, ?_⟩
    · exact (Node.isFirst_of_placeOfFirstIn? _ hcandidate).congr fun _ => isInjectionPoint_iff
    · rw [application, tree_eq_editedAll table token hcandidate hhead]
      rfl

/-- An entry document that names its first module twice: the table and the loader take the place of the first of
the two elements, the capture script goes to the head, and the second element is kept. -/
theorem page_edited_in_place_twice :
    let markup := "<body><script type=module src=/a></script><script type=module src=/a></script>"
    let settings : Settings := { entryScript := "/a" }
    let edit := pageEdit settings .withExternals "t" [0, 1, 0] [0, 0]
    application settings .withExternals "t" markup =
        .ok (Node.writtenAll false (Node.editedAll edit (Html.parse markup))) ∧
      edit [0, 1, 0] = .replace [tableNode .withExternals, loaderNode "/a"] ∧
      edit [0, 0] = .grow (captureNode "t") ∧
      edit [0, 1, 1] = .keep ∧
      ∃ second, Node.nodeAt? (Html.parse markup) [0, 1, 1] = some second ∧
        NamesFirstModule "/a" second := by
  intro markup settings edit
  have hcandidate : Node.placeOfFirstIn? (isInjectionPoint "/a") (Html.parse markup) = some [0, 1, 0] := by
    decide +kernel
  have hhead : Node.placeOfFirstIn? (Node.isTag "head") (Html.parse markup) = some [0, 0] := by decide +kernel
  have hsecond : (Node.nodeAt? (Html.parse markup) [0, 1, 1]).any (isInjectionPoint "/a") = true := by
    decide +kernel
  have hfirst : Node.IsFirst (NamesFirstModule "/a") (Html.parse markup) [0, 1, 0] :=
    (Node.isFirst_of_placeOfFirstIn? _ hcandidate).congr fun _ => isInjectionPoint_iff
  have hpage : application settings .withExternals "t" markup =
      .ok (Node.writtenAll false (Node.editedAll edit (Html.parse markup))) := by
    rcases (page_edited_in_place settings .withExternals "t" markup).2 with
      ⟨hnone, -⟩ | ⟨candidate, head, hnames, htag, hpage⟩
    · obtain ⟨n, hn, hnames⟩ := hfirst.holds
      exact absurd hnames (hnone _ n hn)
    · obtain rfl := hnames.unique hfirst
      obtain rfl := htag.unique (Node.isFirst_of_placeOfFirstIn? _ hhead)
      exact hpage
  obtain ⟨second, hplace, hnames⟩ := (Option.any_eq_true _ _).mp hsecond
  exact ⟨hpage, rfl, rfl, rfl, second, hplace, isInjectionPoint_iff.mp hnames⟩

end Vitrine.Page
