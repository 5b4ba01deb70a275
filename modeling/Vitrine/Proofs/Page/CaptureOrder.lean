import Vitrine.Proofs.Page.Injection

/-!
# What the capture script precedes (section 4.6)

The capture script is the last child of the head. It precedes the scripts behind the head; the scripts in the head
precede it. The loader stands where the first module was named, so the place of that element decides whether the
capture script is there when the loader runs.

`replace_injection_point` puts the loader where the tag was, and `append_to_head` puts the capture script behind
all that is in the head.

* `IsModule.last_precedes_iff`: what the last child of a head precedes.
* `laid_out`: where the scripts stand in the tree of a page.
* `capture_precedes_iff`: which module scripts the capture script precedes.
* `loader_precedes_capture`: an entry document that names its first module in the head.
-/

namespace Vitrine.Page

open Html (Node)

variable {settings : Settings} {table : Import.Table} {token markup page : String} {document : List Node}
variable {candidate head place : Node.Place}

/-! ## The layout of a page -/

/-- A script, of any vocabulary, of type `module`. -/
structure IsModule (n : Node) : Prop where
  script : n.isTag "script" = true
  module : ∃ t, n.value? "type" = some t ∧
    Text.equalIgnoringCase (String.ofList (Text.trimBlank t.toList)) "module" = true

/-- How the scripts of a page stand to each other: the capture script is the last child of the first head. It
precedes the module scripts that are not in the head, and no others. The loader is in the head if the first module
was named there. -/
structure LaidOut (settings : Settings) (token : String) (nodes : List Node)
    (candidate head capture loader : Node.Place) : Prop where
  first : Node.IsFirst (·.isTag "head" = true) nodes head
  last : ∃ name attributes before contents,
    Node.nodeAt? nodes head = some (.element name attributes (before ++ [captureNode token]) contents) ∧
    capture = head ++ [before.length]
  modules : ∀ place n, Node.nodeAt? nodes place = some n → IsModule n → (capture < place ↔ ¬ head <+: place)
  loads : Node.nodeAt? nodes loader = some (loaderNode settings.entryScript)
  precedes : capture < loader ↔ ¬ head <+: candidate

theorem LaidOut.captured {nodes : List Node} {capture loader : Node.Place}
    (h : LaidOut settings token nodes candidate head capture loader) :
    Node.nodeAt? nodes capture = some (captureNode token) := by
  obtain ⟨name, attributes, before, contents, hhead, rfl⟩ := h.last
  rw [Node.nodeAt?_child hhead, Node.children, List.getElem?_concat_length]

theorem isModule_loaderNode (entryScript : String) : IsModule (loaderNode entryScript) where
  script := by
    show Text.equalIgnoringCase "script" "script" = true
    decide
  module := by
    refine ⟨"module", ?_, by decide⟩
    rw [loaderNode, script, Node.value?, List.map_singleton, List.find?_cons_of_pos (by decide)]
    rfl

theorem IsModule.isLeaf {n : Node} (h : IsModule n) : n.isLeaf = false := Node.isLeaf_of_isTag h.script

theorem IsModule.isTag {n : Node} (h : IsModule n) {tag : String}
    (htag : Text.lowerAscii "script".toList ≠ Text.lowerAscii tag.toList) : n.isTag tag = false :=
  Node.isTag_eq_false htag h.script

/-- In a script there is no module script. -/
theorem not_isModule_inside {attributes : List (String × String)} {body : String} {n : Node}
    (hn : Node.nodeAt? (script attributes body).children place = some n) : ¬ IsModule n := by
  intro hmodule
  have hmem : n ∈ Node.subtrees [Node.text body] := Node.mem_subtrees_of_nodeAt? hn
  obtain rfl : n = .text body := List.mem_singleton.mp hmem
  exact absurd hmodule.script Bool.false_ne_true

/-- The tag that names the first module is a module script. -/
theorem NamesFirstModule.isModule {entryScript : String} {n : Node} (h : NamesFirstModule entryScript n) :
    IsModule n :=
  ⟨h.script, h.module⟩

/-! ## Where module scripts stand -/

section Around

variable {inRoot inHead before : List Node} {i j : Nat} {n : Node}

/-- A module script stands in the head, behind it in the root, or behind the root. -/
theorem IsModule.around (hmodule : IsModule n) (hroot : Node.Leads "html" inRoot document i)
    (hhead : Node.Leads "head" inHead inRoot j) (hn : Node.nodeAt? document place = some n) :
    (∃ k inner, place = i :: j :: k :: inner ∧ Node.nodeAt? inHead (k :: inner) = some n) ∨
      (∃ k inner, place = i :: k :: inner ∧ j < k) ∨ ∃ k inner, place = k :: inner ∧ i < k := by
  refine (hroot.around hhead hn hmodule.isLeaf (hmodule.isTag (by decide))).resolve_left fun hself => ?_
  exact Bool.false_ne_true ((hmodule.isTag (by decide)).symm.trans hself.2)

/-- Neither the root nor the head nor anything in front of them is a module script. -/
theorem IsModule.lt_place (hmodule : IsModule n) (hroot : Node.Leads "html" inRoot document i)
    (hhead : Node.Leads "head" inHead inRoot j) (hn : Node.nodeAt? document place = some n) : [i, j] < place := by
  rcases hmodule.around hroot hhead hn with ⟨m, inner, rfl, -⟩ | ⟨m, inner, rfl, hlt⟩ | ⟨m, inner, rfl, hlt⟩
  · simp
  · simp [List.cons_lt_cons_iff, hlt]
  · simp [List.cons_lt_cons_iff, hlt]

/-- What is put in place of a module script stands in the head if that one did. -/
theorem IsModule.prefix_further_iff (hmodule : IsModule n) (hroot : Node.Leads "html" inRoot document i)
    (hhead : Node.Leads "head" inHead inRoot j) (hn : Node.nodeAt? document place = some n) (k : Nat) :
    [i, j] <+: place.further k ↔ [i, j] <+: place := by
  rcases hmodule.around hroot hhead hn with ⟨m, inner, rfl, -⟩ | ⟨m, inner, rfl, hlt⟩ | ⟨m, inner, rfl, hlt⟩
  · exact iff_of_true ⟨_, rfl⟩ ⟨_, rfl⟩
  · obtain ⟨m', inner', hfurther, hle⟩ := Node.Place.further_cons k m inner
    have hne : j ≠ m' ∧ j ≠ m := by omega
    simp [Node.Place.further, hfurther, List.cons_prefix_cons, hne]
  · obtain ⟨m', inner', hfurther, hle⟩ := Node.Place.further_cons k m inner
    have hne : i ≠ m' ∧ i ≠ m := by omega
    simp [hfurther, List.cons_prefix_cons, hne]

/-- **A script that is the last child of the head precedes the module scripts behind the head**, and no others. -/
theorem IsModule.last_precedes_iff (hmodule : IsModule n) {attributes : List (String × String)} {body : String}
    (hroot : Node.Leads "html" inRoot document i)
    (hhead : Node.Leads "head" (before ++ [Page.script attributes body]) inRoot j)
    (hn : Node.nodeAt? document place = some n) : [i, j, before.length] < place ↔ ¬ [i, j] <+: place := by
  rcases hmodule.around hroot hhead hn with ⟨k, inner, rfl, hinner⟩ | ⟨k, inner, rfl, hlt⟩ | ⟨k, inner, rfl, hlt⟩
  · -- Behind the last child there is nothing in the head, and inside of it no module script.
    refine iff_of_false (fun hlt => ?_) (not_not_intro ⟨k :: inner, rfl⟩)
    obtain ⟨child, hchild, hinside⟩ := Option.bind_eq_some_iff.mp hinner
    have hk : k ≤ before.length := by
      obtain ⟨hk, -⟩ := List.getElem?_eq_some_iff.mp hchild
      simpa [Nat.lt_succ_iff] using hk
    obtain ⟨rfl, hne⟩ : k = before.length ∧ inner ≠ [] := by
      simp only [List.cons_lt_cons_iff, Nat.lt_irrefl, true_and, false_or] at hlt
      rcases hlt with hlt | ⟨hself, hlt⟩
      · omega
      · exact ⟨hself.symm, fun hnil => absurd (hnil ▸ hlt) (List.not_lt_nil _)⟩
    obtain rfl : Page.script attributes body = child := by simpa using hchild
    rw [if_neg (by simpa using hne)] at hinside
    exact not_isModule_inside hinside hmodule
  · exact iff_of_true (by simp [List.cons_lt_cons_iff, hlt]) (by simp [List.cons_prefix_cons]; omega)
  · exact iff_of_true (by simp [List.cons_lt_cons_iff, hlt]) (by simp [List.cons_prefix_cons]; omega)

end Around

/-! ## The tree of a page -/

theorem pageEdit_head (hinstrument : settings.instrument = true) :
    pageEdit settings table token candidate head head = .grow (captureNode token) := by
  rw [pageEdit, if_pos hinstrument, Function.update_self]

theorem pageEdit_stays (hne : place ≠ candidate) : (pageEdit settings table token candidate head place).Stays := by
  rcases pageEdit_cases settings table token candidate head place with ⟨-, hedit⟩ | ⟨rfl, -⟩ | ⟨-, hedit⟩
  · rw [hedit]
    trivial
  · contradiction
  · rw [hedit]
    trivial

/-- **Where the scripts stand in the tree of a page** whose document begins with its head. -/
theorem laid_out {inRoot inHead : List Node} {i j : Nat} (table : Import.Table) (token : String)
    (hinstrument : settings.instrument = true)
    (hroot : Node.Leads "html" inRoot document i) (hhead : Node.Leads "head" inHead inRoot j)
    (hcandidate : Node.IsFirst (NamesFirstModule settings.entryScript) document candidate) :
    ∃ capture, LaidOut settings token
      (Node.editedAll (pageEdit settings table token candidate [i, j]) document) candidate [i, j] capture
      (candidate.further 1) := by
  obtain ⟨n, hn, hnames⟩ := hcandidate.holds
  have hbehind : [i, j] < candidate := hnames.isModule.lt_place hroot hhead hn
  have hne : candidate ≠ [i, j] := fun heq => List.lt_irrefl _ (heq ▸ hbehind)
  have hfront : (∀ k ≤ i, [k] ≠ candidate) ∧ ∀ k ≤ j, [i, k] ≠ candidate := by
    constructor
    all_goals
      rintro k hk rfl
      simp [List.cons_lt_cons_iff] at hbehind
      omega
  let edit := pageEdit settings table token candidate [i, j]
  have hstays : ∀ place ≠ candidate, (edit place).Stays := fun _ hplace => pageEdit_stays hplace
  have hreplace : edit candidate = .replace [tableNode table, loaderNode settings.entryScript] := by
    rcases pageEdit_cases settings table token candidate [i, j] candidate with ⟨heq, -⟩ | ⟨-, hedit⟩ | ⟨hself, -⟩
    · exact absurd heq hne
    · exact hedit
    · contradiction
  have hkeep : edit [i] = .keep := by
    rcases pageEdit_cases settings table token candidate [i, j] [i] with ⟨heq, -⟩ | ⟨heq, -⟩ | ⟨-, hedit⟩
    · cases heq
    · exact absurd heq (hfront.1 i (Nat.le_refl i))
    · exact hedit
  have hroot' := hroot.edited edit fun k hk => hstays _ (hfront.1 k hk)
  rw [hkeep, Node.Edit.added, List.append_nil] at hroot'
  have hhead' := hhead.edited (fun place => edit (i :: place)) fun k hk => hstays _ (hfront.2 k hk)
  have hgrow : edit [i, j] = .grow (captureNode token) := pageEdit_head hinstrument
  rw [hgrow, Node.Edit.added] at hhead'
  obtain ⟨attributes, contents, hnode⟩ := hhead'.nodeAt?_self
  have hloader := Node.nodeAt?_replaced hn hreplace hstays
    (show [tableNode table, loaderNode settings.entryScript][1]? = some (loaderNode settings.entryScript) from rfl)
  exact ⟨_, {
    first := Node.isFirst_head hroot' hhead'
    last := ⟨_, attributes, _, contents, hroot'.nodeAt?_inside.trans hnode, rfl⟩
    modules := fun place m hm hmodule => hmodule.last_precedes_iff hroot' hhead' hm
    loads := hloader
    precedes := ((isModule_loaderNode _).last_precedes_iff hroot' hhead' hloader).trans
      (not_congr (hnames.isModule.prefix_further_iff hroot hhead hn 1)) }⟩

/-- The tree of a page has the layout. -/
theorem tree_laid_out (table : Import.Table) (token : String) (hinstrument : settings.instrument = true)
    (hcandidate :
      Node.placeOfFirstIn? (isInjectionPoint settings.entryScript) (Html.parse markup) = some candidate) :
    ∃ nodes head capture,
      tree settings table token (Html.parse markup) = .ok nodes ∧
      Node.IsFirst (·.isTag "head" = true) (Html.parse markup) head ∧
      LaidOut settings token nodes candidate head capture (candidate.further 1) := by
  obtain ⟨i, j, inRoot, inHead, hroot, hhead⟩ := Html.leads_parse markup
  have hfirst := Node.isFirst_head hroot hhead
  obtain ⟨place, hplace⟩ := Html.exists_placeOfHead markup
  obtain rfl : place = [i, j] := (Node.isFirst_of_placeOfFirstIn? _ hplace).unique hfirst
  obtain ⟨capture, hlaid⟩ := laid_out table token hinstrument hroot hhead
    ((Node.isFirst_of_placeOfFirstIn? _ hcandidate).congr fun _ => isInjectionPoint_iff)
  exact ⟨_, [i, j], capture, tree_eq_editedAll table token hcandidate hplace, hfirst, hlaid⟩

/-- **The capture script precedes the module scripts that are not in the head**, and no others: not even the
loader, if the first module was named in the head. -/
theorem capture_precedes_iff (hinstrument : settings.instrument = true)
    (hpage : application settings table token markup = .ok page) :
    ∃ nodes candidate head capture loader,
      tree settings table token (Html.parse markup) = .ok nodes ∧ page = Node.writtenAll false nodes ∧
      Node.IsFirst (NamesFirstModule settings.entryScript) (Html.parse markup) candidate ∧
      Node.IsFirst (·.isTag "head" = true) (Html.parse markup) head ∧
      LaidOut settings token nodes candidate head capture loader := by
  obtain ⟨hpoint, nodes', hnodes', rfl, -⟩ := application_ok hpage
  obtain ⟨candidate, hcandidate⟩ := hpoint.exists_place
  obtain ⟨nodes, head, capture, hnodes, hhead, hlaid⟩ := tree_laid_out table token hinstrument hcandidate
  obtain rfl := Except.ok.inj (hnodes'.symm.trans hnodes)
  exact ⟨nodes', candidate, head, capture, _, hnodes, rfl,
    (Node.isFirst_of_placeOfFirstIn? _ hcandidate).congr fun _ => isInjectionPoint_iff, hhead, hlaid⟩

/-- A document that names its first module in the body: the capture script precedes the loader. -/
theorem capture_precedes_body :
    let markup := "<body><script type=\"module\" src=\"/index.tsx\"></script></body>"
    ∃ page nodes capture loader,
      application {} {} "pass-1" markup = .ok page ∧ page = Node.writtenAll false nodes ∧
      Node.nodeAt? nodes loader = some (loaderNode "/index.tsx") ∧ capture < loader := by
  intro markup
  have hpoint : HasInjectionPoint {} (Html.parse markup) := by decide +kernel
  have hcandidate : Node.placeOfFirstIn? (isInjectionPoint "/index.tsx") (Html.parse markup) = some [0, 1, 0] := by
    decide +kernel
  have hhead : Node.placeOfFirstIn? (Node.isTag "head") (Html.parse markup) = some [0, 0] := by decide +kernel
  obtain ⟨nodes, hnodes, -⟩ := tree_placed {} "pass-1" hpoint
  have hpage : application {} {} "pass-1" markup = .ok (Node.writtenAll false nodes) := by
    rw [application, hnodes]
    rfl
  obtain ⟨nodes, candidate, head, capture, loader, -, hwritten, hfirst, hfirstHead, hlaid⟩ :=
    capture_precedes_iff rfl hpage
  obtain rfl := hfirst.unique ((Node.isFirst_of_placeOfFirstIn? _ hcandidate).congr fun _ => isInjectionPoint_iff)
  obtain rfl := hfirstHead.unique (Node.isFirst_of_placeOfFirstIn? _ hhead)
  exact ⟨_, nodes, capture, loader, hpage, hwritten, hlaid.loads, hlaid.precedes.mpr (by decide)⟩

/-- A document that names its first module in the head: the loader precedes the capture script. -/
theorem loader_precedes_capture :
    let markup := "<html><head><script type=\"module\" src=\"/index.tsx\"></script></head><body></body></html>"
    ∃ page nodes capture loader,
      application {} {} "t" markup = .ok page ∧ page = Node.writtenAll false nodes ∧
      Node.nodeAt? nodes capture = some (captureNode "t") ∧
      Node.nodeAt? nodes loader = some (loaderNode "/index.tsx") ∧ IsModule (loaderNode "/index.tsx") ∧
      ¬ capture < loader := by
  intro markup
  let settings : Settings := {}
  have hcandidate : Node.placeOfFirstIn? (isInjectionPoint settings.entryScript) (Html.parse markup) =
      some [0, 0, 0] := by decide +kernel
  have hhead : Node.placeOfFirstIn? (Node.isTag "head") (Html.parse markup) = some [0, 0] := by decide +kernel
  have htree : ∃ nodes head capture, tree settings {} "t" (Html.parse markup) = .ok nodes ∧
      Node.IsFirst (·.isTag "head" = true) (Html.parse markup) head ∧
      LaidOut settings "t" nodes [0, 0, 0] head capture [0, 0, 1] := tree_laid_out {} "t" rfl hcandidate
  obtain ⟨nodes, head, capture, hnodes, hfirstHead, hlaid⟩ := htree
  obtain rfl := hfirstHead.unique (Node.isFirst_of_placeOfFirstIn? _ hhead)
  refine ⟨Node.writtenAll false nodes, nodes, capture, [0, 0, 1], ?_, rfl, hlaid.captured, hlaid.loads,
    isModule_loaderNode _, fun hlt => ?_⟩
  · rw [application, hnodes]
    rfl
  · exact absurd (hlaid.precedes.mp hlt) (by decide)

end Vitrine.Page
