import Vitrine.Proofs.Page.Injection
import Vitrine.Proofs.Page.Scripts

/-!
# A page holds all of its document (section 4.6)

A document is written in parts: start tags, end tags, texts, comments and document types. Every node gives its
parts, whatever it is in; only what templates keep gives none, as it is not among the children of the template. The
parts of a page are those of the document in their order, without the element that names the first module, and among
them the parts of the scripts.

The document is written by `serialize` once, when `replace_injection_point` and `append_to_head` are done.

* `Node.writtenAll_eq_join`: what is written are the parts.
* `Node.partsAll_sublist`: edits that only add something leave all parts in their order.
* `document_written`: every part of an entry document is written.
* `template_unwritten`: an entry document whose template loses its text.
-/

namespace Vitrine

namespace Html

/-! ## Parts of a document -/

/-- What is written in one piece. `raw` says that a text is written as it stands. -/
inductive Part where
  | opening (name : ElementName) (attributes : List Attribute)
  | closing (name : ElementName)
  | text (raw : Bool) (content : String)
  | comment (content : String)
  | doctype (name : String)

/-- How a part is written. -/
def Part.written : Part → String
  | .opening name attributes => name.startTag attributes
  | .closing name => "</" ++ name.tag ++ ">"
  | .text raw content => if raw then content else String.ofList (content.toList.flatMap writtenInText)
  | .comment content => "<!--" ++ content ++ "-->"
  | .doctype name => "<!DOCTYPE " ++ name ++ ">"

/-- The end tag, unless the element is always empty. -/
def ElementName.closing (name : ElementName) : List Part := if name.isHtml emptyTags then [] else [.closing name]

namespace Node

mutual

/-- The parts of a node and of all that is in it; `raw` if the element around it holds raw text. -/
def parts (raw : Bool) : Node → List Part
  | .element name attributes children _ =>
    .opening name attributes :: (partsAll (name.isHtml rawTags) children ++ name.closing)
  | .text content => [.text raw content]
  | .comment content => [.comment content]
  | .doctype name => [.doctype name]

/-- The parts of several nodes, one after the other. -/
def partsAll (raw : Bool) : List Node → List Part
  | [] => []
  | n :: ns => n.parts raw ++ partsAll raw ns

end

theorem partsAll_append (raw : Bool) (ms ns : List Node) :
    partsAll raw (ms ++ ns) = partsAll raw ms ++ partsAll raw ns := by
  induction ms with
  | nil => rfl
  | cons m ms ih => rw [List.cons_append, partsAll, partsAll, ih, List.append_assoc]

theorem join_map_append (ps qs : List Part) : String.join ((ps ++ qs).map Part.written) =
    String.join (ps.map Part.written) ++ String.join (qs.map Part.written) := by
  rw [List.map_append, String.join_append]

mutual

/-- A tree is written part by part, if it can be written. -/
theorem written_eq_join (raw : Bool) : ∀ n : Node, (∀ m ∈ n.subtree, m.Writable) →
    n.written raw = String.join ((n.parts raw).map Part.written)
  | .element name attributes children contents, h => by
    rw [subtree, List.forall_mem_cons] at h
    rw [written, parts, ElementName.closing]
    split
    · rename_i hempty
      rw [h.1 hempty]
      simp [partsAll, Part.written]
    · rw [writtenAll_eq_join _ children h.2]
      simp [Part.written, String.append_assoc]
  | .text _, _ | .comment _, _ | .doctype _, _ => by simp [written, parts, Part.written]

/-- **What is written are the parts**, if no element that is always empty holds anything. -/
theorem writtenAll_eq_join (raw : Bool) : ∀ ns : List Node, (∀ m ∈ subtrees ns, m.Writable) →
    writtenAll raw ns = String.join ((partsAll raw ns).map Part.written)
  | [], _ => rfl
  | n :: ns, h => by
    rw [subtrees, List.forall_mem_append] at h
    rw [writtenAll, partsAll, join_map_append, written_eq_join raw n h.1, writtenAll_eq_join raw ns h.2]

end

/-! ## Edits that add something -/

/-- `less` puts in no more than `more` does, and takes away the same. -/
inductive Edit.Omits : (less more : Edit) → Prop
  | keep : Omits .keep .keep
  | grow (child : Node) : Omits .keep (.grow child)
  | replace (new : List Node) : Omits (.replace []) (.replace new)

variable {less more : Place → Edit}

mutual

/-- Edits that omit something leave the other parts in their order. -/
theorem parts_edited_sublist (raw : Bool) : ∀ (n : Node) {less more : Place → Edit},
    (∀ place, (less place).Omits (more place)) →
    (partsAll raw (edited less n)).Sublist (partsAll raw (edited more n))
  | .element name attributes children contents, less, more, h => by
    have hchildren := partsAll_sublist (name.isHtml rawTags) children h
    have hown := h []
    rw [edited, edited]
    generalize less [] = own at hown
    generalize more [] = own' at hown
    cases hown with
    | keep =>
      simp only [partsAll, parts, List.append_nil]
      exact (hchildren.append_right _).cons_cons _
    | grow child =>
      simp only [partsAll, parts, partsAll_append, List.append_nil]
      exact ((hchildren.trans (List.sublist_append_left _ _)).append_right _).cons_cons _
    | replace new => exact List.nil_sublist _
  | .text _, less, more, h | .comment _, less, more, h | .doctype _, less, more, h => by
    have hown := h []
    simp only [edited]
    generalize less [] = own at hown
    generalize more [] = own' at hown
    cases hown with
    | keep | grow => exact List.Sublist.refl _
    | replace new => exact List.nil_sublist _

/-- **Edits that only add something leave all parts in their order.** -/
theorem partsAll_sublist (raw : Bool) : ∀ (ns : List Node) {less more : Place → Edit},
    (∀ place, (less place).Omits (more place)) →
    (partsAll raw (editedAll less ns)).Sublist (partsAll raw (editedAll more ns))
  | [], _, _, _ => List.Sublist.refl _
  | n :: ns, less, more, h => by
    rw [editedAll, editedAll, partsAll_append, partsAll_append]
    exact (parts_edited_sublist raw n fun place => h (0 :: place)).append
      (partsAll_sublist raw ns fun place => h place.behind)

end

/-! ## Edits that leave a document writable -/

/-- An element that is always empty. -/
def isEmptied : Node → Bool
  | .element name _ _ _ => name.isHtml emptyTags
  | _ => false

/-- An element without children has none after edits either. -/
theorem Writable.edited (n : Node) (edit : Place → Edit) (h : n.Writable) :
    (n.withChildren (editedAll edit n.children)).Writable := by
  cases n with
  | element name attributes children contents =>
    intro hempty
    obtain rfl := h hempty
    rfl
  | text | comment | doctype => trivial

theorem writable_withChildren {n : Node} (h : n.isEmptied = false) (children : List Node) :
    (n.withChildren children).Writable := by
  cases n with
  | element name attributes => exact fun hempty => absurd (h.symm.trans hempty) Bool.false_ne_true
  | text | comment | doctype => trivial

/-- What a template keeps beside its children. -/
def contents : Node → List Node
  | .element _ _ _ contents => contents
  | _ => []

/-- The nodes without the one at a place, and without all that is in it. -/
def without (place : Place) (ns : List Node) : List Node :=
  editedAll (Function.update noEdit place (.replace [])) ns

end Node

end Html

namespace Page

open Html (Node Part)

variable {settings : Settings} {table : Import.Table} {token markup : String} {document : List Node}
variable {candidate head : Node.Place}

/-! ## What is written of an entry document -/

theorem writable_script (attributes : List (String × String)) (body : String) :
    ∀ m ∈ (script attributes body).subtree, m.Writable := by
  rw [script, Node.subtree, List.forall_mem_cons]
  exact ⟨fun hempty => absurd hempty (by decide), List.forall_mem_singleton.mpr trivial⟩

theorem writable_injected (table : Import.Table) (entryScript : String) :
    ∀ m ∈ Node.subtrees [tableNode table, loaderNode entryScript], m.Writable := by
  rw [Node.subtrees, Node.subtrees, Node.subtrees, List.append_nil, List.forall_mem_append]
  exact ⟨writable_script _ _, writable_script _ _⟩

/-- A head is no element that is always empty. -/
theorem isEmptied_head {n : Node} (h : n.isTag "head" = true) : n.isEmptied = false := by
  cases n with
  | element name attributes children contents =>
    have hname : Text.lowerAscii name.tag.toList = Text.lowerAscii "head".toList := beq_iff_eq.mp h
    have hall : ∀ tag ∈ Html.emptyTags, Text.lowerAscii tag.toList ≠ Text.lowerAscii "head".toList := by decide
    refine Bool.eq_false_iff.mpr fun hempty => ?_
    have hmem : name.tag ∈ Html.emptyTags := by
      simpa using (Bool.and_eq_true_iff.mp hempty).2
    exact hall _ hmem hname
  | text | comment | doctype => rfl

/-- Every edit of a page puts in what can be written, and puts children where they may stand. -/
theorem preserves_pageEdit (settings : Settings) (table : Import.Table) (token : String)
    (candidate : Node.Place) (hhead : Node.IsFirst (·.isTag "head" = true) document head) :
    Node.Everywhere (fun place n => (pageEdit settings table token candidate head place).Preserves Node.Writable n)
      document := by
  intro place n hn
  rcases pageEdit_cases settings table token candidate head place with ⟨rfl, hedit⟩ | ⟨rfl, hedit⟩ | ⟨-, hedit⟩
  all_goals rw [hedit]
  · obtain ⟨m, hm, htag⟩ := hhead.holds
    obtain rfl := Option.some.inj (hn.symm.trans hm)
    exact ⟨Node.writable_withChildren (isEmptied_head htag), writable_script _ _⟩
  · exact writable_injected table settings.entryScript
  · trivial

/-- The edits of a page take away no more than the element that names the first module. -/
theorem omits_pageEdit (settings : Settings) (table : Import.Table) (token : String) (hne : head ≠ candidate)
    (place : Node.Place) : (Function.update Node.noEdit candidate (.replace []) place).Omits
      (pageEdit settings table token candidate head place) := by
  rcases pageEdit_cases settings table token candidate head place with
    ⟨rfl, hedit⟩ | ⟨rfl, hedit⟩ | ⟨hplace, hedit⟩
  all_goals rw [hedit]
  · rw [Function.update_of_ne hne]
    exact .grow _
  · rw [Function.update_self]
    exact .replace _
  · rw [Function.update_of_ne hplace]
    exact .keep

/-- **Every part of an entry document is written**, in the order of the document, but for the element that names
the first module. -/
theorem document_written (table : Import.Table) (token : String)
    (hpoint : HasInjectionPoint settings (Html.parse markup)) :
    ∃ candidate nodes,
      Node.IsFirst (NamesFirstModule settings.entryScript) (Html.parse markup) candidate ∧
      tree settings table token (Html.parse markup) = .ok nodes ∧
      application settings table token markup = .ok (String.join ((Node.partsAll false nodes).map Part.written)) ∧
      (Node.partsAll false (Node.without candidate (Html.parse markup))).Sublist (Node.partsAll false nodes) := by
  obtain ⟨candidate, hcandidate⟩ := hpoint.exists_place
  obtain ⟨head, hhead⟩ := Html.exists_placeOfHead markup
  have hfirst := (Node.isFirst_of_placeOfFirstIn? _ hcandidate).congr fun _ => isInjectionPoint_iff
  have hfirstHead := Node.isFirst_of_placeOfFirstIn? _ hhead
  have hne : head ≠ candidate := by
    rintro rfl
    obtain ⟨n, hn, hnames⟩ := hfirst.holds
    obtain ⟨m, hm, htag⟩ := hfirstHead.holds
    obtain rfl := Option.some.inj (hn.symm.trans hm)
    exact Bool.false_ne_true ((hnames.no_head n (Node.self_mem_subtree n)).symm.trans htag)
  have htree := tree_eq_editedAll table token hcandidate hhead
  refine ⟨candidate, _, hfirst, htree, ?_, Node.partsAll_sublist false _ (omits_pageEdit settings table token hne)⟩
  have hwritable := Node.forall_editedAll Node.Writable.edited _
    (preserves_pageEdit settings table token candidate hfirstHead) (Html.writable_parse markup)
  rw [application, htree, ← Node.writtenAll_eq_join false _ hwritable]
  rfl

/-- A document with a paragraph in front of the script. -/
theorem document_written_paragraph :
    let markup := "<p>a</p><script type=\"module\" src=\"/index.tsx\"></script>"
    ∃ nodes, application {} {} "pass-1" markup = .ok (String.join ((Node.partsAll false nodes).map Part.written)) ∧
      (Node.partsAll false (Node.without [0, 1, 1] (Html.parse markup))).Sublist (Node.partsAll false nodes) := by
  intro markup
  have hpoint : HasInjectionPoint {} (Html.parse markup) := by decide +kernel
  have hcandidate : Node.placeOfFirstIn? (isInjectionPoint "/index.tsx") (Html.parse markup) = some [0, 1, 1] := by
    decide +kernel
  obtain ⟨candidate, nodes, hfirst, -, hpage, hparts⟩ := document_written {} "pass-1" hpoint
  obtain rfl := hfirst.unique ((Node.isFirst_of_placeOfFirstIn? _ hcandidate).congr fun _ => isInjectionPoint_iff)
  exact ⟨nodes, hpage, hparts⟩

/-- A document with a text in a template, and some scripts behind it. -/
def withTemplate (scripts : List Node) : List Node :=
  [.element ⟨.html, "html"⟩ [] [
    .element ⟨.html, "head"⟩ [] (.element ⟨.html, "template"⟩ [] [] [.text "@"] :: scripts) [],
    .element ⟨.html, "body"⟩ [] [] []] []]

theorem parse_template : Html.parse "<template>@</template><script type=\"module\" src=\"/index.tsx\"></script>" =
    withTemplate [.element ⟨.html, "script"⟩
      [⟨.plain, "type", "module"⟩, ⟨.plain, "src", "/index.tsx"⟩] [] []] := by
  rfl

theorem tree_template : tree { instrument := false } {} "t"
    (withTemplate [.element ⟨.html, "script"⟩ [⟨.plain, "type", "module"⟩, ⟨.plain, "src", "/index.tsx"⟩] [] []]) =
      .ok (withTemplate [tableNode {}, loaderNode "/index.tsx"]) := by
  rfl

theorem written_withTemplate (scripts : List Node) : Node.writtenAll false (withTemplate scripts) =
    "<html><head><template></template>" ++ Node.writtenAll false scripts ++ "</head><body></body></html>" := by
  have hhead : Html.ElementName.isHtml ⟨.html, "head"⟩ Html.rawTags = false := by decide
  have hbefore : "<html><head><template></template>" = "<html>" ++ ("<head>" ++ "<template></template>") := by
    decide
  have hbehind : "</head><body></body></html>" =
      "</" ++ ("head" ++ (">" ++ ("<body></body>" ++ ("</" ++ ("html" ++ ">"))))) := by decide
  simp only [withTemplate, Node.writtenAll, Node.written, hhead]
  -- None of the four elements is always empty, and none has attributes.
  simp only [Html.ElementName.isHtml, Html.emptyTags, List.contains_eq_mem, List.mem_cons, List.not_mem_nil,
    String.reduceEq, or_self, decide_false, decide_true, Bool.and_false, Bool.false_eq_true, ↓reduceIte,
    Html.ElementName.startTag, List.map_nil, String.join, List.foldl_nil, String.reduceAppend, String.append_empty]
  simp only [hbefore, hbehind, String.append_assoc]

theorem notMem_scripts : '@' ∉ (Node.writtenAll false [tableNode {}, loaderNode "/index.tsx"]).toList := by
  have htable : '@' ∉ ((tableNode {}).written false).toList := by decide +kernel
  have hloader : '@' ∉ ((loaderNode "/index.tsx").written false).toList := by
    rw [loaderNode, script_written, loaderScript_toList, scriptLiteral_toList, String.toList_intercalate]
    simp only [loaderLines, List.map_cons, List.map_nil]
    -- A literal is the text of its characters by definition; to decode it instead takes much longer.
    repeat rw [String.toList_ofList]
    decide +kernel
  simpa [Node.writtenAll] using ⟨htable, hloader⟩

/-- A document whose template holds a text, and a page without that text. -/
theorem template_unwritten :
    let markup := "<template>@</template><script type=\"module\" src=\"/index.tsx\"></script>"
    (∃ n ∈ Node.subtrees (Html.parse markup), n.isTag "template" = true ∧
      Node.writtenAll false n.contents = "@") ∧
    ∃ page, application { instrument := false } {} "t" markup = .ok page ∧ '@' ∉ page.toList := by
  refine ⟨?_, Node.writtenAll false (withTemplate [tableNode {}, loaderNode "/index.tsx"]), ?_, ?_⟩
  · rw [parse_template]
    decide +kernel
  · rw [application, parse_template, tree_template]
    rfl
  · rw [written_withTemplate, String.toList_append, String.toList_append, List.mem_append, List.mem_append]
    exact not_or_intro (not_or_intro (by decide) notMem_scripts) (by decide)

end Page

end Vitrine
