import Vitrine.Frame
import Vitrine.Proofs.Page.Escaped
import Vitrine.Proofs.Text.Word

/-!
# The element of a frame carries the frame (section 4.8)

The element that shows a frame has four attributes, and their values are the fields of the frame, escaped. No
text can end a value before its quote, so each field can be read back, and the element tells them all.

The element is what `to_iframe_html` gives for a `SandboxFrame`, with each value through `escape_html`.

* `markup_faithful`: what the element is made of, how a reader of documents takes it, and that it determines
  the four fields.
-/

namespace Vitrine.Frame

open Html (Mark writtenAll)
open Page (IsEscaped escape unescaped seen)

/-- The attributes of the element, escaped. -/
def rawAttributes (f : Frame) : List (List Char × List Char) :=
  f.attributes.map fun a => (a.1.toList, escape a.2.toList)

/-- The element as a mark. Its content would not be markup, and there is none. -/
def mark (f : Frame) : Mark := .raw "iframe".toList f.rawAttributes []

theorem toList_markup (f : Frame) : f.markup.toList = writtenAll [([], f.mark)] := by
  have hopens : "<iframe".toList = '<' :: "iframe".toList := by decide
  have hcloses : "></iframe>".toList = '>' :: '<' :: '/' :: Html.Lexer.closingText "iframe".toList := by decide
  have hattributes : (String.join (f.attributes.map fun a =>
      " " ++ a.1 ++ "=\"" ++ Page.escaped a.2 ++ "\"")).toList =
      f.rawAttributes.flatMap Html.Lexer.attributeText := by
    rw [String.toList_join, rawAttributes, List.flatMap_map, List.flatMap_map]
    refine List.flatMap_congr fun a _ => ?_
    have hblank : " ".toList = [' '] := rfl
    have hequals : "=\"".toList = ['=', '"'] := rfl
    have hquote : "\"".toList = ['"'] := rfl
    rw [String.toList_append, String.toList_append, String.toList_append, String.toList_append,
      Page.toList_escaped, hblank, hequals, hquote]
    simp [Html.Lexer.attributeText]
  delta markup
  rw [String.toList_append, String.toList_append, hopens, hattributes, hcloses]
  simp [writtenAll, mark, Mark.written, Mark.behind, Html.Lexer.openingText]

theorem mark_readable (f : Frame) : f.mark.IsReadable := by
  have hnames : ∀ a ∈ f.rawAttributes, Html.Lexer.IsName a.1 := by
    simp only [rawAttributes, attributes, List.map_cons, List.map_nil, List.forall_mem_cons]
    exact ⟨by decide, by decide, by decide, by decide, List.forall_mem_nil _⟩
  have hnodup : (f.rawAttributes.map Prod.fst).Nodup := by
    simp only [rawAttributes, attributes, List.map_cons, List.map_nil]
    decide
  have hvalues : ∀ a ∈ f.rawAttributes, '"' ∉ a.2 := by
    refine List.forall_mem_map.mpr fun a _ hquote => ?_
    exact ((Page.isEscaped_escape a.2.toList).clear '"' hquote).1 rfl
  exact ⟨by decide, ⟨hnames, hnodup, hvalues⟩, ⟨false, by decide⟩, List.forall_mem_nil _⟩

/-- The element is read as its start tag and its end tag. -/
theorem tokens_markup (f : Frame) : Html.tokens f.markup = [
    .startTag {
      name := "iframe"
      attributes := f.attributes.map fun a => ⟨.plain, a.1, String.ofList (seen a.2.toList)⟩ },
    .endTag { name := "iframe" }] := by
  have hreadable : Html.AreReadable [([], f.mark)] :=
    List.forall_mem_singleton.mpr ⟨List.not_mem_nil, f.mark_readable⟩
  have hfirst : f.markup.toList.head? = some '<' := by
    rw [toList_markup]
    rfl
  have hattributes : (f.rawAttributes.map Html.fedAttribute).map Html.Lexer.attributeRead =
      f.attributes.map fun a => ⟨.plain, a.1, String.ofList (seen a.2.toList)⟩ := by
    rw [rawAttributes, List.map_map, List.map_map]
    refine List.map_congr_left fun a _ => ?_
    exact (Page.attributeRead_escape a.1.toList a.2.toList).trans (by rw [String.ofList_toList])
  have hnames : String.ofList "iframe".toList = "iframe" := String.ofList_toList
  calc Html.tokens f.markup
      = Html.tokensAll (Html.fedAll [([], f.mark)]) := Html.tokens_written hreadable (toList_markup f) hfirst
    _ = [.startTag (Html.Lexer.openingTag "iframe".toList (f.rawAttributes.map Html.fedAttribute)),
          .endTag (Html.Lexer.closingTag "iframe".toList)] := rfl
    _ = _ := by rw [Html.Lexer.openingTag, Html.Lexer.closingTag, hattributes, hnames]

/-! ## Reading the fields back -/

/-- The element of four raw values. -/
def element (key title sandbox document : List Char) : List Char :=
  "<iframe data-preview-key=\"".toList ++ key ++ "\" title=\"".toList ++ title ++ "\" sandbox=\"".toList ++ sandbox
    ++ "\" srcdoc=\"".toList ++ document ++ "\"></iframe>".toList

theorem toList_markup_element (f : Frame) : f.markup.toList =
    element (escape f.key.toList) (escape f.title.toList) (escape f.sandbox.toList) (escape f.document.toList) := by
  have hkey : "<iframe data-preview-key=\"".toList =
      '<' :: "iframe".toList ++ ' ' :: "data-preview-key".toList ++ ['=', '"'] := by decide
  have htitle : "\" title=\"".toList = '"' :: ' ' :: "title".toList ++ ['=', '"'] := by decide
  have hsandbox : "\" sandbox=\"".toList = '"' :: ' ' :: "sandbox".toList ++ ['=', '"'] := by decide
  have hdocument : "\" srcdoc=\"".toList = '"' :: ' ' :: "srcdoc".toList ++ ['=', '"'] := by decide
  have hend : "\"></iframe>".toList = '"' :: '>' :: '<' :: '/' :: Html.Lexer.closingText "iframe".toList := by decide
  delta element
  rw [toList_markup, hkey, htitle, hsandbox, hdocument, hend]
  simp only [writtenAll, mark, Mark.written, Mark.behind, rawAttributes, attributes, Html.Lexer.openingText,
    Html.Lexer.attributeText, List.map_cons, List.map_nil, List.flatMap_cons, List.flatMap_nil, List.nil_append,
    List.append_nil, List.cons_append, List.append_assoc]

/-- A quote ends each value, so values without quotes can be told from the element. -/
theorem element_inj {key key' title title' sandbox sandbox' document document' : List Char}
    (hclear : ∀ raw ∈ [key, title, sandbox, document], '"' ∉ raw)
    (hclear' : ∀ raw ∈ [key', title', sandbox', document'], '"' ∉ raw)
    (h : element key title sandbox document = element key' title' sandbox' document') :
    key = key' ∧ title = title' ∧ sandbox = sandbox' ∧ document = document' := by
  simp only [List.forall_mem_cons, List.not_mem_nil, false_implies, implies_true, and_true] at hclear hclear'
  obtain ⟨hkey, htitle, hsandbox, hdocument⟩ := hclear
  obtain ⟨hkey', htitle', hsandbox', hdocument'⟩ := hclear'
  have hquote : "\" title=\"".toList = '"' :: " title=\"".toList ∧
      "\" sandbox=\"".toList = '"' :: " sandbox=\"".toList ∧
      "\" srcdoc=\"".toList = '"' :: " srcdoc=\"".toList ∧
      "\"></iframe>".toList = '"' :: "></iframe>".toList := by decide
  delta element at h
  simp only [hquote, List.append_assoc, List.cons_append] at h
  obtain ⟨hkeys, h⟩ := (Text.append_cons_inj hkey hkey').mp (List.append_cancel_left h)
  obtain ⟨htitles, h⟩ := (Text.append_cons_inj htitle htitle').mp (List.append_cancel_left h)
  obtain ⟨hsandboxes, h⟩ := (Text.append_cons_inj hsandbox hsandbox').mp (List.append_cancel_left h)
  obtain ⟨hdocuments, -⟩ := (Text.append_cons_inj hdocument hdocument').mp (List.append_cancel_left h)
  exact ⟨hkeys, htitles, hsandboxes, hdocuments⟩

/-- Frames of one element agree on the four fields that the element tells. -/
theorem markup_inj {f g : Frame} (h : g.markup = f.markup) :
    g.key = f.key ∧ g.title = f.title ∧ g.sandbox = f.sandbox ∧ g.document = f.document := by
  have hclear (texts : List String) : ∀ raw ∈ texts.map fun text => escape text.toList, '"' ∉ raw :=
    List.forall_mem_map.mpr fun text _ hquote => ((Page.isEscaped_escape text.toList).clear '"' hquote).1 rfl
  have helement := congrArg String.toList h
  rw [toList_markup_element, toList_markup_element] at helement
  obtain ⟨hkey, htitle, hsandbox, hdocument⟩ := element_inj (hclear [g.key, g.title, g.sandbox, g.document])
    (hclear [f.key, f.title, f.sandbox, f.document]) helement
  have hback {a b : String} (hab : escape a.toList = escape b.toList) : a = b :=
    String.toList_inj.mp (Page.escape_injective hab)
  exact ⟨hback hkey, hback htitle, hback hsandbox, hback hdocument⟩

/-- **The element of a frame carries its key, title, sandbox and document.** It is a start tag with these four
attributes, each an escaped text that gives the field when the entities are put back, and the end tag; it is read
as just these two tags; and no other fields have the same element. -/
theorem markup_faithful (f : Frame) :
    (∃ key title sandbox document : List Char, f.markup.toList = element key title sandbox document ∧
      (∀ raw ∈ [key, title, sandbox, document], IsEscaped raw) ∧
      unescaped key = f.key.toList ∧ unescaped title = f.title.toList ∧
      unescaped sandbox = f.sandbox.toList ∧ unescaped document = f.document.toList) ∧
    Html.tokens f.markup = [
      .startTag {
        name := "iframe"
        attributes := f.attributes.map fun a => ⟨.plain, a.1, String.ofList (seen a.2.toList)⟩ },
      .endTag { name := "iframe" }] ∧
    ∀ g : Frame, g.markup = f.markup →
      g.key = f.key ∧ g.title = f.title ∧ g.sandbox = f.sandbox ∧ g.document = f.document := by
  refine ⟨⟨_, _, _, _, toList_markup_element f, ?_, Page.unescaped_escape _, Page.unescaped_escape _,
    Page.unescaped_escape _, Page.unescaped_escape _⟩, tokens_markup f, fun g hg => markup_inj hg⟩
  have hescaped (texts : List String) : ∀ raw ∈ texts.map fun text => escape text.toList, IsEscaped raw :=
    List.forall_mem_map.mpr fun text _ => Page.isEscaped_escape text.toList
  exact hescaped [f.key, f.title, f.sandbox, f.document]

end Vitrine.Frame
