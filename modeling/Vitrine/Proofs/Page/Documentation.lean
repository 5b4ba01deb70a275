import Vitrine.Page.Documentation
import Vitrine.Proofs.Markdown.Outline

/-!
# Pages of documentation hold no script tag (section 4.2)

The filter for script tags sees raw HTML in parts: a block line by line, and a line in two parts where a
carriage return stands before its last character. A part with a script tag in it is shown as text. What is
written of a document can hold a script tag for all that, but only at its very end, where the source ends with
such a line and the carriage return stands in the name of the tag.

A page is what `render_markdown_document` puts around the fragment of `markdown_to_html`.

* `script_tag_at_end_iff`: no page holds a script tag, and exactly which fragments do.
* `script_tag_cut`: a fragment with a script tag.
-/

namespace Vitrine.Page

open Markdown

theorem notMem_styleSheet {rules : List (String × List String)}
    (h : ∀ r ∈ rules, '<' ∉ r.1.toList ∧ ∀ d ∈ r.2, '<' ∉ d.toList) : '<' ∉ (styleSheet rules).toList := by
  rw [styleSheet, String.toList_join, List.mem_flatMap]
  rintro ⟨_, hrule, hmem⟩
  obtain ⟨⟨selector, declarations⟩, hr, rfl⟩ := List.mem_map.mp hrule
  obtain ⟨hselector, hdeclarations⟩ := h _ hr
  refine notMem_append (notMem_append (notMem_append hselector (by decide)) ?_) (by decide) hmem
  rw [String.toList_join, List.mem_flatMap]
  rintro ⟨_, hdeclaration, hmem⟩
  obtain ⟨d, hd, rfl⟩ := List.mem_map.mp hdeclaration
  exact notMem_append (hdeclarations d hd) (by decide) hmem

theorem notMem_documentationStyle : '<' ∉ documentationStyle.toList := by
  refine notMem_styleSheet ?_
  simp only [documentationRules, List.forall_mem_cons, List.not_mem_nil, false_implies, implies_true,
    and_true]
  repeat rw [String.toList_ofList]
  and_intros <;> decide +kernel

/-- The tags behind it seal whatever ends a document. -/
theorem sealed_documentation (text : String) : Sealed (documentation text).toList := by
  let start := "<!DOCTYPE html><html lang=\"en\"><head><meta charset=\"UTF-8\"><style>" ++ documentationStyle
    ++ "</style></head><body>"
  have hstart : Sealed start.toList :=
    sealed_between (by decide +kernel) (sealed_of_notMem notMem_documentationStyle) (by decide +kernel)
  have hstop : Sealed "</body></html>".toList := sealed_of_isClosed (by decide)
  have hpage : (documentation text).toList =
      (start ++ Markdown.html text).toList ++ "</body></html>".toList := String.toList_append
  have hbody : (start ++ Markdown.html text).toList = start.toList ++ (Markdown.html text).toList :=
    String.toList_append
  rw [hpage, hbody]
  exact (hstart.append_ending (ending_html text)).append_sealed hstop ⟨"/body></html>".toList, by decide⟩

/-- **No page of documentation holds a script tag.** The fragment of a text holds one exactly if it ends with
the tag and the text ends with it too, but for a carriage return before the last character of the tag; and raw
HTML that holds a script tag is written as text, in text and in blocks. -/
theorem script_tag_at_end_iff (text : String) :
    ¬ HoldsScriptTag (documentation text).toList ∧
    (HoldsScriptTag (Markdown.html text).toList ↔
      ∃ name, ScriptName name ∧ CutAtEnd text.toList name ∧ '<' :: name <:+ (Markdown.html text).toList) ∧
    ∀ raw : String, HoldsScriptTag raw.toList →
      Inline.html (.raw raw) = escapedText raw ∧
      ∀ columns, RawLine.written ⟨columns, raw⟩ = "".pushn ' ' columns ++ escapedText raw := by
  refine ⟨(sealed_documentation text).not_holds, (ending_html text).holds_iff, fun raw hraw => ?_⟩
  have hharmless := harmless_of_holds hraw
  exact ⟨hharmless, fun columns => congrArg ("".pushn ' ' columns ++ ·) hharmless⟩

/-- The filter sees neither part of the tag that a carriage return cuts. -/
theorem script_tag_cut : HoldsScriptTag (Markdown.html "<div><scrip\rt").toList := by
  have hhtml : Markdown.html "<div><scrip\rt" = "<div><script" := by decide +kernel
  rw [hhtml]
  have hname : ScriptName "script".toList := ⟨"script".toList, .inl rfl, by decide⟩
  exact ⟨"script".toList, ⟨"<div>".toList, rfl⟩, "script".toList, [], rfl, hname, trivial⟩

end Vitrine.Page
