import Vitrine.Proofs.Html.ScriptText
import Vitrine.Proofs.Html.Tag
import Vitrine.Proofs.Json.Literal
import Vitrine.Proofs.Page.Application

/-!
# Reading the scripts of a page (section 4.6)

The scripts that are put into a page carry texts from outside: keys and addresses of the import table, the
first module, the token of the pass. They go in as literals in which `</` is written `<\/`.

The scripts are those of `synthesize_document`, `loader_script` and `error_capture_script`; the rewriting of
`</` is that of `script_safe_json`.

* `script_content`: so none of the scripts ends before its text does; it ends right behind it, and its text
  is read back as it is, exactly if the text does not hide the end tag (`Html.Lexer.HidesEnd`); and it
  does not hide it if none of the texts from outside opens a comment.
* `script_swallows`: a text from outside can open a comment, as `<!--` is written as it stands. Then the
  script goes on behind its end tag.
-/

namespace Vitrine.Page

open Html (Node lineFeeds)
open Html.Lexer

/-! ## What may stand in a script -/

/-- Nothing in the text is changed by reading it, and nothing in it ends a script. -/
structure Readable (text : List Char) : Prop where
  noReturn : '\r' ∉ text
  noZero : '\x00' ∉ text
  noEndTag : ¬ HasEndTag text

/-- A character of an end tag is one of its characters, lowered. -/
theorem toLower_mem_of_mem {w v : List Char} (hw : Text.lowerAscii w = v) {c : Char} (hc : c ∈ w) :
    c.toLower ∈ v :=
  hw ▸ List.mem_map_of_mem hc

/-- An end tag does not go over the end of a line. -/
theorem hasEndTag_intercalate {lines : List (List Char)} (h : HasEndTag (List.intercalate ['\n'] lines)) :
    ∃ line ∈ lines, HasEndTag line := by
  obtain ⟨w, hw, hlower⟩ := h
  have hline : '\n' ∉ w := fun hmem => absurd (toLower_mem_of_mem hlower hmem) (by decide)
  have hne : w ≠ [] := by
    rintro rfl
    exact absurd hlower nofun
  obtain ⟨line, hmem, hoccurs⟩ := Text.infix_intercalate hne hline hw
  exact ⟨line, hmem, w, hoccurs, hlower⟩

/-- The edges of what is put into a script: a literal, or the name of the report. -/
structure Edged (text : List Char) : Prop where
  head : ∃ b ∈ text.head?, b = '"' ∨ b = '_'
  last : ∃ e ∈ text.getLast?, e = '"' ∨ e = 't'

/-- A word that cannot start at the end of a literal nor end at its start does not cross its edges. -/
theorem Edged.apart {text w v : List Char} (h : Edged text) (hw : Text.lowerAscii w = v)
    (hhead : '"' ∉ v ∧ '_' ∉ v) (hlast : '"' ∉ v.dropLast ∧ 't' ∉ v.dropLast) : Text.Apart w text := by
  constructor
  · obtain ⟨b, hb, hcases⟩ := h.head
    refine ⟨b, hb, fun hmem => ?_⟩
    have hlower := toLower_mem_of_mem hw (List.mem_of_mem_tail hmem)
    rcases hcases with rfl | rfl
    · exact hhead.1 hlower
    · exact hhead.2 hlower
  · obtain ⟨e, he, hcases⟩ := h.last
    refine ⟨e, he, fun hmem => ?_⟩
    have hdrop : Text.lowerAscii w.dropLast = v.dropLast := by
      rw [← hw, Text.lowerAscii, Text.lowerAscii, List.map_dropLast]
    have hlower := toLower_mem_of_mem hdrop hmem
    rcases hcases with rfl | rfl
    · exact hlast.1 hlower
    · exact hlast.2 hlower

/-- What may stand in a script may be put into it. -/
theorem Readable.substituteFrom {pattern by_ s : List Char} (hs : Readable s) (hby : Readable by_)
    (hedge : Edged by_) : Readable (Text.substituteFrom pattern by_ 0 s) := by
  refine ⟨fun h => ?_, fun h => ?_, ?_⟩
  · exact (Text.mem_of_mem_substituteFrom h).elim hs.noReturn hby.noReturn
  · exact (Text.mem_of_mem_substituteFrom h).elim hs.noZero hby.noZero
  · rintro ⟨w, hw, hlower⟩
    rcases Text.infix_substituteFrom (hedge.apart hlower (by decide) (by decide)) hw with h | h
    · exact hs.noEndTag ⟨w, h, hlower⟩
    · exact hby.noEndTag ⟨w, h, hlower⟩

/-- A comment is opened before a replacement, or in what is put in. -/
theorem opens_of_substituteFrom {pattern by_ s : List Char} (hedge : Edged by_)
    (h : "<!--".toList <:+: Text.substituteFrom pattern by_ 0 s) :
    "<!--".toList <:+: s ∨ "<!--".toList <:+: by_ := by
  have hlower : Text.lowerAscii "<!--".toList = "<!--".toList := by decide
  exact Text.infix_substituteFrom (hedge.apart hlower (by decide) (by decide)) h

/-! ## Literals -/

/-- Only the two characters that start an end tag are rewritten. -/
theorem scriptSafe_toList (json : String) :
    (scriptSafe json).toList = Text.substituteFrom ['<', '/'] ['<', '\\', '/'] 0 json.toList := by
  rw [scriptSafe, Text.substitute, String.toList_ofList, String.toList_ofList, String.toList_ofList]

theorem apart_close : Text.Apart ['<', '/'] ['<', '\\', '/'] :=
  ⟨⟨'<', rfl, by decide⟩, ⟨'/', rfl, by decide⟩⟩

/-- What is put in cannot make a part of the opening of a comment. -/
theorem apart_open : Text.Apart ['<', '!', '-', '-'] ['<', '\\', '/'] :=
  ⟨⟨'<', rfl, by decide⟩, ⟨'/', rfl, by decide⟩⟩

/-- No end tag starts in what was rewritten. -/
theorem not_slash_scriptSafe (json : String) : ¬ ['<', '/'] <:+: (scriptSafe json).toList := by
  rw [scriptSafe_toList]
  exact Text.not_infix_substituteFrom (List.cons_ne_nil _ _) apart_close (by decide) 0 json.toList

/-- Rewriting opens no comment. -/
theorem opens_of_scriptSafe {json : String} (h : "<!--".toList <:+: (scriptSafe json).toList) :
    "<!--".toList <:+: json.toList := by
  rw [scriptSafe_toList] at h
  rcases Text.infix_substituteFrom apart_open h with h | h
  · exact h
  · exact absurd h (by decide)

/-- What holds no control character may stand in a script. -/
theorem readable_scriptSafe {json : String} (h : ∀ c ∈ json.toList, 32 ≤ c.toNat) :
    Readable (scriptSafe json).toList := by
  have hnone {c : Char} (hc : c.toNat < 32) (hnew : c ∉ ['<', '\\', '/']) :
      c ∉ (scriptSafe json).toList := by
    rw [scriptSafe_toList]
    intro hmem
    rcases Text.mem_of_mem_substituteFrom hmem with hmem | hmem
    · exact absurd (h c hmem) (Nat.not_le.mpr hc)
    · exact hnew hmem
  exact ⟨hnone (by decide) (by decide), hnone (by decide) (by decide),
    fun hend => not_slash_scriptSafe json hend.slash⟩

theorem readable_literal (s : String) : Readable (scriptLiteral s).toList :=
  readable_scriptSafe fun _ hc => Json.le_of_mem_quoted hc

theorem scriptLiteral_toList (s : String) :
    (scriptLiteral s).toList =
      '"' :: Text.substituteFrom ['<', '/'] ['<', '\\', '/'] 0 (Json.escape s.toList) ++ ['"'] := by
  have hstart : ¬ ['<', '/'] <+: '"' :: Json.escape s.toList :=
    fun hbegins => absurd (List.cons_prefix_cons.mp hbegins).1 (by decide)
  rw [scriptLiteral, scriptSafe_toList, Json.quoted, String.toList_ofList, ← List.cons_append,
    Text.substituteFrom_concat (List.cons_ne_nil _ _) (by decide), Text.substituteFrom_kept hstart]

theorem edged_literal (s : String) : Edged (scriptLiteral s).toList := by
  rw [scriptLiteral_toList]
  exact ⟨⟨'"', rfl, Or.inl rfl⟩, ⟨'"', List.getLast?_concat, Or.inl rfl⟩⟩

theorem escapeMarks_notMem_open : ∀ m ∈ Json.escapeMarks, m ∉ "<!--".toList := by
  have hall : Json.escapeMarks.all (fun m => m ∉ "<!--".toList) = true := by decide
  exact fun m hm => of_decide_eq_true (List.all_eq_true.mp hall m hm)

/-- A literal opens a comment only if its text does. -/
theorem opens_of_literal {s : String} (h : "<!--".toList <:+: (scriptLiteral s).toList) :
    "<!--".toList <:+: s.toList :=
  Json.infix_of_infix_quoted (List.cons_ne_nil _ _) escapeMarks_notMem_open (opens_of_scriptSafe h)

/-- A literal may be put into a script. -/
theorem Readable.putLiteral {pattern text : List Char} (h : Readable text) (s : String) :
    Readable (Text.substituteFrom pattern (scriptLiteral s).toList 0 text) :=
  h.substituteFrom (readable_literal s) (edged_literal s)

/-- Putting a literal in brings no other opening of a comment. -/
theorem opens_of_putLiteral {pattern text : List Char} {s : String}
    (h : "<!--".toList <:+: Text.substituteFrom pattern (scriptLiteral s).toList 0 text) :
    "<!--".toList <:+: text ∨ "<!--".toList <:+: s.toList :=
  (opens_of_substituteFrom (edged_literal s) h).imp_right opens_of_literal

theorem edged_reportName : Edged reportName.toList :=
  ⟨⟨'_', rfl, Or.inr rfl⟩, ⟨'t', by decide, Or.inr rfl⟩⟩

/-- The name of the report may be put into a script. -/
theorem Readable.putReportName {pattern text : List Char} (h : Readable text) :
    Readable (Text.substituteFrom pattern reportName.toList 0 text) :=
  h.substituteFrom ⟨by decide, by decide, fun hend => absurd hend.slash (by decide)⟩ edged_reportName

theorem opens_of_putReportName {pattern text : List Char}
    (h : "<!--".toList <:+: Text.substituteFrom pattern reportName.toList 0 text) :
    "<!--".toList <:+: text :=
  (opens_of_substituteFrom edged_reportName h).resolve_right (by decide)

/-! ## The import table -/

theorem json_toList (table : Import.Table) :
    table.json.toList =
      "\x7b\"imports\":".toList ++ '\x7b' :: (List.intercalate [','] (table.entries.map fun e =>
        (Json.quoted e.1).toList ++ ':' :: (Json.quoted e.2).toList) ++ '\x7d' :: ['\x7d']) := by
  rw [Import.Table.json, String.toList_append, String.toList_append, String.toList_intercalate,
    List.map_map]
  have hentry : (String.toList ∘ fun e : String × String => Json.quoted e.1 ++ ":" ++ Json.quoted e.2)
      = fun e => (Json.quoted e.1).toList ++ ':' :: (Json.quoted e.2).toList := by
    funext e
    rw [Function.comp, String.toList_append, String.toList_append, String.toList_ofList,
      List.append_assoc, List.singleton_append]
  rw [hentry]
  rfl

/-- The text of a table stands on one line. -/
theorem le_of_mem_json {table : Import.Table} {c : Char} (h : c ∈ table.json.toList) : 32 ≤ c.toNat := by
  rw [json_toList] at h
  simp only [List.mem_append, List.mem_cons, List.not_mem_nil, or_false] at h
  rcases h with h | rfl | h | rfl | rfl
  · have hfront : "\x7b\"imports\":".toList.all (fun d => 32 ≤ d.toNat) = true := by decide
    exact of_decide_eq_true (List.all_eq_true.mp hfront c h)
  · decide
  · rcases Text.mem_of_mem_intercalate h with h | ⟨text, htext, hc⟩
    · rw [List.mem_singleton] at h
      subst h
      decide
    · obtain ⟨e, -, rfl⟩ := List.mem_map.mp htext
      rw [List.mem_append, List.mem_cons] at hc
      rcases hc with hc | rfl | hc
      · exact Json.le_of_mem_quoted hc
      · decide
      · exact Json.le_of_mem_quoted hc
  · decide
  · decide

/-- A comment is opened in a table only by a key or an address. -/
theorem opens_of_json {table : Import.Table} (h : "<!--".toList <:+: table.json.toList) :
    ∃ e ∈ table.entries, "<!--".toList <:+: e.1.toList ∨ "<!--".toList <:+: e.2.toList := by
  have hne : "<!--".toList ≠ [] := by decide
  rw [json_toList] at h
  rcases Text.infix_append_cons (by decide) h with h | h
  · exact absurd h (by decide)
  rcases Text.infix_append_cons (by decide) h with h | h
  · obtain ⟨text, htext, h⟩ := Text.infix_intercalate hne (by decide) h
    obtain ⟨e, he, rfl⟩ := List.mem_map.mp htext
    refine ⟨e, he, ?_⟩
    exact (Text.infix_append_cons (by decide) h).imp
      (Json.infix_of_infix_quoted hne escapeMarks_notMem_open)
      (Json.infix_of_infix_quoted hne escapeMarks_notMem_open)
  · exact absurd h (by decide)

/-! ## The templates -/

/-- The lines of the templates, each read as a list once for all that follows. -/
theorem template_lines :
    ∀ line ∈ (captureLines ++ loaderLines).map String.toList,
      '\r' ∉ line ∧ '\x00' ∉ line
        ∧ ¬ ['<', '/', 's', 'c', 'r', 'i', 'p', 't'] <:+: Text.lowerAscii line
        ∧ ¬ ['<', '!', '-', '-'] <:+: line := by
  simp only [captureLines, loaderLines, List.map_cons, List.map_nil, List.map_append,
    String.toList_append]
  -- A literal is the text of its characters by definition; to decode it instead takes much longer.
  repeat rw [String.toList_ofList]
  decide +kernel

/-- A text of lines of the templates. -/
theorem readable_template {lines : List String} (h : lines ⊆ captureLines ++ loaderLines) :
    Readable (String.intercalate "\n" lines).toList := by
  have hlines : ∀ line ∈ lines.map String.toList, line ∈ (captureLines ++ loaderLines).map String.toList :=
    fun line hline => List.map_subset String.toList h hline
  rw [String.toList_intercalate]
  have hnone {c : Char} (hc : c ∉ "\n".toList)
      (hnot : ∀ line ∈ (captureLines ++ loaderLines).map String.toList, c ∉ line) :
      c ∉ "\n".toList.intercalate (lines.map String.toList) := by
    intro hmem
    rcases Text.mem_of_mem_intercalate hmem with hmem | ⟨line, hline, hmem⟩
    · exact hc hmem
    · exact hnot line (hlines line hline) hmem
  refine ⟨hnone (by decide) fun line h => (template_lines line h).1,
    hnone (by decide) fun line h => (template_lines line h).2.1, fun hend => ?_⟩
  obtain ⟨line, hline, hend⟩ := hasEndTag_intercalate hend
  exact (template_lines line (hlines line hline)).2.2.1 hend.lowered

/-- The lines of the templates open no comment. -/
theorem not_opens_template {lines : List String} (h : lines ⊆ captureLines ++ loaderLines) :
    ¬ "<!--".toList <:+: (String.intercalate "\n" lines).toList := by
  rw [String.toList_intercalate]
  intro hopen
  obtain ⟨line, hline, hopen⟩ := Text.infix_intercalate (by decide) (by decide) hopen
  exact (template_lines line (List.map_subset String.toList h hline)).2.2.2 hopen

theorem overlayStyle_chars : '<' ∉ overlayStyle.toList ∧ '_' ∉ overlayStyle.toList := by
  simp only [overlayStyle, styleSheet, overlayRules, List.map_cons, List.map_nil, String.join,
    List.foldl_cons, List.foldl_nil, String.toList_append]
  repeat rw [String.toList_ofList]
  decide +kernel

theorem not_opens_overlayStyle : ¬ "<!--".toList <:+: overlayStyle.toList :=
  fun h => overlayStyle_chars.1 (h.subset (by decide))

/-! ## The three scripts -/

theorem readable_tableScript (table : Import.Table) : Readable (tableScript table).toList :=
  readable_scriptSafe fun _ hc => le_of_mem_json hc

/-- The script of a table opens a comment only if a key or an address does. -/
theorem opens_of_tableScript {table : Import.Table} (h : "<!--".toList <:+: (tableScript table).toList) :
    ∃ e ∈ table.entries, "<!--".toList <:+: e.1.toList ∨ "<!--".toList <:+: e.2.toList :=
  opens_of_json (opens_of_scriptSafe h)

theorem loaderScript_toList (entryScript : String) :
    (loaderScript entryScript).toList =
      Text.substituteFrom "__REPORT__".toList reportName.toList 0
        (Text.substituteFrom "__ENTRY__".toList (scriptLiteral entryScript).toList 0
          (String.intercalate "\n" loaderLines).toList) := by
  simp only [loaderScript, Text.substitute, String.toList_ofList]

theorem captureScript_toList (token : String) :
    (captureScript token).toList =
      Text.substituteFrom "__REPORT__".toList reportName.toList 0
        (Text.substituteFrom "__SOURCE__".toList (scriptLiteral eventSource).toList 0
          (Text.substituteFrom "__STYLE__".toList (scriptLiteral overlayStyle).toList 0
            (Text.substituteFrom "__PASS__".toList (scriptLiteral token).toList 0
              (String.intercalate "\n" captureLines).toList))) := by
  simp only [captureScript, Text.substitute, String.toList_ofList]

/-- The loader holds no end tag, whatever it loads. -/
theorem readable_loaderScript (entryScript : String) : Readable (loaderScript entryScript).toList := by
  rw [loaderScript_toList]
  exact ((readable_template (List.subset_append_right _ _)).putLiteral entryScript).putReportName

/-- The loader opens a comment only if the specifier of the first module does. -/
theorem opens_of_loaderScript {entryScript : String}
    (h : "<!--".toList <:+: (loaderScript entryScript).toList) :
    "<!--".toList <:+: entryScript.toList := by
  rw [loaderScript_toList] at h
  exact (opens_of_putLiteral (opens_of_putReportName h)).resolve_left
    (not_opens_template (List.subset_append_right _ _))

theorem readable_captureScript (token : String) : Readable (captureScript token).toList := by
  rw [captureScript_toList]
  have htemplate := readable_template (List.subset_append_left captureLines loaderLines)
  exact (((htemplate.putLiteral token).putLiteral overlayStyle).putLiteral eventSource).putReportName

/-- The capture script opens a comment only if the token does. -/
theorem opens_of_captureScript {token : String} (h : "<!--".toList <:+: (captureScript token).toList) :
    "<!--".toList <:+: token.toList := by
  rw [captureScript_toList] at h
  have hstyled := (opens_of_putLiteral (opens_of_putReportName h)).resolve_right (by decide)
  have hnamed := (opens_of_putLiteral hstyled).resolve_right not_opens_overlayStyle
  exact (opens_of_putLiteral hnamed).resolve_left (not_opens_template (List.subset_append_left _ _))

/-- The scripts that a page gets. -/
def scripts (table : Import.Table) (entryScript token : String) : List Node :=
  [tableNode table, loaderNode entryScript, captureNode token]

/-- The texts from outside in the scripts. -/
def scriptInputs (table : Import.Table) (entryScript token : String) : List String :=
  entryScript :: token :: (table.entries.map (·.1) ++ table.entries.map (·.2))

/-- The text of each script may stand in it, and opens a comment only if a text from outside does. -/
theorem readable_of_mem_scripts {table : Import.Table} {entryScript token : String}
    {attributes : List (String × String)} {body : String}
    (h : script attributes body ∈ scripts table entryScript token) :
    Readable body.toList
      ∧ ("<!--".toList <:+: body.toList →
        ∃ input ∈ scriptInputs table entryScript token, "<!--".toList <:+: input.toList) := by
  simp only [scripts, tableNode, loaderNode, captureNode, script, List.mem_cons, List.not_mem_nil,
    or_false, Node.element.injEq, List.cons.injEq, Node.text.injEq, and_true, true_and] at h
  rcases h with ⟨-, rfl⟩ | ⟨-, rfl⟩ | ⟨-, rfl⟩
  · refine ⟨readable_tableScript table, fun hopen => ?_⟩
    obtain ⟨e, he, hkey | haddress⟩ := opens_of_tableScript hopen
    · exact ⟨e.1, by simp [scriptInputs, List.mem_map_of_mem he], hkey⟩
    · exact ⟨e.2, by simp [scriptInputs, List.mem_map_of_mem he], haddress⟩
  · exact ⟨readable_loaderScript entryScript,
      fun hopen => ⟨entryScript, by simp [scriptInputs], opens_of_loaderScript hopen⟩⟩
  · exact ⟨readable_captureScript token,
      fun hopen => ⟨token, by simp [scriptInputs], opens_of_captureScript hopen⟩⟩

/-- The text of a script is written as it is. -/
theorem script_written (attributes : List (String × String)) (body : String) :
    ((script attributes body).written false).toList =
      (Html.ElementName.startTag ⟨.html, "script"⟩
        (attributes.map fun (name, value) => ⟨.plain, name, value⟩)).toList
        ++ (body.toList ++ scriptEnd) := by
  rw [script, Node.written, if_neg (by decide)]
  simp only [show Html.ElementName.isHtml ⟨.html, "script"⟩ Html.rawTags = true by decide,
    Node.writtenAll, Node.written, if_true, String.append_empty, String.toList_append, List.append_assoc]
  rfl

/-- **How the scripts of a page are read.** A script is written as its start tag, its text and its end tag.
Its element does not end inside its text; it ends right behind it, with the text as it is, exactly if the
text does not hide the end tag; and it hides it only if a text from outside opens a comment. -/
theorem script_content (table : Import.Table) (entryScript token : String)
    (attributes : List (String × String)) (body : String)
    (h : script attributes body ∈ scripts table entryScript token) (rest : List Char) :
    (∃ startTag, ((script attributes body).written false).toList = startTag ++ (body.toList ++ scriptEnd))
      ∧ body.toList <+: (scriptText (.text .plain) (lineFeeds (body.toList ++ scriptEnd ++ rest))).1
      ∧ (scriptText (.text .plain) (lineFeeds (body.toList ++ scriptEnd ++ rest))
          = (body.toList, scriptEnd ++ lineFeeds rest) ↔ ¬ HidesEnd body.toList)
      ∧ (HidesEnd body.toList →
        ∃ input ∈ scriptInputs table entryScript token, "<!--".toList <:+: input.toList) := by
  obtain ⟨hbody, hopens⟩ := readable_of_mem_scripts h
  have hread : lineFeeds (body.toList ++ scriptEnd ++ rest) = body.toList ++ scriptEnd ++ lineFeeds rest := by
    rw [List.append_assoc, Html.lineFeeds_append hbody.noReturn, List.append_assoc]
    rfl
  refine ⟨⟨_, script_written attributes body⟩, ?_, ?_, fun hhides => ?_⟩
  · have hbegins := prefix_scriptText hbody.noEndTag (lineFeeds rest)
    rwa [map_shown hbody.noZero, ← hread] at hbegins
  · have hclosing := scriptText_closing_iff hbody.noEndTag (lineFeeds rest)
    rwa [map_shown hbody.noZero, ← hread] at hclosing
  · by_contra hnone
    exact not_hidesEnd (fun hopen => hnone (hopens hopen)) hhides

/-- A name that looks like an end tag is read back. -/
theorem script_content_slash :
    scriptText (.text .plain)
        (lineFeeds ((loaderScript "/</script>").toList ++ scriptEnd ++ "<p>".toList))
      = ((loaderScript "/</script>").toList, scriptEnd ++ "<p>".toList) := by
  obtain ⟨-, -, hiff, hinput⟩ := script_content {} "/</script>" "pass-1" [("type", "module")]
    (loaderScript "/</script>") (by simp [scripts, loaderNode]) "<p>".toList
  refine hiff.mpr fun hhides => ?_
  obtain ⟨input, hmem, hopen⟩ := hinput hhides
  have hinputs : ∀ input ∈ scriptInputs {} "/</script>" "pass-1", ¬ "<!--".toList <:+: input.toList := by
    decide
  exact hinputs input hmem hopen

/-- The loader of a module whose name opens a comment and in it a script goes on behind its end tag, and
takes in what stands there. -/
theorem script_swallows :
    script [("type", "module")] (loaderScript "/<!--<script>") ∈ scripts {} "/<!--<script>" "pass-1"
      ∧ (scriptText (.text .plain)
        (lineFeeds ((loaderScript "/<!--<script>").toList ++ scriptEnd ++ "<p>".toList))).2 = [] := by
  refine ⟨by simp [scripts, loaderNode], ?_⟩
  rw [loaderScript_toList, String.toList_intercalate, scriptLiteral, scriptSafe_toList, Json.quoted,
    String.toList_ofList]
  decide +kernel

end Vitrine.Page
