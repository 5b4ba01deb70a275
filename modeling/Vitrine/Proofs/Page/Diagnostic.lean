import Vitrine.Page.Diagnostic
import Vitrine.Proofs.Page.Escaped

/-!
# What stands in for a preview is inert (sections 4.6 and 7)

The document for a failure tells paths, scripts and messages that anyone may have written. All of them are
text in it: its tags are those of the kind of failure, whatever the texts are, and the text between the tags,
read back, is the wording with the texts in their places.

The document is that of `diagnostic_document`, one for each `PreviewError`; `overlay_document` makes those with
a message.

* `toList_diagnostic`: the document is made of escaped text and of marks that the code of the failure decides.
* `diagnostic_inert`: so is the reading of it.
-/

namespace Vitrine.Page

open Html (Mark writtenAll)

/-! ## Wording and marks -/

/-- The tags of a note, a line of text with one part of it stressed. -/
def noteMarks : List Mark := [
  .opening "html".toList [], .opening "body".toList [], .opening "strong".toList [],
  .closing "strong".toList, .closing "body".toList, .closing "html".toList]

/-- The tags of an overlay, and its style sheet. -/
def overlayMarks : List Mark := [
  .opening "html".toList [], .opening "head".toList [], .raw "style".toList [] overlayStyle.toList,
  .closing "head".toList, .opening "body".toList [],
  .opening "div".toList [("id".toList, "error-overlay".toList)],
  .opening "h1".toList [], .closing "h1".toList, .opening "pre".toList [], .closing "pre".toList,
  .closing "div".toList, .closing "body".toList, .closing "html".toList]

/-- The marks of the document for a failure, by the code of the failure. -/
def marks (code : String) : List Mark :=
  if ["MISSING_ENTRY_DOCUMENT", "MISSING_INJECTION_POINT"].contains code then noteMarks else overlayMarks

/-- The text in front of each mark of an overlay. -/
def overlayWording (title message : String) : List String :=
  ["", "", "", "", "", "", "", title, "", message, "", "", ""]

/-- The text in front of each mark of the document for a failure. -/
def wording : Failure → List String
  | .missingEntryDocument path => ["", "", "Cannot generate preview: ", path, " not found.", ""]
  | .missingInjectionPoint entry script =>
    ["", "", "Cannot inject preview script: ", "<script type=\"module\" src=\"" ++ script ++ "\"></script>",
      " not found in " ++ entry ++ ".", ""]
  | .brokenScript path message => overlayWording "Transform Error" (path ++ ": " ++ message)
  | .invalidSettings message => overlayWording "Preview Error" ("invalid preview config: " ++ message)
  | .unserializable message => overlayWording "Preview Error" ("serialization failed: " ++ message)

/-- The same text as it is written. -/
def rawWording (failure : Failure) : List (List Char) := (wording failure).map fun text => escape text.toList

theorem length_wording (failure : Failure) : (wording failure).length = (marks failure.code).length := by
  cases failure <;> rfl

/-! ## The document -/

/-- The document that these marks and texts make, part by part. -/
theorem writtenAll_note (before stressed behind : String) :
    writtenAll ((["", "", before, stressed, behind, ""].map fun text => escape text.toList).zip noteMarks) =
      "<html><body>".toList ++ escape before.toList ++ "<strong>".toList ++ escape stressed.toList ++
        "</strong>".toList ++ escape behind.toList ++ "</body></html>".toList := by
  have hfirst : "<html><body>".toList = (Mark.opening "html".toList []).written ++
      (Mark.opening "body".toList []).written := by decide
  have hopening : "<strong>".toList = (Mark.opening "strong".toList []).written := by decide
  have hclosing : "</strong>".toList = (Mark.closing "strong".toList).written := by decide
  have hlast : "</body></html>".toList = (Mark.closing "body".toList).written ++
      (Mark.closing "html".toList).written := by decide
  rw [hfirst, hopening, hclosing, hlast]
  simp only [noteMarks, writtenAll, List.map_cons, List.map_nil, List.zip_cons_cons, List.zip_nil_right,
    List.flatMap_cons, List.flatMap_nil, String.toList_empty, escape_nil, List.nil_append, List.append_nil,
    List.append_assoc]

theorem toList_overlay (title message : String) :
    (overlay title message).toList =
      writtenAll (((overlayWording title message).map fun text => escape text.toList).zip overlayMarks) := by
  have hfirst : "<html><head><style>".toList = (Mark.opening "html".toList []).written ++
      (Mark.opening "head".toList []).written ++ '<' :: Html.Lexer.openingText "style".toList [] := by decide
  have hbody : "</style></head><body><div id=\"error-overlay\"><h1>".toList =
      '<' :: '/' :: Html.Lexer.closingText "style".toList ++ (Mark.closing "head".toList).written ++
        (Mark.opening "body".toList []).written ++
        (Mark.opening "div".toList [("id".toList, "error-overlay".toList)]).written ++
        (Mark.opening "h1".toList []).written := by decide
  have hmiddle : "</h1><pre>".toList = (Mark.closing "h1".toList).written ++
      (Mark.opening "pre".toList []).written := by decide
  have hlast : "</pre></div></body></html>".toList = (Mark.closing "pre".toList).written ++
      (Mark.closing "div".toList).written ++ (Mark.closing "body".toList).written ++
      (Mark.closing "html".toList).written := by decide
  delta overlay
  simp only [String.toList_append, toList_escaped]
  rw [hfirst, hbody, hmiddle, hlast]
  simp only [overlayMarks, overlayWording, writtenAll, List.map_cons, List.map_nil, List.zip_cons_cons,
    List.zip_nil_right, List.flatMap_cons, List.flatMap_nil, String.toList_empty, escape_nil, List.nil_append,
    List.append_nil, Mark.written, Mark.behind, List.append_assoc, List.cons_append]

/-- **A document for a failure is made of escaped text and of marks that the code decides.** -/
theorem toList_diagnostic (failure : Failure) :
    (diagnostic failure).toList = writtenAll ((rawWording failure).zip (marks failure.code)) := by
  cases failure with
  | missingEntryDocument path =>
    have hfirst : "<html><body>Cannot generate preview: <strong>".toList = "<html><body>".toList ++
        escape "Cannot generate preview: ".toList ++ "<strong>".toList := by decide
    have hlast : "</strong> not found.</body></html>".toList = "</strong>".toList ++
        escape " not found.".toList ++ "</body></html>".toList := by decide
    delta diagnostic
    simp only [String.toList_append, toList_escaped]
    rw [hfirst, hlast]
    refine Eq.trans ?_ (writtenAll_note "Cannot generate preview: " path " not found.").symm
    simp only [List.append_assoc]
  | missingInjectionPoint entry script =>
    have hfirst : "<html><body>Cannot inject preview script: <strong>".toList = "<html><body>".toList ++
        escape "Cannot inject preview script: ".toList ++ "<strong>".toList := by decide
    have hmiddle : "</strong> not found in ".toList = "</strong>".toList ++ escape " not found in ".toList := by decide
    have hlast : ".</body></html>".toList = escape ".".toList ++ "</body></html>".toList := by decide
    delta diagnostic
    simp only [String.toList_append, toList_escaped]
    rw [hfirst, hmiddle, hlast]
    refine Eq.trans ?_ (writtenAll_note "Cannot inject preview script: "
      ("<script type=\"module\" src=\"" ++ script ++ "\"></script>") (" not found in " ++ entry ++ ".")).symm
    simp only [String.toList_append, escape_append, List.append_assoc]
  | brokenScript path message => exact toList_overlay "Transform Error" (path ++ ": " ++ message)
  | invalidSettings message => exact toList_overlay "Preview Error" ("invalid preview config: " ++ message)
  | unserializable message => exact toList_overlay "Preview Error" ("serialization failed: " ++ message)

/-! ## Reading the document -/

/-- The characters of a style sheet are those of its rules, and what parts them. -/
theorem all_styleSheet {p : Char → Bool} {rules : List (String × List String)}
    (hmarks : p '\x7b' = true ∧ p ';' = true ∧ p '\x7d' = true)
    (hrules : rules.all (fun r => r.1.toList.all p && r.2.all fun d => d.toList.all p) = true) :
    (styleSheet rules).toList.all p = true := by
  obtain ⟨hopens, hends, hcloses⟩ := hmarks
  simp only [List.all_eq_true, Bool.and_eq_true] at hrules
  rw [styleSheet, String.toList_join, List.all_flatMap, List.all_map, List.all_eq_true]
  intro r hr
  obtain ⟨hselector, hdeclarations⟩ := hrules r hr
  have hfirst : r.1.toList.all p = true := List.all_eq_true.mpr hselector
  have hbody : (String.join (r.2.map (· ++ ";"))).toList.all p = true := by
    rw [String.toList_join, List.all_flatMap, List.all_map, List.all_eq_true]
    intro d hd
    have hdeclaration : d.toList.all p = true := List.all_eq_true.mpr (hdeclarations d hd)
    simp [hdeclaration, hends]
  simp only [Function.comp_apply, String.toList_append, List.all_append, hfirst, hbody, Bool.and_true,
    Bool.true_and]
  simp [hopens, hcloses]

/-- Nothing in the style sheet means anything to a reader of documents. -/
theorem overlayStyle_plain :
    overlayStyle.toList.all (fun c => c ≠ '<' ∧ c ≠ '&' ∧ c ≠ '\x00' ∧ c ≠ '\r') = true :=
  all_styleSheet (by decide) (by decide)

theorem readable_style :
    (Mark.raw "style".toList [] overlayStyle.toList).IsReadable ∧
      (Mark.raw "style".toList [] overlayStyle.toList).fed = .raw "style".toList [] overlayStyle.toList := by
  have hplain (c : Char) (hc : c ∈ overlayStyle.toList) : c ≠ '<' ∧ c ≠ '&' ∧ c ≠ '\x00' ∧ c ≠ '\r' :=
    of_decide_eq_true (List.all_eq_true.mp overlayStyle_plain c hc)
  have hlines : Html.lineFeeds overlayStyle.toList = overlayStyle.toList := by
    have hclear : '\r' ∉ overlayStyle.toList := fun h => (hplain _ h).2.2.2 rfl
    simpa [Html.lineFeeds] using Html.lineFeeds_append hclear []
  refine ⟨⟨by decide, .nil, ⟨false, by decide⟩, fun c hc => ?_⟩, ?_⟩
  · exact ⟨(hplain c hc).1, (hplain c hc).2.1, (hplain c hc).2.2.1⟩
  · rw [Mark.fed, hlines]
    rfl

theorem readable_box :
    (Mark.opening "div".toList [("id".toList, "error-overlay".toList)]).IsReadable ∧
      (Mark.opening "div".toList [("id".toList, "error-overlay".toList)]).fed =
        .opening "div".toList [("id".toList, "error-overlay".toList)] := by
  have hattributes : Html.Lexer.AreAttributes [("id".toList, "error-overlay".toList)] :=
    ⟨List.forall_mem_singleton.mpr (by decide), by decide, List.forall_mem_singleton.mpr (by decide)⟩
  exact ⟨⟨by decide, hattributes, by decide⟩, rfl⟩

/-- The marks of either kind can be read, and no line ends in them change. -/
theorem marks_readable (code : String) : ∀ m ∈ marks code, m.IsReadable ∧ m.fed = m := by
  have hopening (name : List Char) (hname : Html.Lexer.IsName name)
      (hraw : Html.rawReading? (String.ofList name) = none) :
      (Mark.opening name []).IsReadable ∧ (Mark.opening name []).fed = .opening name [] :=
    ⟨⟨hname, .nil, hraw⟩, rfl⟩
  have hclosing (name : List Char) (hname : Html.Lexer.IsName name) (hscript : String.ofList name ≠ "script") :
      (Mark.closing name).IsReadable ∧ (Mark.closing name).fed = .closing name :=
    ⟨⟨hname, hscript⟩, rfl⟩
  rw [marks]
  split
  · simp only [noteMarks, List.forall_mem_cons]
    exact ⟨hopening _ (by decide) (by decide), hopening _ (by decide) (by decide),
      hopening _ (by decide) (by decide), hclosing _ (by decide) (by decide), hclosing _ (by decide) (by decide),
      hclosing _ (by decide) (by decide), List.forall_mem_nil _⟩
  · simp only [overlayMarks, List.forall_mem_cons]
    exact ⟨hopening _ (by decide) (by decide), hopening _ (by decide) (by decide), readable_style,
      hclosing _ (by decide) (by decide), hopening _ (by decide) (by decide), readable_box,
      hopening _ (by decide) (by decide), hclosing _ (by decide) (by decide), hopening _ (by decide) (by decide),
      hclosing _ (by decide) (by decide), hclosing _ (by decide) (by decide), hclosing _ (by decide) (by decide),
      hclosing _ (by decide) (by decide), List.forall_mem_nil _⟩

/-- The tokens of the document: the characters of the wording, and the tags. -/
theorem tokens_diagnostic (failure : Failure) :
    Html.tokens (diagnostic failure) = ((wording failure).zip (marks failure.code)).flatMap fun p =>
      (Html.lineFeeds p.1.toList).map .character ++ p.2.tokens := by
  have hmarks := marks_readable failure.code
  have hreadable : Html.AreReadable ((rawWording failure).zip (marks failure.code)) := by
    intro p hp
    obtain ⟨htext, hmark⟩ := List.of_mem_zip hp
    obtain ⟨text, -, heq⟩ := List.mem_map.mp htext
    exact ⟨fun hless => ((isEscaped_escape text.toList).clear '<' (heq ▸ hless)).2.2.1 rfl, (hmarks _ hmark).1⟩
  have hfirst : (diagnostic failure).toList.head? = some '<' := by
    rw [toList_diagnostic]
    cases failure <;> rfl
  rw [Html.tokens_written hreadable (toList_diagnostic failure) hfirst, Html.tokensAll, Html.fedAll,
    List.flatMap_map, rawWording, List.zip_map_left, List.flatMap_map]
  refine List.flatMap_congr fun p hp => ?_
  have hfed := (hmarks p.2 (List.of_mem_zip hp).2).2
  simp only [Prod.map_fst, Prod.map_snd, id, lineFeeds_escape, decode_escape, hfed]

/-! ## Inertness -/

/-- The tags of the document for a failure, by the code of the failure. -/
def tags (code : String) : List Html.Token := (marks code).flatMap Mark.tags

/-- A tag of no script, without attributes but for the one that the style sheet refers to. -/
def isInert : Html.Token → Bool
  | .startTag tag | .endTag tag =>
    tag.name ≠ "script" && (tag.attributes = [] || tag.attributes = [⟨.plain, "id", "error-overlay"⟩])
  | _ => false

theorem tags_inert (code : String) : (tags code).all isInert = true := by
  rw [tags, marks]
  split <;> decide +kernel

/-- **A document for a failure does nothing**, whatever texts the failure holds. The code of the failure decides
its tags, no script among them. Between them stands escaped text, which is the wording of the failure when the
entities are put back, and which is read as the characters of the wording. -/
theorem diagnostic_inert (failure : Failure) :
    (∃ raws : List (List Char), (diagnostic failure).toList = writtenAll (raws.zip (marks failure.code)) ∧
      (∀ raw ∈ raws, IsEscaped raw) ∧ raws.map unescaped = (wording failure).map String.toList) ∧
    (wording failure).length = (marks failure.code).length ∧
    (Html.tokens (diagnostic failure) = ((wording failure).zip (marks failure.code)).flatMap fun p =>
      (Html.lineFeeds p.1.toList).map .character ++ p.2.tokens) ∧
    (Html.tokens (diagnostic failure)).filter Html.Token.isTag = tags failure.code ∧
    ∀ t ∈ tags failure.code, isInert t = true := by
  refine ⟨⟨rawWording failure, toList_diagnostic failure, ?escaped, ?unescaped⟩, length_wording failure,
    tokens_diagnostic failure, ?tags, List.all_eq_true.mp (tags_inert failure.code)⟩
  case escaped =>
    exact List.forall_mem_map.mpr fun text _ => isEscaped_escape text.toList
  case unescaped =>
    rw [rawWording, List.map_map]
    exact List.map_congr_left fun text _ => unescaped_escape text.toList
  case tags =>
    have hmarks : ((wording failure).zip (marks failure.code)).map Prod.snd = marks failure.code :=
      List.map_snd_zip (length_wording failure).ge
    calc (Html.tokens (diagnostic failure)).filter Html.Token.isTag
        = ((wording failure).zip (marks failure.code)).flatMap fun p => p.2.tags := by
          rw [tokens_diagnostic, List.filter_flatMap]
          refine List.flatMap_congr fun p _ => ?_
          rw [List.filter_append, Html.filter_isTag_characters, List.nil_append, Mark.filter_isTag]
      _ = tags failure.code := by rw [tags, ← hmarks, List.flatMap_map, hmarks]

end Vitrine.Page
