import Vitrine.Proofs.Json.Literal
import Vitrine.Proofs.Page.Scripts
import Vitrine.Proofs.Text.InTurn

/-!
# Filling the templates of the scripts (section 4.6)

The loader and the capture script are templates whose names are replaced one after the other. The literal of
the text from outside, the entry script or the token, goes in first; so the names that come later are replaced
in it too.

`loader_script` and `error_capture_script` fill `LOADER_TEMPLATE` and `ERROR_CAPTURE_TEMPLATE`, and
`script_safe_json` writes the literals.

* `readText_scriptLiteral`: a literal that goes into a script is read back as its text.
* `Fits`: what makes a template harmless by itself. No name begins inside another, and none stands in a text
  that the program puts in.
* `Fits.substituteAll_eq`: then replacing one name after the other is filling all slots at once, and only the
  literal of the text from outside is overwritten.
* `Fits.reads_iff`: it is still read as the text exactly if no later name stands in the text.
* `templates_filled`: the same of the two scripts, for every entry script and every token.
* `loader_rewritten`: a file name in which a name of the template stands is imported under another one.
-/

namespace Vitrine.Page

open Text (Slot Enclosed Untangled StandsFirst fill fillFrom fillInTurn overwritten substituteAll)

/-! ## Literals -/

/-- **A literal that may stand in a script is read back as its text.** -/
theorem readText_scriptLiteral (s : String) : Json.readAll Json.readText (scriptLiteral s) = .ok s := by
  rw [Json.readText_of_spells (Json.spells_escape s.toList).guarded (scriptLiteral_toList s),
    String.ofList_toList]

/-- The word is written as it is in a literal, and again as it may stand in a script. -/
structure Plain (w : List Char) : Prop where
  ne_nil : w ≠ []
  literal : Json.escape w = w
  guarded : List.Disjoint ['<', '/'] w

/-- A plain word that no escape is written with. -/
structure Unmarked (w : List Char) : Prop extends Plain w where
  unmarked : ∀ m ∈ Json.escapeMarks, m ∉ w

theorem Unmarked.disjoint {w : List Char} (h : Unmarked w) : w.Disjoint ['<', '\\', '/'] := by
  have hslash : '\\' ∉ w := h.unmarked _ (by decide)
  intro c hc hmem
  simp only [List.mem_cons, List.not_mem_nil, or_false] at hmem
  rcases hmem with rfl | rfl | rfl
  · exact h.guarded (by decide) hc
  · exact hslash hc
  · exact h.guarded (by decide) hc

theorem Unmarked.infix_scriptLiteral_iff {w : List Char} (h : Unmarked w) {s : String} :
    w <:+: (scriptLiteral s).toList ↔ w <:+: s.toList := by
  rw [scriptLiteral, scriptSafe_toList]
  constructor
  · intro hoccurs
    have hapart : Text.Apart w ['<', '\\', '/'] := .of_disjoint (List.cons_ne_nil _ _) h.disjoint
    rcases Text.infix_substituteFrom hapart hoccurs with hquoted | hguard
    · exact Json.infix_of_infix_quoted h.ne_nil h.unmarked hquoted
    · exact absurd (hguard.subset (List.head_mem h.ne_nil)) (h.disjoint (List.head_mem h.ne_nil))
  · exact fun hoccurs => Text.infix_substituteFrom_of_disjoint (List.cons_ne_nil _ _) h.guarded
      (Json.infix_quoted_of_infix h.literal hoccurs)

/-- **A replacement of a word by a plain one in a literal** is a replacement in the text that it denotes. -/
theorem Unmarked.substitute_scriptLiteral {w by_ : List Char} (h : Unmarked w) (hby : Plain by_)
    (s : String) :
    Text.substituteFrom w by_ 0 (scriptLiteral s).toList =
      (scriptLiteral (String.ofList (Text.substituteFrom w by_ 0 s.toList))).toList := by
  rw [scriptLiteral, scriptSafe_toList,
    Text.substituteFrom_comm h.ne_nil (List.cons_ne_nil _ _) hby.ne_nil (List.cons_ne_nil _ _)
      (List.disjoint_symm h.guarded) h.disjoint hby.guarded,
    Json.substituteFrom_quoted h.ne_nil h.unmarked h.literal hby.literal, ← scriptSafe_toList, scriptLiteral]

/-- A literal has two quotes more than its text. -/
theorem quotes_scriptLiteral (s : String) :
    s.toList.count '"' + 2 ≤ (scriptLiteral s).toList.count '"' := by
  have hguard : (Json.escape s.toList).count '"' ≤
      (Text.substituteFrom ['<', '/'] ['<', '\\', '/'] 0 (Json.escape s.toList)).count '"' :=
    Text.countP_le_substituteFrom (List.cons_ne_nil _ _) (by decide) _
  have hescape := Json.count_escape s.toList
  rw [scriptLiteral_toList, List.cons_append, List.count_cons_self, List.count_append]
  exact Nat.succ_le_succ (Nat.add_le_add_right (hescape.trans hguard) 1)

theorem enclosed_literal (s : String) : Enclosed '"' (scriptLiteral s).toList :=
  ⟨_, scriptLiteral_toList s⟩

/-! ## Templates -/

/-- What a template gets behind the text from outside: literals of some of the program's own texts, and last
the name of the report. -/
def slotsBehind (texts : List (String × String)) : List (String × String) :=
  texts.map (fun text => (text.1, scriptLiteral text.2)) ++ [("__REPORT__", reportName)]

/-- The names of these slots. -/
def namesBehind (texts : List (String × String)) : List (List Char) :=
  (texts.map Prod.fst ++ ["__REPORT__"]).map String.toList

/-- The script is the template with a literal of the text under `name`, and the slots with their values. -/
def IsFilled (name : String) (slots : List (String × String)) (template text script : String) : Prop :=
  ∃ literal, Json.readAll Json.readText literal = .ok text ∧ script = fill ((name, literal) :: slots) template

/-- A template for a text from outside under `name`, and the program's own texts. -/
structure Fits (name : String) (texts : List (String × String)) (template : String) : Prop where
  unmarked : ∀ n ∈ name.toList :: namesBehind texts, Unmarked n
  settled : texts.Pairwise fun earlier later => ¬ later.1.toList <:+: earlier.2.toList
  unreported : ∀ text ∈ texts, ¬ "__REPORT__".toList <:+: text.2.toList
  untangled : Untangled (name.toList :: namesBehind texts) template.toList
  once : ∃ before after, template.toList = before ++ (name.toList ++ after) ∧
    StandsFirst name.toList (namesBehind texts) before after

theorem names_slotsBehind (texts : List (String × String)) :
    ((slotsBehind texts).map Slot.ofTexts).map Slot.name = namesBehind texts := by
  simp [slotsBehind, namesBehind, Slot.ofTexts, Function.comp_def]

/-- The literals among these slots. -/
def literalSlots (texts : List (String × String)) : List Slot :=
  texts.map fun text => ⟨text.1.toList, (scriptLiteral text.2).toList⟩

/-- Behind the first slot come those that take literals, and the one for the name of the report. -/
theorem slotsBehind_ofTexts (texts : List (String × String)) :
    (slotsBehind texts).map Slot.ofTexts =
      literalSlots texts ++ [⟨"__REPORT__".toList, reportName.toList⟩] := by
  simp [slotsBehind, literalSlots, Slot.ofTexts, Function.comp_def]

theorem plain_reportName : Plain reportName.toList := by
  have hguarded : ['<', '/'].all (fun c => c ∉ reportName.toList) = true := by decide
  have habsent : ∀ c ∈ ['<', '/'], c ∉ reportName.toList :=
    fun c hc => of_decide_eq_true (List.all_eq_true.mp hguarded c hc)
  exact ⟨by decide, by decide, habsent⟩

namespace Fits

variable {name template : String} {texts : List (String × String)}

theorem unmarked_text (h : Fits name texts template) {text : String × String} (htext : text ∈ texts) :
    Unmarked text.1.toList := by
  refine h.unmarked _ (List.mem_cons_of_mem _ (List.mem_map_of_mem ?_))
  exact List.mem_append_left _ (List.mem_map_of_mem htext)

theorem unmarked_report (h : Fits name texts template) : Unmarked "__REPORT__".toList :=
  h.unmarked _ (List.mem_cons_of_mem _ (List.mem_map_of_mem (by simp)))

/-- Of the slots behind the first one, none brings in the name of one that is filled later. -/
theorem pairwise (h : Fits name texts template) :
    ((slotsBehind texts).map Slot.ofTexts).Pairwise fun earlier later => ¬ later.name <:+: earlier.value := by
  rw [slotsBehind_ofTexts, List.pairwise_append]
  refine ⟨?_, List.pairwise_singleton _ _, ?_⟩
  · rw [literalSlots, List.pairwise_map]
    refine h.settled.imp_of_mem fun {earlier later} _ hlater hnot => ?_
    rwa [(h.unmarked_text hlater).infix_scriptLiteral_iff]
  · simp only [literalSlots, List.forall_mem_map, List.mem_singleton, forall_eq]
    intro text htext
    rw [h.unmarked_report.infix_scriptLiteral_iff]
    exact h.unreported text htext

/-- Filling the slots in turn is filling them at once, with what the later slots make of the first value. -/
theorem fillInTurn_eq (h : Fits name texts template) {literal : List Char}
    (hliteral : Enclosed '"' literal) :
    let slots : List Slot := literalSlots texts ++ [⟨"__REPORT__".toList, reportName.toList⟩]
    fillInTurn (⟨name.toList, literal⟩ :: slots) template.toList =
      fillFrom (⟨name.toList, fillInTurn slots literal⟩ :: slots) 0 template.toList := by
  intro slots
  have hnames : slots.map Slot.name = namesBehind texts := by
    rw [← names_slotsBehind, slotsBehind_ofTexts]
  have hsearchable : ∀ slot ∈ (⟨name.toList, literal⟩ :: slots : List Slot), slot.Searchable '"' := by
    intro slot hslot
    have hmem : slot.name ∈ name.toList :: namesBehind texts :=
      hnames ▸ List.mem_map_of_mem (f := Slot.name) hslot
    exact ⟨(h.unmarked _ hmem).ne_nil, (h.unmarked _ hmem).unmarked _ (by decide)⟩
  have henclosed : ∀ slot ∈ (⟨name.toList, literal⟩ :: slots : List Slot).dropLast,
      Enclosed '"' slot.value := by
    rw [← List.cons_append, List.dropLast_concat]
    refine List.forall_mem_cons.mpr ⟨hliteral, List.forall_mem_map.mpr fun text _ => ?_⟩
    dsimp only
    exact enclosed_literal text.2
  have huntangled := h.untangled
  rw [← hnames] at huntangled
  have hpairwise := h.pairwise
  rw [slotsBehind_ofTexts] at hpairwise
  rw [Text.fillInTurn_eq_fillFrom hsearchable henclosed huntangled, overwritten,
    Text.overwritten_eq_self hpairwise]

/-- **Only the literal is overwritten**: replacing the names one after the other is filling all slots at once,
with what the later replacements make of the literal. -/
theorem substituteAll_eq (h : Fits name texts template) (s : String) :
    substituteAll ((name, scriptLiteral s) :: slotsBehind texts) template =
      fill ((name, substituteAll (slotsBehind texts) (scriptLiteral s)) :: slotsBehind texts) template := by
  have hslots (literal : String) : ((name, literal) :: slotsBehind texts).map Slot.ofTexts =
      ⟨name.toList, literal.toList⟩ ::
        (literalSlots texts ++ [⟨"__REPORT__".toList, reportName.toList⟩]) := by
    rw [List.map_cons, slotsBehind_ofTexts, Slot.ofTexts]
  rw [← String.toList_inj, fill, String.toList_ofList, Text.toList_substituteAll, hslots, hslots,
    Text.toList_substituteAll, slotsBehind_ofTexts]
  exact h.fillInTurn_eq (enclosed_literal s)

/-- A template that is filled at once tells what its first slot was filled with. -/
theorem fill_inj (h : Fits name texts template) {v w : String} :
    fill ((name, v) :: slotsBehind texts) template = fill ((name, w) :: slotsBehind texts) template ↔
      v = w := by
  obtain ⟨before, after, htemplate, honce⟩ := h.once
  rw [← names_slotsBehind] at honce
  rw [fill, fill, String.ofList_inj, htemplate, List.map_cons, List.map_cons, Slot.ofTexts, Slot.ofTexts,
    Text.fillFrom_inj honce, String.toList_inj]

/-- Each literal brings quotes with it. -/
theorem literals_add (h : Fits name texts template) : ∀ slot ∈ literalSlots texts, slot.Adds (· == '"') := by
  refine List.forall_mem_map.mpr fun text htext => ?_
  have hname := h.unmarked_text htext
  have hnone : text.1.toList.countP (· == '"') = 0 := List.count_eq_zero.mpr (hname.unmarked _ (by decide))
  have hsome := quotes_scriptLiteral text.2
  refine ⟨hname.ne_nil, hnone.trans_lt ?_⟩
  dsimp only
  rw [← List.count]
  omega

/-- The names of slots are looked for in the literal, and are in it if they are in its text. -/
theorem absent_iff (h : Fits name texts template) (s : String) :
    (∀ n ∈ namesBehind texts, ¬ n <:+: s.toList) ↔
      (∀ slot ∈ literalSlots texts, ¬ slot.name <:+: (scriptLiteral s).toList) ∧
        ¬ "__REPORT__".toList <:+: s.toList := by
  have hliterals : (∀ slot ∈ literalSlots texts, ¬ slot.name <:+: (scriptLiteral s).toList) ↔
      ∀ text ∈ texts, ¬ text.1.toList <:+: s.toList := by
    rw [literalSlots, List.forall_mem_map]
    exact forall₂_congr fun text htext => not_congr (h.unmarked_text htext).infix_scriptLiteral_iff
  rw [hliterals, namesBehind, List.forall_mem_map, List.forall_mem_append, List.forall_mem_map,
    List.forall_mem_singleton]

/-- What is left of the literal when all names have been replaced in it. -/
theorem toList_rest (texts : List (String × String)) (s : String) :
    (substituteAll (slotsBehind texts) (scriptLiteral s)).toList =
      Text.substituteFrom "__REPORT__".toList reportName.toList 0
        (fillInTurn (literalSlots texts) (scriptLiteral s).toList) := by
  rw [Text.toList_substituteAll, slotsBehind_ofTexts, Text.fillInTurn_concat]

/-- Only the name of the report can be replaced in a literal that holds no other name. -/
theorem substituteAll_of_absent (h : Fits name texts template) {s : String}
    (hliterals : ∀ slot ∈ literalSlots texts, ¬ slot.name <:+: (scriptLiteral s).toList) :
    substituteAll (slotsBehind texts) (scriptLiteral s) =
      scriptLiteral (Text.substitute "__REPORT__" reportName s) := by
  rw [← String.toList_inj, toList_rest, Text.fillInTurn_of_absent hliterals,
    h.unmarked_report.substitute_scriptLiteral plain_reportName, Text.substitute]

/-- **What is left of the literal is read as the text** exactly if none of the later names stands in it. -/
theorem reads_iff (h : Fits name texts template) (s : String) :
    Json.readAll Json.readText (substituteAll (slotsBehind texts) (scriptLiteral s)) = .ok s ↔
      ∀ n ∈ namesBehind texts, ¬ n <:+: s.toList := by
  rw [h.absent_iff]
  by_cases hliterals : ∀ slot ∈ literalSlots texts, ¬ slot.name <:+: (scriptLiteral s).toList
  · -- Only the name of the report can be put in: then the literal of another text is left.
    rw [h.substituteAll_of_absent hliterals, readText_scriptLiteral, Except.ok.injEq, ← String.toList_inj,
      Text.substitute, String.toList_ofList,
      Text.substituteFrom_eq_self_iff h.unmarked_report.ne_nil (by decide)]
    exact (and_iff_right hliterals).symm
  · -- A literal is put in: then there are more quotes than a literal of the text can have.
    refine ⟨fun hread => absurd (Json.readAll_quotes hread) ?_, fun habsent => absurd habsent.1 hliterals⟩
    push Not at hliterals
    have hfewer : (scriptLiteral s).toList.count '"' <
        (fillInTurn (literalSlots texts) (scriptLiteral s).toList).count '"' :=
      Text.countP_lt_fillInTurn h.literals_add hliterals
    have hkept : (fillInTurn (literalSlots texts) (scriptLiteral s).toList).count '"' ≤
        (substituteAll (slotsBehind texts) (scriptLiteral s)).toList.count '"' := by
      rw [toList_rest]
      exact Text.countP_le_substituteFrom h.unmarked_report.ne_nil (by decide) _
    have hquotes := quotes_scriptLiteral s
    omega

/-- A template is filled as it should be exactly if no name of a later slot stands in the first value. -/
theorem isFilled_iff (h : Fits name texts template) (s : String) :
    IsFilled name (slotsBehind texts) template s
        (substituteAll ((name, scriptLiteral s) :: slotsBehind texts) template) ↔
      ∀ n ∈ namesBehind texts, ¬ n <:+: s.toList := by
  rw [h.substituteAll_eq, ← h.reads_iff]
  constructor
  · rintro ⟨literal, hread, hfill⟩
    rwa [h.fill_inj.mp hfill]
  · exact fun hread => ⟨_, hread, rfl⟩

end Fits

/-! ## The two templates -/

theorem unmarked_names :
    ∀ n ∈ ["__ENTRY__", "__PASS__", "__STYLE__", "__SOURCE__", "__REPORT__"].map String.toList,
      Unmarked n := by
  have hnames : ∀ n ∈ ["__ENTRY__", "__PASS__", "__STYLE__", "__SOURCE__", "__REPORT__"].map String.toList,
      n ≠ [] ∧ Json.escape n = n ∧ (['<', '/'] ++ Json.escapeMarks).all (fun c => c ∉ n) = true := by
    decide
  intro n hn
  obtain ⟨hne, hliteral, hnone⟩ := hnames n hn
  have habsent : ∀ c ∈ ['<', '/'] ++ Json.escapeMarks, c ∉ n :=
    fun c hc => of_decide_eq_true (List.all_eq_true.mp hnone c hc)
  exact ⟨⟨hne, hliteral, fun c hc => habsent c (List.mem_append_left _ hc)⟩,
    fun m hm => habsent m (List.mem_append_right _ hm)⟩

/-- The texts of the program's own in the capture script. -/
def captureTexts : List (String × String) := [("__STYLE__", overlayStyle), ("__SOURCE__", eventSource)]

/-- In the loader the names of the slots do not overlap, and that of the first slot stands at a known place. -/
theorem loader_template :
    let template := (String.intercalate "\n" loaderLines).toList
    Untangled ("__ENTRY__".toList :: namesBehind []) template ∧
      template = template.take 22 ++ ("__ENTRY__".toList ++ template.drop 31) ∧
      StandsFirst "__ENTRY__".toList (namesBehind []) (template.take 22) (template.drop 31) := by
  simp only [String.toList_intercalate, loaderLines, List.map_cons, List.map_nil]
  repeat rw [String.toList_ofList]
  decide +kernel

theorem loader_fits : Fits "__ENTRY__" [] (String.intercalate "\n" loaderLines) := by
  obtain ⟨huntangled, htemplate, honce⟩ := loader_template
  exact {
    unmarked := fun n hn => unmarked_names n (by revert n; decide)
    settled := List.Pairwise.nil
    unreported := List.forall_mem_nil _
    untangled := huntangled
    once := ⟨_, _, htemplate, honce⟩ }

theorem capture_template :
    let template := (String.intercalate "\n" captureLines).toList
    Untangled ("__PASS__".toList :: namesBehind captureTexts) template ∧
      template = template.take 24 ++ ("__PASS__".toList ++ template.drop 32) ∧
      StandsFirst "__PASS__".toList (namesBehind captureTexts) (template.take 24) (template.drop 32) := by
  simp only [String.toList_intercalate, captureLines, List.map_cons, List.map_nil, String.toList_append]
  repeat rw [String.toList_ofList]
  decide +kernel

/-- The capture script has three slots for literals, and that of the report. -/
theorem capture_fits : Fits "__PASS__" captureTexts (String.intercalate "\n" captureLines) := by
  obtain ⟨huntangled, htemplate, honce⟩ := capture_template
  have hstyle {w : List Char} (hw : '_' ∈ w) : ¬ w <:+: overlayStyle.toList :=
    fun hoccurs => overlayStyle_chars.2 (hoccurs.subset hw)
  exact {
    unmarked := fun n hn => unmarked_names n (by revert n; decide)
    settled := List.pairwise_cons.mpr
      ⟨List.forall_mem_singleton.mpr (hstyle (by decide)), List.pairwise_singleton _ _⟩
    unreported := List.forall_mem_cons.mpr ⟨hstyle (by decide), List.forall_mem_singleton.mpr (by decide)⟩
    untangled := huntangled
    once := ⟨_, _, htemplate, honce⟩ }

theorem loaderScript_eq (entryScript : String) :
    loaderScript entryScript =
      substituteAll (("__ENTRY__", scriptLiteral entryScript) :: slotsBehind [])
        (String.intercalate "\n" loaderLines) :=
  rfl

theorem captureScript_eq (token : String) :
    captureScript token =
      substituteAll (("__PASS__", scriptLiteral token) :: slotsBehind captureTexts)
        (String.intercalate "\n" captureLines) :=
  rfl

/-- The name of the report is put into the literal of the entry script as it would be into its text. -/
theorem substituteAll_entry (entryScript : String) :
    substituteAll (slotsBehind []) (scriptLiteral entryScript) =
      scriptLiteral (Text.substitute "__REPORT__" reportName entryScript) :=
  loader_fits.substituteAll_of_absent (List.forall_mem_nil _)

/-- **How the templates of the scripts are filled.** The loader is its template with a literal of the entry
script, in which the name of the report has been put in, too; and the capture script is its template with the
literal of the token, in which the three later names have been replaced, too. So a script is its template with
a literal of the text as it was given exactly if none of the later names stands in the text. -/
theorem templates_filled (entryScript token : String) :
    (∀ s, Json.readAll Json.readText (scriptLiteral s) = .ok s) ∧
    loaderScript entryScript =
      fill (("__ENTRY__", scriptLiteral (Text.substitute "__REPORT__" reportName entryScript)) ::
        slotsBehind []) (String.intercalate "\n" loaderLines) ∧
    (IsFilled "__ENTRY__" (slotsBehind []) (String.intercalate "\n" loaderLines) entryScript
        (loaderScript entryScript) ↔
      ∀ n ∈ namesBehind [], ¬ n <:+: entryScript.toList) ∧
    captureScript token =
      fill (("__PASS__", substituteAll (slotsBehind captureTexts) (scriptLiteral token)) ::
        slotsBehind captureTexts) (String.intercalate "\n" captureLines) ∧
    (IsFilled "__PASS__" (slotsBehind captureTexts) (String.intercalate "\n" captureLines) token
        (captureScript token) ↔
      ∀ n ∈ namesBehind captureTexts, ¬ n <:+: token.toList) := by
  rw [loaderScript_eq, ← substituteAll_entry, captureScript_eq]
  exact ⟨readText_scriptLiteral,
    loader_fits.substituteAll_eq entryScript, loader_fits.isFilled_iff entryScript,
    capture_fits.substituteAll_eq token, capture_fits.isFilled_iff token⟩

/-- The loader of a module in whose name a name of the template stands imports another module. -/
theorem loader_rewritten :
    ¬ IsFilled "__ENTRY__" (slotsBehind []) (String.intercalate "\n" loaderLines) "/__REPORT__.js"
      (loaderScript "/__REPORT__.js") := by
  rw [loaderScript_eq, loader_fits.isFilled_iff]
  decide

end Vitrine.Page
