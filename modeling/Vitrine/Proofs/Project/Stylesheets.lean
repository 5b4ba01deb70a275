import Mathlib.Data.List.Forall2
import Mathlib.Logic.Function.Basic
import Vitrine.Proofs.Json.Literal
import Vitrine.Proofs.Project.Modules

/-!
# Whose style element it is (section 4.4)

The module of a stylesheet sets the text of a style element whose id is made of the path, and makes the
element if there is none. Only letters and digits of ASCII are kept in the id, so different paths may have
one id: then their stylesheets share an element, and the one that is loaded last takes it.

The id is that of `style_element_id`, and the module that of `wrap_stylesheet`, which creates or replaces the
element.

* `styleId_eq_iff`: two paths have one id exactly if one looks like the other (`Path.LooksLike`).
* `Loads.keeps`: what loading some modules leaves in an element.
* `sheet_kept_iff`: the text of a stylesheet stays, whatever is loaded behind it, exactly if no other text
  of the project stands under a path that looks like its path.
* `sheets_collide`: two stylesheets of which one replaces the text of the other.
-/

namespace Vitrine

/-! ## Ids -/

/-- The two paths have a letter or digit of ASCII at the same places, and the same one. -/
def Path.LooksLike (p q : String) : Prop :=
  List.Forall₂
    (fun c d => c = d ∨ Text.isAsciiAlphanumeric c = false ∧ Text.isAsciiAlphanumeric d = false)
    p.toList q.toList

instance (p q : String) : Decidable (Path.LooksLike p q) :=
  inferInstanceAs (Decidable (List.Forall₂ _ _ _))

namespace Module

/-- **Two paths have one id exactly if one looks like the other**. -/
theorem styleId_eq_iff {p q : String} : styleId p = styleId q ↔ Path.LooksLike p q := by
  have hchar (c d : Char) :
      (if Text.isAsciiAlphanumeric c then c else '-') = (if Text.isAsciiAlphanumeric d then d else '-') ↔
        c = d ∨ Text.isAsciiAlphanumeric c = false ∧ Text.isAsciiAlphanumeric d = false := by
    have hdash : Text.isAsciiAlphanumeric '-' = false := rfl
    cases hc : Text.isAsciiAlphanumeric c <;> cases hd : Text.isAsciiAlphanumeric d
    · simp
    · have hne : c ≠ d := fun he => by simp [← he, hc] at hd
      have hne' : '-' ≠ d := fun he => by simp [← he, hdash] at hd
      simp [hne, hne']
    · have hne : c ≠ d := fun he => by simp [← he, hc] at hd
      have hne' : c ≠ '-' := fun he => by simp [he, hdash] at hc
      simp [hne, hne']
    · simp
  rw [styleId, styleId, ← String.toList_inj, String.toList_append, String.toList_append,
    List.append_cancel_left_eq, String.toList_ofList, String.toList_ofList, ← List.forall₂_eq_eq_eq,
    List.forall₂_map_left_iff, List.forall₂_map_right_iff, Path.LooksLike]
  simp only [hchar]

/-! ## The text of a module -/

/-- The module sets the text of the style element `id` to `text`. -/
def Installs (m : Module) (id text : String) : Prop :=
  m.code = unlines (["const css = " ++ Json.quoted text ++ ";",
    "const styleTagId = " ++ Json.quoted id ++ ";"] ++ styleLines)

theorem installs_ofStylesheet (path css : String) : (ofStylesheet path css).Installs (styleId path) css :=
  rfl

theorem quoted_inj {s t : String} : Json.quoted s = Json.quoted t ↔ s = t := by
  refine ⟨fun h => ?_, congrArg _⟩
  have hread : Json.readAll Json.readText (Json.quoted s) = .ok t := h ▸ (Json.isLiteral_quoted t).read
  exact Except.ok.inj ((Json.isLiteral_quoted s).read.symm.trans hread)

/-- Lines are told apart by their ends. -/
theorem unlines_cons_inj {l l' : String} {ls ls' : List String} (hl : '\n' ∉ l.toList) (hl' : '\n' ∉ l'.toList) :
    unlines (l :: ls) = unlines (l' :: ls') ↔ l = l' ∧ unlines ls = unlines ls' := by
  have hcons (l : String) (ls : List String) :
      (unlines (l :: ls)).toList = l.toList ++ '\n' :: (unlines ls).toList := by
    simp [unlines, String.join_cons]
  rw [← String.toList_inj, hcons, hcons, Text.append_cons_inj hl hl', String.toList_inj, String.toList_inj]

/-- An assignment stands on one line, so the lines of a module tell its texts. -/
theorem newline_notMem_assignment {name : String} (hname : '\n' ∉ name.toList) (s : String) :
    '\n' ∉ (name ++ Json.quoted s ++ ";").toList := by
  rw [String.toList_append, String.toList_append, List.mem_append, List.mem_append, not_or, not_or]
  exact ⟨⟨hname, fun h => absurd (Json.le_of_mem_quoted h) (by decide)⟩, by decide⟩

/-- **A module sets the text of one element**, to one text. -/
theorem Installs.unique {m : Module} {id id' text text' : String} (h : m.Installs id text)
    (h' : m.Installs id' text') : id = id' ∧ text = text' := by
  have hlines := h.symm.trans h'
  rw [List.cons_append, List.cons_append, List.cons_append, List.cons_append,
    unlines_cons_inj (newline_notMem_assignment (by decide) _) (newline_notMem_assignment (by decide) _),
    unlines_cons_inj (newline_notMem_assignment (by decide) _) (newline_notMem_assignment (by decide) _)]
    at hlines
  simp only [String.append_left_inj, String.append_right_inj, quoted_inj] at hlines
  exact ⟨hlines.2.1, hlines.1⟩

theorem installs_ofStylesheet_iff {path css id text : String} :
    (ofStylesheet path css).Installs id text ↔ id = styleId path ∧ text = css := by
  refine ⟨fun h => h.unique (installs_ofStylesheet path css), ?_⟩
  rintro ⟨rfl, rfl⟩
  exact installs_ofStylesheet path text

/-! ## Loading -/

/-- The texts of the style elements of a page, by their ids. -/
abbrev StyleTexts := String → Option String

/-- Loading modules of stylesheets one after the other: each finds the element of its id, or makes it, and
sets its text. -/
inductive Loads : List Module → StyleTexts → StyleTexts → Prop
  | none (texts : StyleTexts) : Loads [] texts texts
  | next {m : Module} {ms : List Module} {id text : String} {texts texts' : StyleTexts}
      (hm : m.Installs id text) (hms : Loads ms (Function.update texts id (some text)) texts') :
      Loads (m :: ms) texts texts'

/-- **A text stays if nothing that is loaded sets its element to another text.** -/
theorem Loads.keeps {ms : List Module} {texts texts' : StyleTexts} (h : Loads ms texts texts')
    {id text : String} (hstart : texts id = some text)
    (hsame : ∀ m ∈ ms, ∀ text', m.Installs id text' → text' = text) : texts' id = some text := by
  induction h with
  | none => exact hstart
  | @next m ms id' text' texts _ hm _ ih =>
    rw [List.forall_mem_cons] at hsame
    refine ih ?_ hsame.2
    by_cases hid : id = id'
    · subst hid
      rw [Function.update_self, hsame.1 text' hm]
    · rw [Function.update_of_ne hid, hstart]

end Module

/-! ## The stylesheets of a project -/

namespace Snapshot

variable {settings : Settings} {snapshot : Snapshot} {modules : List Module}

/-- A stylesheet of the project, by its path and its text. -/
def HasSheet (snapshot : Snapshot) (settings : Settings) (path css : String) : Prop :=
  (path, css) ∈ snapshot.files ∧ FileKind.ofPath settings path = .stylesheet

/-- Every stylesheet of a project is among its modules. -/
theorem HasSheet.mem_modules {path css : String} (h : snapshot.HasSheet settings path css)
    (compiled : snapshot.modules settings = .ok modules) : Module.ofStylesheet path css ∈ modules := by
  obtain ⟨m, hm, hok, -⟩ :=
    exists_of_mem_left (modules_ok compiled) (Snapshot.mem_loadable.mpr ⟨h.1, Or.inr h.2⟩)
  rw [Module.ofFile_stylesheet h.2] at hok
  exact Except.ok.inj hok ▸ hm

instance (path css : String) : Decidable (snapshot.HasSheet settings path css) :=
  inferInstanceAs (Decidable (_ ∧ _))

/-- What is compiled to the module of a stylesheet is one. -/
theorem sheet_of_mem_modules (compiled : snapshot.modules settings = .ok modules) {m : Module}
    (hm : m ∈ modules) (hkind : m.kind = .stylesheet) :
    ∃ path css, snapshot.HasSheet settings path css ∧ m = Module.ofStylesheet path css := by
  obtain ⟨⟨path, css⟩, hf, hok, -⟩ := exists_of_mem_left (modules_ok compiled).flip hm
  obtain ⟨hfile, hscript | hsheet⟩ := Snapshot.mem_loadable.mp hf
  · rw [Module.ofFile_script hscript] at hok
    rcases Module.ofScript_cases settings snapshot path css with ⟨message, he⟩ | ⟨code, un, he⟩
    · exact absurd (hok.symm.trans he) nofun
    · obtain rfl := Except.ok.inj (hok.symm.trans he)
      cases hkind
  · rw [Module.ofFile_stylesheet hsheet] at hok
    exact ⟨path, css, ⟨hfile, hsheet⟩, (Except.ok.inj hok).symm⟩

/-- **Whose style element it is.** In a project that compiles, the modules of two stylesheets set the texts
of the elements of their ids, and these are one element exactly if the paths look alike. So the text of the
first one stays, whatever stylesheets of the project are loaded behind it and in whatever order, exactly if
no other text stands under a path that looks like its path. -/
theorem sheet_kept_iff {p q css css' : String} (compiled : snapshot.modules settings = .ok modules)
    (hp : snapshot.HasSheet settings p css) (hq : snapshot.HasSheet settings q css') :
    ∃ m ∈ modules, ∃ n ∈ modules, m.path = p ∧ n.path = q ∧
      (∀ id text, m.Installs id text ↔ id = Module.styleId p ∧ text = css) ∧
      (∀ id text, n.Installs id text ↔ id = Module.styleId q ∧ text = css') ∧
      (Module.styleId p = Module.styleId q ↔ Path.LooksLike p q) ∧
      ((∀ behind texts texts', (∀ k ∈ behind, k ∈ modules ∧ k.kind = .stylesheet) →
          Module.Loads (m :: behind) texts texts' → texts' (Module.styleId p) = some css) ↔
        ∀ r text, snapshot.HasSheet settings r text → Path.LooksLike p r → text = css) := by
  refine ⟨Module.ofStylesheet p css, hp.mem_modules compiled, Module.ofStylesheet q css',
    hq.mem_modules compiled, rfl, rfl, fun _ _ => Module.installs_ofStylesheet_iff,
    fun _ _ => Module.installs_ofStylesheet_iff, Module.styleId_eq_iff, ⟨?_, ?_⟩⟩
  · -- Loading the other one right behind it shows which text is in the element then.
    intro hkept r text hr halike
    have hloads : Module.Loads [Module.ofStylesheet p css, Module.ofStylesheet r text] (fun _ => none) _ :=
      .next (Module.installs_ofStylesheet p css) (.next (Module.installs_ofStylesheet r text) (.none _))
    have htext := hkept [Module.ofStylesheet r text] _ _
      (List.forall_mem_singleton.mpr ⟨hr.mem_modules compiled, rfl⟩) hloads
    rw [Module.styleId_eq_iff.mpr halike, Function.update_self] at htext
    exact Option.some.inj htext
  · intro hsame behind texts texts' hbehind hloads
    cases hloads with
    | next hm hms =>
      obtain ⟨rfl, rfl⟩ := Module.installs_ofStylesheet_iff.mp hm
      refine hms.keeps (Function.update_self ..) fun k hk text hinstalls => ?_
      obtain ⟨hmem, hkind⟩ := hbehind k hk
      obtain ⟨r, text', hr, rfl⟩ := sheet_of_mem_modules compiled hmem hkind
      obtain ⟨hid, rfl⟩ := Module.installs_ofStylesheet_iff.mp hinstalls
      exact hsame r text hr (Module.styleId_eq_iff.mp hid)

/-- Two stylesheets whose paths differ in a dash. -/
def alike : Snapshot := ofList [("a-b.css", "p \x7b\x7d"), ("a.b.css", "q \x7b\x7d")]

theorem alike_modules : alike.modules {} =
    .ok [Module.ofStylesheet "a-b.css" "p \x7b\x7d", Module.ofStylesheet "a.b.css" "q \x7b\x7d"] := by
  rfl

theorem sheet_kept_alike :
    alike.HasSheet {} "a-b.css" "p \x7b\x7d" ∧ alike.HasSheet {} "a.b.css" "q \x7b\x7d" ∧
      Module.styleId "a-b.css" = Module.styleId "a.b.css" := by
  have hp : alike.HasSheet {} "a-b.css" "p \x7b\x7d" := by decide
  have hq : alike.HasSheet {} "a.b.css" "q \x7b\x7d" := by decide
  obtain ⟨-, -, -, -, -, -, -, -, hid, -⟩ := sheet_kept_iff alike_modules hp hq
  exact ⟨hp, hq, hid.mpr (by decide)⟩

/-- The two stylesheets set the text of one element, each to its own. -/
theorem sheets_collide : ∃ modules, alike.modules {} = .ok modules ∧
    ∃ m ∈ modules, ∃ n ∈ modules, m.kind = .stylesheet ∧ n.kind = .stylesheet ∧ m.path ≠ n.path ∧
      ∃ id text text', text ≠ text' ∧ m.Installs id text ∧ n.Installs id text' := by
  refine ⟨_, alike_modules, _, List.mem_cons_self, _, List.mem_cons_of_mem _ List.mem_cons_self, rfl, rfl,
    by decide, "style-a-b-css", "p \x7b\x7d", "q \x7b\x7d", by decide, ?_, ?_⟩
  · exact Module.installs_ofStylesheet "a-b.css" _
  · exact Module.installs_ofStylesheet "a.b.css" _

end Snapshot

end Vitrine
