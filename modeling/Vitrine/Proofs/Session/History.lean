import Vitrine.Proofs.Session.Verdict

/-!
# What a rendering depends on (section 8)

What was done with a session before, and which file of an application is selected, make no difference to
what a rendering says of the project. To the document they make a difference only through the addresses
that the rendering gives out: the document is that of the settings, the files and these addresses, and the
addresses stand in it as the places of the modules and as the token (`documentAt?`). So two renderings of
one project are alike up to their addresses (`renders_alike`).

The operation is `render` of a `PreviewSession`, and the property that of identical inputs given twice.

If no file becomes a module, there are no addresses; then the document has the key of its frame for a token,
and so it depends on the selection.
-/

namespace Vitrine.Session

open Import (Table)

variable {s t after after' : Session} {settings : Settings} {snapshot : Snapshot} {selected selected' : String}
  {r r' : Rendering} {modules : List Module} {addresses addresses' : List String}

/-! ## What is unresolved -/

/-- The imports of a project that will find no module, unless it has a fault. -/
def unresolvedIn (settings : Settings) (snapshot : Snapshot) : List String :=
  match verdict? settings snapshot, snapshot.modules settings with
  | none, .ok modules => unresolvedOf modules
  | _, _ => []

/-- **What a rendering lists as unresolved is up to its project.** -/
theorem render_unresolved (hmode : (s.render snapshot selected).1.mode = .application) :
    (s.render snapshot selected).1.unresolved = unresolvedIn s.settings snapshot := by
  have hverdict := render_failure? hmode
  cases s.render_outcome snapshot selected with
  | aside mode => exact absurd hmode mode
  | failed _ _ failed _ unresolved => rw [unresolved, unresolvedIn, ← hverdict, failed]
  | made _ _ compiled _ failure unresolved =>
    rw [unresolved, unresolvedIn, ← hverdict, failure]
    simp only [compiled]

/-! ## Documents under addresses -/

/-- The document of a project whose modules have the given addresses, in their order. The first address is
the token. -/
def documentAt? (settings : Settings) (snapshot : Snapshot) (addresses : List String) : Option String :=
  match snapshot.get? settings.entryMarkupPath, snapshot.modules settings with
  | some markup, .ok modules =>
    (Page.application settings (tableAt modules addresses) (addresses.headD "") markup).toOption
  | _, _ => none

/-- **The document of a project with modules is up to the addresses in use after it.** -/
theorem render_documentAt (hmode : (s.render snapshot selected).1.mode = .application)
    (hmade : (s.render snapshot selected).1.failure? = none) (hsome : snapshot.loadable s.settings ≠ []) :
    documentAt? s.settings snapshot (s.render snapshot selected).2.registry.held =
      some (s.render snapshot selected).1.document := by
  obtain ⟨markup, modules, entry, compiled, document, -, hlength⟩ := render_made hmode hmade
  have hcount : 0 < modules.length := by
    rw [← (Snapshot.modules_ok compiled).length_eq]
    exact List.length_pos_iff.mpr hsome
  obtain ⟨a, rest, hheld⟩ := List.exists_cons_of_length_pos (hlength ▸ hcount)
  have htoken : passToken (s.render snapshot selected).2.registry (snapshot.selectionKey selected) =
      (s.render snapshot selected).2.registry.held.headD "" := by
    rw [passToken, hheld]
    rfl
  rw [htoken] at document
  simp only [documentAt?, entry, compiled, document]
  rfl

/-- Two tables have the same keys in the same order. A key leads in both to where it leads for the packages
from outside, or in both to the address that has a certain position in the list. -/
structure Corresponds (table table' : Table) (addresses addresses' : List String) : Prop where
  keys : table.entries.keys = table'.entries.keys
  leads : ∀ key,
    (table.get? key = Table.withExternals.get? key ∧ table'.get? key = Table.withExternals.get? key) ∨
    ∃ k, k < addresses.length ∧ table.get? key = addresses[k]? ∧ table'.get? key = addresses'[k]?

theorem tableAt_corresponds (h : addresses.length = modules.length)
    (h' : addresses'.length = modules.length) :
    Corresponds (tableAt modules addresses) (tableAt modules addresses') addresses addresses' := by
  refine ⟨Table.keys_putFiles_zip rfl _ (h.trans h'.symm), fun key => ?_⟩
  rcases Table.get?_putFiles_zip (modules.map (·.path)) key with hnone | ⟨k, hk⟩
  · exact Or.inl ⟨hnone _ _, hnone _ _⟩
  · rw [List.length_map] at hk
    exact Or.inr ⟨k, (hk .withExternals _ h).1, (hk .withExternals _ h).2, (hk .withExternals _ h').2⟩

/-! ## Two renderings -/

/-- **Two renderings of one application are alike up to their addresses**, whatever was done before with
the sessions and whatever is selected. They fail in the same way or not at all, and they list the same
imports as unresolved. If they do not fail and there are modules, both documents come from the addresses
that are in use after them by `documentAt?`: each address of the one has the place of the address of the
other with the same position, in the import table and as the token. -/
theorem renders_alike (hsettings : t.settings = s.settings)
    (hfirst : s.render snapshot selected = (r, after))
    (hsecond : t.render snapshot selected' = (r', after'))
    (hmode : r.mode = .application) (hmode' : r'.mode = .application) :
    r.failure? = r'.failure? ∧ r.unresolved = r'.unresolved ∧
    (r.failure? = none → snapshot.loadable s.settings ≠ [] →
      documentAt? s.settings snapshot after.registry.held = some r.document ∧
      documentAt? s.settings snapshot after'.registry.held = some r'.document ∧
      (∃ modules, snapshot.modules s.settings = .ok modules ∧
        after.registry.held.length = modules.length ∧ after'.registry.held.length = modules.length ∧
        Corresponds (tableAt modules after.registry.held) (tableAt modules after'.registry.held)
          after.registry.held after'.registry.held) ∧
      (after.registry.held = after'.registry.held → r.document = r'.document)) := by
  obtain ⟨rfl, rfl⟩ := Prod.ext_iff.mp hfirst
  obtain ⟨rfl, rfl⟩ := Prod.ext_iff.mp hsecond
  have hfailure : (s.render snapshot selected).1.failure? = (t.render snapshot selected').1.failure? := by
    rw [render_failure? hmode, render_failure? hmode', hsettings]
  refine ⟨hfailure, ?_, fun hmade hsome => ?_⟩
  · rw [render_unresolved hmode, render_unresolved hmode', hsettings]
  · have hmade' := hfailure.symm.trans hmade
    have hdocument := render_documentAt hmode hmade hsome
    have hdocument' := render_documentAt hmode' hmade' (hsettings ▸ hsome)
    obtain ⟨_, modules, _, compiled, _, _, hlength⟩ := render_made hmode hmade
    obtain ⟨_, modules', _, compiled', _, _, hlength'⟩ := render_made hmode' hmade'
    rw [hsettings] at hdocument' compiled'
    obtain rfl := Except.ok.inj (compiled.symm.trans compiled')
    refine ⟨hdocument, hdocument', ⟨modules, compiled, hlength, hlength',
      tableAt_corresponds hlength hlength'⟩, fun hheld => ?_⟩
    rw [hheld] at hdocument
    exact Option.some.inj (hdocument.symm.trans hdocument')

/-- A new session shows a small project, and so does another one, after it has shown it once and was closed,
and by another file: the documents differ in the one address. -/
theorem renders_alike_small :
    ∃ r after r' after', (new {} 0).render .small "a.css" = (r, after) ∧
      ((new {} 1).render .small "a.css").2.close.render .small "index.html" = (r', after') ∧
      r.unresolved = r'.unresolved ∧
      documentAt? {} .small ["blob:preview/0/0"] = some r.document ∧
      documentAt? {} .small ["blob:preview/1/1"] = some r'.document := by
  have hpass : ((new {} 0).render .small "a.css").1.mode = .application ∧
      ((new {} 0).render .small "a.css").1.failure? = none ∧
      ((new {} 0).render .small "a.css").2.registry.held = ["blob:preview/0/0"] := by
    decide +kernel
  have hagain :
      (((new {} 1).render .small "a.css").2.close.render .small "index.html").1.mode = .application ∧
      (((new {} 1).render .small "a.css").2.close.render .small "index.html").2.registry.held =
        ["blob:preview/1/1"] := by
    decide +kernel
  have hsettings : ((new {} 1).render .small "a.css").2.close.settings = (new {} 0).settings := by
    rw [close_settings, render_settings]
    rfl
  have hsome : Snapshot.small.loadable (new {} 0).settings ≠ [] := by
    rw [← List.length_pos_iff]
    decide +kernel
  generalize ((new {} 1).render .small "a.css").2.close = t at *
  rcases hfirst : (new {} 0).render .small "a.css" with ⟨r, after⟩
  rcases hsecond : t.render .small "index.html" with ⟨r', after'⟩
  rw [hfirst] at hpass
  rw [hsecond] at hagain
  obtain ⟨-, hunresolved, hdocuments⟩ := renders_alike hsettings hfirst hsecond hpass.1 hagain.1
  obtain ⟨hdocument, hdocument', -, -⟩ := hdocuments hpass.2.1 hsome
  rw [hpass.2.2] at hdocument
  rw [hagain.2] at hdocument'
  exact ⟨r, after, r', after', rfl, rfl, hunresolved, hdocument, hdocument'⟩

end Vitrine.Session
