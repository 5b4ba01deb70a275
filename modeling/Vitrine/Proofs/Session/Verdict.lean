import Vitrine.Proofs.Page.Application
import Vitrine.Proofs.Session.Pass

/-!
# Why an application fails (section 7)

A project can have several faults at once; the rendering of the application names one of them. The faults
are looked for in a fixed order: the entry document must be there, every script must compile, and the
entry document must have an injection point (`verdict?`). A fault of an earlier sort hides those of later
sorts, and of the broken scripts the one with the least path is named.

The order is that of `render_application`, and the faults are `MissingEntryDocument`, `TranspileFailure` and
`MissingInjectionPoint`.

* `render_failure?`: a rendering of the application fails as the verdict on its project says.
* `failure_precedence`: what that means for each sort of failure, and what a pass leaves behind that fails
  and one that does not.
-/

namespace Vitrine.Session

variable {s after : Session} {settings : Settings} {snapshot : Snapshot} {selected : String}
  {r : Rendering}

/-! ## Verdicts -/

/-- **What is wrong with a project that is to be shown**: its first fault, if it has one. -/
def verdict? (settings : Settings) (snapshot : Snapshot) : Option Failure :=
  match snapshot.get? settings.entryMarkupPath with
  | none => some (.missingEntryDocument settings.entryMarkupPath)
  | some markup =>
    match snapshot.modules settings with
    | .error failure => some failure
    | .ok _ =>
      if Page.HasInjectionPoint settings (Html.parse markup) then none else some (Page.missing settings)

/-- **A rendering of the application comes to the verdict on its project.** -/
theorem render_failure? (hmode : (s.render snapshot selected).1.mode = .application) :
    (s.render snapshot selected).1.failure? = verdict? s.settings snapshot := by
  cases s.render_outcome snapshot selected with
  | aside mode => exact absurd hmode mode
  | failed _ ending failed =>
    rw [failed, verdict?]
    cases ending with
    | missing entry =>
      rw [opened_settings] at entry
      rw [entry]
      rfl
    | broken entry compiled =>
      rw [opened_settings] at entry compiled
      rw [entry]
      simp only [compiled]
    | unplaced entry compiled made =>
      rw [opened_settings] at entry compiled
      obtain ⟨point, rfl⟩ := Page.application_error_iff.mp made
      rw [entry]
      simp only [compiled]
      exact (if_neg point).symm
  | made _ entry compiled document failure =>
    rw [failure, verdict?, entry]
    simp only [compiled]
    exact (if_pos (Page.application_ok document).1).symm

/-! ### Sorts of faults -/

theorem verdict?_missing (entry : snapshot.get? settings.entryMarkupPath = none) :
    verdict? settings snapshot = some (.missingEntryDocument settings.entryMarkupPath) := by
  rw [verdict?, entry]

theorem verdict?_broken {markup path : String} {failure : Failure}
    (entry : snapshot.get? settings.entryMarkupPath = some markup)
    (broken : snapshot.Broken settings path failure)
    (least : ∀ p g, snapshot.Broken settings p g → p = path ∨ Snapshot.utf8 path < Snapshot.utf8 p) :
    verdict? settings snapshot = some failure := by
  simp only [verdict?, entry, Snapshot.modules_error_iff.mpr ⟨path, broken, least⟩]

/-- Without broken scripts it is up to the entry document. -/
theorem verdict?_compiled {markup : String}
    (entry : snapshot.get? settings.entryMarkupPath = some markup)
    (sound : ∀ path failure, ¬ snapshot.Broken settings path failure) :
    verdict? settings snapshot =
      if Page.HasInjectionPoint settings (Html.parse markup) then none
      else some (Page.missing settings) := by
  obtain ⟨modules, compiled⟩ := Snapshot.modules_ok_iff.mpr sound
  simp only [verdict?, entry, compiled]

/-- With an entry document, a broken script is named, or it is up to the entry document. -/
theorem verdict?_entry {markup : String}
    (entry : snapshot.get? settings.entryMarkupPath = some markup) :
    (∃ path message, snapshot.Broken settings path (.brokenScript path message) ∧
        verdict? settings snapshot = some (.brokenScript path message)) ∨
      (∀ path failure, ¬ snapshot.Broken settings path failure) ∧
        verdict? settings snapshot =
          if Page.HasInjectionPoint settings (Html.parse markup) then none
          else some (Page.missing settings) := by
  cases hcompiled : snapshot.modules settings with
  | ok modules =>
    have sound := Snapshot.modules_ok_iff.mp ⟨modules, hcompiled⟩
    exact Or.inr ⟨sound, verdict?_compiled entry sound⟩
  | error failure =>
    obtain ⟨path, broken, least⟩ := Snapshot.modules_error_iff.mp hcompiled
    obtain ⟨message, rfl⟩ := broken.eq_brokenScript
    exact Or.inl ⟨path, message, broken, verdict?_broken entry broken least⟩

/-- No verdict finds fault with the settings, or with the writing of the page. -/
theorem verdict?_ne (settings : Settings) (snapshot : Snapshot) (message : String) :
    verdict? settings snapshot ≠ some (.invalidSettings message) ∧
      verdict? settings snapshot ≠ some (.unserializable message) := by
  cases entry : snapshot.get? settings.entryMarkupPath with
  | none =>
    rw [verdict?_missing entry]
    exact ⟨nofun, nofun⟩
  | some markup =>
    rcases verdict?_entry entry with ⟨path, message', -, hv⟩ | ⟨-, hv⟩
    · rw [hv]
      exact ⟨nofun, nofun⟩
    · rw [hv]
      split
      · exact ⟨nofun, nofun⟩
      · exact ⟨nofun, nofun⟩

theorem verdict?_missing_iff : (∃ path, verdict? settings snapshot = some (.missingEntryDocument path)) ↔
    snapshot.get? settings.entryMarkupPath = none := by
  cases entry : snapshot.get? settings.entryMarkupPath with
  | none => exact ⟨fun _ => rfl, fun _ => ⟨_, verdict?_missing entry⟩⟩
  | some markup =>
    refine ⟨fun ⟨path, hp⟩ => ?_, nofun⟩
    rcases verdict?_entry entry with ⟨path', message, -, hv⟩ | ⟨-, hv⟩
    · exact absurd (hp.symm.trans hv) nofun
    · rw [hv] at hp
      split at hp
      · exact absurd hp nofun
      · exact absurd hp nofun

theorem verdict?_broken_iff {markup : String}
    (entry : snapshot.get? settings.entryMarkupPath = some markup) :
    (∃ path message, verdict? settings snapshot = some (.brokenScript path message)) ↔
      ∃ path failure, snapshot.Broken settings path failure := by
  rcases verdict?_entry entry with ⟨path, message, broken, hv⟩ | ⟨sound, hv⟩
  · exact ⟨fun _ => ⟨path, _, broken⟩, fun _ => ⟨path, message, hv⟩⟩
  · refine ⟨fun ⟨path, message, hp⟩ => ?_, fun ⟨path, failure, hb⟩ => absurd hb (sound path failure)⟩
    rw [hv] at hp
    split at hp
    · exact absurd hp nofun
    · exact absurd hp nofun

theorem verdict?_unplaced_iff {markup : String}
    (entry : snapshot.get? settings.entryMarkupPath = some markup)
    (sound : ∀ path failure, ¬ snapshot.Broken settings path failure) :
    (∃ path script, verdict? settings snapshot = some (.missingInjectionPoint path script)) ↔
      ¬ Page.HasInjectionPoint settings (Html.parse markup) := by
  rw [verdict?_compiled entry sound]
  by_cases point : Page.HasInjectionPoint settings (Html.parse markup)
  · rw [if_pos point]
    exact ⟨nofun, fun hn => absurd point hn⟩
  · rw [if_neg point]
    exact ⟨fun _ => point, fun _ => ⟨_, _, rfl⟩⟩

/-! ## Passes that fail and passes that do not -/

/-- **A failed pass shows its diagnostic and leaves nothing.** -/
theorem Holds.render_failed (hs : s.Holds) {failure : Failure}
    (hf : (s.render snapshot selected).1.failure? = some failure) :
    (s.render snapshot selected).1.document = Page.diagnostic failure ∧
      (s.render snapshot selected).1.unresolved = [] ∧
      (s.render snapshot selected).2.registry.held = [] ∧
      (s.render snapshot selected).2.host.live = [] := by
  cases s.render_outcome snapshot selected with
  | aside _ none => exact absurd (none.symm.trans hf) nofun
  | failed _ ending failed document unresolved registry host =>
    obtain rfl := Option.some.inj (failed.symm.trans hf)
    refine ⟨document, unresolved, ?_, ?_⟩
    · rw [registry]
    · rw [host, (ending.holds hs.opened).close_live]
  | made _ _ _ _ none => exact absurd (none.symm.trans hf) nofun

/-- A rendering that does not show the application does not fail. -/
theorem render_failure?_aside (hmode : (s.render snapshot selected).1.mode ≠ .application) :
    (s.render snapshot selected).1.failure? = none := by
  cases s.render_outcome snapshot selected with
  | aside _ none => exact none
  | failed mode => exact absurd mode hmode
  | made mode => exact absurd mode hmode

/-- A rendering of the application that did not fail had a module for every loadable file. -/
theorem render_modules (hmode : (s.render snapshot selected).1.mode = .application)
    (hmade : (s.render snapshot selected).1.failure? = none) :
    ∃ modules, snapshot.modules s.settings = .ok modules := by
  obtain ⟨_, modules, _, compiled, -⟩ := render_made hmode hmade
  exact ⟨modules, compiled⟩

/-- **All or nothing, and the first fault first.** For every rendering of a reachable session:

* it never finds fault with the settings or with the writing of the page;
* for the application it misses the entry document exactly if there is none; with an entry document, a
  broken script is named exactly if there is one, and it is the one with the least path in the order of
  bytes; and if all scripts compile, the injection point is missed exactly if there is none, and otherwise
  nothing is;
* after a failure the document is its diagnostic, no import is reported and no address is in use;
* an application that does not fail had one module for each loadable file, in the order of paths. -/
theorem failure_precedence (hs : s.Reachable) (hr : s.render snapshot selected = (r, after)) :
    (∀ message, r.failure? ≠ some (.invalidSettings message) ∧
      r.failure? ≠ some (.unserializable message)) ∧
    (r.mode = .application →
      ((∃ path, r.failure? = some (.missingEntryDocument path)) ↔
        snapshot.get? s.settings.entryMarkupPath = none) ∧
      ∀ markup, snapshot.get? s.settings.entryMarkupPath = some markup →
        ((∃ path message, r.failure? = some (.brokenScript path message)) ↔
          ∃ path failure, snapshot.Broken s.settings path failure) ∧
        (∀ path failure, snapshot.Broken s.settings path failure →
          (∀ p g, snapshot.Broken s.settings p g →
            p = path ∨ Snapshot.utf8 path < Snapshot.utf8 p) →
          r.failure? = some failure) ∧
        ((∀ path failure, ¬ snapshot.Broken s.settings path failure) →
          ((∃ path script, r.failure? = some (.missingInjectionPoint path script)) ↔
            ¬ Page.HasInjectionPoint s.settings (Html.parse markup)) ∧
          (Page.HasInjectionPoint s.settings (Html.parse markup) → r.failure? = none))) ∧
    (∀ failure, r.failure? = some failure →
      r.document = Page.diagnostic failure ∧ r.unresolved = [] ∧ after.registry.held = [] ∧
        after.host.live = []) ∧
    (r.mode = .application → r.failure? = none →
      ∃ modules, snapshot.modules s.settings = .ok modules ∧
        List.Forall₂
          (fun f m => Module.ofFile s.settings snapshot f.1 f.2 = .ok m ∧ m.path = f.1)
          (snapshot.loadable s.settings) modules ∧
        (modules.map (·.path)).Pairwise fun p q => Snapshot.utf8 p < Snapshot.utf8 q) := by
  obtain rfl : (s.render snapshot selected).1 = r := by rw [hr]
  obtain rfl : (s.render snapshot selected).2 = after := by rw [hr]
  refine ⟨fun message => ?_, fun hmode => ?_, fun failure hf => hs.holds.render_failed hf,
    fun hmode hmade => ?_⟩
  · by_cases hmode : (s.render snapshot selected).1.mode = .application
    · rw [render_failure? hmode]
      exact verdict?_ne s.settings snapshot message
    · rw [render_failure?_aside hmode]
      exact ⟨nofun, nofun⟩
  · rw [render_failure? hmode]
    refine ⟨verdict?_missing_iff, fun markup entry => ⟨verdict?_broken_iff entry,
      fun path failure => verdict?_broken entry, fun sound => ⟨verdict?_unplaced_iff entry sound, ?_⟩⟩⟩
    intro point
    rw [verdict?_compiled entry sound, if_pos point]
  · obtain ⟨modules, compiled⟩ := render_modules hmode hmade
    exact ⟨modules, compiled, Snapshot.modules_ok compiled, Snapshot.modules_ok_ordered compiled⟩

/-- A project with three faults: two broken scripts, and no injection point. -/
def faulty : Snapshot := .ofList [("index.html", ""), ("b.ts", "let ="), ("a.ts", "let =")]

/-- Of three faults the first script is named. -/
theorem failure_precedence_faulty :
    ((Session.new {} 0).render faulty "b.ts").1.failure? =
        some (.brokenScript "a.ts" "Unexpected token") ∧
      ((Session.new {} 0).render faulty "b.ts").1.document =
        Page.diagnostic (.brokenScript "a.ts" "Unexpected token") ∧
      ((Session.new {} 0).render faulty "b.ts").2.host.live = [] := by
  have hfiles : faulty.files = [("a.ts", "let ="), ("b.ts", "let ="), ("index.html", "")] := by
    decide +kernel
  have hmode : ((Session.new {} 0).render faulty "b.ts").1.mode = .application := by decide +kernel
  have entry : faulty.get? (Session.new {} 0).settings.entryMarkupPath = some "" := by decide +kernel
  have broken : faulty.Broken (Session.new {} 0).settings "a.ts"
      (.brokenScript "a.ts" "Unexpected token") := by
    refine ⟨"let =", by rw [hfiles]; decide, by decide +kernel, by decide +kernel⟩
  have least : ∀ p g, faulty.Broken (Session.new {} 0).settings p g →
      p = "a.ts" ∨ Snapshot.utf8 "a.ts" < Snapshot.utf8 p := by
    rintro p g ⟨source, hm, hkind, -⟩
    rw [hfiles] at hm
    simp only [List.mem_cons, Prod.mk.injEq, List.not_mem_nil, or_false] at hm
    rcases hm with ⟨rfl, -⟩ | ⟨rfl, -⟩ | ⟨rfl, -⟩
    · exact Or.inl rfl
    · exact Or.inr (Snapshot.utf8_lt_iff.mpr (by decide))
    · exact Or.inr (Snapshot.utf8_lt_iff.mpr (by decide))
  obtain ⟨-, hfirst, hfailed, -⟩ := failure_precedence (.new {} 0)
    (Prod.eta ((Session.new {} 0).render faulty "b.ts")).symm
  have hf := ((hfirst hmode).2 "" entry).2.1 _ _ broken least
  obtain ⟨hdocument, -, -, hlive⟩ := hfailed _ hf
  exact ⟨hf, hdocument, hlive⟩

end Vitrine.Session
