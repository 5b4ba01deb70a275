import Vitrine.Module
import Vitrine.Project.Mode
import Vitrine.Proofs.Project.Joined

/-!
# What the extension of a path decides (section 4.1)

The kind of a file is read off the extension of its path, lowered (`ofPath_congr`). Lowering a path lowers its
extension, since neither slash nor dot is a letter (`extension_lowered`), and slashes in front stand before
the name of the file. So neither changes the kind.

`with_component_extension` adds the extension, `extension` and `of` tell the kind of a file, and `classify`
tells what is shown.

A further extension for scripts is asked for last, behind all that is built in and behind the other further
ones. So it makes scripts of files that were of no other kind, and of those only (`ofPath_withExtension`), and
what is shown for a selection never depends on it: for a script it is the application, as for a file of no other
kind.
-/

namespace Vitrine

/-! ## Extensions of paths -/

namespace Path

variable {path path' : String}

theorem fileName_lowered (path : String) : fileName (Text.lowered path) = Text.lowered (fileName path) := by
  rw [fileName, fileName, Text.lowered, String.toList_ofList, Text.lowered, String.toList_ofList,
    Text.reverse_lowerAscii, Text.takeWhile_lowerAscii (by decide), Text.reverse_lowerAscii]

theorem extension_lowered (path : String) :
    extension (Text.lowered path) = (extension path).map Text.lowered := by
  have hdot : Char.isAlpha '.' = false := by decide
  simp only [extension, fileName_lowered, Text.toList_lowered, Text.reverse_lowerAscii,
    Text.dropWhile_lowerAscii hdot, Text.takeWhile_lowerAscii hdot]
  rcases (fileName path).toList.reverse.dropWhile (· != '.') with _ | ⟨c, _ | ⟨d, rest⟩⟩
  · rfl
  · rfl
  · rw [Option.map_some, Text.lowered, String.toList_ofList]
    rfl

/-- The extension of a path is the given one, up to case. -/
def HasExtension (path ext : String) : Prop :=
  ∃ x, extension path = some x ∧ Text.equalIgnoringCase x ext = true

instance (path ext : String) : Decidable (HasExtension path ext) :=
  decidable_of_iff ((extension path).any (Text.equalIgnoringCase · ext) = true) (by
    rw [Option.any_eq_true]
    exact Iff.rfl)

/-- A path behind some slashes. -/
def behindSlashes : Nat → String → String
  | 0, path => path
  | n + 1, path => "/" ++ behindSlashes n path

end Path

/-! ## Kinds -/

/-- An extension without the dots in front of it. -/
def Settings.withoutDots (ext : String) : String := String.ofList (ext.toList.dropWhile (· == '.'))

namespace FileKind

variable {settings : Settings} {ext path path' x y : String}

/-- The case of an extension does not matter. -/
theorem isComponentExtension_congr (h : Text.lowered x = Text.lowered y) :
    settings.isComponentExtension x = settings.isComponentExtension y := by
  have hlower : Text.lowerAscii x.toList = Text.lowerAscii y.toList := String.ofList_inj.mp h
  simp only [Settings.isComponentExtension, Text.equalIgnoringCase, hlower]

/-- **The kind of a file depends on the lowered extension of its path only.** -/
theorem ofPath_congr
    (h : (Path.extension path).map Text.lowered = (Path.extension path').map Text.lowered) :
    ofPath settings path = ofPath settings path' := by
  rw [ofPath, ofPath]
  cases hx : Path.extension path with
  | none =>
    rw [hx, Option.map_none, eq_comm, Option.map_eq_none_iff] at h
    rw [h]
  | some x =>
    rw [hx, Option.map_some, eq_comm, Option.map_eq_some_iff] at h
    obtain ⟨y, hy, hlower⟩ := h
    simp only [hy, builtIn?, hlower, isComponentExtension_congr hlower]

theorem ofPath_behindSlashes (settings : Settings) (n : Nat) (path : String) :
    ofPath settings (Path.behindSlashes n path) = ofPath settings path := by
  induction n with
  | zero => rfl
  | succ n ih => exact (ofPath_slash settings _).trans ih

/-- One extension is added, without the dots in front of it. -/
theorem isComponentExtension_withExtension (settings : Settings) (ext x : String) :
    (settings.withComponentExtension ext).isComponentExtension x =
      (settings.isComponentExtension x || Text.equalIgnoringCase x (Settings.withoutDots ext)) := by
  rw [Settings.isComponentExtension, Settings.withComponentExtension, List.any_append, List.any_cons, List.any_nil,
    Bool.or_false, Text.equalIgnoringCase_comm x]
  rfl

/-- What is built in is of some kind. -/
theorem builtIn?_ne_other (x : String) : builtIn? x ≠ some .other := by
  unfold builtIn?
  split <;> exact nofun

theorem ofPath_of_builtIn {kind : FileKind} (hx : Path.extension path = some x) (hkind : builtIn? x = some kind) :
    ofPath settings path = kind := by
  simp only [ofPath, hx, hkind]

/-- Any other extension is that of a script if the settings say so. -/
theorem ofPath_of_further (hx : Path.extension path = some x) (hkind : builtIn? x = none) :
    ofPath settings path = if settings.isComponentExtension x then .script else .other := by
  simp only [ofPath, hx, hkind]

/-- A path has an extension in whatever case. -/
theorem hasExtension_iff (hx : Path.extension path = some x) :
    Path.HasExtension path ext ↔ Text.equalIgnoringCase x ext = true := by
  simp only [Path.HasExtension, hx, Option.some.injEq, exists_eq_left']

/-- **A further extension makes scripts of files of no other kind.** -/
theorem ofPath_withExtension (settings : Settings) (ext path : String) :
    ofPath (settings.withComponentExtension ext) path =
      if ofPath settings path = .other ∧ Path.HasExtension path (Settings.withoutDots ext) then .script
      else ofPath settings path := by
  cases hx : Path.extension path with
  | none =>
    have hnone : ¬ Path.HasExtension path (Settings.withoutDots ext) := by
      rintro ⟨x, hsome, -⟩
      exact nomatch hx.symm.trans hsome
    rw [if_neg fun h => hnone h.2, ofPath, ofPath, hx]
  | some x =>
    cases hkind : builtIn? x with
    | some kind =>
      have hne : kind ≠ .other := fun he => builtIn?_ne_other x (he ▸ hkind)
      rw [ofPath_of_builtIn hx hkind, ofPath_of_builtIn hx hkind, if_neg fun h => hne h.1]
    | none =>
      simp only [ofPath_of_further hx hkind, isComponentExtension_withExtension, hasExtension_iff hx]
      cases settings.isComponentExtension x <;> cases Text.equalIgnoringCase x (Settings.withoutDots ext) <;> rfl

/-- What becomes a module stays what becomes a module. -/
theorem isLoadable_withExtension (h : (ofPath settings path).isLoadable = true) :
    (ofPath (settings.withComponentExtension ext) path).isLoadable = true := by
  rw [ofPath_withExtension]
  split
  · rfl
  · exact h

end FileKind

/-! ## Selections -/

namespace Mode

variable {settings : Settings} {snapshot : Snapshot} {selected : String}

/-- One slash in front of a selection makes no difference. -/
theorem ofSelection_slash (settings : Settings) (snapshot : Snapshot) (selected : String) :
    ofSelection settings snapshot ("/" ++ selected) = ofSelection settings snapshot selected := by
  have hroot := Path.rootRelative_behind_slash selected
  have hcontains : snapshot.contains ("/" ++ selected) = snapshot.contains selected := by
    rw [Snapshot.contains, Snapshot.get?, hroot, Snapshot.contains, Snapshot.get?]
  have hentry : settings.isEntryMarkup ("/" ++ selected) = settings.isEntryMarkup selected := by
    rw [Settings.isEntryMarkup, hroot, Settings.isEntryMarkup]
  rw [ofSelection, ofSelection, hcontains, hentry, FileKind.ofPath_slash]

theorem ofSelection_behindSlashes (settings : Settings) (snapshot : Snapshot) (n : Nat) (selected : String) :
    ofSelection settings snapshot (Path.behindSlashes n selected) = ofSelection settings snapshot selected := by
  induction n with
  | zero => rfl
  | succ n ih => exact (ofSelection_slash settings snapshot _).trans ih

/-- **What is shown does not depend on further extensions.** -/
theorem ofSelection_withExtension (settings : Settings) (ext : String) (snapshot : Snapshot) (selected : String) :
    ofSelection (settings.withComponentExtension ext) snapshot selected =
      ofSelection settings snapshot selected := by
  have hentry : (settings.withComponentExtension ext).isEntryMarkup selected = settings.isEntryMarkup selected := rfl
  rw [ofSelection, ofSelection, FileKind.ofPath_withExtension, hentry]
  by_cases hother : FileKind.ofPath settings selected = .other ∧
      Path.HasExtension selected (Settings.withoutDots ext)
  · rw [if_pos hother, hother.1]
  · rw [if_neg hother]

/-- **Further extensions only add scripts.** With one more, a file of no other kind whose extension is that one,
without the dots in front and up to case, is a script, and every other file is of the kind that it was. So the
files that become modules are still among them, and the same is shown for every selection. Neither slashes in
front of a path nor the case of its ASCII letters, those of its extension among them, count for its kind, and
slashes in front do not count for what is shown either. -/
theorem extension_adds_scripts (settings : Settings) (ext : String) :
    (∀ path, FileKind.ofPath (settings.withComponentExtension ext) path =
      if FileKind.ofPath settings path = .other ∧ Path.HasExtension path (Settings.withoutDots ext) then .script
      else FileKind.ofPath settings path) ∧
    (∀ snapshot : Snapshot,
      (snapshot.loadable settings).Sublist (snapshot.loadable (settings.withComponentExtension ext))) ∧
    (∀ snapshot selected, ofSelection (settings.withComponentExtension ext) snapshot selected =
      ofSelection settings snapshot selected) ∧
    (∀ n path, FileKind.ofPath settings (Path.behindSlashes n path) = FileKind.ofPath settings path) ∧
    (∀ n snapshot selected, ofSelection settings snapshot (Path.behindSlashes n selected) =
      ofSelection settings snapshot selected) ∧
    (∀ path path', Text.equalIgnoringCase path path' = true →
      FileKind.ofPath settings path = FileKind.ofPath settings path') := by
  refine ⟨FileKind.ofPath_withExtension settings ext, fun snapshot => ?_, ofSelection_withExtension settings ext,
    FileKind.ofPath_behindSlashes settings, fun n snapshot => ofSelection_behindSlashes settings snapshot n,
    fun path path' hcase => FileKind.ofPath_congr ?_⟩
  · exact List.monotone_filter_right _ fun _ => FileKind.isLoadable_withExtension
  · rw [← Path.extension_lowered, ← Path.extension_lowered, Text.equalIgnoringCase_iff.mp hcase]

end Mode

end Vitrine
