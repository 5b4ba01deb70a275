import Mathlib.Data.List.Forall2
import Mathlib.Data.List.Nodup
import Vitrine.Module
import Vitrine.Proofs.Project.ByteOrder
import Vitrine.Proofs.Project.Files

/-!
# The modules of a project (section 4.4)

The files of a project are compiled in the order of their paths, and the first script that cannot be
compiled stops everything. So there are two ends:

The modules are those of `compile_project`: `transpile_script` for scripts and `wrap_stylesheet` for
stylesheets.

* `modules_ok`: every file that is to become a module has become one, in its place.
* `modules_error_iff`: the failure is that of the broken script (`Snapshot.Broken`) whose path has the
  least bytes.

`modules_ok_iff` tells them apart: there are modules exactly if no script is broken.
-/

namespace Vitrine

/-! ## One file after the other -/

section Traversal

variable {α β ε : Type} {f : α → Except ε β} {x : α} {y : β} {e : ε}

theorem mapM_cons_error (h : f x = .error e) (xs : List α) : (x :: xs).mapM f = .error e := by
  rw [List.mapM_cons, h]
  rfl

theorem mapM_cons_ok (h : f x = .ok y) (xs : List α) :
    (x :: xs).mapM f = (xs.mapM f).map (y :: ·) := by
  rw [List.mapM_cons, h]
  cases xs.mapM f <;> rfl

/-- If all went well, each result is that of the member at its place. -/
theorem forall₂_of_mapM_ok {xs : List α} {ys : List β} (h : xs.mapM f = .ok ys) :
    List.Forall₂ (fun x y => f x = .ok y) xs ys := by
  induction xs generalizing ys with
  | nil =>
    obtain rfl : ys = [] := (Except.ok.inj h).symm
    exact .nil
  | cons x xs ih =>
    cases hx : f x with
    | error e =>
      rw [mapM_cons_error hx] at h
      exact absurd h nofun
    | ok y =>
      rw [mapM_cons_ok hx] at h
      cases hxs : xs.mapM f with
      | error e =>
        rw [hxs] at h
        exact absurd h nofun
      | ok zs =>
        rw [hxs] at h
        obtain rfl := Except.ok.inj h
        exact .cons hx (ih hxs)

/-- If something went wrong, it was at the first member that goes wrong. -/
theorem first_of_mapM_error {xs : List α} (h : xs.mapM f = .error e) :
    ∃ front x back, xs = front ++ x :: back ∧ f x = .error e ∧ ∀ y ∈ front, ∃ b, f y = .ok b := by
  induction xs with
  | nil => exact absurd h nofun
  | cons x xs ih =>
    cases hx : f x with
    | error e' =>
      rw [mapM_cons_error hx] at h
      obtain rfl := Except.error.inj h
      exact ⟨[], x, xs, rfl, hx, fun y hy => absurd hy List.not_mem_nil⟩
    | ok y =>
      rw [mapM_cons_ok hx] at h
      cases hxs : xs.mapM f with
      | ok ys =>
        rw [hxs] at h
        exact absurd h nofun
      | error e' =>
        rw [hxs] at h
        obtain rfl := Except.error.inj h
        obtain ⟨front, z, back, rfl, hz, hfront⟩ := ih hxs
        refine ⟨x :: front, z, back, rfl, hz, fun w hw => ?_⟩
        rcases List.mem_cons.mp hw with rfl | hw
        · exact ⟨y, hx⟩
        · exact hfront w hw

/-- Each member on the left has its counterpart on the right. -/
theorem exists_of_mem_left {R : α → β → Prop} {xs : List α} {ys : List β}
    (h : List.Forall₂ R xs ys) (hx : x ∈ xs) : ∃ y ∈ ys, R x y := by
  induction h with
  | nil => exact absurd hx List.not_mem_nil
  | @cons x' y xs ys hxy _ ih =>
    rcases List.mem_cons.mp hx with rfl | hx
    · exact ⟨y, List.mem_cons_self, hxy⟩
    · obtain ⟨z, hz, hr⟩ := ih hx
      exact ⟨z, List.mem_cons_of_mem _ hz, hr⟩

end Traversal

/-! ## One file -/

variable {settings : Settings} {snapshot : Snapshot} {path source : String} {failure : Failure}

namespace Module

/-- **What becomes of a script**: a failure that names its path, or a module that has its path. -/
theorem ofScript_cases (settings : Settings) (snapshot : Snapshot) (path source : String) :
    (∃ message, ofScript settings snapshot path source = .error (.brokenScript path message)) ∨
      ∃ code unresolved, ofScript settings snapshot path source =
        .ok { path, kind := .script, code, unresolved } := by
  cases hread : Script.Reading.ofText (dialectOf path) source.toList with
  | error faults =>
    refine Or.inl ⟨String.intercalate "\n" (faults.map (·.message)), ?_⟩
    rw [ofScript, hread]
    rfl
  | ok reading =>
    let linked := Import.linked snapshot path reading.program.specifiers source.toList
    cases hcode : Script.compile (dialectOf path) ((Path.stem path).getD "unknown") linked with
    | error faults =>
      refine Or.inl ⟨String.intercalate "\n" (faults.map (·.message)), ?_⟩
      simp only [ofScript, hread, bind, pure, Except.bind, Except.pure]
      rw [hcode]
      rfl
    | ok code =>
      refine Or.inr ⟨code, Import.unresolved settings snapshot path reading.program.specifiers, ?_⟩
      simp only [ofScript, hread, bind, pure, Except.bind, Except.pure]
      rw [hcode]

theorem ofFile_stylesheet (h : FileKind.ofPath settings path = .stylesheet) :
    ofFile settings snapshot path source = .ok (ofStylesheet path source) := by
  rw [ofFile, h]

theorem ofFile_script (h : FileKind.ofPath settings path = .script) :
    ofFile settings snapshot path source = ofScript settings snapshot path source := by
  rw [ofFile, h]

theorem ofFile_path {m : Module} (h : ofFile settings snapshot path source = .ok m) :
    m.path = path := by
  unfold ofFile at h
  split at h
  · obtain rfl := Except.ok.inj h
    rfl
  · rcases ofScript_cases settings snapshot path source with ⟨message, he⟩ | ⟨code, un, he⟩
    · exact absurd (h.symm.trans he) nofun
    · obtain rfl := Except.ok.inj (h.symm.trans he)
      rfl

end Module

/-! ## All files -/

namespace Snapshot

/-- A script of the project that cannot be compiled, and why. -/
def Broken (snapshot : Snapshot) (settings : Settings) (path : String) (failure : Failure) : Prop :=
  ∃ source, (path, source) ∈ snapshot.files ∧ FileKind.ofPath settings path = .script ∧
    Module.ofScript settings snapshot path source = .error failure

/-- The files that become modules are the scripts and the stylesheets. -/
theorem mem_loadable {f : String × String} :
    f ∈ snapshot.loadable settings ↔ f ∈ snapshot.files ∧
      (FileKind.ofPath settings f.1 = .script ∨ FileKind.ofPath settings f.1 = .stylesheet) := by
  rw [loadable, List.mem_filter]
  refine and_congr_right fun _ => ?_
  cases FileKind.ofPath settings f.1 <;> simp [FileKind.isLoadable]

theorem loadable_ordered (snapshot : Snapshot) (settings : Settings) :
    (snapshot.loadable settings).Ordered :=
  snapshot.ordered.sublist List.filter_sublist

/-- A file that is to become a module fails to exactly if it is a broken script. -/
theorem ofFile_error_iff {f : String × String} (hf : f ∈ snapshot.loadable settings) :
    Module.ofFile settings snapshot f.1 f.2 = .error failure ↔
      FileKind.ofPath settings f.1 = .script ∧
        Module.ofScript settings snapshot f.1 f.2 = .error failure := by
  rcases (mem_loadable.mp hf).2 with hkind | hkind
  · rw [Module.ofFile_script hkind]
    exact (and_iff_right hkind).symm
  · rw [Module.ofFile_stylesheet hkind, hkind]
    exact ⟨nofun, fun h => absurd h.1 nofun⟩

theorem Broken.mem_loadable (h : snapshot.Broken settings path failure) :
    ∃ source, (path, source) ∈ snapshot.loadable settings ∧
      Module.ofFile settings snapshot path source = .error failure := by
  obtain ⟨source, hm, hkind, hbroken⟩ := h
  exact ⟨source, Snapshot.mem_loadable.mpr ⟨hm, Or.inl hkind⟩,
    (Module.ofFile_script hkind).trans hbroken⟩

/-- A script is broken in one way. -/
theorem Broken.unique {failure' : Failure} (h : snapshot.Broken settings path failure)
    (h' : snapshot.Broken settings path failure') : failure = failure' := by
  obtain ⟨source, hm, -, hbroken⟩ := h
  obtain ⟨source', hm', -, hbroken'⟩ := h'
  obtain rfl := snapshot.ordered.content_unique hm hm'
  exact Except.error.inj (hbroken.symm.trans hbroken')

/-- What is said of a broken script names its path. -/
theorem Broken.eq_brokenScript (h : snapshot.Broken settings path failure) :
    ∃ message, failure = .brokenScript path message := by
  obtain ⟨source, -, -, hbroken⟩ := h
  rcases Module.ofScript_cases settings snapshot path source with ⟨message, he⟩ | ⟨code, un, he⟩
  · exact ⟨message, Except.error.inj (hbroken.symm.trans he)⟩
  · exact absurd (hbroken.symm.trans he) nofun

/-- **The first failure is that of the broken script with the least path**, in the order of bytes. -/
theorem least_of_modules_error (h : snapshot.modules settings = .error failure) :
    ∃ path, snapshot.Broken settings path failure ∧
      ∀ p g, snapshot.Broken settings p g → p = path ∨ utf8 path < utf8 p := by
  obtain ⟨front, f, back, hsplit, hf, hfront⟩ := first_of_mapM_error h
  have hmem : f ∈ snapshot.loadable settings := by
    rw [hsplit]
    exact List.mem_append_right _ List.mem_cons_self
  obtain ⟨hkind, hbroken⟩ := (ofFile_error_iff hmem).mp hf
  refine ⟨f.1, ⟨f.2, (Snapshot.mem_loadable.mp hmem).1, hkind, hbroken⟩, fun p g hp => ?_⟩
  obtain ⟨source, hm, hg⟩ := hp.mem_loadable
  have hordered := snapshot.loadable_ordered settings
  rw [hsplit] at hm hordered
  -- Nothing in front of the failing file is broken, and what is behind it has a greater path.
  rcases List.mem_append.mp hm with hm | hm
  · obtain ⟨m, hok⟩ := hfront _ hm
    exact absurd (hg.symm.trans hok) nofun
  · rcases List.mem_cons.mp hm with rfl | hm
    · exact Or.inl rfl
    · have hlt := (List.pairwise_cons.mp (List.pairwise_append.mp hordered).2.1).1 _ hm
      exact Or.inr (utf8_lt_iff.mpr hlt)

/-- **Every file that is to become a module becomes one, in its place.** -/
theorem modules_ok {modules : List Module} (h : snapshot.modules settings = .ok modules) :
    List.Forall₂ (fun f m => Module.ofFile settings snapshot f.1 f.2 = .ok m ∧ m.path = f.1)
      (snapshot.loadable settings) modules :=
  (forall₂_of_mapM_ok h).imp fun _ _ hm => ⟨hm, Module.ofFile_path hm⟩

theorem modules_ok_paths {modules : List Module} (h : snapshot.modules settings = .ok modules) :
    modules.map (·.path) = (snapshot.loadable settings).map (·.1) := by
  rw [← List.forall₂_eq_eq_eq, List.forall₂_map_left_iff, List.forall₂_map_right_iff]
  exact (modules_ok h).flip.imp fun _ _ hm => hm.2

/-- The modules are in the order of the bytes of their paths. -/
theorem modules_ok_ordered {modules : List Module} (h : snapshot.modules settings = .ok modules) :
    (modules.map (·.path)).Pairwise fun p q => utf8 p < utf8 q := by
  rw [modules_ok_paths h, List.pairwise_map]
  exact (snapshot.loadable_ordered settings).imp fun hlt => utf8_lt_iff.mpr hlt

/-- Of the paths of files that become modules, the one with the least bytes. -/
def LeastLoadable (snapshot : Snapshot) (settings : Settings) (path : String) : Prop :=
  path ∈ (snapshot.loadable settings).map (·.1) ∧
    ∀ q ∈ (snapshot.loadable settings).map (·.1), q = path ∨ utf8 path < utf8 q

/-- The first module has the least path, and no other module has this path. -/
theorem leastLoadable_head {m : Module} {rest : List Module}
    (compiled : snapshot.modules settings = .ok (m :: rest)) :
    snapshot.LeastLoadable settings m.path ∧
      ∀ n ∈ rest, n.path ∈ (snapshot.loadable settings).map (·.1) ∧ n.path ≠ m.path := by
  have hpaths := modules_ok_paths compiled
  have hordered := modules_ok_ordered compiled
  rw [List.map_cons] at hpaths hordered
  have hless := (List.pairwise_cons.mp hordered).1
  refine ⟨⟨hpaths ▸ List.mem_cons_self, fun q hq => ?_⟩, fun n hn => ⟨?_, fun he => ?_⟩⟩
  · rw [← hpaths] at hq
    exact (List.mem_cons.mp hq).imp_right (hless q)
  · exact hpaths ▸ List.mem_cons_of_mem _ (List.mem_map_of_mem hn)
  · exact absurd (he ▸ hless n.path (List.mem_map_of_mem hn)) (List.lt_irrefl _)

/-- **There are modules exactly if no script is broken.** -/
theorem modules_ok_iff :
    (∃ modules, snapshot.modules settings = .ok modules) ↔
      ∀ path failure, ¬ snapshot.Broken settings path failure := by
  constructor
  · rintro ⟨modules, h⟩ path failure hbroken
    obtain ⟨source, hm, he⟩ := hbroken.mem_loadable
    obtain ⟨m, -, hok, -⟩ := exists_of_mem_left (modules_ok h) hm
    exact absurd (he.symm.trans hok) nofun
  · intro hnone
    cases h : snapshot.modules settings with
    | ok modules => exact ⟨modules, rfl⟩
    | error failure =>
      obtain ⟨path, hbroken, -⟩ := least_of_modules_error h
      exact absurd hbroken (hnone path failure)

/-- The project fails in one way: as its broken script with the least path does. -/
theorem modules_error_iff :
    snapshot.modules settings = .error failure ↔
      ∃ path, snapshot.Broken settings path failure ∧
        ∀ p g, snapshot.Broken settings p g → p = path ∨ utf8 path < utf8 p := by
  refine ⟨least_of_modules_error, ?_⟩
  rintro ⟨path, hbroken, hleast⟩
  cases h : snapshot.modules settings with
  | ok modules => exact absurd hbroken (modules_ok_iff.mp ⟨modules, h⟩ path failure)
  | error failure' =>
    obtain ⟨path', hbroken', hleast'⟩ := least_of_modules_error h
    have hpath : path' = path := by
      rcases hleast _ _ hbroken' with he | hlt
      · exact he
      · rcases hleast' _ _ hbroken with he | hlt'
        · exact he.symm
        · exact absurd hlt' (List.lt_asymm hlt)
    subst hpath
    rw [hbroken'.unique hbroken]

/-- A small project: an entry document and a stylesheet. -/
def small : Snapshot := ofList [
  ("index.html", "<script type=module src=/index.tsx></script>"),
  ("a.css", "p \x7b\x7d")]

end Snapshot

end Vitrine
