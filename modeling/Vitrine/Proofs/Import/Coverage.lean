import Mathlib.Data.List.DropRight
import Vitrine.Import.Linking
import Vitrine.Module
import Vitrine.Proofs.Import.Table
import Vitrine.Proofs.Project.Joined
import Vitrine.Proofs.Project.Files

/-!
# What is covered by an import table (sections 4.4 and 4.5)

The table of a project covers the packages from outside and the files that become modules, each under its
path behind a slash (`Covered`). Linking knows this without the table: it looks whether the project holds
the file that a specifier leads to, and what kind of file that is. Both agree for every specifier, because
the key that a specifier leads to has exactly one slash in front (`resolve?_eq_some`), and this slash does
not change the kind (`willLoad_iff`).

`transpile_script` reports the specifiers that will not resolve while there is no `ImportMap` yet;
`resolve_modules` makes the map afterwards, of `with_externals` and `insert_internal`.
-/

namespace Vitrine.Import

variable {settings : Settings} {snapshot : Snapshot} {importer specifier key : String}

/-- The key of a package from outside, or of a file that becomes a module. -/
def Covered (settings : Settings) (snapshot : Snapshot) (key : String) : Prop :=
  isExternal key = true ∨ ∃ f ∈ snapshot.loadable settings, key = "/" ++ f.1

/-! ## Keys of specifiers -/

/-- A key: a root-relative path behind a slash. -/
def IsKey (key : String) : Prop := ∃ p, Path.IsRootRelative p ∧ key = "/" ++ p

/-- A key has one slash in front, and no second one. -/
theorem isKey_iff {key : String} :
    IsKey key ↔ ∃ cs, key.toList = '/' :: cs ∧ cs.head? ≠ some '/' := by
  constructor
  · rintro ⟨p, hp, rfl⟩
    exact ⟨p.toList, Path.toList_slash p, hp⟩
  · rintro ⟨cs, he, hcs⟩
    refine ⟨String.ofList cs, ?_, ?_⟩
    · rwa [Path.IsRootRelative, String.toList_ofList]
    · rw [← String.toList_inj, Path.toList_slash, String.toList_ofList, he]

/-- What is put behind a key leaves it a key. -/
theorem IsKey.append {behind : String} (h : IsKey key) (hbehind : Path.IsRootRelative behind) :
    IsKey (key ++ behind) := by
  obtain ⟨p, hp, rfl⟩ := h
  refine ⟨p ++ behind, ?_, String.append_assoc⟩
  rw [Path.IsRootRelative] at hp hbehind ⊢
  rw [String.toList_append]
  cases hcs : p.toList with
  | nil => exact hbehind
  | cons c cs =>
    rw [hcs] at hp
    exact hp

/-- Of a key more than one character is left without the slashes at its end, or nothing. -/
theorem IsKey.withoutSlash (h : IsKey key) : (withoutSlash key).toList = [] ∨
    ∃ c cs, (withoutSlash key).toList = '/' :: c :: cs ∧ c ≠ '/' := by
  obtain ⟨cs, he, hcs⟩ := isKey_iff.mp h
  have hlist : (Import.withoutSlash key).toList = ('/' :: cs).rdropWhile (· == '/') := by
    rw [Import.withoutSlash, String.toList_ofList, he]
    rfl
  rw [hlist]
  have hbegins := List.rdropWhile_prefix (fun c => c == '/') (l := '/' :: cs)
  cases hkept : ('/' :: cs).rdropWhile (· == '/') with
  | nil => exact Or.inl rfl
  | cons a kept =>
    rw [hkept] at hbegins
    obtain ⟨rfl, hrest⟩ := List.cons_prefix_cons.mp hbegins
    cases kept with
    | nil =>
      -- A slash alone would have been dropped too.
      have hlast := List.rdropWhile_last_not (fun c => c == '/') ('/' :: cs) (by simp [hkept])
      simp [hkept] at hlast
    | cons c kept =>
      obtain ⟨rest, rfl⟩ := hrest
      exact Or.inr ⟨c, kept, rfl, fun hc => hcs (by rw [hc]; rfl)⟩

/-- A file in the directory that a key names has a key. -/
theorem IsKey.inside {name : String} (h : IsKey key) (hname : Path.IsRootRelative name) :
    IsKey (Import.withoutSlash key ++ "/" ++ name) := by
  rw [isKey_iff, String.toList_append, String.toList_append]
  rcases h.withoutSlash with he | ⟨c, cs, he, hc⟩
  · rw [he]
    exact ⟨name.toList, rfl, hname⟩
  · rw [he]
    exact ⟨_, rfl, by simpa using hc⟩

theorem isKey_of_mem_candidates {candidate : String} (h : IsKey key)
    (hc : candidate ∈ candidates key) : IsKey candidate := by
  rw [candidates, List.mem_append, List.mem_cons] at hc
  rcases hc with (rfl | hc) | hc
  · exact h
  · obtain ⟨ext, -, rfl⟩ := List.mem_map.mp hc
    rw [String.append_assoc]
    exact h.append (by simp [Path.IsRootRelative])
  · obtain ⟨ext, -, rfl⟩ := List.mem_map.mp hc
    have hindex : "/index." = "/" ++ "index." := by decide
    rw [hindex, ← String.append_assoc, String.append_assoc]
    exact h.inside (by simp [Path.IsRootRelative])

theorem isKey_chosen (snapshot : Snapshot) (h : IsKey key) : IsKey (chosen snapshot key) := by
  rw [chosen]
  cases hfound : (candidates key).find? snapshot.contains with
  | none => exact h
  | some candidate => exact isKey_of_mem_candidates h (List.mem_of_find?_eq_some hfound)

theorem isKey_writtenPath (h : writtenPath? importer specifier = some key) : IsKey key := by
  unfold writtenPath? at h
  split at h
  · obtain rfl := Option.some.inj h
    exact Path.join_eq _ _
  · split at h
    · obtain rfl := Option.some.inj h
      exact Path.join_eq _ _
    · exact absurd h nofun

/-- **A specifier of a file leads to a key.** -/
theorem isKey_of_resolve? (h : resolve? importer specifier snapshot = some key) : IsKey key := by
  obtain ⟨path, hpath, rfl⟩ := Option.map_eq_some_iff.mp h
  exact isKey_chosen snapshot (isKey_writtenPath hpath)

/-- The specifier of a package has no slash in front. -/
theorem ne_slash_of_resolve? (h : resolve? importer specifier snapshot = none) (p : String) :
    specifier ≠ "/" ++ p := by
  rintro rfl
  have hslash : startsWith "/" ("/" ++ p) = true := by
    rw [startsWith, Path.toList_slash]
    exact List.isPrefixOf_cons_cons_self.trans rfl
  rw [resolve?, Option.map_eq_none_iff, writtenPath?, if_pos hslash] at h
  split at h
  · exact absurd h nofun
  · exact absurd h nofun

/-! ## Keys of tables -/

theorem Table.contains_iff {table : Table} : table.contains key = true ↔ key ∈ table.entries.keys := by
  rw [contains, get?, Entries.get?, Option.isSome_map, List.find?_isSome, Entries.keys, List.mem_map]
  simp only [beq_iff_eq]

theorem isExternal_iff : isExternal key = true ↔ key ∈ Entries.keys externals := by
  rw [isExternal, List.any_eq_true, Entries.keys, List.mem_map]
  simp only [beq_iff_eq]

/-! ## Agreement with the table -/

theorem IsKey.not_isExternal (h : IsKey key) : ¬ isExternal key = true := by
  obtain ⟨p, -, rfl⟩ := h
  rw [isExternal_iff]
  exact slash_notMem_externals p

/-- The project holds the file of a key. -/
theorem contains_slash_iff {p : String} (hp : Path.IsRootRelative p) :
    snapshot.contains ("/" ++ p) = true ↔ ∃ f ∈ snapshot.files, f.1 = p := by
  rw [Snapshot.contains_iff, Path.rootRelative_slash hp, Snapshot.paths, List.mem_map]

/-- **Linking knows what the table will cover.** -/
theorem willLoad_iff : willLoad settings snapshot importer specifier = true ↔
    Covered settings snapshot (target importer specifier snapshot) := by
  rw [willLoad, target, Covered]
  cases hresolve : resolve? importer specifier snapshot with
  | none =>
    refine (or_iff_left ?_).symm
    rintro ⟨f, -, he⟩
    exact ne_slash_of_resolve? hresolve f.1 he
  | some key =>
    have hkey := isKey_of_resolve? hresolve
    refine Iff.trans ?_ (or_iff_right hkey.not_isExternal).symm
    obtain ⟨p, hp, rfl⟩ := hkey
    rw [Bool.and_eq_true, contains_slash_iff hp, FileKind.ofPath_slash]
    simp only [Snapshot.loadable, List.mem_filter, Option.getD_some, slash_append_inj]
    constructor
    · rintro ⟨⟨f, hf, rfl⟩, hkind⟩
      exact ⟨f, ⟨hf, hkind⟩, rfl⟩
    · rintro ⟨f, ⟨hf, hkind⟩, rfl⟩
      exact ⟨⟨f, hf, rfl⟩, hkind⟩

/-- **What is unresolved is what the table does not cover**, each key once and in the order in which the
specifiers come. -/
theorem unresolved_eq (settings : Settings) (snapshot : Snapshot) (importer : String)
    (found : List Script.Quote) {covers : String → Bool}
    (hcovers : ∀ key, covers key = true ↔ Covered settings snapshot key) :
    unresolved settings snapshot importer found =
      ((found.map fun q => target importer q.value.toText snapshot).filter fun key =>
        !covers key).eraseDups := by
  have hagree : ∀ s, willLoad settings snapshot importer s = covers (target importer s snapshot) :=
    fun s => Bool.eq_iff_iff.mpr (willLoad_iff.trans (hcovers _).symm)
  have hmap : found.map (fun q => target importer q.value.toText snapshot) =
      (found.map (·.value.toText)).map (target importer · snapshot) := by
    rw [List.map_map]
    rfl
  rw [unresolved, hmap, List.filter_map (f := (target importer · snapshot))]
  simp only [hagree, Function.comp_def]

/-- A script reports what its specifiers lead to, less what is covered. -/
theorem mem_unresolved_iff {found : List Script.Quote} :
    key ∈ unresolved settings snapshot importer found ↔
      (∃ q ∈ found, target importer q.value.toText snapshot = key) ∧ ¬ Covered settings snapshot key := by
  simp only [unresolved, List.mem_eraseDups, List.mem_map, List.mem_filter, Bool.not_eq_true',
    ← Bool.not_eq_true, willLoad_iff]
  constructor
  · rintro ⟨s, ⟨⟨q, hq, rfl⟩, hno⟩, rfl⟩
    exact ⟨⟨q, hq, rfl⟩, hno⟩
  · rintro ⟨⟨q, hq, rfl⟩, hno⟩
    exact ⟨_, ⟨⟨q, hq, rfl⟩, hno⟩, rfl⟩

end Vitrine.Import
