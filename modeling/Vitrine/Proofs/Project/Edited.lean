import Mathlib.Data.List.Induction
import Vitrine.Proofs.Project.Files

/-!
# Snapshots through edits and decoded texts (sections 3 and 10)

Changes are written one after the other, so the last one for a key is the one that stays, and a change without
a key writes nothing. The first new path is looked for while the snapshot changes. But as long as no path was
new, every path that was written had been there, so the paths are still those from before: what is told is the
first path that was not there at the start.

`apply_changes` writes the changes, `insert` and `with_file` write one file, and decoding takes the keys as they
are; all but the last go through `normalize_key`.

* `get?_apply`, `apply_snd`: what is found under a key afterwards, and which path is told to be new.
* `apply_append`: changes in two calls.
* `changes_overlaid`: all of this together.

A snapshot is started anew, written to, or taken from a text (`Edit`). Writing makes paths root-relative, but
a text names its keys itself, and lookups drop the slashes in front of what they are asked for. So a file that
came with a slash in front is listed and not found.

* `slashed_edited`: the files with a slash in front are those of the text that was decoded last; nothing that
  is written later adds to them, changes or removes them.
* `listed_found_iff`: a file is found under its own path exactly if the path is root-relative, or a file with
  the same content is there without the slashes; and all listed files are in order exactly if no key of the
  text that was decoded last has a slash in front.
* `slashed_missed`: a file that is listed and not found.
-/

namespace Vitrine

/-! ## The last change for a key -/

namespace Change

/-- The last of some changes that writes under a key. -/
def last? (key : String) (changes : List Change) : Option Change := changes.reverse.find? (·.key == key)

variable {key : String} {changes : List Change} {c : Change}

theorem last?_concat (key : String) (changes : List Change) (c : Change) :
    last? key (changes ++ [c]) = if c.key = key then some c else last? key changes := by
  rw [last?, List.reverse_append, List.reverse_singleton, List.singleton_append, List.find?_cons]
  by_cases hkey : c.key = key
  · rw [if_pos hkey, beq_iff_eq.mpr hkey]
  · rw [if_neg hkey, beq_eq_false_iff_ne.mpr hkey]
    rfl

theorem isSome_last?_iff : (last? key changes).isSome = true ↔ ∃ c ∈ changes, c.key = key := by
  simp only [last?, List.find?_isSome, List.mem_reverse, beq_iff_eq]

end Change

namespace Snapshot

open Vitrine.Path (IsRootRelative)

variable {s : Snapshot} {c : Change} {key : String}

/-! ## One change -/

/-- A change is new if its key is not empty, and not listed yet. -/
theorem isNew_iff : s.isNew c = true ↔ c.key ≠ "" ∧ c.key ∉ s.paths := by
  rw [isNew, Bool.and_eq_true, Bool.not_eq_true', Bool.not_eq_true', ← Bool.not_eq_true, ← Bool.not_eq_true,
    String.isEmpty_iff, contains_iff]
  exact Iff.rfl

/-- A change sets the text under its key, and no other. -/
theorem get?_applyOne (s : Snapshot) (c : Change) (key : String) :
    (s.applyOne c).files.get? key =
      if c.key ≠ "" ∧ c.key = key then some c.content else s.files.get? key := by
  rw [applyOne]
  split_ifs with hempty hkey hkey
  · exact absurd (String.isEmpty_iff.mp hempty) hkey.1
  · rfl
  · exact (FileList.get?_put _ _ _ _).trans (if_pos hkey.2)
  · refine (FileList.get?_put _ _ _ _).trans (if_neg fun h => hkey ⟨?_, h⟩)
    exact fun hnil => hempty (String.isEmpty_iff.mpr hnil)

theorem mem_paths_iff : key ∈ s.paths ↔ (s.files.get? key).isSome = true := FileList.isSome_get?_iff.symm

/-- A change of a file that is there, or of none, leaves the paths as they are. -/
theorem mem_paths_applyOne (h : s.isNew c = false) : key ∈ (s.applyOne c).paths ↔ key ∈ s.paths := by
  rw [mem_paths_iff, get?_applyOne]
  split_ifs with hkey
  · rw [← Bool.not_eq_true, isNew_iff, not_and, not_not, hkey.2] at h
    exact iff_of_true rfl (h (hkey.2 ▸ hkey.1))
  · exact mem_paths_iff.symm

/-! ## Changes one after the other -/

theorem apply_cons (s : Snapshot) (c : Change) (rest : List Change) :
    s.apply (c :: rest) =
      (((s.applyOne c).apply rest).1, if s.isNew c then some c.key else ((s.applyOne c).apply rest).2) := rfl

/-- **Changes in two calls** write the same, and the first new path is that of the first call that has one. -/
theorem apply_append (s : Snapshot) (changes more : List Change) :
    s.apply (changes ++ more) =
      (((s.apply changes).1.apply more).1, (s.apply changes).2.or ((s.apply changes).1.apply more).2) := by
  induction changes generalizing s with
  | nil => rfl
  | cons c changes ih =>
    rw [List.cons_append, apply_cons, apply_cons, ih]
    split_ifs <;> rfl

theorem apply_concat (s : Snapshot) (changes : List Change) (c : Change) :
    (s.apply (changes ++ [c])).1 = (s.apply changes).1.applyOne c := by
  rw [apply_append]
  rfl

/-- **What is found under a key afterwards**: the content of its last change, or what was there. -/
theorem get?_apply (s : Snapshot) (changes : List Change) (key : String) :
    (s.apply changes).1.files.get? key =
      if key = "" then s.files.get? key
      else ((Change.last? key changes).map Change.content).or (s.files.get? key) := by
  induction changes using List.reverseRecOn with
  | nil => exact (ite_self _).symm
  | append_singleton changes c ih =>
    rw [apply_concat, get?_applyOne, ih, Change.last?_concat]
    by_cases hempty : key = ""
    · rw [if_pos hempty, if_pos hempty, if_neg fun h => h.1 (h.2.trans hempty)]
    · rw [if_neg hempty, if_neg hempty]
      by_cases hkey : c.key = key
      · rw [if_pos hkey, if_pos ⟨hkey ▸ hempty, hkey⟩]
        rfl
      · rw [if_neg hkey, if_neg fun h => hkey h.2]

theorem mem_paths_apply (s : Snapshot) (changes : List Change) (key : String) :
    key ∈ (s.apply changes).1.paths ↔ key ∈ s.paths ∨ key ≠ "" ∧ ∃ c ∈ changes, c.key = key := by
  rw [mem_paths_iff, get?_apply, mem_paths_iff (s := s)]
  split_ifs with hempty
  · simp [hempty]
  · rw [Option.isSome_or, Bool.or_eq_true, Option.isSome_map, Change.isSome_last?_iff, or_comm]
    exact or_congr_right (and_iff_right hempty).symm

/-- **The path that is told to be new** is that of the first change whose path was not there at the start. -/
theorem apply_snd (s : Snapshot) (changes : List Change) :
    (s.apply changes).2 = (changes.find? fun c => c.key ≠ "" ∧ c.key ∉ s.paths).map Change.key := by
  induction changes generalizing s with
  | nil => rfl
  | cons c changes ih =>
    rw [apply_cons, List.find?_cons]
    by_cases hnew : s.isNew c = true
    · rw [if_pos hnew, decide_eq_true (isNew_iff.mp hnew)]
      rfl
    · -- What has been written so far was there already, so `s.applyOne c` lacks what `s` lacks.
      have hpaths (key : String) : key ∈ (s.applyOne c).paths ↔ key ∈ s.paths :=
        mem_paths_applyOne (Bool.eq_false_iff.mpr hnew)
      rw [if_neg hnew, decide_eq_false fun h => hnew (isNew_iff.mpr h), ih]
      simp only [hpaths]

/-- **Changes lie over the project as it was.** Under each key but the empty one stands the content of the last
change for it, or else what stood there before; the empty key stays as it was, and no other keys come. The path
that is told is the key of the first change that has one which was not there before the call, and none is told
exactly if there is no such change. Two lists of changes in a row do what they do as one list. -/
theorem changes_overlaid (s : Snapshot) (changes : List Change) :
    (∀ key, (s.apply changes).1.files.get? key =
      if key = "" then s.files.get? key
      else ((Change.last? key changes).map Change.content).or (s.files.get? key)) ∧
    (∀ key, key ∈ (s.apply changes).1.paths ↔ key ∈ s.paths ∨ key ≠ "" ∧ ∃ c ∈ changes, c.key = key) ∧
    (s.apply changes).2 = (changes.find? fun c => c.key ≠ "" ∧ c.key ∉ s.paths).map Change.key ∧
    ((s.apply changes).2 = none ↔ ∀ c ∈ changes, c.key = "" ∨ c.key ∈ s.paths) ∧
    ∀ more, s.apply (changes ++ more) =
      (((s.apply changes).1.apply more).1, (s.apply changes).2.or ((s.apply changes).1.apply more).2) := by
  refine ⟨s.get?_apply changes, s.mem_paths_apply changes, s.apply_snd changes, ?_, s.apply_append changes⟩
  rw [apply_snd, Option.map_eq_none_iff, List.find?_eq_none]
  simp only [decide_eq_true_eq, not_and_or, not_not]

/-- A path that comes in two spellings is new once, and its last content stays. -/
example :
    let s := ofList [("a", "0")]
    let changes : List Change := [⟨"a", "1"⟩, ⟨"//", "x"⟩, ⟨"/b", "2"⟩, ⟨"c", "3"⟩, ⟨"b", "4"⟩]
    (s.apply changes).1.files = [("a", "1"), ("b", "4"), ("c", "3")] ∧ (s.apply changes).2 = some "b" := by
  decide

/-! ## Edits -/

/-- What makes one snapshot of another. A text replaces the whole snapshot; to collect files is to clear it and
to insert them. -/
inductive Edit where
  | clear
  | insert (path content : String)
  | apply (changes : List Change)
  | decode (text : String)

/-- The snapshot after an edit. A text that cannot be read leaves it as it is. -/
def edit (s : Snapshot) : Edit → Snapshot
  | .clear => empty
  | .insert path content => s.insert path content
  | .apply changes => (s.apply changes).1
  | .decode text =>
    match ofText text with
    | .ok decoded => decoded
    | .error _ => s

/-- The snapshot that some edits make from nothing. -/
def edited (edits : List Edit) : Snapshot := edits.foldl edit empty

/-- The entries of the text that was decoded last. -/
def Edit.decoded (entries : List (String × String)) : Edit → List (String × String)
  | .clear => []
  | .insert _ _ => entries
  | .apply _ => entries
  | .decode text =>
    match Json.readAll Json.readEntries text with
    | .ok entries => entries
    | .error _ => entries

/-- The entries of the text that the snapshot goes back to; none if it was started anew. -/
def decoded (edits : List Edit) : List (String × String) := edits.foldl Edit.decoded []

/-- The snapshot that holds some entries under their own keys. -/
def ofEntries (entries : List (String × String)) : Snapshot :=
  entries.foldl (fun s e => s.putRaw e.1 e.2) empty

/-- A project is decoded from an object of texts, whose entries are put one by one. -/
theorem ofText_eq (text : String) : ofText text = (Json.readAll Json.readEntries text).map ofEntries := rfl

/-! ## Files with a slash in front -/

/-- Whether a path has a slash in front. -/
def hasSlash (path : String) : Bool := path.toList.head? == some '/'

/-- The files whose paths have a slash in front. -/
def slashed (s : Snapshot) : FileList := s.files.filter (hasSlash ·.1)

/-- A path has a slash in front exactly if it is not root-relative. -/
theorem hasSlash_iff {path : String} : hasSlash path = true ↔ ¬ IsRootRelative path := by
  rw [hasSlash, beq_iff_eq, IsRootRelative, ne_eq, not_not]

theorem mem_slashed {f : String × String} : f ∈ s.slashed ↔ f ∈ s.files ∧ ¬ IsRootRelative f.1 := by
  rw [slashed, List.mem_filter, hasSlash_iff]

/-- Inserting puts a file under a root-relative path, so these files stay as they are. -/
theorem slashed_insert (s : Snapshot) (path content : String) :
    (s.insert path content).slashed = s.slashed := by
  have hpath : hasSlash (Path.rootRelative path) = false := by
    rw [← Bool.not_eq_true, hasSlash_iff, not_not]
    exact Path.rootRelative_isRootRelative path
  exact FileList.filter_put hpath content s.files

theorem slashed_applyOne (s : Snapshot) (c : Change) : (s.applyOne c).slashed = s.slashed := by
  unfold applyOne
  split
  · rfl
  · exact s.slashed_insert c.path c.content

theorem slashed_apply (s : Snapshot) (changes : List Change) : (s.apply changes).1.slashed = s.slashed := by
  induction changes generalizing s with
  | nil => rfl
  | cons c changes ih => exact (ih (s.applyOne c)).trans (s.slashed_applyOne c)

/-- One edit keeps the files with a slash in front, or brings those of its text. -/
theorem slashed_edit {entries : List (String × String)} (h : s.slashed = (ofEntries entries).slashed)
    (e : Edit) : (s.edit e).slashed = (ofEntries (e.decoded entries)).slashed := by
  cases e with
  | clear => rfl
  | insert path content => exact (s.slashed_insert path content).trans h
  | apply changes => exact (s.slashed_apply changes).trans h
  | decode text =>
    rw [edit, ofText_eq, Edit.decoded]
    cases Json.readAll Json.readEntries text with
    | ok entries => rfl
    | error _ => exact h

/-- **The files with a slash in front are those of the text that was decoded last.** -/
theorem slashed_edited (edits : List Edit) :
    (edited edits).slashed = (ofEntries (decoded edits)).slashed := by
  have hrun (edits : List Edit) {s : Snapshot} {entries : List (String × String)}
      (h : s.slashed = (ofEntries entries).slashed) :
      (edits.foldl edit s).slashed = (ofEntries (edits.foldl Edit.decoded entries)).slashed := by
    induction edits generalizing s entries with
    | nil => exact h
    | cons e edits ih => exact ih (slashed_edit h e)
  exact hrun edits rfl

/-! ## Keys of a text -/

theorem mem_paths_ofEntries {entries : List (String × String)} {p : String} :
    p ∈ (ofEntries entries).paths ↔ p ∈ entries.map (·.1) := by
  have hput (entries : List (String × String)) (s : Snapshot) :
      p ∈ (entries.foldl (fun s e => s.putRaw e.1 e.2) s).paths ↔ p ∈ s.paths ∨ p ∈ entries.map (·.1) := by
    induction entries generalizing s with
    | nil => simp
    | cons e entries ih =>
      rw [List.foldl_cons, ih, List.map_cons, List.mem_cons, ← or_assoc]
      exact or_congr_left (FileList.mem_paths_put.trans or_comm)
  rw [ofEntries, hput]
  exact or_iff_right List.not_mem_nil

theorem rootRelative_iff : s.RootRelative ↔ ∀ p ∈ s.paths, IsRootRelative p := by
  rw [RootRelative, paths, List.forall_mem_map]

theorem rootRelative_iff_slashed : s.RootRelative ↔ s.slashed = [] := by
  simp only [RootRelative, List.eq_nil_iff_forall_not_mem, mem_slashed, not_and, not_not]

/-- The paths are root-relative exactly if the keys of the text that was decoded last are. -/
theorem rootRelative_edited_iff (edits : List Edit) :
    (edited edits).RootRelative ↔ ∀ e ∈ decoded edits, IsRootRelative e.1 := by
  rw [rootRelative_iff_slashed, slashed_edited, ← rootRelative_iff_slashed, rootRelative_iff]
  simp only [mem_paths_ofEntries, List.forall_mem_map]

/-! ## Listed files and lookups -/

/-- The file that a listed file is looked up as: itself, or the one without the slashes. -/
theorem contains_listed_iff {f : String × String} (hf : f ∈ s.files) :
    s.contains f.1 = true ↔ IsRootRelative f.1 ∨ Path.rootRelative f.1 ∈ s.paths := by
  rw [contains_iff]
  refine ⟨Or.inr, fun h => h.elim (fun hroot => ?_) id⟩
  rw [Path.rootRelative_of_isRootRelative hroot]
  exact List.mem_map_of_mem hf

/-- A listed file is found under its path if this is root-relative, or leads to a file with the same text. -/
theorem get?_listed_iff {f : String × String} (hf : f ∈ s.files) :
    s.get? f.1 = some f.2 ↔ IsRootRelative f.1 ∨ (Path.rootRelative f.1, f.2) ∈ s.files := by
  rw [get?_eq_some_iff]
  refine ⟨Or.inr, fun h => h.elim (fun hroot => ?_) id⟩
  rw [Path.rootRelative_of_isRootRelative hroot]
  exact hf

/-- **When lookups see the listed files.** After any edits, a listed file is found under its own path exactly
if the path is root-relative or the project has the same content under the path without its slashes. The files
with a slash in front are those of the text that was decoded last, so all files are under root-relative paths,
and then found, exactly if the keys of that text are root-relative. -/
theorem listed_found_iff (edits : List Edit) :
    (∀ f ∈ (edited edits).files,
      ((edited edits).contains f.1 = true ↔
        IsRootRelative f.1 ∨ Path.rootRelative f.1 ∈ (edited edits).paths) ∧
      ((edited edits).get? f.1 = some f.2 ↔
        IsRootRelative f.1 ∨ (Path.rootRelative f.1, f.2) ∈ (edited edits).files)) ∧
    (∀ f, ¬ IsRootRelative f.1 → (f ∈ (edited edits).files ↔ f ∈ (ofEntries (decoded edits)).files)) ∧
    ((∀ f ∈ (edited edits).files, IsRootRelative f.1 ∧ (edited edits).contains f.1 = true ∧
        (edited edits).get? f.1 = some f.2) ↔
      ∀ e ∈ decoded edits, IsRootRelative e.1) := by
  refine ⟨fun f hf => ⟨contains_listed_iff hf, get?_listed_iff hf⟩, fun f hslash => ?_, ?_⟩
  · have hmem : f ∈ (edited edits).slashed ↔ f ∈ (ofEntries (decoded edits)).slashed := by
      rw [slashed_edited]
    rwa [mem_slashed, mem_slashed, and_iff_left hslash, and_iff_left hslash] at hmem
  · rw [← rootRelative_edited_iff]
    constructor
    · exact fun hall f hf => (hall f hf).1
    · intro hroot f hf
      exact ⟨hroot f hf, (contains_listed_iff hf).mpr (Or.inl (hroot f hf)),
        (get?_listed_iff hf).mpr (Or.inl (hroot f hf))⟩

/-- A file that is listed and not found. -/
theorem slashed_missed :
    let s := edited [.decode "\x7b\"/a\":\"x\"\x7d"]
    s.paths = ["/a"] ∧ s.contains "/a" = false ∧ s.get? "/a" = none := by
  decide +kernel

end Snapshot

end Vitrine
