import Mathlib.Data.List.Nodup
import Mathlib.Data.String.Basic
import Vitrine.Project.Change

/-!
# What a snapshot holds (section 3)

A list of files in order holds one content under each path, so looking a path up finds exactly what the list
holds (`get?_eq_some_iff`, `contains_iff`). Writing a file adds its path and no other (`mem_paths_put`), and
leaves the files of other paths as they are (`filter_put`).

The operations on a `ProjectSnapshot` are `insert`, `get`, `contains`, `paths` and `files`; keys go through
`normalize_key`.

A snapshot that starts empty and is written to by inserting files and applying changes (`Built`) holds
root-relative paths only. (One that is read from a text holds the paths that the text names, whatever they
are.)
-/

namespace Vitrine

namespace FileList

variable {files : FileList} {path content : String}

theorem Ordered.paths_nodup (h : files.Ordered) : (files.map (·.1)).Nodup :=
  List.pairwise_map.mpr (h.imp fun hlt => ne_of_lt hlt)

/-- There is one content under a path. -/
theorem Ordered.content_unique {content' : String} (h : files.Ordered) (hfile : (path, content) ∈ files)
    (hfile' : (path, content') ∈ files) : content = content' :=
  congrArg Prod.snd (List.inj_on_of_nodup_map h.paths_nodup hfile hfile' rfl)

/-- **What is found is what is there.** -/
theorem Ordered.get?_eq_some_iff (h : files.Ordered) :
    files.get? path = some content ↔ (path, content) ∈ files := by
  rw [get?, Option.map_eq_some_iff]
  constructor
  · rintro ⟨f, hfound, rfl⟩
    have hpath : f.1 = path := by simpa using List.find?_some hfound
    exact hpath ▸ List.mem_of_find?_eq_some hfound
  · intro hfile
    have hsome : (files.find? (·.1 == path)).isSome = true :=
      List.find?_isSome.mpr ⟨_, hfile, beq_self_eq_true path⟩
    obtain ⟨f, hfound⟩ := Option.isSome_iff_exists.mp hsome
    have hpath : f.1 = path := by simpa using List.find?_some hfound
    exact ⟨f, hfound, h.content_unique (hpath ▸ List.mem_of_find?_eq_some hfound) hfile⟩

theorem isSome_get?_iff : (files.get? path).isSome = true ↔ path ∈ files.map (·.1) := by
  rw [get?, Option.isSome_map, List.find?_isSome, List.mem_map]
  simp only [beq_iff_eq]

theorem get?_cons (path content key : String) (rest : FileList) :
    get? ((path, content) :: rest) key = if path = key then some content else rest.get? key := by
  rw [get?, List.find?_cons]
  by_cases hkey : path = key
  · rw [if_pos hkey, beq_iff_eq.mpr hkey]
    rfl
  · rw [if_neg hkey, beq_eq_false_iff_ne.mpr hkey]
    rfl

/-! ## Writing -/

/-- What is found after a file has been written. -/
theorem get?_put (path content key : String) (files : FileList) :
    (put path content files).get? key = if path = key then some content else files.get? key := by
  induction files with
  | nil => exact get?_cons path content key []
  | cons f files ih =>
    obtain ⟨p, c⟩ := f
    rw [put]
    split
    · exact get?_cons path content key _
    · split
      · rename_i hpath
        subst hpath
        rw [get?_cons, get?_cons]
        split <;> rfl
      · rename_i hpath
        rw [get?_cons, get?_cons, ih]
        by_cases hkey : p = key
        · subst hkey
          rw [if_pos rfl, if_pos rfl, if_neg hpath]
        · rw [if_neg hkey, if_neg hkey]

/-- Writing a file adds its path, if it is not there. -/
theorem mem_paths_put {p : String} :
    p ∈ (put path content files).map (·.1) ↔ p = path ∨ p ∈ files.map (·.1) := by
  rw [← isSome_get?_iff, get?_put, ← isSome_get?_iff]
  split_ifs with hp
  · exact iff_of_true rfl (.inl hp.symm)
  · exact (or_iff_right (Ne.symm hp)).symm

/-- Files that are told apart from the one that is written stay as they are. -/
theorem filter_put {keep : String → Bool} (h : keep path = false) (content : String) (files : FileList) :
    (put path content files).filter (keep ·.1) = files.filter (keep ·.1) := by
  induction files with
  | nil => simp [put, h]
  | cons f files ih =>
    obtain ⟨q, c⟩ := f
    rw [put]
    split
    · rw [List.filter_cons_of_neg (by simp [h])]
    · split
      · rename_i heq
        rw [List.filter_cons_of_neg (by simp [h]), List.filter_cons_of_neg (by simp [← heq, h])]
      · rw [List.filter_cons, List.filter_cons, ih]

end FileList

namespace Snapshot

variable {s : Snapshot} {path content : String}

/-- **What is found at a path** is what is there under it without the slashes in front. -/
theorem get?_eq_some_iff : s.get? path = some content ↔ (Path.rootRelative path, content) ∈ s.files :=
  s.ordered.get?_eq_some_iff

/-- A project has a path if it lists it without the slashes in front. -/
theorem contains_iff : s.contains path = true ↔ Path.rootRelative path ∈ s.paths :=
  FileList.isSome_get?_iff

/-! ## Built file by file -/

/-- The snapshot comes of inserting files and applying changes. -/
inductive Built : Snapshot → Prop
  | empty : Built Snapshot.empty
  | insert {s : Snapshot} (hs : Built s) (path content : String) : Built (s.insert path content)
  | apply {s : Snapshot} (hs : Built s) (changes : List Change) : Built (s.apply changes).1

theorem Built.insertAll (hs : s.Built) (files : List (String × String)) :
    Built (files.foldl (fun s f => s.insert f.1 f.2) s) := by
  induction files generalizing s with
  | nil => exact hs
  | cons f files ih => exact ih (hs.insert f.1 f.2)

/-- The files of a list make a built snapshot. -/
theorem built_ofList (files : List (String × String)) : Built (ofList files) :=
  Built.empty.insertAll files

/-! ## Root-relative paths -/

/-- Every path is root-relative. -/
def RootRelative (s : Snapshot) : Prop := ∀ f ∈ s.files, Path.IsRootRelative f.1

/-- Inserting drops slashes in front, so no such path comes in. -/
theorem RootRelative.insert (hs : s.RootRelative) (path content : String) :
    (s.insert path content).RootRelative := by
  intro f hf
  rcases FileList.mem_put hf with rfl | hf
  · exact Path.rootRelative_isRootRelative path
  · exact hs f hf

theorem RootRelative.applyOne (hs : s.RootRelative) (c : Change) : (s.applyOne c).RootRelative := by
  unfold Snapshot.applyOne
  split
  · exact hs
  · exact hs.insert c.path c.content

theorem RootRelative.apply (hs : s.RootRelative) (changes : List Change) :
    (s.apply changes).1.RootRelative := by
  induction changes generalizing s with
  | nil => exact hs
  | cons c changes ih => exact ih (hs.applyOne c)

/-- **A built snapshot holds root-relative paths only.** -/
theorem Built.rootRelative (hs : s.Built) : s.RootRelative := by
  induction hs with
  | empty => exact fun f hf => absurd hf List.not_mem_nil
  | insert _ path content ih => exact ih.insert path content
  | apply _ changes ih => exact ih.apply changes

end Snapshot

end Vitrine
