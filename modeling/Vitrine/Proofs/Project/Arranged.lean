import Mathlib.Data.List.Nodup
import Vitrine.Proofs.Project.ByteOrder
import Vitrine.Proofs.Project.Folder

/-!
# How the tree of a project is arranged (section 10)

Putting a path into the tree makes folders only on the way to something, and the folder that it makes or goes
through gets that at once; so no folder stays empty. Names of one level differ within a sort, and the order in
which a level is shown is therefore strict.

The tree is what `tree` of a `ProjectSnapshot` gives: `insert` puts one path, and `sort` puts each level in
order.

* `Filled.put`: a path leaves no folder empty.
* `pairwise_mergeSort_before`: entries of different sorts or names ascend strictly once they are in order.
* `arranged_allSorted`: so does every level of a tree that has been put in order.
* `tree_arranged`: what stands in the tree stands in the paths, every path has its place in the tree, and all
  levels ascend.
-/

namespace Vitrine

namespace Entry

variable {a b : Entry} {dir : String} {way : List String} {entries inner : List Entry}

/-! ## No folder is empty -/

/-- There is something in every folder, however deep it lies. -/
inductive Filled : List Entry → Prop
  | intro {entries : List Entry} (filled : ∀ dir inner, folder dir inner ∈ entries → inner ≠ [])
      (inside : ∀ dir inner, folder dir inner ∈ entries → Filled inner) : Filled entries

theorem Filled.ne_nil (h : Filled entries) (hdir : folder dir inner ∈ entries) : inner ≠ [] := by
  cases h with
  | intro filled _ => exact filled dir inner hdir

/-- What is within a folder of a filled tree is filled. -/
theorem Filled.inside (h : Filled entries) (hdir : folder dir inner ∈ entries) : Filled inner := by
  cases h with
  | intro _ inside => exact inside dir inner hdir

theorem filled_empty : Filled [] :=
  .intro (fun _ _ h => absurd h List.not_mem_nil) fun _ _ h => absurd h List.not_mem_nil

/-- The contents of a folder are filled, whether or not the folder is there. -/
theorem Filled.contents (h : Filled entries) (dir : String) : Filled (contents dir entries) := by
  rcases contents_cases dir entries with hdir | ⟨hnone, -⟩
  · exact h.inside hdir
  · exact hnone ▸ filled_empty

/-- Putting a file leaves no folder empty on its way. -/
theorem put_ne_nil (hway : way ≠ []) (entries : List Entry) : put way entries ≠ [] := by
  obtain ⟨dir, rest, rfl⟩ := List.exists_cons_of_ne_nil hway
  by_cases hrest : rest = []
  · subst hrest
    rw [put_singleton]
    split
    · rename_i hany
      rintro rfl
      exact Bool.false_ne_true hany
    · exact List.append_ne_nil_of_right_ne_nil _ (List.cons_ne_nil _ _)
  · rw [put_cons hrest]
    rcases entries with _ | ⟨name | ⟨name, inner⟩, entries⟩
    · exact List.cons_ne_nil _ _
    · exact List.cons_ne_nil _ _
    · rw [atFolder]
      split <;> exact List.cons_ne_nil _ _

/-- **A path leaves no folder empty.** -/
theorem Filled.put (hfilled : Filled entries) (h : Distinct entries) (way : List String) :
    Filled (put way entries) := by
  induction way generalizing entries with
  | nil => exact hfilled
  | cons dir rest ih =>
    by_cases hrest : rest = []
    · subst hrest
      exact .intro (fun _ _ hd => hfilled.ne_nil (folder_mem_put.mp hd))
        fun _ _ hd => hfilled.inside (folder_mem_put.mp hd)
    · have hput : ∀ d inner, folder d inner ∈ Entry.put (dir :: rest) entries →
          folder d inner ∈ entries ∨ inner = Entry.put rest (Entry.contents dir entries) := by
        intro d inner hd
        rw [put_cons hrest] at hd
        by_cases hne : d = dir
        · subst hne
          exact .inr (h.folder_mem_atFolder.mp hd)
        · exact .inl ((folder_mem_atFolder_of_ne hne).mp hd)
      refine .intro (fun d inner hd => ?_) fun d inner hd => ?_
      · rcases hput d inner hd with hold | rfl
        · exact hfilled.ne_nil hold
        · exact put_ne_nil hrest _
      · rcases hput d inner hd with hold | rfl
        · exact hfilled.inside hold
        · exact ih (hfilled.contents dir) (h.contents dir)

theorem filled_grown (ways : List (List String)) : Filled (grown ways) := by
  induction ways using List.reverseRecOn with
  | nil => exact filled_empty
  | append_singleton ways way ih => exact grown_concat ways way ▸ ih.put (distinct_grown ways) way

/-! ## The order of a level -/

/-- A folder comes before a file, and of one sort what has the lesser name, byte by byte. -/
def Precedes (a b : Entry) : Prop :=
  a.isFolder = true ∧ b.isFolder = false ∨
    a.isFolder = b.isFolder ∧ Snapshot.utf8 a.name < Snapshot.utf8 b.name

/-- Folders come before files, and names decide otherwise. -/
theorem before_iff :
    before a b = true ↔
      a.isFolder = true ∧ b.isFolder = false ∨ a.isFolder = b.isFolder ∧ a.name ≤ b.name := by
  unfold before
  cases a.isFolder <;> cases b.isFolder <;> simp

/-- The order that is sorted by is transitive. -/
theorem before_trans (a b c : Entry) (hab : before a b = true) (hbc : before b c = true) :
    before a c = true := by
  rw [before_iff] at hab hbc ⊢
  rcases hab with ⟨ha, hb⟩ | ⟨hab, hle⟩
  · rcases hbc with ⟨hb', -⟩ | ⟨hbc, -⟩
    · exact absurd (hb.symm.trans hb') Bool.false_ne_true
    · exact .inl ⟨ha, hbc ▸ hb⟩
  · rcases hbc with ⟨hb, hc⟩ | ⟨hbc, hle'⟩
    · exact .inl ⟨hab.trans hb, hc⟩
    · exact .inr ⟨hab.trans hbc, le_trans hle hle'⟩

theorem before_total (a b : Entry) : (before a b || before b a) = true := by
  rw [Bool.or_eq_true, before_iff, before_iff]
  rcases Bool.eq_false_or_eq_true a.isFolder with ha | ha <;>
    rcases Bool.eq_false_or_eq_true b.isFolder with hb | hb <;>
    simp [ha, hb, le_total]

theorem Precedes.of_before (hab : before a b = true) (hne : (a.isFolder, a.name) ≠ (b.isFolder, b.name)) :
    Precedes a b := by
  refine (before_iff.mp hab).imp_right fun ⟨hkind, hle⟩ => ⟨hkind, Snapshot.utf8_lt_iff.mpr ?_⟩
  exact lt_of_le_of_ne hle fun hname => hne (Prod.ext hkind hname)

theorem Precedes.ne (h : Precedes a b) : (a.isFolder, a.name) ≠ (b.isFolder, b.name) := by
  intro heq
  obtain ⟨hkind, hname⟩ := Prod.mk.inj heq
  rcases h with ⟨ha, hb⟩ | ⟨-, hlt⟩
  · exact absurd (hb.symm.trans (hkind.symm.trans ha)) Bool.false_ne_true
  · exact lt_irrefl _ (hname ▸ Snapshot.utf8_lt_iff.mp hlt)

/-- **Entries that differ in sort or name ascend strictly** once they are in order. -/
theorem pairwise_mergeSort_before (h : (entries.map fun e => (e.isFolder, e.name)).Nodup) :
    (entries.mergeSort before).Pairwise Precedes := by
  have hle : (entries.mergeSort before).Pairwise fun a b => before a b = true :=
    List.pairwise_mergeSort before_trans before_total entries
  have hne : ((entries.mergeSort before).map fun e => (e.isFolder, e.name)).Nodup :=
    ((List.mergeSort_perm entries before).map _).nodup_iff.mpr h
  exact hle.imp₂ (fun _ _ => Precedes.of_before) (List.pairwise_map.mp hne)

/-! ## The order of a tree -/

/-- At every level the entries ascend strictly, and no folder is empty. -/
inductive Arranged : List Entry → Prop
  | intro {entries : List Entry} (ascend : entries.Pairwise Precedes)
      (filled : ∀ dir inner, folder dir inner ∈ entries → inner ≠ [])
      (inside : ∀ dir inner, folder dir inner ∈ entries → Arranged inner) : Arranged entries

/-- Order is strict, so it leaves no name twice. -/
theorem Arranged.distinct (h : Arranged entries) : Distinct entries := by
  induction h with
  | intro ascend _ _ ih => exact .intro (List.pairwise_map.mpr (ascend.imp Precedes.ne)) ih

/-- Sorting within an entry leaves its kind and its name. -/
theorem key_sorted (e : Entry) : (e.sorted.isFolder, e.sorted.name) = (e.isFolder, e.name) := by
  cases e with
  | file name => rw [sorted_file]
  | folder name inner =>
    rw [sorted_folder]
    rfl

theorem allSorted_eq_nil_iff : allSorted entries = [] ↔ entries = [] := by
  rw [allSorted, ← List.length_eq_zero_iff, List.length_mergeSort, List.length_map, List.length_eq_zero_iff]

/-- **A tree without empty folders and without names that stand twice is arranged** once it is in order. -/
theorem arranged_allSorted (h : Distinct entries) (hfilled : Filled entries) : Arranged (allSorted entries) := by
  induction h with
  | @intro entries keys _ ih =>
    have hkeys : ((entries.map sorted).map fun e => (e.isFolder, e.name)).Nodup := by
      simpa only [List.map_map, Function.comp_def, key_sorted] using keys
    refine .intro (pairwise_mergeSort_before hkeys) (fun dir inner hdir => ?_) fun dir inner hdir => ?_
    · obtain ⟨other, hother, rfl⟩ := folder_mem_allSorted.mp hdir
      exact fun hnil => hfilled.ne_nil hother (allSorted_eq_nil_iff.mp hnil)
    · obtain ⟨other, hother, rfl⟩ := folder_mem_allSorted.mp hdir
      exact ih dir other hother (hfilled.inside hother)

end Entry

namespace Snapshot

open Entry (Reaches LeadsOn)

variable {s : Snapshot} {names : List String}

/-- The names of what is shown are those that paths begin with. -/
theorem shown_iff :
    (∃ folders, Reaches folders names s.root.entries) ↔
      names ≠ [] ∧ ∃ p ∈ s.paths, names <+: segments p := by
  constructor
  · rintro ⟨folders, h⟩
    cases folders with
    | false =>
      obtain ⟨hne, p, hp, hsegments, -⟩ := file_shown_names.mp h
      exact ⟨hne, p, hp, hsegments ▸ List.prefix_refl names⟩
    | true =>
      obtain ⟨hne, p, hp, hprefix, -⟩ := folder_shown_iff.mp h
      exact ⟨hne, p, hp, hprefix⟩
  · rintro ⟨hne, p, hp, hprefix⟩
    by_cases hlead : ∃ r ∈ s.paths, LeadsOn names (segments r)
    · exact ⟨true, folder_shown_iff.mpr ⟨hne, hlead⟩⟩
    · -- No path goes on behind the names, so this one ends there, and nothing takes the place of its file.
      have hsegments : segments p = names := by
        by_contra hlonger
        exact hlead ⟨p, hp, hprefix, Ne.symm hlonger⟩
      refine ⟨false, file_shown_names.mpr ⟨hne, p, hp, hsegments, fun r hr _ hr' => hlead ⟨r, hr, hr'⟩⟩⟩

/-- **The tree of a project is sound and in order.** The names that lead to a file are the segments of a path,
and something is shown for every beginning of a path and for nothing else. No folder below the root is empty;
at every level folders come before files and names ascend byte by byte, so no level has two folders or two
files of one name. -/
theorem tree_arranged (s : Snapshot) :
    ∃ entries, s.root = .folder "root" entries ∧
      (∀ names, Reaches false names entries → ∃ p ∈ s.paths, segments p = names) ∧
      (∀ names, (∃ folders, Reaches folders names entries) ↔
        names ≠ [] ∧ ∃ p ∈ s.paths, names <+: segments p) ∧
      Entry.Arranged entries ∧ Entry.Distinct entries := by
  have hroot : s.root = .folder "root" s.root.entries := by
    rw [root, Entry.sorted_folder]
    rfl
  have harranged : Entry.Arranged s.root.entries := by
    rw [root_entries]
    exact Entry.arranged_allSorted (Entry.distinct_grown _) (Entry.filled_grown _)
  refine ⟨s.root.entries, hroot, fun names hfile => ?_, fun names => shown_iff, harranged, harranged.distinct⟩
  obtain ⟨-, p, hp, hsegments, -⟩ := file_shown_names.mp hfile
  exact ⟨p, hp, hsegments⟩

end Snapshot

end Vitrine
