import Mathlib.Data.List.Induction
import Mathlib.Data.List.Nodup
import Vitrine.Project.Folder
import Vitrine.Proofs.Project.Joined
import Vitrine.Proofs.Project.Files

/-!
# Which files the tree of a project shows (section 10)

The paths of a project are put into the tree one after the other. Each brings the folders on its way and, last,
a file, which is left out if there is something of its name already. A folder never is: it is told from a file
of its name. So whether a file is shown depends on which paths come first.

The tree is what `tree` of a `ProjectSnapshot` gives, path by path with `insert`.

* `reaches_folder_put`, `reaches_file_put`: what one path brings to the tree.
* `reaches_folder_grown`, `reaches_file_grown`: what the tree of some paths has.
* `file_shown_iff`: the file of a path is shown exactly if no path before it leads through a folder in its
  place. Only a path with an empty piece does that.
* `file_hidden`: a path before it that does.
-/

namespace Vitrine

namespace Entry

/-- What is in a folder. -/
def entries : Entry → List Entry
  | file _ => []
  | folder _ entries => entries

variable {folders : Bool} {n d dir : String} {names way rest : List String} {entries inner : List Entry}
variable {ways : List (List String)} {change : List Entry → List Entry}

/-! ## What is reached -/

/-- The names lead through folders to an entry: a folder, or else a file. -/
inductive Reaches (folders : Bool) : List String → List Entry → Prop
  | here {e : Entry} {entries : List Entry} (he : e ∈ entries) (hkind : e.isFolder = folders) :
      Reaches folders [e.name] entries
  | inside {dir : String} {names : List String} {entries inner : List Entry}
      (hdir : folder dir inner ∈ entries) (h : Reaches folders names inner) :
      Reaches folders (dir :: names) entries

theorem Reaches.ne_nil (h : Reaches folders names entries) : names ≠ [] := by
  cases h <;> exact List.cons_ne_nil _ _

theorem not_reaches_empty : ¬ Reaches folders names [] := by
  rintro (⟨he, -⟩ | ⟨hdir, -⟩)
  · exact absurd he List.not_mem_nil
  · exact absurd hdir List.not_mem_nil

/-- A file is reached at once, or in a folder. -/
theorem reaches_file_cons :
    Reaches false (d :: names) entries ↔
      (names = [] ∧ file d ∈ entries) ∨ ∃ inner, folder d inner ∈ entries ∧ Reaches false names inner := by
  constructor
  · intro h
    cases h with
    | @here e _ he hkind =>
      cases e with
      | file name => exact .inl ⟨rfl, he⟩
      | folder name inner => cases hkind
    | inside hdir h => exact .inr ⟨_, hdir, h⟩
  · rintro (⟨rfl, h⟩ | ⟨inner, hdir, h⟩)
    · exact .here h rfl
    · exact .inside hdir h

/-- A folder is reached at once, or in a folder. -/
theorem reaches_folder_cons :
    Reaches true (d :: names) entries ↔
      ∃ inner, folder d inner ∈ entries ∧ (names = [] ∨ Reaches true names inner) := by
  constructor
  · intro h
    cases h with
    | @here e _ he hkind =>
      cases e with
      | file name => cases hkind
      | folder name inner => exact ⟨inner, he, .inl rfl⟩
    | inside hdir h => exact ⟨_, hdir, .inr h⟩
  · rintro ⟨inner, hdir, rfl | h⟩
    · exact .here hdir rfl
    · exact .inside hdir h

/-- A way leads on behind the names. -/
def LeadsOn (names way : List String) : Prop := names <+: way ∧ names ≠ way

instance : Decidable (LeadsOn names way) := inferInstanceAs (Decidable (_ ∧ _))

theorem leadsOn_cons : LeadsOn (d :: names) (dir :: way) ↔ d = dir ∧ LeadsOn names way := by
  rw [LeadsOn, LeadsOn, List.cons_prefix_cons, and_assoc]
  refine and_congr_right fun hd => and_congr_right fun _ => ?_
  rw [hd, ne_eq, List.cons.injEq, and_iff_right rfl]

theorem not_leadsOn_nil : ¬ LeadsOn names [] := fun h => h.2 (List.prefix_nil.mp h.1)

/-- From here every way leads on that is not at its end. -/
theorem nil_leadsOn : LeadsOn [] way ↔ way ≠ [] := by
  rw [LeadsOn, and_iff_right List.nil_prefix, ne_comm]

/-! ## Names at one level -/

/-- At each level no two folders and no two files have one name. -/
inductive Distinct : List Entry → Prop
  | intro {entries : List Entry} (keys : (entries.map fun e => (e.isFolder, e.name)).Nodup)
      (inside : ∀ dir inner, folder dir inner ∈ entries → Distinct inner) : Distinct entries

theorem Distinct.keys (h : Distinct entries) : (entries.map fun e => (e.isFolder, e.name)).Nodup := by
  cases h
  assumption

theorem Distinct.inside (h : Distinct entries) (hdir : folder dir inner ∈ entries) : Distinct inner := by
  cases h with
  | intro _ inside => exact inside dir inner hdir

theorem distinct_empty : Distinct [] := .intro List.nodup_nil fun _ _ h => absurd h List.not_mem_nil

theorem Distinct.tail {e : Entry} (h : Distinct (e :: entries)) : Distinct entries :=
  .intro (List.nodup_cons.mp h.keys).2 fun _ _ hdir => h.inside (List.mem_cons_of_mem e hdir)

theorem Distinct.folder_notMem (h : Distinct (folder dir inner :: entries)) (other : List Entry) :
    folder dir other ∉ entries := by
  intro hmem
  have hkey : (true, dir) ∈ entries.map fun e => (e.isFolder, e.name) := List.mem_map_of_mem hmem
  exact (List.nodup_cons.mp h.keys).1 hkey

/-- What is in the folder called `dir`; nothing if there is none. -/
def contents (dir : String) : List Entry → List Entry
  | [] => []
  | folder name inner :: rest => if name = dir then inner else contents dir rest
  | file _ :: rest => contents dir rest

/-- The contents of a folder that is there. -/
theorem Distinct.contents_eq (h : Distinct entries) (hdir : folder dir inner ∈ entries) :
    contents dir entries = inner := by
  induction entries with
  | nil => exact absurd hdir List.not_mem_nil
  | cons e entries ih =>
    cases e with
    | file name => exact ih h.tail (by simpa using hdir)
    | folder name other =>
      rw [contents]
      split
      · rename_i hname
        subst hname
        simpa [h.folder_notMem, eq_comm] using hdir
      · rename_i hname
        exact ih h.tail (by simpa [Ne.symm hname] using hdir)

/-- A folder that is not there has no contents. -/
theorem contents_cases (dir : String) (entries : List Entry) :
    folder dir (contents dir entries) ∈ entries ∨
      contents dir entries = [] ∧ ∀ inner, folder dir inner ∉ entries := by
  induction entries with
  | nil => exact .inr ⟨rfl, fun _ => List.not_mem_nil⟩
  | cons e entries ih =>
    cases e with
    | file name => simpa [contents] using ih
    | folder name other =>
      rw [contents]
      split
      · rename_i hname
        exact .inl (hname ▸ List.mem_cons_self)
      · rename_i hname
        simpa [Ne.symm hname] using ih

theorem Distinct.contents (h : Distinct entries) (dir : String) : Distinct (contents dir entries) := by
  rcases contents_cases dir entries with hdir | ⟨hnone, -⟩
  · exact h.inside hdir
  · exact hnone ▸ distinct_empty

/-- What is reached within a folder is reached through it. -/
theorem Distinct.reaches_contents (h : Distinct entries) :
    Reaches folders names (Entry.contents dir entries) ↔
      ∃ inner, folder dir inner ∈ entries ∧ Reaches folders names inner := by
  constructor
  · intro hreach
    rcases contents_cases dir entries with hdir | ⟨hnone, -⟩
    · exact ⟨_, hdir, hreach⟩
    · exact absurd (hnone ▸ hreach) not_reaches_empty
  · rintro ⟨inner, hdir, hreach⟩
    exact h.contents_eq hdir ▸ hreach

/-! ## Changing one folder -/

/-- Changing a folder leaves the files beside it. -/
theorem file_mem_atFolder : file n ∈ atFolder dir change entries ↔ file n ∈ entries := by
  induction entries with
  | nil => simp [atFolder]
  | cons e entries ih =>
    cases e with
    | file name => simp [atFolder, ih]
    | folder name inner =>
      rw [atFolder]
      split <;> simp [ih]

/-- Changing a folder leaves the other folders. -/
theorem folder_mem_atFolder_of_ne (hne : d ≠ dir) :
    folder d inner ∈ atFolder dir change entries ↔ folder d inner ∈ entries := by
  induction entries with
  | nil => simp [atFolder, hne]
  | cons e entries ih =>
    cases e with
    | file name => simp [atFolder, ih]
    | folder name other =>
      rw [atFolder]
      split
      · rename_i hname
        simp [hname, hne]
      · simp [ih]

/-- The changed folder is there, and once. -/
theorem Distinct.folder_mem_atFolder (h : Distinct entries) :
    folder dir inner ∈ atFolder dir change entries ↔ inner = change (Entry.contents dir entries) := by
  induction entries with
  | nil => simp [atFolder, Entry.contents]
  | cons e entries ih =>
    cases e with
    | file name => simp [atFolder, Entry.contents, ih h.tail]
    | folder name other =>
      rw [atFolder, Entry.contents]
      split
      · rename_i hname
        subst hname
        simp [h.folder_notMem]
      · rename_i hname
        simp [Ne.symm hname, ih h.tail]

/-- Changing a folder adds one entry at most, the folder itself. -/
theorem keys_atFolder (dir : String) (change : List Entry → List Entry) (entries : List Entry) :
    ((atFolder dir change entries).map fun e => (e.isFolder, e.name)) =
        (entries.map fun e => (e.isFolder, e.name)) ∨
      (true, dir) ∉ (entries.map fun e => (e.isFolder, e.name)) ∧
        ((atFolder dir change entries).map fun e => (e.isFolder, e.name)) =
          (entries.map fun e => (e.isFolder, e.name)) ++ [(true, dir)] := by
  induction entries with
  | nil => exact .inr ⟨List.not_mem_nil, rfl⟩
  | cons e entries ih =>
    cases e with
    | file name => simpa [atFolder, isFolder, Entry.name] using ih
    | folder name other =>
      rw [atFolder]
      split
      · exact .inl rfl
      · rename_i hname
        simpa [isFolder, Entry.name, Ne.symm hname] using ih

/-- Names stay distinct if they do within the folder. -/
theorem Distinct.atFolder (h : Distinct entries) (hchange : Distinct (change (Entry.contents dir entries))) :
    Distinct (atFolder dir change entries) := by
  refine .intro ?_ fun d inner hd => ?_
  · rcases keys_atFolder dir change entries with hkeys | ⟨hnew, hkeys⟩
    · exact hkeys ▸ h.keys
    · rw [hkeys, ← List.concat_eq_append]
      exact h.keys.concat hnew
  · by_cases hne : d = dir
    · subst hne
      exact h.folder_mem_atFolder.mp hd ▸ hchange
    · exact h.inside ((folder_mem_atFolder_of_ne hne).mp hd)

/-! ## Putting one file -/

/-- A file is put at the end of a folder, unless the folder has an entry of its name. -/
theorem put_singleton : put [n] entries = if entries.any (·.name == n) then entries else entries ++ [file n] :=
  rfl

theorem put_cons (hne : rest ≠ []) : put (dir :: rest) entries = Entry.atFolder dir (put rest) entries := by
  cases rest with
  | nil => exact absurd rfl hne
  | cons d rest => rfl

/-- An entry of a name is a file or a folder. -/
theorem any_name_iff :
    entries.any (·.name == n) = true ↔ file n ∈ entries ∨ ∃ inner, folder n inner ∈ entries := by
  rw [List.any_eq_true]
  constructor
  · rintro ⟨e, he, hname⟩
    obtain rfl : e.name = n := by simpa using hname
    cases e with
    | file name => exact .inl he
    | folder name inner => exact .inr ⟨inner, he⟩
  · rintro (h | ⟨inner, h⟩)
    · exact ⟨_, h, by simp [Entry.name]⟩
    · exact ⟨_, h, by simp [Entry.name]⟩

/-- Putting a file keeps the names distinct. -/
theorem Distinct.put (h : Distinct entries) (way : List String) : Distinct (put way entries) := by
  induction way generalizing entries with
  | nil => exact h
  | cons dir rest ih =>
    by_cases hrest : rest = []
    · subst hrest
      rw [put_singleton]
      split
      · exact h
      · rename_i hany
        rw [any_name_iff, not_or] at hany
        refine .intro ?_ fun d inner hd => h.inside (by simpa using hd)
        have hnew : (false, dir) ∉ entries.map fun e => (e.isFolder, e.name) := by
          intro hmem
          obtain ⟨e, he, hkey⟩ := List.mem_map.mp hmem
          cases e with
          | file name => exact hany.1 ((Prod.mk.inj hkey).2 ▸ he)
          | folder name inner => cases (Prod.mk.inj hkey).1
        rw [List.map_append, List.map_singleton]
        exact List.concat_eq_append ▸ h.keys.concat hnew
    · rw [put_cons hrest]
      exact h.atFolder (ih (h.contents dir))

/-- **The folders that a path brings** are those on its way. -/
theorem reaches_folder_put (h : Distinct entries) :
    Reaches true names (put way entries) ↔
      Reaches true names entries ∨ names ≠ [] ∧ LeadsOn names way := by
  induction way generalizing entries names with
  | nil => simp [Entry.put, not_leadsOn_nil]
  | cons dir rest ih =>
    cases names with
    | nil => exact iff_of_false (fun h => h.ne_nil rfl) (by rintro (h | h); exacts [h.ne_nil rfl, h.1 rfl])
    | cons d names =>
      rw [and_iff_right (List.cons_ne_nil d names), leadsOn_cons]
      by_cases hrest : rest = []
      · subst hrest
        have hfolder (inner : List Entry) : folder d inner ∈ put [dir] entries ↔ folder d inner ∈ entries := by
          rw [put_singleton]
          split <;> simp
        simp only [reaches_folder_cons, hfolder, not_leadsOn_nil, and_false, or_false]
      · rw [put_cons hrest, reaches_folder_cons]
        by_cases hd : d = dir
        · subst hd
          simp only [h.folder_mem_atFolder, exists_eq_left, ih (h.contents d), h.reaches_contents,
            reaches_folder_cons, true_and]
          by_cases hnames : names = []
          · simp [hnames, nil_leadsOn, hrest]
          · simp [hnames]
        · simp only [folder_mem_atFolder_of_ne hd, reaches_folder_cons, hd, false_and, or_false]

/-- A file that is put into a folder is there, or another entry of its name is. -/
theorem file_mem_put : file d ∈ put [n] entries ↔
    file d ∈ entries ∨ d = n ∧ ∀ inner, folder d inner ∉ entries := by
  rw [put_singleton]
  split
  · rename_i hany
    rw [any_name_iff] at hany
    refine ⟨Or.inl, ?_⟩
    rintro (h | ⟨rfl, hnone⟩)
    · exact h
    · exact hany.resolve_right fun ⟨inner, h⟩ => hnone inner h
  · rename_i hany
    rw [any_name_iff, not_or, not_exists] at hany
    rw [List.mem_append, List.mem_singleton, file.injEq]
    refine or_congr_right (iff_self_and.mpr ?_)
    rintro rfl
    exact hany.2

theorem folder_mem_put : folder d inner ∈ put [n] entries ↔ folder d inner ∈ entries := by
  rw [put_singleton]
  split <;> simp

/-- **The file that a path brings** is its own, unless there is a folder in its place. -/
theorem reaches_file_put (h : Distinct entries) :
    Reaches false names (put way entries) ↔
      Reaches false names entries ∨ (names = way ∧ names ≠ []) ∧ ¬ Reaches true names entries := by
  induction way generalizing entries names with
  | nil => simp +contextual [Entry.put]
  | cons dir rest ih =>
    cases names with
    | nil => exact iff_of_false (fun h => h.ne_nil rfl) (by rintro (h | h); exacts [h.ne_nil rfl, h.1.2 rfl])
    | cons d names =>
      rw [and_iff_left (List.cons_ne_nil d names), List.cons.injEq]
      by_cases hrest : rest = []
      · subst hrest
        simp only [reaches_file_cons, reaches_folder_cons, file_mem_put, folder_mem_put]
        by_cases hnames : names = []
        · subst hnames
          simp only [true_and, and_true, true_or, not_exists]
          exact or_right_comm
        · simp only [hnames, false_and, false_or, and_false, or_false]
      · rw [put_cons hrest, reaches_file_cons, file_mem_atFolder]
        by_cases hd : d = dir
        · subst hd
          simp only [h.folder_mem_atFolder, exists_eq_left, ih (h.contents d), h.reaches_contents,
            reaches_file_cons, reaches_folder_cons, true_and, or_assoc]
          by_cases hnames : names = []
          · simp [hnames, Ne.symm hrest]
          · simp only [hnames, ne_eq, not_false_eq_true, and_true, false_or]
        · simp only [folder_mem_atFolder_of_ne hd, reaches_file_cons, hd, false_and, or_false]

/-! ## The tree of some paths -/

/-- What some paths make, one after the other. -/
def grown (ways : List (List String)) : List Entry := ways.foldl (fun entries way => put way entries) []

theorem grown_concat (ways : List (List String)) (way : List String) :
    grown (ways ++ [way]) = put way (grown ways) :=
  List.foldl_concat _ _ _ _

theorem distinct_grown (ways : List (List String)) : Distinct (grown ways) := by
  induction ways using List.reverseRecOn with
  | nil => exact distinct_empty
  | append_singleton ways way ih => exact grown_concat ways way ▸ ih.put way

/-- **The folders of a tree** are those on the ways of its paths. -/
theorem reaches_folder_grown :
    Reaches true names (grown ways) ↔ names ≠ [] ∧ ∃ way ∈ ways, LeadsOn names way := by
  induction ways using List.reverseRecOn with
  | nil => simpa [grown] using not_reaches_empty
  | append_singleton ways way ih =>
    rw [grown_concat, reaches_folder_put (distinct_grown ways), ih, ← and_or_left]
    simp [or_and_right, exists_or]

/-- **The files of a tree** are those of its paths that come before every path which leads on behind them. -/
theorem reaches_file_grown :
    Reaches false names (grown ways) ↔
      names ≠ [] ∧ ∃ front behind, ways = front ++ names :: behind ∧ ∀ way ∈ front, ¬ LeadsOn names way := by
  induction ways using List.reverseRecOn with
  | nil => simpa [grown] using not_reaches_empty
  | append_singleton ways way ih =>
    rw [grown_concat, reaches_file_put (distinct_grown ways), ih, reaches_folder_grown]
    constructor
    · rintro (⟨hne, front, behind, rfl, hfront⟩ | ⟨⟨rfl, hne⟩, hfolder⟩)
      · exact ⟨hne, front, behind ++ [way], by simp, hfront⟩
      · exact ⟨hne, ways, [], rfl, fun w hw hlead => hfolder ⟨hne, w, hw, hlead⟩⟩
    · rintro ⟨hne, front, behind, hways, hfront⟩
      rcases List.eq_nil_or_concat behind with rfl | ⟨behind, w, rfl⟩
      · obtain ⟨rfl, hlast⟩ := List.append_inj' hways rfl
        obtain rfl := (List.singleton_inj.mp hlast).symm
        exact .inr ⟨⟨rfl, hne⟩, fun ⟨_, w, hw, hlead⟩ => hfront w hw hlead⟩
      · rw [List.concat_eq_append, ← List.cons_append, ← List.append_assoc] at hways
        exact .inl ⟨hne, front, behind, (List.append_inj' hways rfl).1, hfront⟩

/-! ## In order -/

@[simp] theorem sorted_file : (file n).sorted = file n := by rw [sorted]

/-- Everything in a folder, in order. -/
def allSorted (entries : List Entry) : List Entry := (entries.map sorted).mergeSort before

@[simp] theorem sorted_folder : (folder dir entries).sorted = folder dir (allSorted entries) := by
  rw [sorted, allSorted, List.attach_map_val]

theorem file_mem_allSorted : file n ∈ allSorted entries ↔ file n ∈ entries := by
  rw [allSorted, List.mem_mergeSort, List.mem_map]
  constructor
  · rintro ⟨e, he, hsorted⟩
    cases e with
    | file name => simpa [← hsorted] using he
    | folder name inner => simp at hsorted
  · exact fun h => ⟨_, h, sorted_file⟩

/-- Sorting leaves the folders, and sorts within them. -/
theorem folder_mem_allSorted :
    folder dir inner ∈ allSorted entries ↔ ∃ other, folder dir other ∈ entries ∧ allSorted other = inner := by
  rw [allSorted, List.mem_mergeSort, List.mem_map]
  constructor
  · rintro ⟨e, he, hsorted⟩
    cases e with
    | file name => simp at hsorted
    | folder name other =>
      obtain ⟨rfl, rfl⟩ := folder.inj (sorted_folder.symm.trans hsorted)
      exact ⟨other, he, rfl⟩
  · rintro ⟨other, h, rfl⟩
    exact ⟨_, h, sorted_folder⟩

/-- Order hides nothing. -/
theorem reaches_allSorted : Reaches folders names (allSorted entries) ↔ Reaches folders names entries := by
  induction names generalizing entries with
  | nil => exact iff_of_false (fun h => h.ne_nil rfl) (fun h => h.ne_nil rfl)
  | cons d names ih =>
    cases folders with
    | false =>
      simp [reaches_file_cons, file_mem_allSorted, folder_mem_allSorted, ih]
    | true =>
      simp [reaches_folder_cons, folder_mem_allSorted, ih]

end Entry

/-! ## Ways of paths -/

namespace Path

/-- Between two parts of a path stands a slash. -/
theorem unpieces_append {ss ts : List (List Char)} (hs : ss ≠ []) (ht : ts ≠ []) :
    unpieces (ss ++ ts) = unpieces ss ++ '/' :: unpieces ts := by
  induction ss with
  | nil => exact absurd rfl hs
  | cons p ps ih =>
    cases ps with
    | nil =>
      obtain ⟨t, ts, rfl⟩ := List.exists_cons_of_ne_nil ht
      rfl
    | cons q ps =>
      have hrest := ih (List.cons_ne_nil q ps)
      simp only [List.cons_append, unpieces, List.append_assoc] at hrest ⊢
      rw [hrest]

/-- If no piece of a path is empty, each is a segment. -/
theorem segments_eq_pieces {path : List Char} (h : [] ∉ pieces path) : segments path = pieces path := by
  refine List.filter_eq_self.mpr fun p hp => ?_
  have hne : p ≠ [] := fun he => h (he ▸ hp)
  simpa using hne

/-- A path whose pieces go on behind those of another comes behind it. -/
theorem lt_of_pieces_prefix {p r : List Char} (h : pieces p <+: pieces r) (hne : pieces p ≠ pieces r) : p < r := by
  obtain ⟨rest, hrest⟩ := h
  have hnil : rest ≠ [] := by
    rintro rfl
    exact hne (by rw [← hrest, List.append_nil])
  have hlonger : r = p ++ '/' :: unpieces rest := by
    rw [← unpieces_pieces r, ← hrest, unpieces_append (pieces_ne_nil p) hnil, unpieces_pieces]
  have hlt : p ++ [] < p ++ '/' :: unpieces rest := List.append_left_lt List.Lex.nil
  rwa [List.append_nil, ← hlonger] at hlt

end Path

namespace Snapshot

open Entry (Reaches LeadsOn)

variable {s : Snapshot} {names : List String} {p r : String}

/-- The tree of a project grows with its paths in their order, and is sorted then. -/
theorem root_entries (s : Snapshot) :
    s.root.entries = Entry.allSorted (Entry.grown (s.paths.map segments)) := by
  rw [root, Entry.sorted_folder, Entry.entries, Entry.grown, List.foldl_map]

/-- **The folders that are shown** are those that paths lead through. -/
theorem folder_shown_iff :
    Reaches true names s.root.entries ↔ names ≠ [] ∧ ∃ p ∈ s.paths, LeadsOn names (segments p) := by
  rw [root_entries, Entry.reaches_allSorted, Entry.reaches_folder_grown]
  simp only [List.mem_map, exists_exists_and_eq_and]

/-- What comes before a member of an ascending list. -/
theorem mem_front_iff {front behind : List String} (h : (front ++ p :: behind).Pairwise (· < ·)) :
    r ∈ front ↔ r ∈ front ++ p :: behind ∧ r < p := by
  obtain ⟨-, hbehind, hlt⟩ := List.pairwise_append.mp h
  refine ⟨fun hr => ⟨List.mem_append_left _ hr, hlt r hr p List.mem_cons_self⟩, fun ⟨hr, hrp⟩ => ?_⟩
  rcases List.mem_append.mp hr with hr | hr
  · exact hr
  · rcases List.mem_cons.mp hr with rfl | hr
    · exact absurd hrp (lt_irrefl r)
    · exact absurd hrp (lt_asymm ((List.pairwise_cons.mp hbehind).1 r hr))

/-- **The files that are shown** are those of paths before which none leads on behind their names. -/
theorem file_shown_names :
    Reaches false names s.root.entries ↔
      names ≠ [] ∧ ∃ p ∈ s.paths, segments p = names ∧ ∀ r ∈ s.paths, r < p → ¬ LeadsOn names (segments r) := by
  have hordered : s.paths.Pairwise (· < ·) := List.pairwise_map.mpr s.ordered
  rw [root_entries, Entry.reaches_allSorted, Entry.reaches_file_grown]
  refine and_congr_right fun _ => ⟨?_, ?_⟩
  · rintro ⟨front, behind, hways, hfront⟩
    obtain ⟨ps, qs, hpaths, rfl, hqs⟩ := List.map_eq_append_iff.mp hways
    obtain ⟨p, qs, rfl, hp, -⟩ := List.map_eq_cons_iff.mp hqs
    rw [hpaths] at hordered ⊢
    refine ⟨p, by simp, hp, fun r hr hlt => hfront _ (List.mem_map_of_mem ?_)⟩
    exact (mem_front_iff hordered).mpr ⟨hr, hlt⟩
  · rintro ⟨p, hp, hsegments, hfirst⟩
    obtain ⟨ps, qs, hpaths⟩ := List.append_of_mem hp
    refine ⟨ps.map segments, qs.map segments, by rw [hpaths, List.map_append, List.map_cons, hsegments], ?_⟩
    rw [hpaths] at hordered hfirst
    rw [List.forall_mem_map]
    intro r hr
    obtain ⟨hmem, hlt⟩ := (mem_front_iff hordered).mp hr
    exact hfirst r hmem hlt

/-- A path that leads on behind another and comes before it owes that to an empty piece of one of them. -/
theorem empty_piece_of_leadsOn (h : LeadsOn (segments p) (segments r)) (hlt : r < p) :
    [] ∈ Path.pieces p.toList ∨ [] ∈ Path.pieces r.toList := by
  by_contra hnone
  obtain ⟨hp, hr⟩ := not_or.mp hnone
  have hinj : Function.Injective String.ofList := fun _ _ => String.ofList_inj.mp
  rw [segments, segments, Path.segments_eq_pieces hp, Path.segments_eq_pieces hr] at h
  obtain ⟨front, hprefix, hfront⟩ := List.prefix_map_iff.mp h.1
  obtain rfl := List.map_injective_iff.mpr hinj hfront
  have hpr : p < r := String.lt_iff_toList_lt.mpr
    (Path.lt_of_pieces_prefix hprefix fun he => h.2 (congrArg _ he))
  exact lt_asymm hlt hpr

/-- **When the tree shows the file of a path.** The file is in the folders that the path names exactly if some
path of the same names comes before all those that lead through a folder in its place. So the file of a path is
shown unless a path before it leads on behind its names, and then one of the two has an empty piece. -/
theorem file_shown_iff (s : Snapshot) : ∀ p ∈ s.paths, segments p ≠ [] →
    (Reaches false (segments p) s.root.entries ↔
      ∃ q ∈ s.paths, segments q = segments p ∧ ∀ r ∈ s.paths, r < q → ¬ LeadsOn (segments p) (segments r)) ∧
    (Reaches false (segments p) s.root.entries ∨
      ∃ r ∈ s.paths, r < p ∧ LeadsOn (segments p) (segments r) ∧
        ([] ∈ Path.pieces p.toList ∨ [] ∈ Path.pieces r.toList)) := by
  intro p hp hne
  have hshown : Reaches false (segments p) s.root.entries ↔ ∃ q ∈ s.paths, segments q = segments p ∧
      ∀ r ∈ s.paths, r < q → ¬ LeadsOn (segments p) (segments r) :=
    file_shown_names.trans (and_iff_right hne)
  refine ⟨hshown, ?_⟩
  by_cases hfirst : ∀ r ∈ s.paths, r < p → ¬ LeadsOn (segments p) (segments r)
  · exact .inl (hshown.mpr ⟨p, hp, rfl, hfirst⟩)
  · push Not at hfirst
    obtain ⟨r, hr, hlt, hlead⟩ := hfirst
    exact .inr ⟨r, hr, hlt, hlead, empty_piece_of_leadsOn hlead hlt⟩

/-- Two files, of which one has a folder in its place. -/
def doubled : Snapshot := ofList [("a//b/c", ""), ("a/b", "")]

/-- In this project nothing is in the way of `a//b/c`, so it is shown under its segments. -/
theorem file_shown_doubled :
    "a//b/c" ∈ doubled.paths ∧ segments "a//b/c" = ["a", "b", "c"] ∧
      Reaches false ["a", "b", "c"] doubled.root.entries := by
  have hp : "a//b/c" ∈ doubled.paths := by decide
  have hsegments : segments "a//b/c" = ["a", "b", "c"] := by decide
  have hshown := (file_shown_iff doubled "a//b/c" hp (by decide)).1
  rw [hsegments] at hshown
  exact ⟨hp, hsegments, hshown.mpr ⟨"a//b/c", hp, hsegments, by decide⟩⟩

/-- The file of a path that comes behind a folder of its name. -/
theorem file_hidden :
    doubled.Built ∧ "a/b" ∈ doubled.paths ∧ segments "a/b" = ["a", "b"] ∧
      ¬ Reaches false ["a", "b"] doubled.root.entries := by
  refine ⟨built_ofList _, by decide, by decide, ?_⟩
  rw [file_shown_names]
  decide

end Snapshot

end Vitrine
