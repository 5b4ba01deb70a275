import Vitrine.Project.Kind

/-!
# Snapshots of a project (section 3)

A snapshot holds the content of every file under its path, in the order of the paths. Files are put
and looked up by their root-relative paths.

The order is part of the type: every listing, the fingerprint of the project and the order of its
modules rest on it.

A snapshot is a `ProjectSnapshot`, with `insert`, `get`, `contains`, `paths` and `files`.
-/

namespace Vitrine

/-- Files by path. -/
abbrev FileList := List (String × String)

namespace FileList

/-- Paths ascend strictly. -/
def Ordered (files : FileList) : Prop := files.Pairwise fun a b => a.1 < b.1

/-- Writes a file at its place in the order, over an old one of the same path. -/
def put (path content : String) : FileList → FileList
  | [] => [(path, content)]
  | (p, c) :: rest =>
    if path < p then (path, content) :: (p, c) :: rest
    else if path = p then (path, content) :: rest
    else (p, c) :: put path content rest

/-- The content under a path. -/
def get? (files : FileList) (path : String) : Option String :=
  (files.find? (·.1 == path)).map (·.2)

theorem mem_put {path content : String} {files : FileList} {f : String × String}
    (h : f ∈ put path content files) : f = (path, content) ∨ f ∈ files := by
  induction files with
  | nil => simpa [put] using h
  | cons g rest ih =>
    obtain ⟨p, c⟩ := g
    simp only [put] at h
    split at h
    · simpa using h
    · split at h
      · rcases List.mem_cons.1 h with h | h
        · exact .inl h
        · exact .inr (List.mem_cons_of_mem _ h)
      · rcases List.mem_cons.1 h with h | h
        · exact .inr (h ▸ List.mem_cons_self)
        · exact (ih h).imp id (List.mem_cons_of_mem _)

theorem Ordered.put {files : FileList} (h : Ordered files) (path content : String) :
    Ordered (put path content files) := by
  induction files with
  | nil => exact List.pairwise_singleton _ _
  | cons g rest ih =>
    obtain ⟨p, c⟩ := g
    obtain ⟨hp, hr⟩ := List.pairwise_cons.1 h
    simp only [FileList.put]
    split
    · rename_i hlt
      refine List.pairwise_cons.2 ⟨fun f hf => ?_, h⟩
      rcases List.mem_cons.1 hf with rfl | hf
      · exact hlt
      · exact String.lt_trans hlt (hp f hf)
    · split
      · rename_i heq
        subst heq
        exact List.pairwise_cons.2 ⟨hp, hr⟩
      · rename_i hlt hne
        refine List.pairwise_cons.2 ⟨fun f hf => ?_, ih hr⟩
        rcases mem_put hf with rfl | hf
        · exact Decidable.byContradiction fun h =>
            hne (String.le_antisymm (String.not_lt.1 h) (String.not_lt.1 hlt))
        · exact hp f hf

end FileList

/-- All files of a project at one moment. -/
structure Snapshot where
  files : FileList := []
  ordered : files.Ordered := by exact List.Pairwise.nil

namespace Snapshot

/-- No files. -/
def empty : Snapshot := {}

instance : Inhabited Snapshot := ⟨empty⟩

/-- Writes under exactly the given path. -/
def putRaw (s : Snapshot) (path content : String) : Snapshot :=
  ⟨s.files.put path content, s.ordered.put path content⟩

/-- Writes under the root-relative path. -/
def insert (s : Snapshot) (path content : String) : Snapshot :=
  s.putRaw (Path.rootRelative path) content

/-- The files of a list, later ones over earlier ones. -/
def ofList (files : List (String × String)) : Snapshot :=
  files.foldl (fun s f => s.insert f.1 f.2) empty

/-- The content of the file at a path. -/
def get? (s : Snapshot) (path : String) : Option String := s.files.get? (Path.rootRelative path)

def contains (s : Snapshot) (path : String) : Bool := (s.get? path).isSome

def size (s : Snapshot) : Nat := s.files.length

def paths (s : Snapshot) : List String := s.files.map (·.1)

end Snapshot

end Vitrine
