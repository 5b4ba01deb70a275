import Vitrine.Project.Snapshot

/-!
# Folders (section 10)

The files of a project as a tree. The segments of a path name the folders on the way and, last, the
file; empty segments do not count. Within a folder, folders stand before files, and each sort is in the
order of names.

Paths are put into the tree in their order. A file is left out if its folder already has an entry of
that name; a folder is not shared with a file of the same name.

The operation is `tree`, with `insert` and `sort` of its nodes.
-/

namespace Vitrine

inductive Entry where
  | file (name : String)
  | folder (name : String) (entries : List Entry)
  deriving Inhabited

namespace Entry

def name : Entry → String
  | file name => name
  | folder name _ => name

def isFolder : Entry → Bool
  | file _ => false
  | folder .. => true

/-- The entries with the folder called `dir` changed, which is put at the end if it is missing. -/
def atFolder (dir : String) (change : List Entry → List Entry) : List Entry → List Entry
  | [] => [folder dir (change [])]
  | folder name entries :: rest =>
    if name = dir then folder name (change entries) :: rest
    else folder name entries :: atFolder dir change rest
  | file name :: rest => file name :: atFolder dir change rest

/-- Puts a file under the names of the way to it. -/
def put : List String → List Entry → List Entry
  | [], entries => entries
  | [name], entries => if entries.any (·.name == name) then entries else entries ++ [file name]
  | dir :: segments, entries => atFolder dir (put segments) entries

/-- Folders before files, then by name. -/
def before (a b : Entry) : Bool :=
  if a.isFolder = b.isFolder then decide (a.name ≤ b.name) else a.isFolder

/-- The entry with everything in it in order. -/
def sorted : Entry → Entry
  | file name => file name
  | folder name entries => folder name ((entries.attach.map fun e => sorted e.1).mergeSort before)
termination_by e => sizeOf e
decreasing_by
  have := List.sizeOf_lt_of_mem e.2
  simp only [folder.sizeOf_spec]
  omega

end Entry

namespace Snapshot

/-- The names on the way to a path. -/
def segments (path : String) : List String := (Path.segments path.toList).map String.ofList

/-- The tree of all files. -/
def root (s : Snapshot) : Entry :=
  (Entry.folder "root" (s.paths.foldl (fun entries p => Entry.put (segments p) entries) [])).sorted

end Snapshot

end Vitrine
