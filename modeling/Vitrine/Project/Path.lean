/-!
# Paths of project files (sections 3 and 4.4)

A path is a text whose segments are separated by slashes. A file is known by its root-relative path,
which has no slash in front; wherever a path is taken from outside, slashes in front are dropped.

`join` follows a path from a directory: empty segments and `.` stay where they are, `..` goes up
and never above the root.

`rootRelative` is `normalize_key`, `extension` is `extension`, and `join` is `join_path`.
-/

namespace Vitrine.Path

/-! ## Root-relative paths -/

/-- The path without the slashes in front of it. -/
def rootRelative (path : String) : String := String.ofList (path.toList.dropWhile (· == '/'))

/-- Whether a path has no slash in front. -/
def IsRootRelative (path : String) : Prop := path.toList.head? ≠ some '/'

theorem toList_rootRelative (path : String) :
    (rootRelative path).toList = path.toList.dropWhile (· == '/') := String.toList_ofList

theorem rootRelative_isRootRelative (path : String) : IsRootRelative (rootRelative path) := by
  rw [IsRootRelative, toList_rootRelative]
  induction path.toList with
  | nil => simp
  | cons c cs ih =>
    by_cases h : c = '/'
    · simpa [h] using ih
    · simp [h]

theorem rootRelative_of_isRootRelative {path : String} (h : IsRootRelative path) :
    rootRelative path = path := by
  rw [IsRootRelative] at h
  rw [rootRelative]
  have key : path.toList.dropWhile (· == '/') = path.toList := by
    cases hp : path.toList with
    | nil => rfl
    | cons c cs =>
      rw [hp] at h
      have : c ≠ '/' := fun hc => h (by simp [hc])
      simp [this]
  rw [key, String.ofList_toList]

theorem rootRelative_rootRelative (path : String) :
    rootRelative (rootRelative path) = rootRelative path :=
  rootRelative_of_isRootRelative (rootRelative_isRootRelative path)

/-! ## Segments -/

/-- The pieces between slashes, empty ones included; there is always at least one. -/
def pieces : List Char → List (List Char)
  | [] => [[]]
  | c :: cs =>
    if c = '/' then [] :: pieces cs
    else match pieces cs with
      | [] => [[c]]
      | p :: ps => (c :: p) :: ps

/-- The pieces that are not empty. -/
def segments (path : List Char) : List (List Char) := (pieces path).filter (!·.isEmpty)

/-- The pieces joined by slashes. -/
def unpieces : List (List Char) → List Char
  | [] => []
  | [p] => p
  | p :: q :: ps => p ++ '/' :: unpieces (q :: ps)

/-- One step from a place, which is known by its segments. -/
def step (place : List (List Char)) (piece : List Char) : List (List Char) :=
  if piece = [] || piece = ['.'] then place
  else if piece = ['.', '.'] then place.dropLast
  else place ++ [piece]

/-- The path with the given segments, from the root. -/
def ofSegments (ss : List (List Char)) : List Char := '/' :: unpieces ss

/-- Where `path` leads from the directory `dir`. -/
def joinChars (dir path : List Char) : List Char :=
  ofSegments ((pieces path).foldl step (segments dir))

def join (dir path : String) : String := String.ofList (joinChars dir.toList path.toList)

/-! ## Directory and extension -/

/-- What stands before the last slash; nothing if there is none. -/
def directory (path : String) : String :=
  String.ofList ((path.toList.reverse.dropWhile (· != '/')).drop 1).reverse

/-- What stands behind the last slash. -/
def fileName (path : String) : String :=
  String.ofList (path.toList.reverse.takeWhile (· != '/')).reverse

/-- What stands behind the last dot of the file name, unless the name starts with that dot. -/
def extension (path : String) : Option String :=
  let name := (fileName path).toList.reverse
  match name.dropWhile (· != '.') with
  | _ :: _ :: _ => some (String.ofList (name.takeWhile (· != '.')).reverse)
  | _ => none

/-- The last segment without its extension, if the path ends in one. -/
def stem (path : String) : Option String :=
  match ((segments path.toList).filter (· != ['.'])).getLast? with
  | none => none
  | some name =>
    if name == ['.', '.'] then none
    else
      let front := name.reverse.dropWhile (· != '.')
      some (String.ofList (if front.length ≤ 1 then name else (front.drop 1).reverse))

end Vitrine.Path
