import Vitrine.Project.Snapshot

/-!
# Where a module specifier leads (section 4.4)

A specifier that starts with `./`, `../` or `/` names a file of the project; any other names a
package. The file may be written without its extension, or as the directory of an index file: the
first candidate that the project holds is meant, and the path as written if it holds none.

The operation is `resolve_project_specifier`.
-/

namespace Vitrine.Import

/-- Extensions that a specifier may leave out, in the order in which they are tried. -/
def impliedExtensions : List String := ["tsx", "ts", "jsx", "js", "mjs", "css"]

/-- The key under which the file at a path can be imported. -/
def internalKey (path : String) : String := "/" ++ Path.rootRelative path

def startsWith (start text : String) : Bool := start.toList.isPrefixOf text.toList

/-- The path that a specifier writes, from the root; none for a package. -/
def writtenPath? (importer specifier : String) : Option String :=
  if startsWith "./" specifier || startsWith "../" specifier then
    some (Path.join (Path.directory (Path.rootRelative importer)) specifier)
  else if startsWith "/" specifier then some (Path.join "" specifier)
  else none

/-- The path without slashes at its end. -/
def withoutSlash (path : String) : String :=
  String.ofList (Text.dropTailWhile (· == '/') path.toList)

/-- What a written path may stand for, the likeliest first. -/
def candidates (path : String) : List String :=
  path :: impliedExtensions.map (path ++ "." ++ ·)
    ++ impliedExtensions.map (withoutSlash path ++ "/index." ++ ·)

/-- The first candidate that the project holds, or else the path as written. -/
def chosen (snapshot : Snapshot) (path : String) : String :=
  ((candidates path).find? snapshot.contains).getD path

/-- The key that a specifier stands for; none for a package. -/
def resolve? (importer specifier : String) (snapshot : Snapshot) : Option String :=
  (writtenPath? importer specifier).map (chosen snapshot)

/-- The key that a specifier stands for, or the package itself. -/
def target (importer specifier : String) (snapshot : Snapshot) : String :=
  (resolve? importer specifier snapshot).getD specifier

end Vitrine.Import
