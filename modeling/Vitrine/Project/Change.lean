import Vitrine.Json.Value
import Vitrine.Project.Snapshot

/-!
# Changes to a project (section 10)

An editor or an assistant writes whole files. Applying changes in their order writes each of them, and
tells the first file that is new, which is the one to look at next. A change whose path is empty, apart
from slashes in front, writes nothing.

The operation is `apply_changes`.
-/

namespace Vitrine

/-- A file that is written as a whole. -/
structure Change where
  path : String
  content : String
  deriving DecidableEq

namespace Change

/-- The key under which the change writes. -/
def key (c : Change) : String := Path.rootRelative c.path

/-! ## Reading -/

/-- How a change is written. -/
def record : Json.TextRecord where
  name := "FileChange"
  fields := [{ name := "filePath" }, { name := "content" }]

def ofTexts (texts : List (String × String)) : Change where
  path := (texts.lookup "filePath").getD ""
  content := (texts.lookup "content").getD ""

def ofValue (v : Json.Value) : Except Json.Problem Change := (record.read v).map ofTexts

/-- A list of changes, all of which must be readable. -/
def listOfValue (v : Json.Value) : Except Json.Problem (List Change) := do
  (← v.readItems).mapM ofValue

end Change

/-! ## Applying -/

namespace Snapshot

/-- Writes one change. -/
def applyOne (s : Snapshot) (c : Change) : Snapshot :=
  if c.key.isEmpty then s else s.insert c.path c.content

/-- Whether a change writes a file that is not there. -/
def isNew (s : Snapshot) (c : Change) : Bool := !c.key.isEmpty && !s.contains c.path

/-- Writes changes in their order; with the first path that is new when its change is written. -/
def apply : Snapshot → List Change → Snapshot × Option String
  | s, [] => (s, none)
  | s, c :: rest =>
    let (s', later) := (s.applyOne c).apply rest
    (s', if s.isNew c then some c.key else later)

/-- The snapshot that the text of an object of contents by path holds. Its keys are taken as they
are. -/
def ofText (text : String) : Except Json.Misread Snapshot :=
  (Json.readAll Json.readEntries text).map fun entries =>
    entries.foldl (fun s e => s.putRaw e.1 e.2) empty

end Snapshot

end Vitrine
