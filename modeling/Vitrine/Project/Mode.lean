import Vitrine.Project.Kind
import Vitrine.Project.Snapshot

/-!
# What a selection shows (section 4.1)

Documentation and pages of their own are shown themselves. Every other file of the project shows the
application, so that it stays on the screen while its sources are changed.

The operation is `classify`.
-/

namespace Vitrine

inductive Mode where
  | placeholder
  | documentation
  /-- A markup file that is not the entry document. -/
  | page
  | application
  deriving DecidableEq, Repr

/-- The word for the mode in messages between programs. -/
def Mode.word : Mode → String
  | placeholder => "placeholder"
  | documentation => "markdown"
  | page => "standaloneMarkup"
  | application => "application"

/-- Whether a path is that of the entry document. -/
def Settings.isEntryMarkup (settings : Settings) (path : String) : Bool :=
  Path.rootRelative path == settings.entryMarkupPath

/-- What is shown for a selection. -/
def Mode.ofSelection (settings : Settings) (snapshot : Snapshot) (selected : String) : Mode :=
  if !snapshot.contains selected then placeholder
  else match FileKind.ofPath settings selected with
    | .documentation => documentation
    | .markup => if settings.isEntryMarkup selected then application else page
    | _ => application

end Vitrine
