import Vitrine.Project.Change
import Vitrine.Session

/-!
# A project and its previews (section 3)

A workspace holds the files of a project and any number of preview sessions on them, each with a host of
its own.

Its operations are those of a `ProjectSnapshot` (`apply_changes`) and of each `PreviewSession`.
-/

namespace Vitrine

structure Workspace where
  snapshot : Snapshot := .empty
  sessions : List Session := []

namespace Workspace

/-- Opens a session; with its place. -/
def openSession (w : Workspace) (settings : Settings) : Nat × Workspace :=
  (w.sessions.length,
    { w with sessions := w.sessions ++ [Session.new settings w.sessions.length] })

/-- Does something with a session. -/
def withSession {α : Type} (w : Workspace) (s : Nat) (f : Session → α × Session) :
    Option (α × Workspace) :=
  w.sessions[s]?.map fun session =>
    let (a, session) := f session
    (a, { w with sessions := w.sessions.set s session })

/-- Renders a selection in a session. -/
def render (w : Workspace) (s : Nat) (selected : String) : Option (Rendering × Workspace) :=
  w.withSession s (·.render w.snapshot selected)

/-- Gives a message to a session. -/
def receive (w : Workspace) (s : Nat) (message : Json.Value) : Option (Option Delivery × Workspace) :=
  w.withSession s (·.receive message)

/-- Closes a session, which can be rendered again. -/
def close (w : Workspace) (s : Nat) : Option (Unit × Workspace) :=
  w.withSession s fun session => ((), session.close)

/-- Writes changes to the project; with the first new path. -/
def apply (w : Workspace) (changes : List Change) : Option String × Workspace :=
  let (snapshot, first) := w.snapshot.apply changes
  (first, { w with snapshot })

end Workspace

end Vitrine
