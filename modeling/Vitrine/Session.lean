import Vitrine.Frame
import Vitrine.Frame.Channel
import Vitrine.Module
import Vitrine.Page.Application
import Vitrine.Page.Diagnostic
import Vitrine.Page.Documentation
import Vitrine.Project.Fingerprint
import Vitrine.Project.Mode
import Vitrine.Resource.Registry

/-!
# Preview sessions (sections 4.7 and 4.8)

A session stands behind one preview. Each rendering is a pass of its own: the addresses of the last pass
are revoked, the selection decides what is shown, and for the application every loadable file is
compiled, kept under a new address and entered into the import table. A rendering always yields a
document; if it fails, that is a diagnostic, and no address stays in use.

A session is a `PreviewSession`: `render` is `render` with `render_application`, `receive` is
`receive_event`, and `close` is `close`.

Sections, here and elsewhere, are those of the full specification of the live preview pipeline.
-/

namespace Vitrine

structure Session where
  settings : Settings
  host : Resource.Host
  registry : Resource.Registry := {}
  channel : Channel := {}
  /-- How many renderings there were. -/
  pass : Nat := 0

/-- What a pass yields. `unresolved` lists the imports that will find no module. -/
structure Rendering where
  pass : Nat
  mode : Mode
  document : String
  frame : Frame
  failure? : Option Failure
  unresolved : List String

namespace Session

/-- A session with the host of a given number. -/
def new (settings : Settings) (hostNumber : Nat) : Session :=
  { settings, host := { number := hostNumber } }

/-- Revokes every address that is in use. -/
def close (s : Session) : Session :=
  let (_, registry, host) := s.registry.revokeAll s.host
  { s with registry, host }

/-- How the documents of a pass name it: by the first address in use, or else by the key. -/
def passToken (registry : Resource.Registry) (key : String) : String := registry.held.head?.getD key

/-- Adds the texts that are not there yet, each once. -/
def addNew (known : List String) : List String → List String
  | [] => known
  | s :: rest => addNew (if known.contains s then known else known ++ [s]) rest

/-- The unresolved specifiers of some modules, each once. -/
def unresolvedOf (modules : List Module) : List String := addNew [] (modules.flatMap (·.unresolved))

/-- The document of the application with what is unresolved, and the session with the addresses that
were given out on the way. -/
def application (s : Session) (snapshot : Snapshot) (key : String) :
    Except Failure (String × List String) × Session :=
  match snapshot.get? s.settings.entryMarkupPath with
  | none => (.error (.missingEntryDocument s.settings.entryMarkupPath), s)
  | some markup =>
    match snapshot.modules s.settings with
    | .error failure => (.error failure, s)
    | .ok modules =>
      let binding := Resource.bindEach s.registry s.host
        (modules.map fun m => ⟨m.path, m.kind, m.code⟩)
      let s' := { s with registry := binding.registry, host := binding.host }
      let token := passToken binding.registry key
      ((Page.application s.settings binding.table token markup).map (·, unresolvedOf modules), s')

/-- The document for a selection, why it is a diagnostic if it is one, and what is unresolved. -/
def documentOf (s : Session) (snapshot : Snapshot) (selected key : String) :
    Mode → (String × Option Failure × List String) × Session
  | .placeholder => ((Page.placeholder, none, []), s)
  | .documentation => ((Page.documentation ((snapshot.get? selected).getD ""), none, []), s)
  | .page => (((snapshot.get? selected).getD "", none, []), s)
  | .application =>
    match s.application snapshot key with
    | (.ok (document, unresolved), s) => ((document, none, unresolved), s)
    | (.error failure, s) => ((Page.diagnostic failure, some failure, []), s.close)

/-- Runs one pass. -/
def render (s : Session) (snapshot : Snapshot) (selected : String) : Rendering × Session :=
  let s := { s.close with pass := s.pass + 1 }
  let key := snapshot.selectionKey selected
  let mode := Mode.ofSelection s.settings snapshot selected
  let ((document, failure?, unresolved), s) := s.documentOf snapshot selected key mode
  ({ pass := s.pass, mode, document, failure?, unresolved, frame := .ofPass s.pass key document },
    { s with channel := .begin (passToken s.registry key) })

/-- Takes a message of the frame; nothing becomes of one that is no event. -/
def receive (s : Session) (message : Json.Value) : Option Delivery × Session :=
  match Event.ofMessage? message with
  | none => (none, s)
  | some event =>
    let (delivery, channel) := s.channel.receive event
    (some delivery, { s with channel })

end Session

end Vitrine
