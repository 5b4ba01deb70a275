import Vitrine.Json.Value
import Vitrine.Page.Script

/-!
# The channel of events (section 4.8)

The capture script of a document reports errors as messages to the page around. A message of another
form, or from another source, is no event.

The host hears of one error a pass. A pass is known by its token; events of other passes are stale, and
so are dropped.

An event is a `SandboxEvent`, read by `from_message`, and the channel is the `ErrorChannel` with
`begin_pass` and `receive`.
-/

namespace Vitrine

/-! ## Events -/

namespace Event

inductive Kind where
  | runtimeError | unhandledRejection | importError
  deriving DecidableEq, Repr

namespace Kind

/-- The word for the kind in messages. -/
def word : Kind → String
  | runtimeError => "runtime-error"
  | unhandledRejection => "unhandled-rejection"
  | importError => "import-error"

def all : List Kind := [runtimeError, unhandledRejection, importError]

def ofWord? (w : String) : Option Kind := all.find? (·.word == w)

end Kind

end Event

/-- An error in a document. `pass` is the token of the pass whose document reports it. -/
structure Event where
  source : String
  pass : String
  kind : Event.Kind
  title : String
  detail : String
  deriving DecidableEq

namespace Event

/-- How an event is written. -/
def record : Json.TextRecord where
  name := "SandboxEvent"
  fields := [{ name := "source" }, { name := "pass" },
    { name := "kind", known := Kind.all.map Kind.word }, { name := "title" },
    { name := "detail", default? := some "" }]

/-- The event that all its texts give. -/
def ofTexts? (texts : List (String × String)) : Option Event := do
  let kind ← Kind.ofWord? (← texts.lookup "kind")
  return {
    source := ← texts.lookup "source"
    pass := ← texts.lookup "pass"
    kind
    title := ← texts.lookup "title"
    detail := ← texts.lookup "detail" }

/-- The event that a message reports. -/
def ofMessage? (message : Json.Value) : Option Event := do
  let texts ← (record.read message).toOption
  let event ← ofTexts? texts
  if event.source == Page.eventSource then some event else none

end Event

/-! ## The channel -/

/-- What becomes of an event. -/
inductive Delivery where
  /-- The first of the pass. -/
  | shown
  /-- The pass has already reported an error. -/
  | suppressed
  /-- The context that sent it has been replaced. -/
  | stale
  deriving DecidableEq, Repr

def Delivery.word : Delivery → String
  | shown => "shown"
  | suppressed => "suppressed"
  | stale => "stale"

/-- The token of the pass, and the event that it shows. -/
structure Channel where
  token : String := ""
  current? : Option Event := none
  deriving DecidableEq, Inhabited

namespace Channel

/-- The channel of a new pass. -/
def begin (token : String) : Channel := { token }

/-- Takes an event. -/
def receive (c : Channel) (e : Event) : Delivery × Channel :=
  if e.pass != c.token then (.stale, c)
  else if c.current?.isSome then (.suppressed, c)
  else (.shown, { c with current? := some e })

end Channel

end Vitrine
