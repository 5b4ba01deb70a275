import Vitrine.Proofs.Frame.Segment
import Vitrine.Proofs.Session.Pass

/-!
# Runs of one session (sections 4.8 and 5)

A session renders, takes messages and is closed, in any order. Two things have to be known of a run, and
both follow from what one act does.

The acts are `render`, `receive_event` and `close` of a `PreviewSession`; messages are read by `from_message`.

* `channel_run`: the channel of the session is told of each rendering as the beginning of a pass, and of
  each message that is an event; of closing it is told nothing. So `run_token`: between two renderings the
  token stays as it is.
* `run_hasIssued`, `render_held_new`: the host of the session never forgets what it has given out, and the
  addresses that a rendering leaves in use are new at the rendering.

Of the events of a pass the first is shown and the later ones are suppressed; events of other passes are
stale. So it is for a channel, whatever it has been told, and for a session, whatever has been done with
it: a rendering begins a pass whatever comes of it, closing does not, and a message that is no event
of the capture script does nothing.

* `ofMessage?_eq_some_iff`: which messages are events.
* `first_event_shown`: what an event comes to, and what is shown.
-/

namespace Vitrine.Session

variable {s : Session} {snapshot : Snapshot} {selected a : String} {message : Json.Value}

/-! ## Acts -/

/-- What can be done with a session. -/
inductive Act where
  | render (snapshot : Snapshot) (selected : String)
  | receive (message : Json.Value)
  | close

/-- The act is a rendering. -/
def Act.IsRender (act : Act) : Prop := ∃ snapshot selected, act = .render snapshot selected

theorem Act.not_isRender_close : ¬ Act.close.IsRender := by
  rintro ⟨snapshot, selected, h⟩
  exact absurd h nofun

/-- One act. -/
def step (s : Session) : Act → Session
  | .render snapshot selected => (s.render snapshot selected).2
  | .receive message => (s.receive message).2
  | .close => s.close

/-- The session after some acts. -/
def run (s : Session) (acts : List Act) : Session := acts.foldl step s

theorem step_settings (s : Session) (act : Act) : (s.step act).settings = s.settings := by
  cases act with
  | render snapshot selected => exact s.render_settings snapshot selected
  | receive message =>
    rw [step, receive]
    split <;> rfl
  | close => rfl

theorem run_settings (s : Session) (acts : List Act) : (s.run acts).settings = s.settings := by
  induction acts generalizing s with
  | nil => rfl
  | cons act acts ih => exact (ih (s.step act)).trans (s.step_settings act)

/-! ## The channel -/

/-- A pass is told to the channel by its token. -/
theorem render_channel (s : Session) (snapshot : Snapshot) (selected : String) :
    (s.render snapshot selected).2.channel =
      .begin (passToken (s.render snapshot selected).2.registry (snapshot.selectionKey selected)) := by
  rw [render_eq]

theorem receive_of_none (s : Session) (h : Event.ofMessage? message = none) :
    s.receive message = (none, s) := by
  unfold receive
  rw [h]

theorem receive_of_some (s : Session) {e : Event} (h : Event.ofMessage? message = some e) :
    s.receive message = (some (s.channel.receive e).1, { s with channel := (s.channel.receive e).2 }) := by
  unfold receive
  rw [h]

/-- An event is stale if its token is not that of the channel. -/
theorem receive_eq_stale_iff {e : Event} (h : Event.ofMessage? message = some e) :
    (s.receive message).1 = some .stale ↔ e.pass ≠ s.channel.token := by
  rw [receive_of_some s h, Option.some_inj]
  exact Channel.receive_eq_stale_iff

theorem receive_of_stale (h : (s.receive message).1 = some .stale) : (s.receive message).2 = s := by
  cases hevent : Event.ofMessage? message with
  | none => rw [receive_of_none s hevent]
  | some e =>
    rw [receive_of_some s hevent, Option.some_inj] at h
    rw [receive_of_some s hevent, Channel.receive_stale h]

/-- What an act tells the channel. -/
def tells (s : Session) : Act → List Channel.Act
  | .render snapshot selected => [.begin (s.render snapshot selected).2.channel.token]
  | .receive message => ((Event.ofMessage? message).map Channel.Act.receive).toList
  | .close => []

/-- What a run tells the channel. -/
def told (s : Session) : List Act → List Channel.Act
  | [] => []
  | act :: acts => s.tells act ++ told (s.step act) acts

/-- Each act tells the channel something, or nothing. -/
theorem channel_step (s : Session) (act : Act) :
    (s.step act).channel = s.channel.run (s.tells act) := by
  cases act with
  | render snapshot selected =>
    show (s.render snapshot selected).2.channel = .begin (s.render snapshot selected).2.channel.token
    rw [render_channel]
    rfl
  | receive message =>
    cases h : Event.ofMessage? message with
    | none =>
      rw [step, tells, receive_of_none s h, h]
      rfl
    | some e =>
      rw [step, tells, receive_of_some s h, h]
      rfl
  | close => rfl

/-- **The channel has been told what the run tells it.** -/
theorem channel_run (s : Session) (acts : List Act) :
    (s.run acts).channel = s.channel.run (s.told acts) := by
  induction acts generalizing s with
  | nil => rfl
  | cons act acts ih =>
    rw [told, Channel.run_append, ← channel_step]
    exact ih (s.step act)

theorem step_token {act : Act} (h : ¬ act.IsRender) : (s.step act).channel.token = s.channel.token := by
  cases act with
  | render snapshot selected => exact absurd ⟨snapshot, selected, rfl⟩ h
  | receive message =>
    cases hevent : Event.ofMessage? message with
    | none => rw [step, receive_of_none s hevent]
    | some e =>
      rw [step, receive_of_some s hevent]
      exact Channel.receive_token s.channel e
  | close => rfl

/-- Only renderings begin passes. -/
theorem run_token {acts : List Act} (h : ∀ act ∈ acts, ¬ act.IsRender) :
    (s.run acts).channel.token = s.channel.token := by
  induction acts generalizing s with
  | nil => rfl
  | cons act acts ih =>
    rw [List.forall_mem_cons] at h
    exact (ih h.2).trans (step_token h.1)

/-! ## Addresses -/

/-- Revoking an address does not undo that it was given out. -/
theorem close_hasIssued : s.close.host.HasIssued a ↔ s.host.HasIssued a := by
  rw [close_host]
  show (Resource.Registry.revokeEach s.host s.registry.held).2.HasIssued a ↔ _
  rw [Resource.Registry.revokeEach_snd]
  rfl

theorem bound_hasIssued (s : Session) (modules : List Module) :
    (s.bound modules).host.HasIssued a ↔
      s.host.HasIssued a ∨ a ∈ (s.binding modules).bound.map Resource.Bound.address :=
  Resource.bindEach_hasIssued s.registry s.host (unbound modules)

/-- However a pass ends, what was given out stays so. -/
theorem Ending.hasIssued {result : Except Failure (String × List String)} {key : String} {t : Session}
    (he : Ending s snapshot key result t) (ha : s.host.HasIssued a) : t.host.HasIssued a := by
  cases he with
  | missing => exact ha
  | broken => exact ha
  | @unplaced _ modules => exact (s.bound_hasIssued modules).mpr (Or.inl ha)
  | @made _ modules => exact (s.bound_hasIssued modules).mpr (Or.inl ha)

/-- What was given out before a rendering was given out after it. -/
theorem render_hasIssued (snapshot : Snapshot) (selected : String) (ha : s.host.HasIssued a) :
    (s.render snapshot selected).2.host.HasIssued a := by
  have hopened : s.opened.host.HasIssued a := close_hasIssued.mpr ha
  cases s.render_outcome snapshot selected with
  | aside _ _ _ _ host =>
    rw [host]
    exact hopened
  | failed _ ending _ _ _ _ host =>
    rw [host]
    exact close_hasIssued.mpr (ending.hasIssued hopened)
  | @made _ modules _ _ _ _ _ _ _ host =>
    rw [host]
    exact (s.opened.bound_hasIssued modules).mpr (Or.inl hopened)

theorem step_hasIssued (act : Act) (ha : s.host.HasIssued a) : (s.step act).host.HasIssued a := by
  cases act with
  | render snapshot selected => exact render_hasIssued snapshot selected ha
  | receive message =>
    rw [step, receive_host]
    exact ha
  | close => exact close_hasIssued.mpr ha

/-- **What was given out was given out for the rest of the run.** -/
theorem run_hasIssued (acts : List Act) (ha : s.host.HasIssued a) :
    (s.run acts).host.HasIssued a := by
  induction acts generalizing s with
  | nil => exact ha
  | cons act acts ih => exact ih (step_hasIssued act ha)

/-- **What a rendering leaves in use, it has given out itself.** -/
theorem render_held_new (h : a ∈ (s.render snapshot selected).2.registry.held) :
    (s.render snapshot selected).2.host.HasIssued a ∧ ¬ s.host.HasIssued a := by
  cases s.render_outcome snapshot selected with
  | aside _ _ _ registry =>
    rw [registry] at h
    exact absurd h List.not_mem_nil
  | failed _ _ _ _ _ registry =>
    rw [registry] at h
    exact absurd h List.not_mem_nil
  | @made _ modules _ _ _ _ _ _ registry host =>
    rw [registry, bound_held] at h
    rw [host, bound_hasIssued]
    refine ⟨Or.inr h, fun ha => ?_⟩
    exact Resource.not_hasIssued_of_mem_bindEach s.opened.registry s.opened.host (unbound modules) h
      (close_hasIssued.mpr ha)

end Vitrine.Session

namespace Vitrine

/-! ## Messages -/

namespace Event

variable {message : Json.Value} {e : Event}

/-- The event that a message holds, whatever its source. -/
def held? (message : Json.Value) : Option Event := (record.read message).toOption.bind ofTexts?

/-- **A message is an event exactly if it holds one that comes from the capture script.** -/
theorem ofMessage?_eq_some_iff :
    ofMessage? message = some e ↔ held? message = some e ∧ e.source = Page.eventSource := by
  have hmessage : ofMessage? message =
      (held? message).bind fun e => if e.source == Page.eventSource then some e else none := by
    unfold ofMessage? held?
    cases (record.read message).toOption <;> rfl
  rw [hmessage, Option.bind_eq_some_iff]
  constructor
  · rintro ⟨e', hheld, hsource⟩
    split at hsource
    · rename_i heq
      obtain rfl := Option.some.inj hsource
      exact ⟨hheld, beq_iff_eq.mp heq⟩
    · exact absurd hsource nofun
  · rintro ⟨hheld, hsource⟩
    exact ⟨e, hheld, if_pos (beq_iff_eq.mpr hsource)⟩

/-- The message that the capture script posts for an event. -/
def toMessage (e : Event) : Json.Value :=
  .object [("detail", .text e.detail), ("kind", .text e.kind.word), ("pass", .text e.pass),
    ("source", .text e.source), ("title", .text e.title)]

theorem held?_toMessage (e : Event) : held? e.toMessage = some e := by
  obtain ⟨source, pass, kind, title, detail⟩ := e
  cases kind <;> rfl

/-- What the capture script posts is read back. -/
theorem ofMessage?_toMessage (h : e.source = Page.eventSource) : ofMessage? e.toMessage = some e :=
  ofMessage?_eq_some_iff.mpr ⟨held?_toMessage e, h⟩

end Event

/-! ## First events -/

namespace Session

/-- **The first event of a pass is shown, and no other.** For a channel and any acts on it:

* its token is that of the last pass that began;
* what it shows is the event of the last segment that was shown, if there is one;
* the next event is stale if it is of another pass, and then it changes nothing; it is suppressed if the
  segment holds an event of the pass already; and it is shown if not.

The same is so for the channel of a session and any acts on the session, with the segments that they tell
the channel. A message that holds no event of the capture script gives nothing and changes nothing. -/
theorem first_event_shown :
    (∀ acts : List Channel.Act,
      let c := Channel.run {} acts
      let g := Segment.of acts
      c.token = g.token ∧ (∀ e, c.current? = some e ↔ g.Shows e) ∧
      ∀ e, (c.receive e).1 = g.delivery e ∧ (g.delivery e = .stale → (c.receive e).2 = c)) ∧
    (∀ (settings : Settings) (number : Nat) (acts : List Act),
      let s := (new settings number).run acts
      let g := Segment.of ((new settings number).told acts)
      s.channel.token = g.token ∧ (∀ e, s.channel.current? = some e ↔ g.Shows e) ∧
      ∀ message,
        (∀ e, Event.held? message = some e → e.source = Page.eventSource →
          (s.receive message).1 = some (g.delivery e) ∧
          (g.delivery e = .stale → (s.receive message).2 = s)) ∧
        ((¬ ∃ e, Event.held? message = some e ∧ e.source = Page.eventSource) →
          s.receive message = (none, s))) := by
  constructor
  · intro acts c g
    have hchannel : c = g.channel := Segment.channel_of acts
    rw [hchannel]
    exact ⟨rfl, fun e => Segment.current?_eq_some_iff,
      fun e => ⟨g.receive_channel_fst e, Segment.receive_channel_stale⟩⟩
  · intro settings number acts s g
    have hchannel : s.channel = g.channel :=
      ((new settings number).channel_run acts).trans (Segment.channel_of _)
    rw [hchannel]
    refine ⟨rfl, fun e => Segment.current?_eq_some_iff, fun message => ⟨fun e hheld hsource => ?_, ?_⟩⟩
    · rw [receive_of_some s (Event.ofMessage?_eq_some_iff.mpr ⟨hheld, hsource⟩), hchannel]
      refine ⟨congrArg some (g.receive_channel_fst e), fun hstale => ?_⟩
      rw [Segment.receive_channel_stale hstale, ← hchannel]
    · intro hnone
      refine receive_of_none s (Option.eq_none_iff_forall_ne_some.mpr fun e he => hnone ⟨e, ?_⟩)
      exact Event.ofMessage?_eq_some_iff.mp he

/-- A report of an error in the document of the first pass. -/
def report : Event := ⟨Page.eventSource, "blob:preview/0/0", .runtimeError, "Runtime Error", "a"⟩

/-- After a report the same report is suppressed, one of another pass is stale, and a message from
somewhere else is nothing. -/
theorem first_event_shown_once :
    ∃ s, (new {} 0).run [.render .small "a.css", .receive report.toMessage, .close] = s ∧
      s.channel.current? = some report ∧
      (s.receive report.toMessage).1 = some .suppressed ∧
      (s.receive { report with pass := "" }.toMessage).1 = some .stale ∧
      (s.receive { report with pass := "" }.toMessage).2 = s ∧
      s.receive { report with source := "devtools" }.toMessage = (none, s) := by
  have hsegment : Segment.of ((new {} 0).told
      [.render .small "a.css", .receive report.toMessage, .close]) =
      ⟨"blob:preview/0/0", [report]⟩ := by
    have htoken : ((new {} 0).render .small "a.css").2.channel.token = "blob:preview/0/0" := by
      decide +kernel
    have hreport : Event.ofMessage? report.toMessage = some report := Event.ofMessage?_toMessage rfl
    simp only [told, tells, htoken, hreport]
    rfl
  have h := first_event_shown.2 {} 0 [.render .small "a.css", .receive report.toMessage, .close]
  simp only [hsegment] at h
  generalize (new {} 0).run [.render .small "a.css", .receive report.toMessage, .close] = s at h
  obtain ⟨-, hcurrent, hnext⟩ := h
  have hsame := (hnext report.toMessage).1 report (Event.held?_toMessage report) rfl
  have hlate := (hnext { report with pass := "" }.toMessage).1 _ (Event.held?_toMessage _) rfl
  have hsuppressed : Segment.delivery ⟨"blob:preview/0/0", [report]⟩ report = .suppressed := by decide
  have hstale : Segment.delivery ⟨"blob:preview/0/0", [report]⟩ { report with pass := "" } = .stale := by
    decide
  refine ⟨s, rfl, (hcurrent report).mpr ⟨[], [], rfl, by decide⟩, ?_, ?_, hlate.2 hstale, ?_⟩
  · rw [hsame.1, hsuppressed]
  · rw [hlate.1, hstale]
  · refine (hnext { report with source := "devtools" }.toMessage).2 ?_
    rintro ⟨e, hheld, hsource⟩
    rw [Event.held?_toMessage] at hheld
    obtain rfl := Option.some.inj hheld
    exact absurd hsource (by decide)

end Session

end Vitrine
