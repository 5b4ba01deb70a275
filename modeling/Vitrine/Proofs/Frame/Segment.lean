import Mathlib.Data.List.Basic
import Vitrine.Frame.Channel

/-!
# What a channel makes of its events (section 4.8)

A channel is told that a pass begins, or it takes an event. What it has been told since the last pass
began is a segment: the token of the pass, and the events that came in since then, whatever their passes.
Nothing else matters to the channel.

The channel is the `ErrorChannel`: `begin_pass` resets it, and `receive` says `Shown`, `Suppressed` or `Stale`.
It counts what it suppresses, for its log alone; the count is left out.

* `Segment.channel_receive`: what a channel makes of one event, and what it remembers of it.
* `Segment.channel_of`: whatever a channel has been told, it is the channel of the last segment.
* `Segment.current?_eq_some_iff`: it shows the one event of the segment that was shown.
-/

namespace Vitrine

namespace Channel

/-- What a channel can be told. -/
inductive Act where
  | begin (token : String)
  | receive (event : Event)

/-- One act. -/
def step (c : Channel) : Act → Channel
  | .begin token => .begin token
  | .receive e => (c.receive e).2

/-- The channel after some acts. -/
def run (c : Channel) (acts : List Act) : Channel := acts.foldl step c

theorem run_append (c : Channel) (acts later : List Act) :
    c.run (acts ++ later) = (c.run acts).run later := List.foldl_append

theorem receive_token (c : Channel) (e : Event) : (c.receive e).2.token = c.token := by
  unfold receive
  split
  · rfl
  · split <;> rfl

theorem receive_eq_stale_iff {c : Channel} {e : Event} :
    (c.receive e).1 = .stale ↔ e.pass ≠ c.token := by
  unfold receive
  by_cases hpass : e.pass = c.token
  · rw [if_neg (by simpa using hpass)]
    refine ⟨fun h => ?_, fun h => absurd hpass h⟩
    split at h <;> exact absurd h nofun
  · rw [if_pos (by simpa using hpass)]
    exact ⟨fun _ => hpass, fun _ => rfl⟩

/-- A stale event changes nothing. -/
theorem receive_stale {c : Channel} {e : Event} (h : (c.receive e).1 = .stale) :
    (c.receive e).2 = c := by
  unfold receive at h ⊢
  split
  · rfl
  · rename_i hpass
    rw [if_neg hpass] at h
    split at h <;> exact absurd h nofun

end Channel

/-- The token of a pass, and the events since it began. Before the first pass the token is empty. -/
structure Segment where
  token : String := ""
  events : List Event := []

namespace Segment

variable {g : Segment} {e : Event}

/-- An event of the pass has come in already. -/
def Reported (g : Segment) : Prop := ∃ e ∈ g.events, e.pass = g.token

instance : Decidable g.Reported := inferInstanceAs (Decidable (∃ e ∈ g.events, _))

/-- **What an event of another pass, the first of the pass and a later one come to.** -/
def delivery (g : Segment) (e : Event) : Delivery :=
  if e.pass ≠ g.token then .stale else if g.Reported then .suppressed else .shown

/-- The segment with one event more. -/
def hear (g : Segment) (e : Event) : Segment := { g with events := g.events ++ [e] }

/-- The segment that an act leads to. -/
def next (g : Segment) : Channel.Act → Segment
  | .begin token => { token }
  | .receive e => g.hear e

/-- The last segment of some acts. -/
def of (acts : List Channel.Act) : Segment := acts.foldl next {}

/-- The channel of a segment shows the first event of the pass. -/
def channel (g : Segment) : Channel := ⟨g.token, g.events.find? (·.pass == g.token)⟩

/-! ## One event -/

theorem reported_iff : g.Reported ↔ g.channel.current?.isSome = true := by
  unfold Reported channel
  rw [List.find?_isSome]
  simp only [beq_iff_eq]

/-- An event is shown if it is of the pass, and the first of it. -/
theorem delivery_eq_shown_iff : g.delivery e = .shown ↔ e.pass = g.token ∧ ¬ g.Reported := by
  unfold delivery
  by_cases hpass : e.pass = g.token
  · rw [if_neg (not_not_intro hpass)]
    by_cases hreported : g.Reported
    · rw [if_pos hreported]
      exact ⟨nofun, fun h => absurd hreported h.2⟩
    · rw [if_neg hreported]
      exact ⟨fun _ => ⟨hpass, hreported⟩, fun _ => rfl⟩
  · rw [if_pos hpass]
    exact ⟨nofun, fun h => absurd h.1 hpass⟩

/-- **What a channel makes of one event.** -/
theorem channel_receive (g : Segment) (e : Event) :
    g.channel.receive e = (g.delivery e, (g.hear e).channel) := by
  have hhear : (g.hear e).channel =
      ⟨g.token, g.channel.current?.or (if e.pass = g.token then some e else none)⟩ := by
    simp only [channel, hear, List.find?_append, List.find?_singleton, beq_iff_eq]
  rw [hhear]
  unfold Channel.receive delivery
  by_cases hpass : e.pass = g.token
  · rw [if_neg (not_not_intro hpass), if_pos hpass, if_neg (by simpa [channel] using hpass)]
    by_cases hreported : g.Reported
    · have hsome := reported_iff.mp hreported
      rw [if_pos hreported, if_pos hsome, Option.or_of_isSome hsome]
      rfl
    · have hnone : g.channel.current? = none := by
        rwa [reported_iff, Bool.not_eq_true, Option.isSome_eq_false_iff, Option.isNone_iff_eq_none]
          at hreported
      rw [if_neg hreported, if_neg (by rw [hnone]; nofun), hnone]
      rfl
  · rw [if_pos hpass, if_neg hpass, if_pos (by simpa [channel] using hpass), Option.or_none]
    rfl

theorem receive_channel_fst (g : Segment) (e : Event) : (g.channel.receive e).1 = g.delivery e := by
  rw [channel_receive]

theorem receive_channel_stale (h : g.delivery e = .stale) : (g.channel.receive e).2 = g.channel :=
  Channel.receive_stale ((receive_channel_fst g e).trans h)

/-! ## All acts -/

/-- The channel of the next segment is the channel after the act. -/
theorem channel_next (g : Segment) (act : Channel.Act) : g.channel.step act = (g.next act).channel := by
  cases act with
  | begin token => rfl
  | receive e =>
    rw [Channel.step, channel_receive]
    rfl

/-- **A channel is that of its last segment.** -/
theorem channel_of (acts : List Channel.Act) : Channel.run {} acts = (of acts).channel := by
  have h : ∀ g : Segment, g.channel.run acts = (acts.foldl next g).channel := by
    induction acts with
    | nil => exact fun _ => rfl
    | cons act acts ih =>
      intro g
      rw [Channel.run, List.foldl_cons, channel_next]
      exact ih (g.next act)
  exact h {}

/-! ## What is shown -/

/-- The event is in the segment, and it was shown when it came in. -/
def Shows (g : Segment) (e : Event) : Prop :=
  ∃ earlier later, g.events = earlier ++ e :: later ∧ delivery ⟨g.token, earlier⟩ e = .shown

/-- **What a channel shows is the event that was shown when it came in.** -/
theorem current?_eq_some_iff : g.channel.current? = some e ↔ g.Shows e := by
  unfold channel Shows
  rw [List.find?_eq_some_iff_append]
  simp only [delivery_eq_shown_iff, Reported, beq_iff_eq, Bool.not_eq_true', beq_eq_false_iff_ne,
    not_exists, not_and]
  constructor
  · rintro ⟨hpass, earlier, later, hevents, hbefore⟩
    exact ⟨earlier, later, hevents, hpass, hbefore⟩
  · rintro ⟨earlier, later, hevents, hpass, hbefore⟩
    exact ⟨hpass, earlier, later, hevents, hbefore⟩

end Segment

end Vitrine
