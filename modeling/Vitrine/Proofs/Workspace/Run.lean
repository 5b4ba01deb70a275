import Vitrine.Proofs.Resource.Issue
import Vitrine.Proofs.Session.Pass
import Vitrine.Workspace

/-!
# Runs of a workspace (sections 4.7 and 8)

A run does things with any number of sessions in any order: opens and closes them, renders, gives them
messages, and changes the project or replaces it.

The acts on sessions are `render`, `receive_event` and `close`, and the number of addresses in use is
`live_handles`; a project changes by `apply_changes`.

Whatever an act is, it does one of three things to the sessions (`SessionsStep`, `sessionsStep_step`):
nothing, opens one more, or does one thing with one of them.

* `run_reachable`: every session of a run is a reachable session.
* `step_other`: an act leaves alone the sessions that it does not name.
* `addresses_over_life`: each session holds exactly the addresses under which its own host keeps something.
  Addresses come into use when an application is made, one for each loadable file, and go out of use with the
  next rendering, with a failure at any stage and when the session is closed.
-/

namespace Vitrine.Workspace

/-! ## Acts -/

/-- What can be done with a workspace; sessions are named by their places. -/
inductive Act where
  | openSession (settings : Settings)
  | replace (snapshot : Snapshot)
  | change (changes : List Change)
  | render (i : Nat) (selected : String)
  | receive (i : Nat) (message : Json.Value)
  | close (i : Nat)

/-- The session that an act names. -/
def Act.session? : Act → Option Nat
  | .render i _ | .receive i _ | .close i => some i
  | .openSession _ | .replace _ | .change _ => none

/-- The workspace after an act; one that names no session does nothing. -/
def step (w : Workspace) : Act → Workspace
  | .openSession settings => (w.openSession settings).2
  | .replace snapshot => { w with snapshot }
  | .change changes => (w.apply changes).2
  | .render i selected => ((w.render i selected).map (·.2)).getD w
  | .receive i message => ((w.receive i message).map (·.2)).getD w
  | .close i => ((w.close i).map (·.2)).getD w

/-- The workspace after some acts. -/
def run (w : Workspace) (acts : List Act) : Workspace := acts.foldl step w

/-- Nothing has been done with the sessions yet. Their hosts may have any numbers. -/
def Fresh (w : Workspace) : Prop :=
  ∀ s ∈ w.sessions, ∃ settings number, s = Session.new settings number

theorem fresh_empty : Fresh {} := fun _ hs => absurd hs List.not_mem_nil

theorem run_append (w : Workspace) (acts later : List Act) :
    w.run (acts ++ later) = (w.run acts).run later := List.foldl_append

/-! ## One step -/

section

variable {α : Type} {w : Workspace} {i : Nat} {s : Session}

theorem withSession_none (f : Session → α × Session) (hi : w.sessions[i]? = none) :
    w.withSession i f = none := by
  rw [withSession, hi, Option.map_none]

/-- One session is changed, and the others stay. -/
theorem withSession_some (f : Session → α × Session) (hi : w.sessions[i]? = some s) :
    w.withSession i f = some ((f s).1, { w with sessions := w.sessions.set i (f s).2 }) := by
  rw [withSession, hi, Option.map_some]

/-- Rendering is a matter of one session and the project. -/
theorem step_render (selected : String) (hi : w.sessions[i]? = some s) :
    w.step (.render i selected) =
      { w with sessions := w.sessions.set i (s.render w.snapshot selected).2 } := by
  rw [step, render, withSession_some _ hi]
  rfl

theorem step_receive (message : Json.Value) (hi : w.sessions[i]? = some s) :
    w.step (.receive i message) =
      { w with sessions := w.sessions.set i (s.receive message).2 } := by
  rw [step, receive, withSession_some _ hi]
  rfl

theorem step_close (hi : w.sessions[i]? = some s) :
    w.step (.close i) = { w with sessions := w.sessions.set i s.close } := by
  rw [step, close, withSession_some _ hi]
  rfl

/-- An act that names no session of the workspace does nothing. -/
theorem step_absent {act : Act} (hact : act.session? = some i) (hi : w.sessions[i]? = none) :
    w.step act = w := by
  cases act with
  | openSession => exact absurd hact nofun
  | replace => exact absurd hact nofun
  | change => exact absurd hact nofun
  | render j selected =>
    obtain rfl := Option.some.inj hact
    rw [step, render, withSession_none _ hi]
    rfl
  | receive j message =>
    obtain rfl := Option.some.inj hact
    rw [step, receive, withSession_none _ hi]
    rfl
  | close j =>
    obtain rfl := Option.some.inj hact
    rw [step, close, withSession_none _ hi]
    rfl

end

/-- **What an act can do to the sessions.** -/
inductive SessionsStep (ss : List Session) : Option Nat → List Session → Prop
  | idle (named? : Option Nat) : SessionsStep ss named? ss
  | add (settings : Settings) : SessionsStep ss none (ss ++ [Session.new settings ss.length])
  | next {i : Nat} {s t : Session} (hi : ss[i]? = some s) (ht : s.Next t) :
      SessionsStep ss (some i) (ss.set i t)

/-- Every act does one of the three things to the sessions. -/
theorem sessionsStep_step (w : Workspace) (act : Act) :
    SessionsStep w.sessions act.session? (w.step act).sessions := by
  cases act with
  | openSession settings => exact .add settings
  | replace => exact .idle none
  | change => exact .idle none
  | render i selected =>
    cases hi : w.sessions[i]? with
    | none =>
      rw [step_absent rfl hi]
      exact .idle _
    | some s =>
      rw [step_render selected hi]
      exact .next hi (.render w.snapshot selected)
  | receive i message =>
    cases hi : w.sessions[i]? with
    | none =>
      rw [step_absent rfl hi]
      exact .idle _
    | some s =>
      rw [step_receive message hi]
      exact .next hi (.receive message)
  | close i =>
    cases hi : w.sessions[i]? with
    | none =>
      rw [step_absent rfl hi]
      exact .idle _
    | some s =>
      rw [step_close hi]
      exact .next hi .close

theorem SessionsStep.reachable {ss ss' : List Session} {named? : Option Nat}
    (st : SessionsStep ss named? ss') (h : ∀ s ∈ ss, s.Reachable) : ∀ s ∈ ss', s.Reachable := by
  intro s hs
  cases st with
  | idle => exact h s hs
  | add settings =>
    rcases List.mem_append.mp hs with hs | hs
    · exact h s hs
    · rw [List.mem_singleton.mp hs]
      exact .new _ _
  | @next i t t' hi ht =>
    rcases List.mem_or_eq_of_mem_set hs with hs | rfl
    · exact h s hs
    · exact .next (h t (List.mem_of_getElem? hi)) ht

/-- What an act does not name stays as it is. -/
theorem SessionsStep.other {ss ss' : List Session} {named? : Option Nat}
    (st : SessionsStep ss named? ss') {i : Nat} (hi : i < ss.length) (hne : named? ≠ some i) :
    ss'[i]? = ss[i]? := by
  cases st with
  | idle => rfl
  | add settings => rw [List.getElem?_append_left hi]
  | @next k s t hk ht => rw [List.getElem?_set_ne fun he => hne (congrArg some he)]

/-! ## Runs -/

variable {w : Workspace}

theorem Fresh.reachable (hw : w.Fresh) : ∀ s ∈ w.sessions, s.Reachable := by
  intro s hs
  obtain ⟨settings, number, rfl⟩ := hw s hs
  exact .new settings number

/-- **Every session of a run is reachable.** -/
theorem run_reachable (hw : ∀ s ∈ w.sessions, s.Reachable) (acts : List Act) :
    ∀ s ∈ (w.run acts).sessions, s.Reachable := by
  induction acts generalizing w with
  | nil => exact hw
  | cons act acts ih => exact ih ((sessionsStep_step w act).reachable hw)

/-! ## The addresses of a session over its life -/

/-- What becomes of a session that is rendered. -/
theorem render_some (selected : String) (hi : w.sessions[i]? = some s) :
    w.render i selected = some ((s.render w.snapshot selected).1,
      { w with sessions := w.sessions.set i (s.render w.snapshot selected).2 }) := by
  rw [render, withSession_some _ hi]

/-- A session that was changed is found changed. -/
theorem sessions_set_self {t : Session} (hi : w.sessions[i]? = some s) :
    (w.sessions.set i t)[i]? = some t :=
  List.getElem?_set_self (List.getElem?_eq_some_iff.mp hi).1

/-- **The addresses of a session over its life.** From sessions with hosts of any numbers, and after any
acts on them and on others that are opened on the way:

* a session remembers each address once, and those that it remembers are those in use at its host;
* after the rendering of an application without failure there is one for each loadable file, and after any
  other rendering there is none;
* after closing there is none;
* acts that name another session change nothing of it. -/
theorem addresses_over_life (start : Workspace) (hstart : start.Fresh) (acts : List Act) :
    (∀ s ∈ (start.run acts).sessions, s.registry.held.Nodup ∧
      ∀ a, a ∈ s.registry.held ↔ s.host.isLive a = true) ∧
    (∀ i s selected, (start.run acts).sessions[i]? = some s →
      ∃ r after t, (start.run acts).render i selected = some (r, after) ∧
        after.sessions[i]? = some t ∧
        t.registry.size =
          if r.mode = .application ∧ r.failure? = none
          then ((start.run acts).snapshot.loadable s.settings).length else 0) ∧
    (∀ i s, (start.run acts).sessions[i]? = some s →
      ∃ after t, (start.run acts).close i = some ((), after) ∧ after.sessions[i]? = some t ∧
        t.registry.size = 0) ∧
    (∀ act i, act.session? ≠ some i → i < (start.run acts).sessions.length →
      ((start.run acts).step act).sessions[i]? = (start.run acts).sessions[i]?) := by
  have hreach := run_reachable hstart.reachable acts
  generalize start.run acts = w at hreach
  refine ⟨fun s hs => ?_, fun i s selected hi => ?_, fun i s hi => ?_, fun act i hact hi => ?_⟩
  · have hh : Resource.Holds s.registry s.host := (hreach s hs).holds
    exact ⟨hh.nodup, hh.mem_iff⟩
  · exact ⟨_, _, _, render_some selected hi, sessions_set_self hi, s.render_size w.snapshot selected⟩
  · exact ⟨_, _, by rw [close, withSession_some _ hi], sessions_set_self hi, rfl⟩
  · exact (sessionsStep_step w act).other hi hact

/-- The first of two sessions on a small project, rendered. -/
theorem addresses_over_life_small :
    ∃ r after t,
      (run {} [.openSession {}, .openSession {}, .replace .small]).render 0 "a.css" =
        some (r, after) ∧
      after.sessions[0]? = some t ∧ r.mode = .application ∧ r.failure? = none ∧
      t.registry.size = 1 := by
  have h := (addresses_over_life {} fresh_empty
    [.openSession {}, .openSession {}, .replace .small]).2.1 0 (Session.new {} 0) "a.css" rfl
  have hi : (run {} [.openSession {}, .openSession {}, .replace .small]).sessions[0]? =
      some (Session.new {} 0) := rfl
  have hproject : (run {} [.openSession {}, .openSession {}, .replace .small]).snapshot =
      .small := rfl
  generalize run {} [.openSession {}, .openSession {}, .replace .small] = w at h hi hproject ⊢
  obtain ⟨r, after, t, hr, ht, hsize⟩ := h
  have hpair := Option.some.inj ((render_some "a.css" hi).symm.trans hr)
  rw [hproject] at hpair hsize
  obtain ⟨rfl, -⟩ := Prod.mk.inj hpair
  have hmode : ((Session.new {} 0).render .small "a.css").1.mode = .application := by decide +kernel
  have hmade : ((Session.new {} 0).render .small "a.css").1.failure? = none := by decide +kernel
  have hone : (Snapshot.small.loadable (Session.new {} 0).settings).length = 1 := by decide +kernel
  rw [if_pos ⟨hmode, hmade⟩, hone] at hsize
  exact ⟨_, after, t, hr, ht, hmode, hmade, hsize⟩

end Vitrine.Workspace
