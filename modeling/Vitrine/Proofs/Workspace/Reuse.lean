import Vitrine.Proofs.Workspace.Run

/-!
# Addresses are never used again (section 4.7)

Seen from its hosts, a workspace is a world in which every session has a host and a registry at the place
of the session. Each act comes down to a few operations on that world (`operations`): a pass begins by
revoking everything, binds its modules one by one if it gets that far, and revokes everything again if it
fails. The operations of a run lead to the world of the workspace after the run (`world_run`). So what is known
of worlds is known of sessions, in the middle of a pass too.

Handles are never reused across passes: that is what `resolve_modules` and the `revoke_all` at the start of each
`render` come to, for all sessions together.

No host gives out an address that it or another one has given out before. So an address of an earlier
pass, or of another session, is never in use at the host of a session once a new pass has begun: the pass
begins by revoking what the host keeps, and nothing is ever kept again under an old address
(`addresses_never_reused`).
-/

namespace Vitrine

open Resource (World Host Registry)

/-! ## Operations at one place -/

namespace Resource.World

variable {w : World} {i : Nat} {r r' : Registry} {h h' : Host}

/-- A registry and a host stand at the same place. -/
def At (w : World) (i : Nat) (r : Registry) (h : Host) : Prop :=
  w.registries[i]? = some r ∧ w.hosts[i]? = some h

/-- Puts a registry and a host in a place. -/
def put (w : World) (i : Nat) (r : Registry) (h : Host) : World :=
  { hosts := w.hosts.set i h, registries := w.registries.set i r }

theorem At.put (hw : w.At i r h) : (w.put i r' h').At i r' h' :=
  ⟨List.getElem?_set_self (List.getElem?_eq_some_iff.mp hw.1).1,
    List.getElem?_set_self (List.getElem?_eq_some_iff.mp hw.2).1⟩

theorem put_put (w : World) : (w.put i r h).put i r' h' = w.put i r' h' := by
  simp only [World.put, List.set_set]

theorem At.put_self (hw : w.At i r h) : w.put i r h = w := by
  obtain ⟨hr, hri⟩ := List.getElem?_eq_some_iff.mp hw.1
  obtain ⟨hh, hhi⟩ := List.getElem?_eq_some_iff.mp hw.2
  simp only [World.put, ← hri, ← hhi, List.set_getElem_self]

theorem run_revokeAll (hw : w.At i r h) :
    (w.run [.revokeAll i i]).2 = w.put i {} (r.revokeAll h).2.2 := by
  simp only [run, step, revokeAll, withBoth_some _ hw.1 hw.2]
  rfl

/-- Modules that are given addresses one by one are bound. -/
theorem run_allocate (hw : w.At i r h) (ms : List Unbound) :
    (w.run (ms.map fun m => .allocate i i m.code scriptMime)).2 =
      w.put i (bindEach r h ms).registry (bindEach r h ms).host := by
  induction ms generalizing w r h with
  | nil => exact hw.put_self.symm
  | cons m ms ih =>
    have hstep : (w.step (.allocate i i m.code scriptMime)).2 =
        w.put i ⟨r.held ++ [h.nextAddress]⟩ (h.create m.code scriptMime).2 := by
      simp only [step, allocate, withBoth_some _ hw.1 hw.2]
      rfl
    rw [List.map_cons, run]
    simp only [hstep]
    rw [ih hw.put, put_put]
    rfl

end Resource.World

/-! ## Operations of an act -/

namespace Session

/-- The modules that a pass binds: all of them, unless it fails before. -/
def toBind (s : Session) (snapshot : Snapshot) : List Module :=
  match snapshot.get? s.settings.entryMarkupPath, snapshot.modules s.settings with
  | some _, .ok modules => modules
  | _, _ => []

/-- What a pass does with the host and the registry of its session. -/
def operations (s : Session) (i : Nat) (snapshot : Snapshot) (selected : String) : List World.Act :=
  .revokeAll i i ::
    if (s.render snapshot selected).1.mode = .application then
      (unbound (s.toBind snapshot)).map (fun m => .allocate i i m.code Resource.scriptMime) ++
        if (s.render snapshot selected).1.failure? = none then [] else [.revokeAll i i]
    else []

variable {s t : Session} {snapshot : Snapshot} {selected key : String} {w : World} {i : Nat}

theorem toBind_eq {markup : String} {modules : List Module}
    (entry : snapshot.get? s.settings.entryMarkupPath = some markup)
    (compiled : snapshot.modules s.settings = .ok modules) : s.toBind snapshot = modules := by
  rw [toBind, entry, compiled]

/-- However the making of the application ends, the modules that it was to bind are bound. -/
theorem Ending.bound {result : Except Failure (String × List String)}
    (he : Ending s snapshot key result t) :
    t.registry = (s.binding (s.toBind snapshot)).registry ∧
      t.host = (s.binding (s.toBind snapshot)).host := by
  cases he with
  | missing entry =>
    rw [toBind, entry]
    exact ⟨rfl, rfl⟩
  | broken entry compiled =>
    rw [toBind, entry, compiled]
    exact ⟨rfl, rfl⟩
  | unplaced entry compiled =>
    rw [toBind_eq entry compiled]
    exact ⟨rfl, rfl⟩
  | made entry compiled =>
    rw [toBind_eq entry compiled]
    exact ⟨rfl, rfl⟩

/-- **The operations of a pass do what the pass does.** -/
theorem run_operations (hw : w.At i s.registry s.host) (snapshot : Snapshot) (selected : String) :
    (w.run (s.operations i snapshot selected)).2 =
      w.put i (s.render snapshot selected).2.registry (s.render snapshot selected).2.host := by
  have hopened : (w.run [.revokeAll i i]).2 = w.put i s.opened.registry s.opened.host :=
    World.run_revokeAll hw
  have hw' : (w.put i s.opened.registry s.opened.host).At i s.opened.registry s.opened.host := hw.put
  -- Every pass begins with `hopened`; one that gets as far as binding goes on with `hbound`.
  have hbound := World.run_allocate hw' (unbound (s.toBind snapshot))
  rw [World.put_put] at hbound
  rw [operations, ← List.singleton_append, World.run_append, hopened]
  cases s.render_outcome snapshot selected with
  | aside mode _ _ registry host =>
    rw [if_neg mode, registry, host]
    rfl
  | @failed failure t mode ending failed _ _ registry host =>
    obtain ⟨hregistry, hhost⟩ := ending.bound
    have hat : (w.put i t.registry t.host).At i t.registry t.host := hw.put
    have hnone : ¬ (s.render snapshot selected).1.failure? = none := by
      rw [failed]
      nofun
    rw [if_pos mode, if_neg hnone, World.run_append, hbound, registry, host]
    -- The pass is at `t` now, whichever way it ended, and revokes what `t` holds.
    change ((w.put i (s.opened.binding (s.opened.toBind snapshot)).registry
      (s.opened.binding (s.opened.toBind snapshot)).host).run _).2 = _
    rw [← hregistry, ← hhost, World.run_revokeAll hat, World.put_put]
    rfl
  | @made _ modules mode entry compiled _ failure _ registry host =>
    rw [if_pos mode, if_pos failure, List.append_nil, hbound, registry, host,
      toBind_eq entry compiled]
    rfl

end Session

namespace Workspace

/-- The hosts and the registries of the sessions. -/
def world (w : Workspace) : World := ⟨w.sessions.map (·.host), w.sessions.map (·.registry)⟩

/-- What an act does with the hosts and the registries. -/
def operations (w : Workspace) : Act → List World.Act
  | .openSession _ => [.addHost, .addRegistry]
  | .render i selected =>
    match w.sessions[i]? with
    | some s => s.operations i w.snapshot selected
    | none => []
  | .close i => [.revokeAll i i]
  | .replace _ | .change _ | .receive .. => []

/-- What some acts do with the hosts and the registries, one after the other. -/
def trace : Workspace → List Act → List World.Act
  | _, [] => []
  | w, act :: acts => w.operations act ++ trace (w.step act) acts

variable {w : Workspace} {i : Nat} {s t : Session}

theorem world_at (hi : w.sessions[i]? = some s) : w.world.At i s.registry s.host := by
  simp only [World.At, world, List.getElem?_map, hi, Option.map_some, and_self]

theorem world_set (w : Workspace) (i : Nat) (t : Session) :
    world { w with sessions := w.sessions.set i t } = w.world.put i t.registry t.host := by
  simp only [world, World.put, List.map_set]

/-- **The operations of an act lead to the world after the act.** -/
theorem world_step (w : Workspace) (act : Act) :
    (w.world.run (w.operations act)).2 = (w.step act).world := by
  cases act with
  | openSession settings =>
    simp only [operations, World.run, World.step, World.addHost, World.addRegistry, step, openSession,
      world, List.map_append, List.length_map]
    rfl
  | replace => rfl
  | change => rfl
  | render i selected =>
    cases hi : w.sessions[i]? with
    | none =>
      rw [step_absent rfl hi]
      simp only [operations, hi]
      rfl
    | some s =>
      rw [step_render selected hi, world_set]
      simp only [operations, hi]
      exact Session.run_operations (world_at hi) w.snapshot selected
  | receive i message =>
    cases hi : w.sessions[i]? with
    | none =>
      rw [step_absent rfl hi]
      rfl
    | some s =>
      rw [step_receive message hi, world_set, Session.receive_registry, Session.receive_host,
        (world_at hi).put_self]
      rfl
  | close i =>
    cases hi : w.sessions[i]? with
    | none =>
      have hnone : w.world.hosts[i]? = none := by
        simp only [world, List.getElem?_map, hi, Option.map_none]
      rw [step_absent rfl hi]
      simp only [operations, World.run, World.step, World.revokeAll,
        World.withBoth_none _ (Or.inr hnone)]
    | some s =>
      rw [step_close hi, world_set]
      exact World.run_revokeAll (world_at hi)

/-- **The operations of a run lead to the world after the run.** -/
theorem world_run (w : Workspace) (acts : List Act) :
    (w.world.run (w.trace acts)).2 = (w.run acts).world := by
  induction acts generalizing w with
  | nil => rfl
  | cons act acts ih =>
    rw [trace, World.run_append, world_step]
    exact ih (w.step act)

/-! ## What sessions are given and keep -/

open Resource (keptAt IssuedAt Numbered numbered_empty)

variable {acts : List Act} {j : Nat} {a : String}

/-- The addresses that the sessions of a run are given, each with the place of its session. -/
def given (acts : List Act) : List (Nat × String) := (World.run {} (trace {} acts)).1

theorem numbered_world (acts : List Act) : Numbered (run {} acts).world.hosts := by
  rw [← world_run]
  exact World.numbered_run numbered_empty _

/-- What the host of a session has given out is what the session was given. -/
theorem issuedAt_world : IssuedAt (run {} acts).world.hosts i a ↔ (i, a) ∈ given acts := by
  rw [← world_run]
  refine (World.issuedAt_run _ _).trans (or_iff_right ?_)
  rintro ⟨h, hi, -⟩
  exact absurd hi nofun

theorem keptAt_world (hi : w.sessions[i]? = some s) : keptAt w.world.hosts i a = s.host.get? a := by
  rw [keptAt, (world_at hi).2, Option.bind_some]

/-! ## After the beginning of a pass -/

/-- What was given out elsewhere is not kept here, whatever happens. -/
theorem keptAt_of_elsewhere (hn : Numbered w.world.hosts) (hij : i ≠ j)
    (hj : IssuedAt w.world.hosts j a) (ops : List World.Act) :
    keptAt (w.world.run ops).2.hosts i a = none :=
  World.kept_foreign (World.numbered_run hn ops) [] hij ((World.issuedAt_run _ ops).mpr (Or.inl hj))

/-- What was given out before a pass is not kept from its first operation on. -/
theorem keptAt_of_render (hi : w.sessions[i]? = some s) (hs : s.Holds)
    (ha : IssuedAt w.world.hosts i a) (ops : List World.Act) :
    keptAt (w.world.run (.revokeAll i i :: ops)).2.hosts i a = none := by
  rw [← List.singleton_append, World.run_append]
  refine World.run_gone ops ((World.issuedAt_run _ _).mpr (Or.inl ha)) ?_
  have hclosed := hs.close_live
  rw [World.run_revokeAll (world_at hi), keptAt, ((world_at hi).put).2, Option.bind_some,
    Resource.Host.get?, ← Session.close_host, hclosed, List.lookup_nil]

/-- The first operation from a rendering on is to revoke. -/
theorem trace_render (hi : w.sessions[i]? = some s) (selected : String) (later : List Act) :
    ∃ ops, w.trace (.render i selected :: later) = .revokeAll i i :: ops := by
  rw [trace, operations, hi]
  exact ⟨_, rfl⟩

/-- A session that was given an address was opened. -/
theorem session_of_given (ha : (j, a) ∈ given acts) : ∃ s, (run {} acts).sessions[j]? = some s := by
  obtain ⟨h, hh, -⟩ := issuedAt_world.mpr ha
  rw [world, List.getElem?_map] at hh
  obtain ⟨s, hj, -⟩ := Option.map_eq_some_iff.mp hh
  exact ⟨s, hj⟩

/-- **What was given out before a pass is in use at no moment from the beginning of the pass on.** -/
theorem keptAt_of_prefix {before later : List Act} {selected : String} {front : List World.Act}
    (ha : (j, a) ∈ given before) (hne : front ≠ [])
    (hfront : front <+: (run {} before).trace (.render i selected :: later)) :
    keptAt ((run {} before).world.run front).2.hosts i a = none := by
  have hj := issuedAt_world.mpr ha
  -- What the session itself was given is revoked first; no other host shares its addresses.
  by_cases hij : i = j
  · subst hij
    obtain ⟨s, hi⟩ := session_of_given ha
    have hs := (run_reachable fresh_empty.reachable before s (List.mem_of_getElem? hi)).holds
    obtain ⟨ops, htrace⟩ := trace_render hi selected later
    rw [htrace] at hfront
    rcases List.prefix_cons_iff.mp hfront with rfl | ⟨ops', rfl, -⟩
    · exact absurd rfl hne
    · exact keptAt_of_render hi hs hj ops'
  · exact keptAt_of_elsewhere (numbered_world before) hij hj front

/-- Nor is it in use at the end of the run. -/
theorem get?_of_given {before later : List Act} {selected : String} (ha : (j, a) ∈ given before)
    (hi : (run {} (before ++ .render i selected :: later)).sessions[i]? = some s) :
    s.host.get? a = none := by
  have hworld : (run {} (before ++ .render i selected :: later)).world =
      ((run {} before).world.run ((run {} before).trace (.render i selected :: later))).2 := by
    rw [run_append, world_run]
  rw [← keptAt_world hi, hworld]
  by_cases hij : i = j
  · subst hij
    obtain ⟨t, ht⟩ := session_of_given ha
    obtain ⟨ops, htrace⟩ := trace_render ht selected later
    exact keptAt_of_prefix ha (by rw [htrace]; nofun) List.prefix_rfl
  · exact keptAt_of_elsewhere (numbered_world before) hij (issuedAt_world.mpr ha) _

/-- **Addresses are never used again.**

* All addresses that hosts give out in a run are different, whatever is done with the hosts and with
  registries, and in whatever order.
* An address that a session was given before a rendering is not in use at the host of the rendered session
  from the first operation of the rendering on (`front` ends anywhere in or after it), and that host yields
  nothing for it after any later acts.
* An address that one session is given, before or later, is never in use at the host of another. -/
theorem addresses_never_reused :
    (∀ acts : List World.Act, ((World.run {} acts).1.map Prod.snd).Nodup) ∧
    (∀ before i selected later j a, (j, a) ∈ given before →
      (∀ front, front ≠ [] → front <+: (run {} before).trace (.render i selected :: later) →
        keptAt ((run {} before).world.run front).2.hosts i a = none) ∧
      ∀ s, (run {} (before ++ .render i selected :: later)).sessions[i]? = some s →
        s.host.get? a = none) ∧
    (∀ acts i j a, i ≠ j → (j, a) ∈ given acts →
      ∀ front, front <+: trace {} acts → keptAt (World.run {} front).2.hosts i a = none) := by
  refine ⟨World.run_addresses_nodup numbered_empty, fun before i selected later j a ha => ⟨?_, ?_⟩, ?_⟩
  · exact fun front hne hfront => keptAt_of_prefix ha hne hfront
  · exact fun s hi => get?_of_given ha hi
  · rintro acts i j a hij ha front ⟨back, hback⟩
    refine World.kept_foreign (World.numbered_run numbered_empty front) back hij ?_
    have hend : ((World.run {} front).2.run back).2 = (run {} acts).world := by
      rw [← world_run, ← hback, World.run_append]
      rfl
    rw [hend]
    exact issuedAt_world.mpr ha

/-- A small project that is rendered twice: the second pass has an address of its own. -/
theorem addresses_never_reused_small :
    (0, "blob:preview/0/0") ∈ given [.openSession {}, .replace .small, .render 0 "a.css"] ∧
      (∃ s, (run {} [.openSession {}, .replace .small, .render 0 "a.css",
          .render 0 "a.css"]).sessions[0]? = some s ∧
        s.registry.held = ["blob:preview/0/1"] ∧ s.host.get? "blob:preview/0/0" = none) ∧
      keptAt (World.run {} (trace {} [.openSession {}, .replace .small, .render 0 "a.css"])).2.hosts
        1 "blob:preview/0/0" = none := by
  have hgiven : (0, "blob:preview/0/0") ∈
      given [.openSession {}, .replace .small, .render 0 "a.css"] := by decide +kernel
  have hheld : (run {} [.openSession {}, .replace .small, .render 0 "a.css",
      .render 0 "a.css"]).sessions.map (·.registry.held) = [["blob:preview/0/1"]] := by decide +kernel
  obtain ⟨s, hs, hheld⟩ := List.map_eq_singleton_iff.mp hheld
  have hi : (run {} [.openSession {}, .replace .small, .render 0 "a.css",
      .render 0 "a.css"]).sessions[0]? = some s := by
    rw [hs]
    rfl
  have h := addresses_never_reused.2
  exact ⟨hgiven, ⟨s, hi, hheld, (h.1 _ 0 "a.css" [] 0 _ hgiven).2 s hi⟩,
    h.2 _ 1 0 _ (by decide) hgiven _ List.prefix_rfl⟩

end Workspace

end Vitrine
