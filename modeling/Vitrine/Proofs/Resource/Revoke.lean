import Mathlib.Data.List.Perm.Subperm
import Vitrine.Proofs.Resource.Issue

/-!
# Revoking everything a registry holds (section 4.7)

A registry may hold addresses of several hosts, several registries may hold addresses of one host, and an
address may have been revoked behind the back of the registry that holds it. But what registries hold is always
among what hosts have given out, each address once (`held_run`). No address is given out twice, so none is held
twice (`held_nodup`), neither by one registry nor by two.

The operation is `revoke_all` of a `HandleRegistry`, with whatever host it is given.

So revoking one address leaves the others of the registry as they were, and the number that `revokeAll` tells is
that of the held addresses which were in use at the host just before (`revokeEach_fst`).

* `Host.get?_forget`: what is kept after some addresses are forgotten.
* `revokeAll_exact`: what `revokeAll` changes, and that it changes nothing else.
-/

namespace Vitrine.Resource

open scoped List

/-! ## What one revocation leaves -/

namespace Host

variable {h : Host} {a b : String} {as : List String}

/-- What is forgotten is not found, and all else is as it was. -/
theorem get?_forget (h : Host) (as : List String) (a : String) :
    get? { h with live := h.live.filter fun e => e.1 ∉ as } a = if a ∈ as then none else h.get? a := by
  unfold get?
  induction h.live with
  | nil => exact (ite_self _).symm
  | cons e live ih =>
    obtain ⟨b, stored⟩ := e
    by_cases hb : b ∈ as
    · rw [List.filter_cons_of_neg (by simpa using hb), ih, List.lookup_cons]
      by_cases hab : a = b
      · rw [hab, if_pos hb, if_pos hb]
      · rw [beq_eq_false_iff_ne.mpr hab]
    · rw [List.filter_cons_of_pos (by simpa using hb)]
      simp only [List.lookup_cons]
      by_cases hab : a = b
      · rw [hab, beq_self_eq_true, if_neg hb]
      · rw [beq_eq_false_iff_ne.mpr hab]
        exact ih

theorem revoke_snd (h : Host) (a : String) :
    (h.revoke a).2 = { h with live := h.live.filter fun e => e.1 ∉ [a] } :=
  Registry.revokeEach_snd h [a]

/-- Other addresses stay as they are. -/
theorem isLive_revoke (hne : b ≠ a) : (h.revoke a).2.isLive b = h.isLive b := by
  rw [isLive, isLive, revoke_snd, get?_forget, if_neg (by simpa using hne)]

end Host

/-- **The number that is told** is that of the addresses which were in use before, if none stands twice. -/
theorem Registry.revokeEach_fst (h : Host) {as : List String} (hnodup : as.Nodup) :
    (revokeEach h as).1 = as.countP h.isLive := by
  induction as generalizing h with
  | nil => rfl
  | cons a rest ih =>
    obtain ⟨ha, hrest⟩ := List.nodup_cons.mp hnodup
    have hlater : rest.countP (h.revoke a).2.isLive = rest.countP h.isLive := by
      refine List.countP_congr fun b hb => ?_
      have hne : b ≠ a := fun hba => ha (hba ▸ hb)
      rw [Host.isLive_revoke hne]
    rw [List.countP_cons, ← hlater, ← ih _ hrest]
    show (if h.isLive a then _ + 1 else _) = _
    split <;> rfl

/-! ## What registries hold -/

/-- Setting a place trades what stood there for what stands there now. -/
theorem flatMap_set_perm {α β : Type} {f : α → List β} {xs : List α} {i : Nat} {x : α} (hx : xs[i]? = some x)
    (y : α) : (xs.set i y).flatMap f ++ f x ~ xs.flatMap f ++ f y := by
  induction xs generalizing i with
  | nil => exact absurd hx nofun
  | cons z xs ih =>
    cases i with
    | zero =>
      obtain rfl : z = x := Option.some.inj hx
      rw [List.set_cons_zero, List.flatMap_cons, List.flatMap_cons]
      calc (f y ++ xs.flatMap f) ++ f z
        _ ~ f z ++ (f y ++ xs.flatMap f) := List.perm_append_comm
        _ ~ f z ++ (xs.flatMap f ++ f y) := List.perm_append_comm.append_left _
        _ = (f z ++ xs.flatMap f) ++ f y := (List.append_assoc _ _ _).symm
    | succ i =>
      rw [List.set_cons_succ, List.flatMap_cons, List.flatMap_cons, List.append_assoc, List.append_assoc]
      exact (ih hx).append_left (f z)

namespace World

variable {w : World} {r h i : Nat} {registry : Registry} {host : Host} {a : String}

/-- Everything that the registries of a world hold. -/
def held (w : World) : List String := w.registries.flatMap Registry.held

/-- A registry takes one more address. -/
theorem held_take (hr : w.registries[r]? = some registry) (hosts : List Host) (a : String) :
    held ⟨hosts, w.registries.set r ⟨registry.held ++ [a]⟩⟩ ~ w.held ++ [a] := by
  refine (List.perm_append_right_iff registry.held).mp ((flatMap_set_perm hr _).trans ?_)
  rw [List.append_assoc]
  exact List.perm_append_comm.append_left w.held

/-- A registry forgets everything. -/
theorem held_clear (hr : w.registries[r]? = some registry) (hosts : List Host) :
    held ⟨hosts, w.registries.set r {}⟩ <+~ w.held := by
  have hperm := flatMap_set_perm (f := Registry.held) hr {}
  rw [List.append_nil] at hperm
  exact (List.sublist_append_left _ _).subperm.trans hperm.subperm

/-- **An act lets registries hold only what they held and what it gives out.** -/
theorem held_step (w : World) (act : Act) :
    (w.step act).2.held <+~ w.held ++ (w.step act).1.map Prod.snd := by
  have hkeep (given : List String) : w.held <+~ w.held ++ given := (List.sublist_append_left _ _).subperm
  cases act with
  | addHost => exact hkeep []
  | addRegistry =>
    have hadded : (w.step .addRegistry).2.held = w.held ++ [] := List.flatMap_append
    exact hadded ▸ List.Subperm.refl _
  | create h content mime =>
    cases hh : w.hosts[h]? with
    | none =>
      rw [step, create, withHost_none _ hh]
      exact hkeep []
    | some host =>
      rw [step, create, withHost_some _ hh]
      exact hkeep _
  | revoke h address =>
    cases hh : w.hosts[h]? with
    | none =>
      rw [step, revoke, withHost_none _ hh]
      exact hkeep []
    | some host =>
      rw [step, revoke, withHost_some _ hh]
      exact hkeep []
  | allocate r h content mime =>
    rcases both_or_none w r h with ⟨registry, host, hr, hh⟩ | hn
    · rw [step, allocate, withBoth_some _ hr hh]
      exact (held_take hr _ host.nextAddress).subperm
    · rw [step, allocate, withBoth_none _ hn]
      exact hkeep []
  | revokeAll r h =>
    rcases both_or_none w r h with ⟨registry, host, hr, hh⟩ | hn
    · rw [step, revokeAll, withBoth_some _ hr hh]
      exact (held_clear hr _).trans (hkeep [])
    · rw [step, revokeAll, withBoth_none _ hn]
      exact hkeep []

theorem held_run (w : World) (acts : List Act) :
    (w.run acts).2.held <+~ w.held ++ (w.run acts).1.map Prod.snd := by
  induction acts generalizing w with
  | nil => exact (List.append_nil w.held).symm ▸ List.Subperm.refl _
  | cons act acts ih =>
    rw [run, List.map_append, ← List.append_assoc]
    exact (ih _).trans ((List.subperm_append_right _).mpr (held_step w act))

/-- **No address is held twice**, neither by one registry nor by two. -/
theorem held_nodup (acts : List Act) : (run {} acts).2.held.Nodup := by
  obtain ⟨as, hperm, hsub⟩ := held_run {} acts
  exact hperm.nodup_iff.mp ((run_addresses_nodup numbered_empty acts).sublist hsub)

theorem nodup_of_held (hnodup : w.held.Nodup) (hr : w.registries[r]? = some registry) : registry.held.Nodup :=
  (List.nodup_flatMap.mp hnodup).1 registry (List.mem_of_getElem? hr)

theorem disjoint_of_held {other : Registry} (hnodup : w.held.Nodup) (hr : w.registries[r]? = some registry)
    (hi : w.registries[i]? = some other) (hne : i ≠ r) : other.held.Disjoint registry.held := by
  obtain ⟨hlt, rfl⟩ := List.getElem?_eq_some_iff.mp hi
  obtain ⟨hlt', rfl⟩ := List.getElem?_eq_some_iff.mp hr
  have hdisjoint := List.pairwise_iff_getElem.mp (List.nodup_flatMap.mp hnodup).2
  rcases Nat.lt_or_gt_of_ne hne with h | h
  · exact hdisjoint i r hlt hlt' h
  · exact fun a ha ha' => hdisjoint r i hlt' hlt h ha' ha

/-! ## Revoking everything -/

/-- What `revokeAll` makes of a world: the host forgets what the registry held, and the registry is empty. -/
def cleared (w : World) (r h : Nat) (registry : Registry) (host : Host) : World where
  hosts := w.hosts.set h { host with live := host.live.filter fun e => e.1 ∉ registry.held }
  registries := w.registries.set r {}

theorem hosts_cleared (hh : w.hosts[h]? = some host) :
    (w.cleared r h registry host).hosts[i]? =
      if i = h then some { host with live := host.live.filter fun e => e.1 ∉ registry.held } else w.hosts[i]? :=
  getElem?_set_taken hh

theorem registries_cleared (hr : w.registries[r]? = some registry) :
    (w.cleared r h registry host).registries[i]? = if i = r then some {} else w.registries[i]? :=
  getElem?_set_taken hr

theorem revokeAll_eq (hr : w.registries[r]? = some registry) (hh : w.hosts[h]? = some host)
    (hnodup : registry.held.Nodup) :
    w.revokeAll r h = some (registry.held.countP host.isLive, w.cleared r h registry host) := by
  rw [revokeAll, withBoth_some _ hr hh, cleared, ← Registry.revokeEach_fst host hnodup, ← Registry.revokeEach_snd]
  rfl

/-- There is nothing to revoke for an empty registry. -/
theorem revokeAll_of_empty (hr : w.registries[r]? = some {}) (hh : w.hosts[h]? = some host) :
    w.revokeAll r h = some (0, w) := by
  obtain ⟨hlt, hri⟩ := List.getElem?_eq_some_iff.mp hr
  obtain ⟨hlt', hhi⟩ := List.getElem?_eq_some_iff.mp hh
  rw [revokeAll, withBoth_some _ hr hh]
  show some (0, (⟨w.hosts.set h host, w.registries.set r {}⟩ : World)) = _
  rw [← hri, ← hhi, List.set_getElem_self, List.set_getElem_self]

/-- **What `revokeAll` does**, after any acts on any number of hosts and registries: it tells how many of the
held addresses, none of which stands twice, were in use at the host. Afterwards the registry is empty and none of
them is in use at the host, which keeps everything else as it was; so what other registries hold there stays in
use. Other hosts and registries are left alone. To do it once more revokes nothing and changes nothing. -/
theorem revokeAll_exact (acts : List Act) (hr : (run {} acts).2.registries[r]? = some registry)
    (hh : (run {} acts).2.hosts[h]? = some host) :
    ∃ (host' : Host) (w' : World),
      (run {} acts).2.revokeAll r h = some (registry.held.countP host.isLive, w') ∧ registry.held.Nodup ∧
      w'.registries[r]? = some {} ∧ w'.hosts[h]? = some host' ∧
      (∀ a ∈ registry.held, host'.isLive a = false) ∧ (∀ a ∉ registry.held, host'.get? a = host.get? a) ∧
      host'.number = host.number ∧ host'.issued = host.issued ∧
      (∀ i ≠ h, w'.hosts[i]? = (run {} acts).2.hosts[i]?) ∧
      (∀ i ≠ r, w'.registries[i]? = (run {} acts).2.registries[i]?) ∧
      (∀ i ≠ r, ∀ other, (run {} acts).2.registries[i]? = some other →
        ∀ a ∈ other.held, host'.get? a = host.get? a) ∧
      w'.revokeAll r h = some (0, w') := by
  have hheld := held_nodup acts
  generalize (run {} acts).2 = w at hr hh hheld ⊢
  have hnodup := nodup_of_held hheld hr
  have hget (a : String) := host.get?_forget registry.held a
  have hkept (a : String) (ha : a ∉ registry.held) := (hget a).trans (if_neg ha)
  have hr' : (w.cleared r h registry host).registries[r]? = some {} := (registries_cleared hr).trans (if_pos rfl)
  have hh' : (w.cleared r h registry host).hosts[h]? =
      some { host with live := host.live.filter fun e => e.1 ∉ registry.held } :=
    (hosts_cleared hh).trans (if_pos rfl)
  refine ⟨_, _, revokeAll_eq hr hh hnodup, hnodup, hr', hh', fun a ha => ?_, hkept, rfl, rfl,
    fun i hi => (hosts_cleared hh).trans (if_neg hi), fun i hi => (registries_cleared hr).trans (if_neg hi),
    fun i hi other hother a ha => hkept a (disjoint_of_held hheld hr hother hi ha), revokeAll_of_empty hr' hh'⟩
  rw [Host.isLive, hget, if_pos ha]
  rfl

/-- What is done in turn: a registry takes addresses of two hosts, the first of which is revoked at once, and
another registry takes an address of the first host. -/
def mixed : List Act :=
  [.addHost, .addHost, .addRegistry, .addRegistry, .allocate 0 0 "a" "", .revoke 0 "blob:preview/0/0",
    .allocate 0 1 "b" "", .allocate 1 0 "c" "", .allocate 0 0 "d" ""]

/-- Of the three addresses that the first registry holds, one has been revoked and one is of another host. -/
theorem revokeAll_exact_mixed :
    (run {} mixed).2.registries.map (·.held) =
        [["blob:preview/0/0", "blob:preview/1/0", "blob:preview/0/2"], ["blob:preview/0/1"]] ∧
      ∃ host' w', (run {} mixed).2.revokeAll 0 0 = some (1, w') ∧ w'.hosts[0]? = some host' ∧
        host'.isLive "blob:preview/0/2" = false ∧ host'.isLive "blob:preview/0/1" = true ∧
        w'.hosts[1]? = (run {} mixed).2.hosts[1]? ∧ w'.revokeAll 0 0 = some (0, w') := by
  have hheld : (run {} mixed).2.registries.map (·.held) =
      [["blob:preview/0/0", "blob:preview/1/0", "blob:preview/0/2"], ["blob:preview/0/1"]] := by decide +kernel
  have hlive : (run {} mixed).2.hosts[0]?.map (fun host =>
      (["blob:preview/0/0", "blob:preview/1/0", "blob:preview/0/2"].countP host.isLive,
        host.isLive "blob:preview/0/1")) = some (1, true) := by decide +kernel
  obtain ⟨first, rest, hregistries, hfirst, hrest⟩ := List.map_eq_cons_iff.mp hheld
  obtain ⟨second, rfl, hsecond⟩ := List.map_eq_singleton_iff.mp hrest
  obtain ⟨host, hh, hhost⟩ := Option.map_eq_some_iff.mp hlive
  rw [← hfirst, Prod.mk.injEq] at hhost
  have hr : (run {} mixed).2.registries[0]? = some first := hregistries ▸ rfl
  have hr' : (run {} mixed).2.registries[1]? = some second := hregistries ▸ rfl
  obtain ⟨host', w', hrevoked, -, -, hh', hgone, -, -, -, hhosts, -, hothers, hagain⟩ :=
    revokeAll_exact mixed hr hh
  have hkept : host'.isLive "blob:preview/0/1" = host.isLive "blob:preview/0/1" :=
    congrArg Option.isSome (hothers 1 Nat.one_ne_zero second hr' _ (hsecond ▸ List.mem_cons_self))
  refine ⟨hheld, host', w', hhost.1 ▸ hrevoked, hh', hgone _ ?_, hkept.trans hhost.2, hhosts 1 Nat.one_ne_zero, hagain⟩
  rw [hfirst]
  decide

end World

end Vitrine.Resource
