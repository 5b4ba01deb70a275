import Vitrine.Proofs.Resource.Holding
import Vitrine.Resource.World

/-!
# No address is given out twice (section 4.7)

A run of acts on a world of hosts and registries, with a record of what its hosts give out. The record
names the place of the host with each address.

`create` numbers what it keeps and never goes back, and each `MemoryResourceHost` has a number of its own.

An act can do only four things to the hosts (`HostStep`, `World.hostStep_step`): nothing, add a host,
keep one thing more under the next address of a host, or forget some addresses of a host. Everything below
is derived from that, by induction on the run.

Results:
* `World.issuedAt_run`: what the hosts have given out after a run is what they had given out before,
  and the record.
* `World.run_addresses_nodup`: the record of a run names no address twice, neither of one host nor of two.
* `World.run_gone`: what was given out and is not kept any more is not kept again.
* `World.kept_foreign`: no host keeps something under an address that another one gives out.

Numbers grow without bound here, so they are those of a counter of 64 bits as long as that does not
overflow.
-/

namespace Vitrine.Resource

/-! ## Runs -/

namespace World

/-- What can be done with a world; a registry and a host are named by their places. -/
inductive Act where
  | addHost
  | addRegistry
  | create (h : Nat) (content mime : String)
  | revoke (h : Nat) (address : String)
  | allocate (r h : Nat) (content mime : String)
  | revokeAll (r h : Nat)

/-- What an act gives out, each address with the place of its host, and the world after it. An act at a
place where there is nothing does nothing. -/
def step (w : World) : Act → List (Nat × String) × World
  | .addHost => ([], w.addHost.2)
  | .addRegistry => ([], w.addRegistry.2)
  | .create h content mime =>
    match w.create h content mime with
    | some (address, w) => ([(h, address)], w)
    | none => ([], w)
  | .revoke h address =>
    match w.revoke h address with
    | some (_, w) => ([], w)
    | none => ([], w)
  | .allocate r h content mime =>
    match w.allocate r h content mime with
    | some (address, w) => ([(h, address)], w)
    | none => ([], w)
  | .revokeAll r h =>
    match w.revokeAll r h with
    | some (_, w) => ([], w)
    | none => ([], w)

/-- Everything that some acts give out, in order, and the world after them. -/
def run : World → List Act → List (Nat × String) × World
  | w, [] => ([], w)
  | w, act :: acts =>
    let (given, w) := w.step act
    let (later, w) := run w acts
    (given ++ later, w)

end World

/-! ## One step -/

/-- The host at a place has given out an address. -/
def IssuedAt (hs : List Host) (i : Nat) (a : String) : Prop :=
  ∃ h, hs[i]? = some h ∧ h.HasIssued a

/-- What the host at a place keeps under an address. -/
def keptAt (hs : List Host) (i : Nat) (a : String) : Option Stored := hs[i]?.bind (·.get? a)

/-- Hosts are numbered by their places, and each of them is sound. -/
def Numbered (hs : List Host) : Prop :=
  ∀ (i : Nat) (h : Host), hs[i]? = some h → h.number = i ∧ h.Sound

theorem numbered_empty : Numbered [] := fun _ _ hi => absurd hi nofun

/-- What an act can do to the hosts, with what is given out. -/
inductive HostStep (hs : List Host) : List (Nat × String) → List Host → Prop
  | idle : HostStep hs [] hs
  | add : HostStep hs [] (hs ++ [{ number := hs.length }])
  | keep {i : Nat} {h : Host} (content mime : String) (hi : hs[i]? = some h) :
      HostStep hs [(i, h.nextAddress)] (hs.set i (h.create content mime).2)
  | forget {i : Nat} {h : Host} (as : List String) (hi : hs[i]? = some h) :
      HostStep hs [] (hs.set i { h with live := h.live.filter fun e => e.1 ∉ as })

namespace World

variable {α : Type} {w : World} {r h i : Nat} {host : Host} {registry : Registry} {a : String}

theorem withHost_none (f : Host → α × Host) (hh : w.hosts[h]? = none) : w.withHost h f = none := by
  rw [withHost, hh, Option.map_none]

theorem withHost_some (f : Host → α × Host) (hh : w.hosts[h]? = some host) :
    w.withHost h f = some ((f host).1, { w with hosts := w.hosts.set h (f host).2 }) := by
  rw [withHost, hh, Option.map_some]

theorem withBoth_none (f : Registry → Host → α × Registry × Host)
    (hn : w.registries[r]? = none ∨ w.hosts[h]? = none) : w.withBoth r h f = none := by
  unfold withBoth
  rcases hn with hn | hn
  · rw [hn, Option.bind_eq_bind, Option.bind_none]
  · rw [hn]
    cases w.registries[r]? <;> rfl

theorem withBoth_some (f : Registry → Host → α × Registry × Host)
    (hr : w.registries[r]? = some registry) (hh : w.hosts[h]? = some host) :
    w.withBoth r h f = some ((f registry host).1,
      { hosts := w.hosts.set h (f registry host).2.2
        registries := w.registries.set r (f registry host).2.1 }) := by
  simp only [withBoth, hr, hh, Option.bind_eq_bind, Option.bind_some]

/-- Either both places are taken, or one of them is not. -/
theorem both_or_none (w : World) (r h : Nat) :
    (∃ registry host, w.registries[r]? = some registry ∧ w.hosts[h]? = some host) ∨
      (w.registries[r]? = none ∨ w.hosts[h]? = none) := by
  cases hr : w.registries[r]? with
  | none => exact Or.inr (Or.inl rfl)
  | some registry =>
    cases hh : w.hosts[h]? with
    | none => exact Or.inr (Or.inr rfl)
    | some host => exact Or.inl ⟨registry, host, rfl, rfl⟩

/-- **An act does one of the four things to the hosts.** -/
theorem hostStep_step (w : World) (act : Act) :
    HostStep w.hosts (w.step act).1 (w.step act).2.hosts := by
  cases act with
  | addHost => exact .add
  | addRegistry => exact .idle
  | create h content mime =>
    cases hh : w.hosts[h]? with
    | none =>
      rw [step, create, withHost_none _ hh]
      exact .idle
    | some host =>
      rw [step, create, withHost_some _ hh]
      exact .keep content mime hh
  | revoke h address =>
    cases hh : w.hosts[h]? with
    | none =>
      rw [step, revoke, withHost_none _ hh]
      exact .idle
    | some host =>
      rw [step, revoke, withHost_some _ hh]
      have hf := HostStep.forget [address] hh
      rwa [← Registry.revokeEach_snd] at hf
  | allocate r h content mime =>
    rcases both_or_none w r h with ⟨registry, host, hr, hh⟩ | hn
    · rw [step, allocate, withBoth_some _ hr hh]
      exact .keep content mime hh
    · rw [step, allocate, withBoth_none _ hn]
      exact .idle
  | revokeAll r h =>
    rcases both_or_none w r h with ⟨registry, host, hr, hh⟩ | hn
    · rw [step, revokeAll, withBoth_some _ hr hh]
      have hf := HostStep.forget registry.held hh
      rwa [← Registry.revokeEach_snd] at hf
    · rw [step, revokeAll, withBoth_none _ hn]
      exact .idle

end World

/-! ## What a step keeps -/

section Hosts

variable {hs hs' : List Host} {given : List (Nat × String)} {i j : Nat} {a : String}

/-- What stands at a place when a place that is taken has been set. -/
theorem getElem?_set_taken {α : Type} {l : List α} {x y : α} (hi : l[i]? = some x) :
    (l.set i y)[j]? = if j = i then some y else l[j]? := by
  by_cases hj : j = i
  · subst hj
    rw [if_pos rfl, List.getElem?_set_self (List.getElem?_eq_some_iff.mp hi).1]
  · rw [if_neg hj, List.getElem?_set_ne (Ne.symm hj)]

/-- What stands at a place when something has been added at the end. -/
theorem getElem?_added {α : Type} {l : List α} {x y : α} (hj : (l ++ [y])[j]? = some x) :
    l[j]? = some x ∨ (j = l.length ∧ x = y) := by
  rcases Nat.lt_or_ge j l.length with hlt | hge
  · rw [List.getElem?_append_left hlt] at hj
    exact Or.inl hj
  · rw [List.getElem?_append_right hge] at hj
    obtain ⟨hk, rfl⟩ := List.getElem?_eq_some_iff.mp hj
    rw [List.length_singleton] at hk
    exact Or.inr ⟨by omega, List.getElem_singleton _⟩

/-- Of two hosts that have given out the same address, each is the other. -/
theorem Numbered.place_eq (hn : Numbered hs) (hi : IssuedAt hs i a) (hj : IssuedAt hs j a) :
    i = j := by
  obtain ⟨g, hg, hga⟩ := hi
  obtain ⟨h, hh, hha⟩ := hj
  rw [← (hn i g hg).1, ← (hn j h hh).1]
  exact hga.number_eq hha

/-- What is kept has been given out by the host that keeps it. -/
theorem Numbered.issuedAt_of_kept (hn : Numbered hs) (hk : keptAt hs i a ≠ none) :
    IssuedAt hs i a := by
  unfold keptAt at hk
  cases hi : hs[i]? with
  | none => exact absurd (by rw [hi, Option.bind_none]) hk
  | some h =>
    rw [hi, Option.bind_some] at hk
    refine ⟨h, hi, (hn i h hi).2.issued a ?_⟩
    by_contra hm
    exact hk (Host.get?_eq_none_iff.mpr hm)

namespace HostStep

/-- What the hosts have given out grows by what the step gives out. -/
theorem issuedAt_iff (st : HostStep hs given hs') :
    IssuedAt hs' i a ↔ IssuedAt hs i a ∨ (i, a) ∈ given := by
  cases st with
  | idle => simp
  | add =>
    simp only [List.not_mem_nil, or_false]
    constructor
    · rintro ⟨h, hi, ha⟩
      rcases getElem?_added hi with hi | ⟨-, rfl⟩
      · exact ⟨h, hi, ha⟩
      · obtain ⟨n, hn, -⟩ := ha
        exact absurd hn (Nat.not_lt_zero n)
    · rintro ⟨h, hi, ha⟩
      exact ⟨h, by rw [List.getElem?_append_left (List.getElem?_eq_some_iff.mp hi).1, hi], ha⟩
  | @keep k g content mime hk =>
    simp only [IssuedAt, getElem?_set_taken hk, List.mem_singleton, Prod.mk.injEq]
    by_cases hi : i = k
    · subst hi
      simp only [if_true, hk, Option.some.injEq, exists_eq_left', Host.hasIssued_create, true_and]
      exact or_comm
    · simp only [hi, if_false, false_and, or_false]
  | @forget k g as hk =>
    simp only [IssuedAt, getElem?_set_taken hk, List.not_mem_nil, or_false]
    by_cases hi : i = k
    · subst hi
      simp only [if_true, hk, Option.some.injEq, exists_eq_left']
      exact Iff.rfl
    · simp only [if_neg hi]

/-- **A step gives out new addresses only.** -/
theorem not_issuedAt_of_given (st : HostStep hs given hs') (hg : (i, a) ∈ given) :
    ¬ IssuedAt hs i a := by
  cases st with
  | idle => exact absurd hg List.not_mem_nil
  | add => exact absurd hg List.not_mem_nil
  | @keep k g content mime hk =>
    obtain ⟨rfl, rfl⟩ := Prod.mk.inj (List.mem_singleton.mp hg)
    rintro ⟨h, hi, ha⟩
    rw [hk] at hi
    obtain rfl := Option.some.inj hi
    exact g.not_hasIssued_nextAddress ha
  | forget => exact absurd hg List.not_mem_nil

theorem given_nodup (st : HostStep hs given hs') : given.Nodup := by
  cases st with
  | idle => exact List.nodup_nil
  | add => exact List.nodup_nil
  | keep => exact List.nodup_singleton _
  | forget => exact List.nodup_nil

theorem numbered (st : HostStep hs given hs') (hn : Numbered hs) : Numbered hs' := by
  intro i h hi
  cases st with
  | idle => exact hn i h hi
  | add =>
    rcases getElem?_added hi with hi | ⟨rfl, rfl⟩
    · exact hn i h hi
    · exact ⟨rfl, Host.Sound.new _⟩
  | @keep k g content mime hk =>
    rw [getElem?_set_taken hk] at hi
    split at hi
    · obtain rfl := Option.some.inj hi
      rename_i he
      exact ⟨(hn k g hk).1.trans he.symm, (hn k g hk).2.create⟩
    · exact hn i h hi
  | @forget k g as hk =>
    rw [getElem?_set_taken hk] at hi
    split at hi
    · obtain rfl := Option.some.inj hi
      rename_i he
      exact ⟨(hn k g hk).1.trans he.symm, (hn k g hk).2.forget as⟩
    · exact hn i h hi

/-- **What was given out and is gone stays gone**: a step keeps something new only under an address that
it gives out. -/
theorem gone (st : HostStep hs given hs') (hi : IssuedAt hs i a) (hk : keptAt hs i a = none) :
    keptAt hs' i a = none := by
  obtain ⟨h, hh, ha⟩ := hi
  cases st with
  | idle => exact hk
  | add =>
    rw [keptAt, List.getElem?_append_left (List.getElem?_eq_some_iff.mp hh).1]
    exact hk
  | @keep k g content mime hg =>
    unfold keptAt at hk ⊢
    rw [getElem?_set_taken hg]
    split
    · rename_i he
      subst he
      rw [hg] at hh hk
      obtain rfl := Option.some.inj hh
      rw [Option.bind_some, Host.get?_create_of_ne fun he => g.not_hasIssued_nextAddress (he ▸ ha)]
      exact hk
    · exact hk
  | @forget k g as hg =>
    unfold keptAt at hk ⊢
    rw [getElem?_set_taken hg]
    split
    · rename_i he
      subst he
      rw [hg, Option.bind_some, Host.get?_eq_none_iff] at hk
      rw [Option.bind_some, Host.get?_eq_none_iff]
      exact fun hm => hk (Host.mem_of_mem_forget hm)
    · exact hk

end HostStep

end Hosts

/-! ## Runs -/

namespace World

variable {w : World} {i j : Nat} {a : String}

theorem run_append (w : World) (acts later : List Act) :
    w.run (acts ++ later) =
      ((w.run acts).1 ++ ((w.run acts).2.run later).1, ((w.run acts).2.run later).2) := by
  induction acts generalizing w with
  | nil => rfl
  | cons act acts ih =>
    simp only [List.cons_append, run, ih, List.append_assoc]

theorem numbered_run (hn : Numbered w.hosts) (acts : List Act) : Numbered (w.run acts).2.hosts := by
  induction acts generalizing w with
  | nil => exact hn
  | cons act acts ih => exact ih ((hostStep_step w act).numbered hn)

/-- What the hosts have given out after a run. -/
theorem issuedAt_run (w : World) (acts : List Act) :
    IssuedAt (w.run acts).2.hosts i a ↔ IssuedAt w.hosts i a ∨ (i, a) ∈ (w.run acts).1 := by
  induction acts generalizing w with
  | nil => simp [run]
  | cons act acts ih =>
    simp only [run, List.mem_append]
    rw [ih, (hostStep_step w act).issuedAt_iff, or_assoc]

theorem not_issuedAt_of_run (acts : List Act) (hg : (i, a) ∈ (w.run acts).1) :
    ¬ IssuedAt w.hosts i a := by
  induction acts generalizing w with
  | nil => exact absurd hg List.not_mem_nil
  | cons act acts ih =>
    simp only [run, List.mem_append] at hg
    rcases hg with hg | hg
    · exact (hostStep_step w act).not_issuedAt_of_given hg
    · exact fun hi => ih hg ((hostStep_step w act).issuedAt_iff.mpr (Or.inl hi))

/-- **A record names nothing twice.** -/
theorem run_nodup (w : World) (acts : List Act) : (w.run acts).1.Nodup := by
  induction acts generalizing w with
  | nil => exact List.nodup_nil
  | cons act acts ih =>
    refine List.nodup_append.mpr ⟨(hostStep_step w act).given_nodup, ih _, ?_⟩
    rintro x hx y hy rfl
    exact not_issuedAt_of_run acts hy ((hostStep_step w act).issuedAt_iff.mpr (Or.inr hx))

/-- **No address is given out twice**, neither by one host nor by two. -/
theorem run_addresses_nodup (hn : Numbered w.hosts) (acts : List Act) :
    ((w.run acts).1.map Prod.snd).Nodup := by
  refine (run_nodup w acts).map_on ?_
  rintro ⟨i, a⟩ hi ⟨j, b⟩ hj rfl
  have hij : i = j := (numbered_run hn acts).place_eq ((issuedAt_run w acts).mpr (Or.inr hi))
    ((issuedAt_run w acts).mpr (Or.inr hj))
  rw [hij]

/-- What was given out and is gone is gone for the rest of the run. -/
theorem run_gone (acts : List Act) (hi : IssuedAt w.hosts i a) (hk : keptAt w.hosts i a = none) :
    keptAt (w.run acts).2.hosts i a = none := by
  induction acts generalizing w with
  | nil => exact hk
  | cons act acts ih =>
    exact ih ((hostStep_step w act).issuedAt_iff.mpr (Or.inl hi)) ((hostStep_step w act).gone hi hk)

/-- No host keeps something under an address that another one gives out, now or later. -/
theorem kept_foreign (hn : Numbered w.hosts) (acts : List Act) (hij : i ≠ j)
    (hj : IssuedAt (w.run acts).2.hosts j a) : keptAt w.hosts i a = none := by
  by_contra hk
  have hi : IssuedAt (w.run acts).2.hosts i a :=
    (issuedAt_run w acts).mpr (Or.inl (hn.issuedAt_of_kept hk))
  exact hij ((numbered_run hn acts).place_eq hi hj)

end World

end Vitrine.Resource
