import Mathlib.Data.List.Basic
import Mathlib.Data.List.Nodup
import Mathlib.Data.List.Perm.Basic
import Vitrine.Resource.Registry

/-!
# What hosts keep and registries hold (section 4.7)

An address is a text with two numbers in it, that of the host and that of what is kept. No digit is a slash, so
the slash between the numbers is where the first one ends, and both can be read back (`address_inj`).

The hosts are `MemoryResourceHost` with `create` and `revoke`, and the registries `HandleRegistry` with
`allocate` and `revoke_all`; `resolve_modules` binds modules (section 4.5).

The one thing that has to be known of a host is which addresses it has given out (`Host.HasIssued`): the
next one is never among them. A host is sound if it keeps something under given-out addresses only, and
under each of them once. A registry holds a host (`Holds`) if the addresses that it remembers are
exactly those under which the host keeps something.

Results, one for each operation of hosts and registries:
* `Host.Sound.create`, `Registry.revokeEach_snd`, `Host.Sound.forget`: what is kept afterwards, and that
  soundness stays.
* `Holds.allocate`, `Holds.bindEach`, `Holds.revokeAll_host`: a registry that holds a host goes on to do
  so, and holds nothing once it has revoked everything.
* `bindEach_stored`: every module that is bound is kept, as a script, under the address it got.
-/

namespace Vitrine

/-! ## Decimal texts -/

theorem Decimal.toList_natural (n : Nat) : (natural n).toList = Nat.toDigits 10 n :=
  String.toList_ofList

/-- The digits of a number read back as the number. -/
theorem Decimal.natural_inj {m n : Nat} : natural m = natural n ↔ m = n := by
  constructor
  · intro h
    have hd : Nat.toDigits 10 m = Nat.toDigits 10 n := by
      rw [← toList_natural, ← toList_natural, h]
    have hr := congrArg (Nat.ofDigitChars 10 · 0) hd
    simpa only [Nat.ofDigitChars_ten_toDigits] using hr
  · rintro rfl
    rfl

theorem Decimal.slash_notMem_toDigits (n : Nat) : '/' ∉ Nat.toDigits 10 n := by
  intro h
  have hd : '/'.isDigit = true := Nat.isDigit_of_mem_toDigits (by decide) (by decide) h
  exact absurd hd (by decide)

/-! ## Addresses -/

namespace Resource

/-- An address has the number of its host and a number of its own. -/
theorem toList_address (host serial : Nat) :
    (address host serial).toList =
      "blob:preview/".toList ++ (Nat.toDigits 10 host ++ '/' :: Nat.toDigits 10 serial) := by
  simp only [address, String.toList_append, Decimal.toList_natural, List.append_assoc]
  rfl

/-- **An address tells both numbers.** -/
theorem address_inj {i j m n : Nat} : address i m = address j n ↔ i = j ∧ m = n := by
  constructor
  · intro h
    have ht := congrArg String.toList h
    rw [toList_address, toList_address] at ht
    obtain ⟨hi, -, hm⟩ := (List.append_cons_inj_of_notMem (Decimal.slash_notMem_toDigits i)
      (Decimal.slash_notMem_toDigits m)).mp (List.append_cancel_left ht)
    exact ⟨Decimal.natural_inj.mp (congrArg String.ofList hi),
      Decimal.natural_inj.mp (congrArg String.ofList hm)⟩
  · rintro ⟨rfl, rfl⟩
    rfl

/-! ## Hosts -/

namespace Host

/-- The addresses under which something is kept. -/
def addresses (h : Host) : List String := h.live.map (·.1)

/-- The host has given out an address. -/
def HasIssued (h : Host) (a : String) : Prop := ∃ n < h.issued, a = address h.number n

/-- Something is kept under given-out addresses only, once under each. -/
structure Sound (h : Host) : Prop where
  nodup : h.addresses.Nodup
  issued : ∀ a ∈ h.addresses, h.HasIssued a

variable {h : Host} {a b content mime : String}

theorem isLive_iff : h.isLive a = true ↔ a ∈ h.addresses := by
  simp only [isLive, get?, addresses, List.lookup_isSome_iff, List.mem_map, beq_iff_eq]
  exact exists_congr fun e => and_congr_right fun _ => eq_comm

/-- Nothing is found under an address that is not in use. -/
theorem get?_eq_none_iff : h.get? a = none ↔ a ∉ h.addresses := by
  rw [← isLive_iff, isLive, Option.not_isSome_iff_eq_none]

/-- A host that has given out nothing keeps nothing. -/
theorem Sound.new (n : Nat) : Sound { number := n } :=
  ⟨List.nodup_nil, fun _ ha => absurd ha List.not_mem_nil⟩

/-- **The next address is new.** -/
theorem not_hasIssued_nextAddress (h : Host) : ¬ h.HasIssued h.nextAddress := by
  rintro ⟨n, hn, he⟩
  have := (address_inj.mp he).2
  omega

theorem Sound.nextAddress_notMem (hs : h.Sound) : h.nextAddress ∉ h.addresses :=
  fun hm => not_hasIssued_nextAddress h (hs.issued _ hm)

/-- Two hosts with different numbers give out different addresses. -/
theorem HasIssued.number_eq {g : Host} (hg : g.HasIssued a) (hh : h.HasIssued a) :
    g.number = h.number := by
  obtain ⟨m, -, rfl⟩ := hg
  obtain ⟨n, -, he⟩ := hh
  exact (address_inj.mp he).1

/-! ### Keeping -/

/-- Creating gives out the next address. -/
theorem hasIssued_create :
    (h.create content mime).2.HasIssued a ↔ a = h.nextAddress ∨ h.HasIssued a := by
  constructor
  · rintro ⟨n, hn, rfl⟩
    have hn : n < h.issued + 1 := hn
    rcases Nat.lt_succ_iff_lt_or_eq.mp hn with hlt | rfl
    · exact Or.inr ⟨n, hlt, rfl⟩
    · exact Or.inl rfl
  · rintro (rfl | ⟨n, hn, rfl⟩)
    · exact ⟨h.issued, Nat.lt_succ_self _, rfl⟩
    · exact ⟨n, Nat.lt_succ_of_lt hn, rfl⟩

/-- Nothing is kept under the next address before, so each address stays there once. -/
theorem Sound.create (hs : h.Sound) : (h.create content mime).2.Sound := by
  refine ⟨List.nodup_cons.mpr ⟨hs.nextAddress_notMem, hs.nodup⟩, fun a ha => ?_⟩
  rw [hasIssued_create]
  rcases List.mem_cons.mp ha with rfl | ha
  · exact Or.inl rfl
  · exact Or.inr (hs.issued a ha)

theorem get?_create_self : (h.create content mime).2.get? h.nextAddress = some ⟨mime, content⟩ := by
  simp [create, get?]

theorem get?_create_of_ne (ha : a ≠ h.nextAddress) :
    (h.create content mime).2.get? a = h.get? a := by
  simp [create, get?, List.lookup_cons, beq_eq_false_iff_ne.mpr ha]

/-! ### Forgetting -/

theorem mem_of_mem_forget {as : List String}
    (ha : a ∈ addresses { h with live := h.live.filter fun e => e.1 ∉ as }) : a ∈ h.addresses := by
  obtain ⟨e, he, rfl⟩ := List.mem_map.mp ha
  exact List.mem_map_of_mem (List.mem_filter.mp he).1

/-- What is kept under other addresses than some is sound. -/
theorem Sound.forget (hs : h.Sound) (as : List String) :
    Sound { h with live := h.live.filter fun e => e.1 ∉ as } :=
  ⟨hs.nodup.sublist (List.filter_sublist.map _), fun a ha => hs.issued a (mem_of_mem_forget ha)⟩

end Host

/-! ## Registries -/

namespace Registry

/-- What is kept after some addresses are revoked: all that is under other addresses. -/
theorem revokeEach_snd (h : Host) (as : List String) :
    (revokeEach h as).2 = { h with live := h.live.filter fun e => e.1 ∉ as } := by
  induction as generalizing h with
  | nil => simp [revokeEach]
  | cons a rest ih =>
    simp only [revokeEach, ih, Host.revoke, List.filter_filter, List.mem_cons, not_or]
    congr 2
    funext e
    rw [Bool.eq_iff_iff]
    simp [and_comm]

end Registry

/-- The registry remembers exactly the addresses under which the host keeps something. -/
structure Holds (r : Registry) (h : Host) : Prop where
  sound : h.Sound
  perm : r.held.Perm h.addresses

namespace Holds

variable {r : Registry} {h : Host} {content mime : String}

theorem new (n : Nat) : Holds {} { number := n } := ⟨Host.Sound.new n, List.Perm.nil⟩

theorem nodup (hh : Holds r h) : r.held.Nodup := hh.perm.nodup_iff.mpr hh.sound.nodup

theorem mem_iff (hh : Holds r h) (a : String) : a ∈ r.held ↔ h.isLive a = true := by
  rw [Host.isLive_iff, hh.perm.mem_iff]

theorem size_eq (hh : Holds r h) : r.size = h.liveCount := by
  rw [Registry.size, hh.perm.length_eq, Host.addresses, List.length_map, Host.liveCount]

theorem allocate (hh : Holds r h) :
    Holds (r.allocate h content mime).2.1 (r.allocate h content mime).2.2 := by
  refine ⟨hh.sound.create, ?_⟩
  show (r.held ++ [h.nextAddress]).Perm (h.nextAddress :: h.addresses)
  exact (List.perm_append_singleton _ _).trans (hh.perm.cons _)

/-- **Everything that is held is revoked.** -/
theorem revokeAll_host (hh : Holds r h) : (r.revokeAll h).2.2 = { h with live := [] } := by
  show (Registry.revokeEach h r.held).2 = _
  rw [Registry.revokeEach_snd]
  congr 1
  rw [List.filter_eq_nil_iff]
  intro e he
  have hm : e.1 ∈ r.held := hh.perm.mem_iff.mpr (List.mem_map_of_mem he)
  simpa using hm

/-- Having revoked everything, a registry holds nothing. -/
theorem revokeAll (hh : Holds r h) : Holds (r.revokeAll h).2.1 (r.revokeAll h).2.2 := by
  rw [hh.revokeAll_host]
  exact ⟨⟨List.nodup_nil, fun _ ha => absurd ha List.not_mem_nil⟩, List.Perm.nil⟩

end Holds

/-! ## Bindings -/

variable {a : String}

/-- The first module gets the next address, and the others the addresses behind. -/
theorem bindEach_cons (r : Registry) (h : Host) (m : Unbound) (ms : List Unbound) :
    bindEach r h (m :: ms) =
      { bindEach ⟨r.held ++ [h.nextAddress]⟩ (h.create m.code scriptMime).2 ms with
        bound := ⟨m.path, m.kind, m.code, h.nextAddress⟩ ::
          (bindEach ⟨r.held ++ [h.nextAddress]⟩ (h.create m.code scriptMime).2 ms).bound } := rfl

/-- A bound module without its address. -/
def Bound.forget (b : Bound) : Unbound := ⟨b.path, b.kind, b.code⟩

/-- Every module is bound, in its place. -/
theorem bindEach_forget (r : Registry) (h : Host) (ms : List Unbound) :
    (bindEach r h ms).bound.map Bound.forget = ms := by
  induction ms generalizing r h with
  | nil => rfl
  | cons m ms ih =>
    rw [bindEach_cons, List.map_cons, ih]
    rfl

/-- The registry goes on to hold the new addresses, in the order of the modules. -/
theorem bindEach_held (r : Registry) (h : Host) (ms : List Unbound) :
    (bindEach r h ms).registry.held = r.held ++ (bindEach r h ms).bound.map Bound.address := by
  induction ms generalizing r h with
  | nil => exact (List.append_nil _).symm
  | cons m ms ih =>
    rw [bindEach_cons]
    show (bindEach _ _ ms).registry.held = _
    rw [ih, List.map_cons, List.append_assoc]
    rfl

/-- Binding modules is allocating addresses one by one. -/
theorem Holds.bindEach {r : Registry} {h : Host} (hh : Holds r h) (ms : List Unbound) :
    Holds (bindEach r h ms).registry (bindEach r h ms).host := by
  induction ms generalizing r h with
  | nil => exact hh
  | cons m ms ih => exact ih hh.allocate

/-- Binding leaves alone what is kept under an address given out before. -/
theorem bindEach_get?_of_hasIssued (r : Registry) {h : Host} (ms : List Unbound)
    (ha : h.HasIssued a) : (bindEach r h ms).host.get? a = h.get? a := by
  induction ms generalizing r h with
  | nil => rfl
  | cons m ms ih =>
    rw [bindEach_cons]
    have hne : a ≠ h.nextAddress := fun he => h.not_hasIssued_nextAddress (he ▸ ha)
    rw [ih _ (Host.hasIssued_create.mpr (Or.inr ha)), Host.get?_create_of_ne hne]

/-- Binding gives out the addresses of the modules. -/
theorem bindEach_hasIssued (r : Registry) (h : Host) (ms : List Unbound) :
    (bindEach r h ms).host.HasIssued a ↔
      h.HasIssued a ∨ a ∈ (bindEach r h ms).bound.map Bound.address := by
  induction ms generalizing r h with
  | nil => exact (or_iff_left List.not_mem_nil).symm
  | cons m ms ih =>
    rw [bindEach_cons, List.map_cons, List.mem_cons]
    show (bindEach _ _ ms).host.HasIssued a ↔ _
    rw [ih, Host.hasIssued_create, or_comm (a := a = h.nextAddress), or_assoc]

/-- No address that binding gives out was given out before. -/
theorem not_hasIssued_of_mem_bindEach (r : Registry) (h : Host) (ms : List Unbound)
    (ha : a ∈ (bindEach r h ms).bound.map Bound.address) : ¬ h.HasIssued a := by
  induction ms generalizing r h with
  | nil => exact absurd ha List.not_mem_nil
  | cons m ms ih =>
    rw [bindEach_cons, List.map_cons, List.mem_cons] at ha
    rcases ha with rfl | ha
    · exact h.not_hasIssued_nextAddress
    · exact fun hissued => ih _ _ ha (Host.hasIssued_create.mpr (Or.inr hissued))

/-- **Every bound module is kept under its address**, as a script with its code. -/
theorem bindEach_stored (r : Registry) (h : Host) (ms : List Unbound) :
    ∀ b ∈ (bindEach r h ms).bound,
      (bindEach r h ms).host.get? b.address = some ⟨scriptMime, b.code⟩ := by
  induction ms generalizing r h with
  | nil => exact fun b hb => absurd hb List.not_mem_nil
  | cons m ms ih =>
    intro b hb
    rw [bindEach_cons] at hb ⊢
    rcases List.mem_cons.mp hb with rfl | hb
    · show (Resource.bindEach _ _ ms).host.get? h.nextAddress = _
      rw [bindEach_get?_of_hasIssued _ ms (Host.hasIssued_create.mpr (Or.inl rfl)),
        Host.get?_create_self]
    · exact ih _ _ b hb

end Resource

end Vitrine
