import Vitrine.Proofs.Text.Word

/-!
# Filling one slot after the other (section 4.6)

A template can be filled at once (`fillFrom`), or by replacing one name after the other (`fillInTurn`). The
second searches the values that are already in the text for the names that come later.

`loader_script` and `error_capture_script` fill their templates in turn.

* `substituteFrom_fillFrom`: one more replacement fills one more slot, and is made in the values too.
* `fillInTurn_eq_fillFrom`: so filling the slots in turn is filling them at once, each with what the
  replacements behind it make of its value (`overwritten`).
* `countP_lt_fillInTurn`: a text in which a name stands gets more characters of a kind, if each value has more
  of them than its name.
* `substituteFrom_comm`: replacements that have no character in common can be made in either order.
-/

namespace Vitrine.Text

/-- Replaces one name after the other, the first slot first. -/
def fillInTurn (slots : List Slot) (s : List Char) : List Char :=
  slots.foldl (fun s slot => substituteFrom slot.name slot.value 0 s) s

/-- Replaces one text after the other, the first pair first. -/
def substituteAll (slots : List (String × String)) (s : String) : String :=
  slots.foldl (fun s slot => substitute slot.1 slot.2 s) s

/-- The slots with one more, which is also filled in their values. -/
def addSlot (slots : List Slot) (added : Slot) : List Slot :=
  slots.map (fun slot => ⟨slot.name, substituteFrom added.name added.value 0 slot.value⟩) ++ [added]

/-- The slots with what the replacements of later slots make of their values. -/
def overwritten : List Slot → List Slot
  | [] => []
  | slot :: later => ⟨slot.name, fillInTurn later slot.value⟩ :: overwritten later

/-- Where one of the names begins in the text, no other begins before it ends. -/
def Untangled (names : List (List Char)) (s : List Char) : Prop :=
  ∀ u ∈ s.tails, ∀ name ∈ names, name <+: u →
    ∀ k < name.length, ∀ other ∈ names, other ≠ name → ¬ other <+: u.drop k

instance (names : List (List Char)) (s : List Char) : Decidable (Untangled names s) := by
  unfold Untangled
  infer_instance

theorem fillInTurn_concat (slots : List Slot) (slot : Slot) (s : List Char) :
    fillInTurn (slots ++ [slot]) s = substituteFrom slot.name slot.value 0 (fillInTurn slots s) :=
  List.foldl_concat _ _ _ _

/-- Replacing names one after the other is filling slots in turn. -/
theorem toList_substituteAll (slots : List (String × String)) (s : String) :
    (substituteAll slots s).toList = fillInTurn (slots.map Slot.ofTexts) s.toList := by
  induction slots generalizing s with
  | nil => rfl
  | cons slot later ih =>
    rw [substituteAll, List.foldl_cons, ← substituteAll, ih, substitute, String.toList_ofList]
    rfl

/-! ## Whether a replacement changes a text -/

theorem substituteFrom_of_absent {pattern by_ s : List Char} (h : ¬ pattern <:+: s) :
    substituteFrom pattern by_ 0 s = s := by
  induction s with
  | nil => rfl
  | cons c s ih =>
    rw [substituteFrom_kept fun hstart => h hstart.isInfix,
      ih fun hoccurs => h (hoccurs.trans (List.suffix_cons c s).isInfix)]

section

variable {pattern by_ : List Char} (hne : pattern ≠ [])

include hne

/-- A replacement by a text with at least as many characters of a kind takes none of them away. -/
theorem countP_le_substituteFrom {q : Char → Bool} (h : pattern.countP q ≤ by_.countP q) (s : List Char) :
    s.countP q ≤ (substituteFrom pattern by_ 0 s).countP q := by
  induction s using scan_induction hne with
  | nil => exact Nat.zero_le _
  | occurs rest ih =>
    rw [substituteFrom_occurs hne, List.countP_append, List.countP_append]
    exact Nat.add_le_add h ih
  | kept c s hstart ih =>
    rw [substituteFrom_kept hstart, List.countP_cons, List.countP_cons]
    exact Nat.add_le_add_right ih _

/-- A replacement with more characters of a kind than its pattern adds some, where the pattern occurs. -/
theorem countP_lt_substituteFrom {q : Char → Bool} (h : pattern.countP q < by_.countP q) {s : List Char}
    (hoccurs : pattern <:+: s) : s.countP q < (substituteFrom pattern by_ 0 s).countP q := by
  induction s using scan_induction hne with
  | nil => exact absurd (List.eq_nil_of_infix_nil hoccurs) hne
  | occurs rest =>
    rw [substituteFrom_occurs hne, List.countP_append, List.countP_append]
    exact Nat.add_lt_add_of_lt_of_le h (countP_le_substituteFrom hne h.le rest)
  | kept c s hstart ih =>
    rw [substituteFrom_kept hstart, List.countP_cons, List.countP_cons]
    exact Nat.add_lt_add_right (ih ((List.infix_cons_iff.mp hoccurs).resolve_left hstart)) _

/-- A longer replacement leaves a text as it is exactly if the pattern does not occur. -/
theorem substituteFrom_eq_self_iff (h : pattern.length < by_.length) {s : List Char} :
    substituteFrom pattern by_ 0 s = s ↔ ¬ pattern <:+: s := by
  refine ⟨fun heq hoccurs => ?_, substituteFrom_of_absent⟩
  have hlonger := countP_lt_substituteFrom (q := fun _ => true) hne (by simpa using h) hoccurs
  rw [heq] at hlonger
  exact Nat.lt_irrefl _ hlonger

end

section

variable {slots : List Slot} {s : List Char}

/-- A text without the name of a slot stays as it is. -/
theorem fillInTurn_of_absent (h : ∀ slot ∈ slots, ¬ slot.name <:+: s) : fillInTurn slots s = s := by
  induction slots with
  | nil => rfl
  | cons slot later ih =>
    obtain ⟨hslot, hlater⟩ := List.forall_mem_cons.mp h
    rw [fillInTurn, List.foldl_cons, substituteFrom_of_absent hslot]
    exact ih hlater

/-- Values in which no later name stands stay as they are. -/
theorem overwritten_eq_self (h : slots.Pairwise fun earlier later => ¬ later.name <:+: earlier.value) :
    overwritten slots = slots := by
  induction slots with
  | nil => rfl
  | cons slot later ih =>
    obtain ⟨hslot, hlater⟩ := List.pairwise_cons.mp h
    rw [overwritten, ih hlater, fillInTurn_of_absent hslot]

/-- The value of the slot has more characters of a kind than its name. -/
def Slot.Adds (q : Char → Bool) (slot : Slot) : Prop :=
  slot.name ≠ [] ∧ slot.name.countP q < slot.value.countP q

variable {q : Char → Bool}

/-- Slots that add characters of a kind take none away. -/
theorem countP_le_fillInTurn (h : ∀ slot ∈ slots, slot.Adds q) (s : List Char) :
    s.countP q ≤ (fillInTurn slots s).countP q := by
  induction slots generalizing s with
  | nil => exact Nat.le_refl _
  | cons slot later ih =>
    obtain ⟨⟨hne, hadds⟩, hlater⟩ := List.forall_mem_cons.mp h
    exact (countP_le_substituteFrom hne hadds.le s).trans (ih hlater _)

/-- **A name in the text brings characters of its value into it**, whatever the other replacements do. -/
theorem countP_lt_fillInTurn (h : ∀ slot ∈ slots, slot.Adds q) (hoccurs : ∃ slot ∈ slots, slot.name <:+: s) :
    s.countP q < (fillInTurn slots s).countP q := by
  induction slots with
  | nil => simp at hoccurs
  | cons slot later ih =>
    obtain ⟨⟨hne, hadds⟩, hlater⟩ := List.forall_mem_cons.mp h
    rw [fillInTurn, List.foldl_cons, ← fillInTurn]
    by_cases hhere : slot.name <:+: s
    · exact (countP_lt_substituteFrom hne hadds hhere).trans_le (countP_le_fillInTurn hlater _)
    · rw [substituteFrom_of_absent hhere]
      exact ih hlater (by simpa [hhere] using hoccurs)

end

/-! ## One more slot -/

/-- A pattern that cannot cross the edge is replaced in both parts. -/
theorem Apart.substituteFrom_append {pattern by_ value : List Char} (hne : pattern ≠ [])
    (h : Apart pattern value) (rest : List Char) :
    substituteFrom pattern by_ 0 (value ++ rest) =
      substituteFrom pattern by_ 0 value ++ substituteFrom pattern by_ 0 rest := by
  refine Text.substituteFrom_append hne ?_
  rintro front behind rfl hfront hbehind ⟨before, rfl⟩ -
  obtain ⟨e, he, hlast⟩ := h.last
  rw [List.getLast?_append_of_ne_nil before hfront] at he
  rw [List.dropLast_append_of_ne_nil hbehind] at hlast
  exact hlast (List.mem_append_left _ (List.mem_of_getLast? he))

theorem slotAt?_addSlot (slots : List Slot) (added : Slot) (s : List Char) :
    slotAt? (addSlot slots added) s =
      ((slotAt? slots s).map fun slot =>
        ⟨slot.name, substituteFrom added.name added.value 0 slot.value⟩).or
        (if added.name <+: s then some added else none) := by
  rw [addSlot, slotAt?_append, slotAt?_singleton, slotAt?, List.find?_map]
  rfl

/-- **One more replacement fills one more slot**, in the template and in the values that are in it. -/
theorem substituteFrom_fillFrom {slots : List Slot} {added : Slot} (hne : added.name ≠ [])
    (hapart : ∀ slot ∈ slots, Apart added.name slot.value) {s : List Char}
    (huntangled : Untangled (added.name :: slots.map Slot.name) s) (n : Nat) :
    substituteFrom added.name added.value 0 (fillFrom slots n s) = fillFrom (addSlot slots added) n s := by
  induction s generalizing n with
  | nil => rw [fillFrom, fillFrom, substituteFrom]
  | cons c s ih =>
    have hbehind := ih fun u hu => huntangled u (by rw [List.tails_cons]; exact List.mem_cons_of_mem _ hu)
    cases n with
    | succ n => exact hbehind n
    | zero =>
      have hadded := slotAt?_addSlot slots added (c :: s)
      cases hslot : slotAt? slots (c :: s) with
      | some slot =>
        -- A name that was there before: the replacement is made in its value.
        rw [hslot, Option.map_some, Option.some_or] at hadded
        rw [fillFrom_begins hslot, (hapart slot (slotAt?_some hslot).1).substituteFrom_append hne, hbehind,
          fillFrom_begins hadded]
      | none =>
        rw [hslot, Option.map_none, Option.none_or] at hadded
        by_cases hstart : added.name <+: c :: s
        · -- The added name: no other begins in it, so the slots before leave it as it is.
          rw [if_pos hstart] at hadded
          have hclear : ∀ k < added.name.length, slotAt? slots ((c :: s).drop k) = none := by
            refine fun k hk => slotAt?_none.mpr fun slot hmem => ?_
            refine huntangled (c :: s) (by simp) added.name List.mem_cons_self hstart k hk slot.name
              (List.mem_cons_of_mem _ (List.mem_map_of_mem hmem)) fun hname => ?_
            exact slotAt?_none.mp hslot slot hmem (hname ▸ hstart)
          have hlength : added.name.length = (added.name.length - 1) + 1 :=
            (Nat.sub_add_cancel (List.length_pos_of_ne_nil hne)).symm
          rw [fillFrom_past hstart hclear, substituteFrom_occurs hne, hlength, fillFrom, hbehind,
            fillFrom_begins hadded]
        · rw [if_neg hstart] at hadded
          have hkept : ¬ added.name <+: c :: fillFrom slots 0 s :=
            fun hbegins => hstart (prefix_cons_of_fillFrom (fun slot hmem => (hapart slot hmem).head) hbegins)
          rw [fillFrom_kept hslot, substituteFrom_kept hkept, hbehind, fillFrom_kept hadded]

/-! ## Slots in turn -/

/-- The text stands between two equal marks. -/
def Enclosed (mark : Char) (text : List Char) : Prop := ∃ inner, text = mark :: inner ++ [mark]

section

variable {mark : Char}

/-- A replacement of a name without the mark is made between the marks. -/
theorem Enclosed.substituteFrom {pattern by_ text : List Char} (h : Enclosed mark text) (hne : pattern ≠ [])
    (hmark : mark ∉ pattern) : Enclosed mark (substituteFrom pattern by_ 0 text) := by
  obtain ⟨inner, rfl⟩ := h
  refine ⟨Text.substituteFrom pattern by_ 0 inner, ?_⟩
  have hstart : ¬ pattern <+: mark :: inner := by
    obtain ⟨p, ps, rfl⟩ := List.exists_cons_of_ne_nil hne
    exact fun hbegins => hmark ((List.cons_prefix_cons.mp hbegins).1 ▸ List.mem_cons_self)
  rw [substituteFrom_concat hne hmark, substituteFrom_kept hstart]

/-- A pattern without the mark cannot cross the edge of an enclosed text. -/
theorem Enclosed.apart {pattern text : List Char} (h : Enclosed mark text) (hmark : mark ∉ pattern) :
    Apart pattern text := by
  obtain ⟨inner, rfl⟩ := h
  exact ⟨⟨mark, rfl, fun hmem => hmark (List.mem_of_mem_tail hmem)⟩,
    ⟨mark, List.getLast?_concat, fun hmem => hmark (List.mem_of_mem_dropLast hmem)⟩⟩

/-- The name of the slot can be looked for: it has characters, but not the mark. -/
def Slot.Searchable (mark : Char) (slot : Slot) : Prop := slot.name ≠ [] ∧ mark ∉ slot.name

theorem Enclosed.fillInTurn {slots : List Slot} (hnames : ∀ slot ∈ slots, slot.Searchable mark)
    {text : List Char} (h : Enclosed mark text) : Enclosed mark (fillInTurn slots text) := by
  induction slots generalizing text with
  | nil => exact h
  | cons slot later ih =>
    obtain ⟨hname, hlater⟩ := List.forall_mem_cons.mp hnames
    exact ih hlater (h.substituteFrom hname.1 hname.2)

theorem enclosed_overwritten {slots : List Slot} (hnames : ∀ slot ∈ slots, slot.Searchable mark)
    (hvalues : ∀ slot ∈ slots, Enclosed mark slot.value) :
    ∀ slot ∈ overwritten slots, Enclosed mark slot.value := by
  induction slots with
  | nil => exact List.forall_mem_nil _
  | cons slot later ih =>
    obtain ⟨-, hlater⟩ := List.forall_mem_cons.mp hnames
    obtain ⟨hvalue, hvalues⟩ := List.forall_mem_cons.mp hvalues
    exact List.forall_mem_cons.mpr ⟨hvalue.fillInTurn hlater, ih hlater hvalues⟩

end

theorem overwritten_names (slots : List Slot) : (overwritten slots).map Slot.name = slots.map Slot.name := by
  induction slots with
  | nil => rfl
  | cons slot later ih => rw [overwritten, List.map_cons, List.map_cons, ih]

/-- The last slot overwrites the values of those before. -/
theorem overwritten_concat (slots : List Slot) (slot : Slot) :
    overwritten (slots ++ [slot]) = addSlot (overwritten slots) slot := by
  induction slots with
  | nil => rfl
  | cons first later ih =>
    rw [List.cons_append, overwritten, ih, overwritten, addSlot, addSlot, List.map_cons, List.cons_append,
      fillInTurn_concat]

theorem Untangled.mono {names names' : List (List Char)} {s : List Char} (h : Untangled names s)
    (hsubset : names' ⊆ names) : Untangled names' s :=
  fun u hu name hname hbegins k hk other hother =>
    h u hu name (hsubset hname) hbegins k hk other (hsubset hother)

/-- **Filling the slots in turn is filling them at once**, each with what the later replacements make of its
value, if all values but the last stand between marks that are in no name. -/
theorem fillInTurn_eq_fillFrom {mark : Char} {slots : List Slot} {s : List Char}
    (hnames : ∀ slot ∈ slots, slot.Searchable mark)
    (hvalues : ∀ slot ∈ slots.dropLast, Enclosed mark slot.value)
    (huntangled : Untangled (slots.map Slot.name) s) :
    fillInTurn slots s = fillFrom (overwritten slots) 0 s := by
  induction slots using List.reverseRecOn with
  | nil => exact (fillFrom_nil 0 s).symm
  | append_singleton slots slot ih =>
    rw [List.dropLast_concat] at hvalues
    have hbefore : ∀ slot ∈ slots, slot.Searchable mark :=
      fun slot hslot => hnames slot (List.mem_append_left _ hslot)
    obtain ⟨hne, hmark⟩ := hnames slot (List.mem_append_right slots (List.mem_singleton_self slot))
    have hapart : ∀ before ∈ overwritten slots, Apart slot.name before.value :=
      fun before hmem => (enclosed_overwritten hbefore hvalues before hmem).apart hmark
    rw [overwritten_concat, fillInTurn_concat,
      ih hbefore (fun slot hslot => hvalues slot (List.mem_of_mem_dropLast hslot))
        (huntangled.mono (by simp)),
      substituteFrom_fillFrom hne hapart (huntangled.mono (by simp [overwritten_names]))]

/-! ## Order -/

/-- Without a common character nothing crosses an edge. -/
theorem Apart.of_disjoint {pattern value : List Char} (hne : value ≠ []) (h : pattern.Disjoint value) :
    Apart pattern value :=
  ⟨⟨value.head hne, List.head?_eq_some_head hne,
      fun hmem => h (List.mem_of_mem_tail hmem) (List.head_mem hne)⟩,
    ⟨value.getLast hne, List.getLast?_eq_some_getLast hne,
      fun hmem => h (List.mem_of_mem_dropLast hmem) (List.getLast_mem hne)⟩⟩

/-- No name begins inside another one that has no character in common with it. -/
theorem not_prefix_drop {a b s : List Char} (hb : b ≠ []) (h : a.Disjoint b) (hbegins : a <+: s) {k : Nat}
    (hk : k < a.length) : ¬ b <+: s.drop k := by
  obtain ⟨rest, rfl⟩ := hbegins
  obtain ⟨d, b, rfl⟩ := List.exists_cons_of_ne_nil hb
  rw [List.drop_append_of_le_length hk.le, List.drop_eq_getElem_cons hk, List.cons_append]
  intro hinside
  obtain ⟨rfl, -⟩ := List.cons_prefix_cons.mp hinside
  exact h (List.getElem_mem hk) List.mem_cons_self

theorem substituteFrom_of_disjoint {pattern by_ s : List Char} (hne : pattern ≠ []) (h : pattern.Disjoint s) :
    substituteFrom pattern by_ 0 s = s := by
  refine substituteFrom_of_absent fun hoccurs => ?_
  exact h (List.head_mem hne) (hoccurs.subset (List.head_mem hne))

section

variable {p v q w : List Char}

theorem untangled_of_disjoint (hp : p ≠ []) (hq : q ≠ []) (h : p.Disjoint q) (s : List Char) :
    Untangled [p, q] s := by
  simp only [Untangled, List.forall_mem_cons, List.not_mem_nil, false_implies, implies_true, and_true]
  intro u _
  constructor
  · exact fun hbegins k hk => ⟨fun hne => absurd rfl hne, fun _ => not_prefix_drop hq h hbegins hk⟩
  · have h := List.disjoint_symm h
    exact fun hbegins k hk => ⟨fun _ => not_prefix_drop hp h hbegins hk, fun hne => absurd rfl hne⟩

theorem slotAt?_swap (hp : p ≠ []) (hq : q ≠ []) (h : p.Disjoint q) (s : List Char) :
    slotAt? [⟨q, w⟩, ⟨p, v⟩] s = slotAt? [⟨p, v⟩, ⟨q, w⟩] s := by
  have hpair (a b : Slot) : slotAt? [a, b] s = (slotAt? [a] s).or (slotAt? [b] s) := slotAt?_append [a] [b] s
  rw [hpair, hpair]
  simp only [slotAt?_singleton]
  by_cases hbegins : p <+: s
  · have hother : ¬ q <+: s := not_prefix_drop hq h hbegins (List.length_pos_of_ne_nil hp)
    rw [if_pos hbegins, if_neg hother, Option.none_or, Option.or_none]
  · rw [if_neg hbegins, Option.none_or, Option.or_none]

/-- Two replacements of which the second changes no value of the first. -/
theorem substituteFrom_twice (hp : p ≠ []) (hq : q ≠ []) (hw : w ≠ []) (hpq : p.Disjoint q)
    (hpw : p.Disjoint w) (s : List Char) :
    substituteFrom p v 0 (substituteFrom q w 0 s) = fillFrom [⟨q, w⟩, ⟨p, v⟩] 0 s := by
  have hadd : addSlot [⟨q, w⟩] ⟨p, v⟩ = [⟨q, w⟩, ⟨p, v⟩] := by
    rw [addSlot, List.map_singleton, substituteFrom_of_disjoint hp hpw, List.singleton_append]
  rw [substituteFrom_eq_fillFrom q w, ← hadd]
  have hapart : ∀ slot ∈ [(⟨q, w⟩ : Slot)], Apart p slot.value :=
    List.forall_mem_singleton.mpr (.of_disjoint hw hpw)
  exact @substituteFrom_fillFrom [⟨q, w⟩] ⟨p, v⟩ hp hapart s (untangled_of_disjoint hp hq hpq s) 0

/-- **Replacements that have no character in common can be made in either order.** -/
theorem substituteFrom_comm (hp : p ≠ []) (hq : q ≠ []) (hv : v ≠ []) (hw : w ≠ []) (hpq : p.Disjoint q)
    (hpw : p.Disjoint w) (hqv : q.Disjoint v) (s : List Char) :
    substituteFrom p v 0 (substituteFrom q w 0 s) = substituteFrom q w 0 (substituteFrom p v 0 s) := by
  rw [substituteFrom_twice hp hq hw hpq hpw, substituteFrom_twice hq hp hv (List.disjoint_symm hpq) hqv]
  exact fillFrom_congr (fun u _ => slotAt?_swap hp hq hpq u) 0

end

end Vitrine.Text
