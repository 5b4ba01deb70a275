import Mathlib.Data.List.Infix
import Vitrine.Text.Replace

/-!
# Slots of a text (section 4.6)

A text may hold names in whose places values go. `fillFrom` puts in all values at once: it goes through the
text from left to right, and neither a value nor what it has passed is searched again. Replacing a single
name is filling a single slot (`substituteFrom_eq_fillFrom`).

Filled at once is what the templates of `loader_script` and `error_capture_script` are meant to be.
-/

namespace Vitrine.Text

/-- A name and the value that goes into its places. -/
structure Slot where
  name : List Char
  value : List Char

/-- The slot of two texts. -/
def Slot.ofTexts (texts : String × String) : Slot := ⟨texts.1.toList, texts.2.toList⟩

/-- The first slot whose name begins the text. -/
def slotAt? (slots : List Slot) (s : List Char) : Option Slot :=
  slots.find? fun slot => slot.name.isPrefixOf s

/-- The text with values in the places of names. The number says how many characters still belong to the name
just replaced. -/
def fillFrom (slots : List Slot) : Nat → List Char → List Char
  | _, [] => []
  | n + 1, _ :: cs => fillFrom slots n cs
  | 0, c :: cs =>
    match slotAt? slots (c :: cs) with
    | some slot => slot.value ++ fillFrom slots (slot.name.length - 1) cs
    | none => c :: fillFrom slots 0 cs

/-- The template with the values of all slots, given as pairs of texts. -/
def fill (slots : List (String × String)) (template : String) : String :=
  String.ofList (fillFrom (slots.map Slot.ofTexts) 0 template.toList)

/-- The name stands in the text once, between these pieces, and no other begins before it. -/
def StandsFirst (name : List Char) (others : List (List Char)) (before after : List Char) : Prop :=
  name ≠ [] ∧ ¬ name <:+: after ∧
    ∀ k < before.length, ∀ n ∈ name :: others, ¬ n <+: (before ++ (name ++ after)).drop k

instance (name : List Char) (others : List (List Char)) (before after : List Char) :
    Decidable (StandsFirst name others before after) := by
  unfold StandsFirst
  infer_instance

section

variable {slots : List Slot} {slot : Slot}

theorem slotAt?_some {s : List Char} (h : slotAt? slots s = some slot) : slot ∈ slots ∧ slot.name <+: s := by
  have hbegins := List.find?_some (p := fun slot : Slot => slot.name.isPrefixOf s) h
  exact ⟨List.mem_of_find?_eq_some h, List.isPrefixOf_iff_prefix.mp hbegins⟩

theorem slotAt?_none {s : List Char} : slotAt? slots s = none ↔ ∀ slot ∈ slots, ¬ slot.name <+: s := by
  simp only [slotAt?, List.find?_eq_none, List.isPrefixOf_iff_prefix]

theorem slotAt?_singleton (slot : Slot) (s : List Char) :
    slotAt? [slot] s = if slot.name <+: s then some slot else none := by
  simp only [slotAt?, List.find?_singleton, List.isPrefixOf_iff_prefix]

theorem slotAt?_append (slots slots' : List Slot) (s : List Char) :
    slotAt? (slots ++ slots') s = (slotAt? slots s).or (slotAt? slots' s) :=
  List.find?_append

/-- Where a slot stands its value is put in, and its name is passed. -/
theorem fillFrom_begins {c : Char} {s : List Char} (h : slotAt? slots (c :: s) = some slot) :
    fillFrom slots 0 (c :: s) = slot.value ++ fillFrom slots (slot.name.length - 1) s := by
  rw [fillFrom, h]

theorem fillFrom_kept {c : Char} {s : List Char} (h : slotAt? slots (c :: s) = none) :
    fillFrom slots 0 (c :: s) = c :: fillFrom slots 0 s := by
  rw [fillFrom, h]

end

/-- Passing some characters is going on behind them. -/
theorem fillFrom_drop (slots : List Slot) (n : Nat) (s : List Char) :
    fillFrom slots n s = fillFrom slots 0 (s.drop n) := by
  induction s generalizing n with
  | nil => rw [List.drop_nil, fillFrom, fillFrom]
  | cons c s ih =>
    cases n with
    | zero => rfl
    | succ n => exact ih n

theorem fillFrom_nil (n : Nat) (s : List Char) : fillFrom [] n s = s.drop n := by
  rw [fillFrom_drop]
  generalize s.drop n = s
  induction s with
  | nil => rfl
  | cons c s ih => rw [fillFrom_kept rfl, ih]

/-- A piece in which no name begins is kept. -/
theorem fillFrom_past {slots : List Slot} {a s : List Char} (hstart : a <+: s)
    (h : ∀ k < a.length, slotAt? slots (s.drop k) = none) :
    fillFrom slots 0 s = a ++ fillFrom slots a.length s := by
  induction a generalizing s with
  | nil => rfl
  | cons c a ih =>
    obtain ⟨rest, rfl⟩ := hstart
    have hkept : slotAt? slots (c :: (a ++ rest)) = none := h 0 (Nat.zero_lt_succ _)
    rw [List.cons_append, fillFrom_kept hkept, List.cons_append, List.length_cons, fillFrom,
      ← ih (List.prefix_append a rest) fun k hk => h (k + 1) (Nat.succ_lt_succ hk)]

/-- Only where slots stand counts. -/
theorem fillFrom_congr {slots slots' : List Slot} {s : List Char}
    (h : ∀ u ∈ s.tails, slotAt? slots u = slotAt? slots' u) (n : Nat) :
    fillFrom slots n s = fillFrom slots' n s := by
  induction s generalizing n with
  | nil => rw [fillFrom, fillFrom]
  | cons c s ih =>
    rw [List.tails_cons] at h
    obtain ⟨hhere, hbehind⟩ := List.forall_mem_cons.mp h
    cases n with
    | succ n => exact ih hbehind n
    | zero =>
      cases hslot : slotAt? slots (c :: s) with
      | some slot => rw [fillFrom_begins hslot, fillFrom_begins (hhere ▸ hslot), ih hbehind]
      | none => rw [fillFrom_kept hslot, fillFrom_kept (hhere ▸ hslot), ih hbehind]

/-- A slot whose name does not stand in the text is not filled. -/
theorem fillFrom_absent {slot : Slot} {slots : List Slot} {s : List Char} (h : ¬ slot.name <:+: s) (n : Nat) :
    fillFrom (slot :: slots) n s = fillFrom slots n s := by
  refine fillFrom_congr (fun u hu => ?_) n
  have hsuffix : u <:+ s := (List.mem_tails u s).mp hu
  have hstart : ¬ slot.name <+: u := fun hstart => h (hstart.isInfix.trans hsuffix.isInfix)
  rw [← List.singleton_append, slotAt?_append, slotAt?_singleton, if_neg hstart, Option.none_or]

/-- A slot whose place is known is filled there. -/
theorem fillFrom_of_standsFirst {name before after : List Char} {slots : List Slot}
    (h : StandsFirst name (slots.map Slot.name) before after) (v : List Char) :
    fillFrom (⟨name, v⟩ :: slots) 0 (before ++ (name ++ after)) =
      before ++ (v ++ fillFrom slots 0 after) := by
  obtain ⟨hne, hafter, hbefore⟩ := h
  have hnone : ∀ k < before.length,
      slotAt? (⟨name, v⟩ :: slots) ((before ++ (name ++ after)).drop k) = none :=
    fun k hk => slotAt?_none.mpr fun _ hslot => hbefore k hk _ (List.mem_map_of_mem (f := Slot.name) hslot)
  have hhere : slotAt? (⟨name, v⟩ :: slots) (name ++ after) = some ⟨name, v⟩ := by
    rw [← List.singleton_append, slotAt?_append, slotAt?_singleton, if_pos (List.prefix_append name after),
      Option.some_or]
  rw [fillFrom_past (List.prefix_append _ _) hnone, fillFrom_drop, List.drop_left]
  obtain ⟨c, cs, rfl⟩ := List.exists_cons_of_ne_nil hne
  rw [List.cons_append] at hhere ⊢
  rw [fillFrom_begins hhere, List.length_cons, Nat.add_sub_cancel, fillFrom_drop, List.drop_left,
    fillFrom_absent hafter]

/-- **A value can be told from the filled template** if its name stands in it once. -/
theorem fillFrom_inj {name before after : List Char} {slots : List Slot}
    (h : StandsFirst name (slots.map Slot.name) before after) {v w : List Char} :
    fillFrom (⟨name, v⟩ :: slots) 0 (before ++ (name ++ after)) =
      fillFrom (⟨name, w⟩ :: slots) 0 (before ++ (name ++ after)) ↔ v = w := by
  rw [fillFrom_of_standsFirst h, fillFrom_of_standsFirst h, List.append_cancel_left_eq,
    List.append_cancel_right_eq]

/-- What stands at the start of the text behind stood there before, if no value begins with one of its
characters. -/
theorem prefix_fillFrom {slots : List Slot} {w s : List Char}
    (hvalues : ∀ slot ∈ slots, ∃ b ∈ slot.value.head?, b ∉ w) (h : w <+: fillFrom slots 0 s) : w <+: s := by
  induction s generalizing w with
  | nil => exact h
  | cons c s ih =>
    cases w with
    | nil => exact List.nil_prefix
    | cons d w =>
      cases hslot : slotAt? slots (c :: s) with
      | some slot =>
        obtain ⟨b, hb, hnot⟩ := hvalues slot (slotAt?_some hslot).1
        obtain ⟨value, hvalue⟩ := List.head?_eq_some_iff.mp hb
        rw [fillFrom_begins hslot, hvalue] at h
        have hd : d = b := (List.cons_prefix_cons.mp h).1
        exact absurd (hd ▸ List.mem_cons_self) hnot
      | none =>
        rw [fillFrom_kept hslot] at h
        obtain ⟨rfl, htail⟩ := List.cons_prefix_cons.mp h
        refine List.cons_prefix_cons.mpr ⟨rfl, ih (fun slot hslot => ?_) htail⟩
        obtain ⟨b, hb, hnot⟩ := hvalues slot hslot
        exact ⟨b, hb, List.not_mem_of_not_mem_cons hnot⟩

/-- Where a character is kept, a word that begins with it stood there before. -/
theorem prefix_cons_of_fillFrom {slots : List Slot} {w : List Char} {c : Char} {s : List Char}
    (hvalues : ∀ slot ∈ slots, ∃ b ∈ slot.value.head?, b ∉ w.tail) (h : w <+: c :: fillFrom slots 0 s) :
    w <+: c :: s := by
  cases w with
  | nil => exact List.nil_prefix
  | cons d w =>
    obtain ⟨rfl, htail⟩ := List.cons_prefix_cons.mp h
    exact List.cons_prefix_cons.mpr ⟨rfl, prefix_fillFrom hvalues htail⟩

theorem afterStart?_eq_some_iff {pattern s rest : List Char} :
    afterStart? pattern s = some rest ↔ s = pattern ++ rest := by
  induction pattern generalizing s with
  | nil => simp [afterStart?]
  | cons p ps ih =>
    cases s with
    | nil => simp [afterStart?]
    | cons c cs =>
      by_cases h : p = c
      · simp [afterStart?, h, ih]
      · simp [afterStart?, h, Ne.symm h]

/-- Where no replaced occurrence goes on, one begins or a character is kept. -/
theorem substituteFrom_zero_cons (pattern by_ : List Char) (c : Char) (s : List Char) :
    pattern <+: c :: s ∧
        substituteFrom pattern by_ 0 (c :: s) = by_ ++ substituteFrom pattern by_ (pattern.length - 1) s
      ∨ ¬ pattern <+: c :: s ∧
        substituteFrom pattern by_ 0 (c :: s) = c :: substituteFrom pattern by_ 0 s := by
  cases hstart : afterStart? pattern (c :: s) with
  | some rest =>
    exact Or.inl ⟨⟨rest, (afterStart?_eq_some_iff.mp hstart).symm⟩, by rw [substituteFrom, hstart]⟩
  | none =>
    refine Or.inr ⟨fun ⟨rest, hrest⟩ => ?_, by rw [substituteFrom, hstart]⟩
    rw [afterStart?_eq_some_iff.mpr hrest.symm] at hstart
    exact absurd hstart nofun

/-- Replacing a name is filling one slot. -/
theorem substituteFrom_eq_fillFrom (pattern by_ : List Char) (n : Nat) (s : List Char) :
    substituteFrom pattern by_ n s = fillFrom [⟨pattern, by_⟩] n s := by
  induction s generalizing n with
  | nil => rw [substituteFrom, fillFrom]
  | cons c s ih =>
    cases n with
    | succ n => exact ih n
    | zero =>
      have hslot := slotAt?_singleton ⟨pattern, by_⟩ (c :: s)
      rcases substituteFrom_zero_cons pattern by_ c s with ⟨hstart, heq⟩ | ⟨hstart, heq⟩
      · rw [heq, ih, fillFrom_begins (hslot.trans (if_pos hstart))]
      · rw [heq, ih, fillFrom_kept (hslot.trans (if_neg hstart))]

end Vitrine.Text
