import Mathlib.Data.List.Basic
import Vitrine.Text.Replace

/-!
# Replacing all stretches at once (section 4.4)

Replacements name stretches of one and the same text, the one that they were found in. `atOnce` is what they
mean together: where a stretch starts stands its replacement, and what lies in no stretch is kept. It looks at
places only, so it does not matter in which order the replacements are named (`atOnce_perm`).

`normalize_specifiers` makes its replacements this way, sorted in reverse and each with `replace_range`.

`splice` makes them one after the other, and each changes the places of all that stands behind it. It starts
with the last one: what it has changed so far lies behind all stretches that are still to be made, so their
places are still those of the text (`foldl_replaceIn`). That needs stretches that are not empty and do not
overlap; the replacements may have any length.

Places may be counted in characters or in the bytes of UTF-8. In bytes a place may also lie within a character,
and nothing can be replaced there without breaking the character. `spliceBytes?` looks before each replacement
whether both places are there and lie between characters of the text as it is by then, and gives up if not. It
never does, if the stretches lie between characters of the text that they were found in.

* `foldl_replaceIn`: the run from the last stretch to the first, over a text with anything behind it.
* `splice_eq_atOnce`: replacing from the last stretch to the first is replacing all at once.
* `IsBoundary.exists_split`: a place between characters is the length of some of the characters.
* `foldlM_replaceBytes?`: the run over the bytes goes through, and does what the run over the characters does.
* `splice_at_once`: both are replacing all stretches at once.
-/

namespace Vitrine.Text

variable {r : Replacement} {rs : List Replacement} {i j : Nat}

/-! ## Stretches -/

namespace Replacement

/-- No place lies in both stretches. -/
def Disjoint (a b : Replacement) : Prop := a.stop ≤ b.start ∨ b.stop ≤ a.start

instance (a b : Replacement) : Decidable (a.Disjoint b) := inferInstanceAs (Decidable (_ ∨ _))

theorem Disjoint.symm {a b : Replacement} (h : a.Disjoint b) : b.Disjoint a := Or.symm h

/-- Whether a place lies in the stretch. -/
def holds (r : Replacement) (i : Nat) : Bool := r.start ≤ i && i < r.stop

/-- Makes one replacement in a text over any alphabet, where `write` says how the replacement is spelled. -/
def replaceIn {α : Type} (write : Replacement → List α) (s : List α) (r : Replacement) : List α :=
  s.take r.start ++ write r ++ s.drop r.stop

end Replacement

/-- The replacements with the last in the text first. -/
def fromLast (rs : List Replacement) : List Replacement := rs.mergeSort fun a b => b.start ≤ a.start

/-! ## All at once -/

section

variable {α : Type} (write : Replacement → List α)

/-- What stands in the place of a letter: whatever replaces stretches that start there, and the letter itself
if it lies in no stretch. -/
def inPlace (rs : List Replacement) (a : α) (i : Nat) : List α :=
  (rs.filter (·.start == i)).flatMap write ++ if rs.any (·.holds i) then [] else [a]

/-- The text with all stretches replaced, where its first letter has the place `first`. -/
def atOnceFrom (rs : List Replacement) : Nat → List α → List α
  | _, [] => []
  | first, a :: s => inPlace write rs a first ++ atOnceFrom rs (first + 1) s

/-- The text with all stretches replaced. -/
def atOnce (rs : List Replacement) (s : List α) : List α := atOnceFrom write rs 0 s

end

section

variable {α : Type} {write : Replacement → List α} {first : Nat} {s t : List α}

theorem atOnceFrom_append (rs : List Replacement) (first : Nat) (s t : List α) :
    atOnceFrom write rs first (s ++ t) =
      atOnceFrom write rs first s ++ atOnceFrom write rs (first + s.length) t := by
  induction s generalizing first with
  | nil => rfl
  | cons a s ih =>
    rw [List.cons_append, atOnceFrom, atOnceFrom, ih, List.append_assoc, List.length_cons, Nat.add_assoc,
      Nat.add_comm 1]

theorem atOnceFrom_congr {rs' : List Replacement}
    (h : ∀ i, first ≤ i → i < first + s.length → ∀ a, inPlace write rs a i = inPlace write rs' a i) :
    atOnceFrom write rs first s = atOnceFrom write rs' first s := by
  induction s generalizing first with
  | nil => rfl
  | cons a s ih =>
    rw [List.length_cons] at h
    rw [atOnceFrom, atOnceFrom, h first (Nat.le_refl _) (by omega),
      ih fun i hi hlt => h i (by omega) (by omega)]

/-- A stretch that does not reach a place does not matter there. -/
theorem inPlace_cons_of_aside (haside : i < r.start ∨ r.stop ≤ i) (hne : r.start < r.stop) (a : α) :
    inPlace write (r :: rs) a i = inPlace write rs a i := by
  have hstart : r.start ≠ i := by omega
  have hholds : r.holds i = false := by
    rw [Replacement.holds, Bool.and_eq_false_iff, decide_eq_false_iff_not, decide_eq_false_iff_not]
    omega
  rw [inPlace, inPlace, List.filter_cons_of_neg (by simpa using hstart), List.any_cons, hholds,
    Bool.false_or]

/-- Behind all stretches the text is kept. -/
theorem atOnceFrom_behind (h : ∀ r ∈ rs, r.start < r.stop ∧ r.stop ≤ first) (s : List α) :
    atOnceFrom write rs first s = s := by
  have hkept : ∀ i, first ≤ i → ∀ a, inPlace write rs a i = [a] := by
    intro i hi a
    induction rs with
    | nil => rfl
    | cons r rs ih =>
      obtain ⟨⟨hne, hstop⟩, hrest⟩ := List.forall_mem_cons.mp h
      rw [inPlace_cons_of_aside (by omega) hne, ih hrest]
  induction s generalizing first with
  | nil => rfl
  | cons a s ih =>
    rw [atOnceFrom, hkept first (Nat.le_refl _),
      ih (fun r hr => ⟨(h r hr).1, by have := (h r hr).2; omega⟩) fun i hi => hkept i (by omega),
      List.singleton_append]

/-- In a stretch that no other one starts in, nothing stands but its replacement. -/
theorem atOnceFrom_inside (hlength : first + s.length = r.stop) (hstart : r.start < first)
    (hrest : ∀ r' ∈ rs, r'.start < first) : atOnceFrom write (r :: rs) first s = [] := by
  induction s generalizing first with
  | nil => rfl
  | cons a s ih =>
    rw [List.length_cons] at hlength
    have hnone : (r :: rs).filter (·.start == first) = [] := by
      refine List.filter_eq_nil_iff.mpr fun r' hr' => ?_
      have hlt : r'.start < first := (List.mem_cons.mp hr').elim (fun h => h ▸ hstart) (hrest r')
      simpa using Nat.ne_of_lt hlt
    have hholds : r.holds first = true := by
      rw [Replacement.holds, Bool.and_eq_true, decide_eq_true_eq, decide_eq_true_eq]
      omega
    rw [atOnceFrom, inPlace, hnone, List.any_cons, hholds, Bool.true_or, if_pos rfl, List.flatMap_nil,
      List.nil_append, List.nil_append]
    exact ih (by omega) (by omega) fun r' hr' => Nat.lt_succ_of_lt (hrest r' hr')

/-- A stretch that starts behind all others gives way to its replacement. -/
theorem atOnceFrom_stretch (hlength : r.start + s.length = r.stop) (hne : r.start < r.stop)
    (hrest : ∀ r' ∈ rs, r'.start < r.start) : atOnceFrom write (r :: rs) r.start s = write r := by
  cases s with
  | nil => exact absurd hlength (Nat.ne_of_lt hne)
  | cons a s =>
    have hnone : rs.filter (·.start == r.start) = [] :=
      List.filter_eq_nil_iff.mpr fun r' hr' => by simpa using Nat.ne_of_lt (hrest r' hr')
    have hholds : r.holds r.start = true := by simp [Replacement.holds, hne]
    rw [List.length_cons] at hlength
    rw [atOnceFrom, inPlace, List.filter_cons_of_pos (by simp), hnone, List.any_cons, hholds,
      Bool.true_or, if_pos rfl, List.append_nil, List.flatMap_singleton,
      atOnceFrom_inside (by omega) (by omega) fun r' hr' => Nat.lt_succ_of_lt (hrest r' hr'),
      List.append_nil]

/-! ## One after the other -/

/-- A text is what stands before a stretch, the stretch, and what stands behind it. -/
theorem Replacement.exists_parts (hne : r.start < r.stop) (hstop : r.stop ≤ s.length) :
    ∃ p m q, s = p ++ (m ++ q) ∧ r.start = p.length ∧ r.stop = p.length + m.length := by
  refine ⟨s.take r.start, (s.drop r.start).take (r.stop - r.start), s.drop r.stop, ?_, ?_, ?_⟩
  · have hdrop : s.drop r.stop = (s.drop r.start).drop (r.stop - r.start) := by
      rw [List.drop_drop]
      congr 1
      omega
    rw [hdrop, List.take_append_drop, List.take_append_drop]
  · rw [List.length_take]
    omega
  · rw [List.length_take, List.length_take, List.length_drop]
    omega

theorem Replacement.replaceIn_parts {p m : List α} (hstart : r.start = p.length)
    (hstop : r.stop = p.length + m.length) (q : List α) :
    Replacement.replaceIn write (p ++ (m ++ q)) r = p ++ (write r ++ q) := by
  rw [replaceIn, hstart, hstop, List.take_left, ← List.length_append, ← List.append_assoc p m q, List.drop_left,
    List.append_assoc]

/-- **The last stretch first.** What stands behind the stretches, of the text or not, stays as it is, and so do
the places of the stretches that are still to be made. -/
theorem foldl_replaceIn (hsorted : rs.Pairwise fun a b => b.stop ≤ a.start)
    (hin : ∀ r ∈ rs, r.start < r.stop ∧ r.stop ≤ s.length) (t : List α) :
    rs.foldl (Replacement.replaceIn write) (s ++ t) = atOnce write rs s ++ t := by
  induction rs generalizing s t with
  | nil => rw [List.foldl_nil, atOnce, atOnceFrom_behind fun _ h => absurd h List.not_mem_nil]
  | cons r rs ih =>
    obtain ⟨hlast, hsorted⟩ := List.pairwise_cons.mp hsorted
    obtain ⟨⟨hne, hstop⟩, hrest⟩ := List.forall_mem_cons.mp hin
    obtain ⟨p, m, q, rfl, hp, hm⟩ := Replacement.exists_parts hne hstop
    have hbefore : ∀ r' ∈ rs, r'.start < r'.stop ∧ r'.stop ≤ p.length :=
      fun r' hr' => ⟨(hrest r' hr').1, hp ▸ hlast r' hr'⟩
    have hfront : atOnceFrom write (r :: rs) 0 p = atOnceFrom write rs 0 p :=
      atOnceFrom_congr fun i _ hi a => inPlace_cons_of_aside (.inl (by omega)) hne a
    have hstretch : atOnceFrom write (r :: rs) p.length m = write r :=
      hp ▸ atOnceFrom_stretch (by omega) hne fun r' hr' => by have := hbefore r' hr'; omega
    have hbehind : atOnceFrom write (r :: rs) (p.length + m.length) q = q := by
      refine atOnceFrom_behind (List.forall_mem_cons.mpr ⟨⟨hne, Nat.le_of_eq hm⟩, fun r' hr' => ?_⟩) q
      have := hbefore r' hr'
      omega
    calc (r :: rs).foldl (Replacement.replaceIn write) (p ++ (m ++ q) ++ t)
      _ = rs.foldl (Replacement.replaceIn write) (p ++ (write r ++ (q ++ t))) := by
        rw [List.foldl_cons, List.append_assoc, List.append_assoc, Replacement.replaceIn_parts hp hm]
      _ = atOnce write rs p ++ (write r ++ (q ++ t)) := ih hsorted hbefore _
      _ = atOnce write (r :: rs) (p ++ (m ++ q)) ++ t := by
        rw [atOnce, atOnce, atOnceFrom_append, atOnceFrom_append, hfront, Nat.zero_add, hstretch, hbehind,
          List.append_assoc, List.append_assoc]

/-! ## Any order -/

/-- At most one of several stretches starts at a place, so it does not matter which comes first. -/
theorem filter_start_perm {rs' : List Replacement} (hperm : rs.Perm rs')
    (hdisjoint : rs.Pairwise Replacement.Disjoint) (hne : ∀ r ∈ rs, r.start < r.stop) (i : Nat) :
    rs.filter (·.start == i) = rs'.filter (·.start == i) := by
  have hdisjoint' : rs'.Pairwise Replacement.Disjoint :=
    (hperm.pairwise_iff Replacement.Disjoint.symm).mp hdisjoint
  refine List.Perm.eq_of_pairwise (fun a b ha hb hab _ => ?_) (hdisjoint.sublist List.filter_sublist)
    (hdisjoint'.sublist List.filter_sublist) (hperm.filter _)
  obtain ⟨ha, hai⟩ := List.mem_filter.mp ha
  obtain ⟨hb, hbi⟩ := List.mem_filter.mp hb
  have hastop := hne a ha
  have hbstop := hne b (hperm.mem_iff.mpr hb)
  rw [beq_iff_eq] at hai hbi
  rw [Replacement.Disjoint] at hab
  omega

/-- **The order of the replacements does not matter.** -/
theorem atOnce_perm {rs' : List Replacement} (hperm : rs.Perm rs')
    (hdisjoint : rs.Pairwise Replacement.Disjoint) (hne : ∀ r ∈ rs, r.start < r.stop) (s : List α) :
    atOnce write rs s = atOnce write rs' s := by
  refine atOnceFrom_congr fun i _ _ a => ?_
  rw [inPlace, inPlace, filter_start_perm hperm hdisjoint hne, hperm.any_eq]

theorem fromLast_perm (rs : List Replacement) : (fromLast rs).Perm rs := List.mergeSort_perm rs _

/-- In the order in which they are made, each stretch ends before the one made before it starts. -/
theorem pairwise_fromLast (hdisjoint : rs.Pairwise Replacement.Disjoint) (hne : ∀ r ∈ rs, r.start < r.stop) :
    (fromLast rs).Pairwise fun a b => b.stop ≤ a.start := by
  have hsorted : (fromLast rs).Pairwise fun a b => b.start ≤ a.start := by
    refine (List.pairwise_mergeSort ?_ ?_ rs).imp fun {a b} hab => of_decide_eq_true hab
    · intro a b c hab hbc
      simp only [decide_eq_true_eq] at hab hbc ⊢
      omega
    · intro a b
      simp only [Bool.or_eq_true, decide_eq_true_eq]
      omega
  have hapart : (fromLast rs).Pairwise Replacement.Disjoint :=
    ((fromLast_perm rs).pairwise_iff Replacement.Disjoint.symm).mpr hdisjoint
  refine (hsorted.and hapart).imp_of_mem fun {a b} ha hb hab => ?_
  have hane := hne a ((fromLast_perm rs).mem_iff.mp ha)
  have hbne := hne b ((fromLast_perm rs).mem_iff.mp hb)
  rw [Replacement.Disjoint] at hab
  omega

/-- **Making all replacements from the last to the first is making them at once.** -/
theorem foldl_fromLast (hdisjoint : rs.Pairwise Replacement.Disjoint)
    (hin : ∀ r ∈ rs, r.start < r.stop ∧ r.stop ≤ s.length) :
    (fromLast rs).foldl (Replacement.replaceIn write) s = atOnce write rs s := by
  have hne : ∀ r ∈ rs, r.start < r.stop := fun r hr => (hin r hr).1
  calc (fromLast rs).foldl (Replacement.replaceIn write) s
    _ = (fromLast rs).foldl (Replacement.replaceIn write) (s ++ []) := by rw [List.append_nil]
    _ = atOnce write (fromLast rs) s ++ [] :=
      foldl_replaceIn (pairwise_fromLast hdisjoint hne) (fun r hr => hin r ((fromLast_perm rs).mem_iff.mp hr)) []
    _ = atOnce write rs s := by
      rw [List.append_nil, atOnce_perm (fromLast_perm rs).symm hdisjoint hne]

end

/-- Replacing from the last stretch to the first is replacing all at once. -/
theorem splice_eq_atOnce {s : List Char} (hdisjoint : rs.Pairwise Replacement.Disjoint)
    (hin : ∀ r ∈ rs, r.start < r.stop ∧ r.stop ≤ s.length) :
    splice rs s = atOnce Replacement.text rs s :=
  foldl_fromLast hdisjoint hin

/-! ## Bytes of characters -/

variable {bytes : List UInt8} {a b p u s : List Char}

/-- The bytes of a text in UTF-8. -/
def bytesOf (s : List Char) : List UInt8 := s.flatMap String.utf8EncodeChar

theorem bytesOf_cons (c : Char) (s : List Char) : bytesOf (c :: s) = String.utf8EncodeChar c ++ bytesOf s :=
  List.flatMap_cons

theorem bytesOf_append (s t : List Char) : bytesOf (s ++ t) = bytesOf s ++ bytesOf t :=
  List.flatMap_append

/-- Whether a byte is the first one of a character; all others have the bits `10` in front. -/
def beginsCharacter (b : UInt8) : Bool := b.toNat < 0x80 || 0xC0 ≤ b.toNat

/-- The first byte of a character begins it, and no other does. -/
theorem utf8EncodeChar_cases (c : Char) : ∃ b bs, String.utf8EncodeChar c = b :: bs ∧
    beginsCharacter b = true ∧ ∀ b' ∈ bs, beginsCharacter b' = false := by
  unfold String.utf8EncodeChar
  simp only [Char.toNat_val]
  -- An only byte is below `0x80`; the first of several are from `0xC0` on, and all others are between.
  split_ifs <;> refine ⟨_, _, rfl, ?_⟩ <;> simp [beginsCharacter] <;> omega

/-! ## Places between characters -/

/-- The place is the end of the text, or a character begins there. -/
def IsBoundary (bytes : List UInt8) (i : Nat) : Prop := i = bytes.length ∨ bytes[i]?.any beginsCharacter = true

instance (bytes : List UInt8) (i : Nat) : Decidable (IsBoundary bytes i) := inferInstanceAs (Decidable (_ ∨ _))

theorem IsBoundary.le_length (h : IsBoundary bytes i) : i ≤ bytes.length := by
  rcases h with rfl | h
  · exact Nat.le_refl _
  · by_contra hlt
    rw [List.getElem?_eq_none (by omega)] at h
    exact absurd h nofun

/-- Some of the characters end at a place between characters. -/
theorem isBoundary_length (a b : List Char) : IsBoundary (bytesOf (a ++ b)) (bytesOf a).length := by
  cases b with
  | nil => exact .inl (by rw [List.append_nil])
  | cons c b =>
    obtain ⟨first, rest, hc, hbegins, -⟩ := utf8EncodeChar_cases c
    refine .inr ?_
    rw [bytesOf_append, List.getElem?_append_right (Nat.le_refl _), Nat.sub_self, bytesOf_cons, hc]
    exact hbegins

/-- **At each place between characters some of the characters end.** -/
theorem IsBoundary.exists_split (h : IsBoundary (bytesOf (p ++ u)) i) (hi : i ≤ (bytesOf p).length) :
    ∃ a b, p = a ++ b ∧ i = (bytesOf a).length := by
  induction p generalizing i with
  | nil => exact ⟨[], [], rfl, Nat.le_zero.mp hi⟩
  | cons c p ih =>
    by_cases hzero : i = 0
    · exact ⟨[], c :: p, rfl, hzero⟩
    obtain ⟨first, rest, hc, -, hrest⟩ := utf8EncodeChar_cases c
    have hbytes : bytesOf (c :: p ++ u) = (first :: rest) ++ bytesOf (p ++ u) := by
      rw [List.cons_append, bytesOf_cons, hc]
    have hlength : (bytesOf (c :: p)).length = (first :: rest).length + (bytesOf p).length := by
      rw [bytesOf_cons, hc, List.length_append]
    rw [hlength] at hi
    rw [IsBoundary, hbytes, List.length_append] at h
    by_cases hinside : i < (first :: rest).length
    · -- Within the character no byte begins one.
      obtain ⟨k, rfl⟩ := Nat.exists_eq_succ_of_ne_zero hzero
      have hk : k < rest.length := Nat.lt_of_succ_lt_succ hinside
      rw [List.getElem?_append_left hinside, List.getElem?_cons_succ, List.getElem?_eq_getElem hk,
        Option.any_some, hrest _ (List.getElem_mem hk)] at h
      rcases h with h | h
      · omega
      · exact absurd h nofun
    · have hbehind : IsBoundary (bytesOf (p ++ u)) (i - (first :: rest).length) := by
        rw [List.getElem?_append_right (Nat.le_of_not_lt hinside)] at h
        exact h.imp_left fun h => by omega
      obtain ⟨a, b, rfl, hsplit⟩ := ih hbehind (by omega)
      refine ⟨c :: a, b, rfl, ?_⟩
      rw [bytesOf_cons, hc, List.length_append, ← hsplit]
      omega

/-! ## Counting characters -/

/-- How many characters begin before a place. -/
def charsBefore (bytes : List UInt8) (i : Nat) : Nat := (bytes.take i).countP beginsCharacter

theorem countP_bytesOf (s : List Char) : (bytesOf s).countP beginsCharacter = s.length := by
  induction s with
  | nil => rfl
  | cons c s ih =>
    obtain ⟨first, rest, hc, hbegins, hrest⟩ := utf8EncodeChar_cases c
    have hnone : rest.countP beginsCharacter = 0 :=
      List.countP_eq_zero.mpr fun b hb => by simpa using hrest b hb
    rw [bytesOf_cons, hc, List.countP_append, List.countP_cons_of_pos hbegins, hnone, ih, List.length_cons,
      Nat.zero_add, Nat.add_comm]

theorem charsBefore_length (a b : List Char) : charsBefore (bytesOf (a ++ b)) (bytesOf a).length = a.length := by
  rw [charsBefore, bytesOf_append, List.take_left, countP_bytesOf]

/-- A place between characters has fewer characters in front of it than any place behind it. -/
theorem charsBefore_lt (hi : IsBoundary bytes i) (hij : i < j) (hj : j ≤ bytes.length) :
    charsBefore bytes i < charsBefore bytes j := by
  have hlt : i < bytes.length := Nat.lt_of_lt_of_le hij hj
  have hbegins : beginsCharacter bytes[i] = true := by
    rcases hi with hi | hi
    · exact absurd hi (Nat.ne_of_lt hlt)
    · rwa [List.getElem?_eq_getElem hlt] at hi
  have hnext : charsBefore bytes (i + 1) = charsBefore bytes i + 1 := by
    rw [charsBefore, List.take_succ_eq_append_getElem hlt, List.countP_append,
      List.countP_cons_of_pos hbegins, List.countP_nil, charsBefore]
  have hrest : charsBefore bytes (i + 1) ≤ charsBefore bytes j :=
    (List.take_prefix_take_left hij).sublist.countP_le
  omega

theorem charsBefore_le_iff (hi : IsBoundary bytes i) (hj : IsBoundary bytes j) :
    charsBefore bytes i ≤ charsBefore bytes j ↔ i ≤ j := by
  constructor
  · intro h
    by_contra hlt
    exact absurd (charsBefore_lt hj (Nat.lt_of_not_le hlt) hi.le_length) (Nat.not_lt_of_le h)
  · intro h
    exact (List.take_prefix_take_left h).sublist.countP_le

/-! ## Replacing in bytes -/

namespace Replacement

/-- The stretch is not empty, and it lies between characters of the text. -/
structure LiesIn (r : Replacement) (bytes : List UInt8) : Prop where
  nonempty : r.start < r.stop
  start : IsBoundary bytes r.start
  stop : IsBoundary bytes r.stop

instance (r : Replacement) (bytes : List UInt8) : Decidable (r.LiesIn bytes) :=
  decidable_of_iff (r.start < r.stop ∧ IsBoundary bytes r.start ∧ IsBoundary bytes r.stop)
    ⟨fun ⟨hne, hstart, hstop⟩ => ⟨hne, hstart, hstop⟩, fun h => ⟨h.nonempty, h.start, h.stop⟩⟩

/-- The replacement as bytes. -/
def utf8 (r : Replacement) : List UInt8 := bytesOf r.text

/-- Makes a replacement whose places are counted in bytes; nothing comes of it if one of them is not there or
lies within a character, or if they are the wrong way round. -/
def replaceBytes? (s : List UInt8) (r : Replacement) : Option (List UInt8) :=
  if IsBoundary s r.start ∧ IsBoundary s r.stop ∧ r.start ≤ r.stop then some (replaceIn utf8 s r) else none

/-- The replacement with its places counted in characters. -/
def inChars (bytes : List UInt8) (r : Replacement) : Replacement :=
  { r with start := charsBefore bytes r.start, stop := charsBefore bytes r.stop }

end Replacement

/-- Makes all replacements in the bytes of a text, the last in the text first. -/
def spliceBytes? (rs : List Replacement) (bytes : List UInt8) : Option (List UInt8) :=
  (fromLast rs).foldlM Replacement.replaceBytes? bytes

/-- What goes through in bytes does what replacing does. -/
theorem foldl_of_foldlM {result : List UInt8} (h : rs.foldlM Replacement.replaceBytes? bytes = some result) :
    rs.foldl (Replacement.replaceIn Replacement.utf8) bytes = result := by
  induction rs generalizing bytes with
  | nil => exact Option.some.inj h
  | cons r rs ih =>
    rw [List.foldlM_cons, Replacement.replaceBytes?] at h
    split at h
    · exact ih h
    · exact absurd h nofun

/-! ## Between characters -/

section

variable {m : List Char}

/-- A stretch between characters holds some of the characters. -/
theorem Replacement.LiesIn.exists_parts (h : r.LiesIn (bytesOf (p ++ u))) (hstop : r.stop ≤ (bytesOf p).length) :
    ∃ a m b, p = a ++ (m ++ b) ∧ r.start = (bytesOf a).length ∧ r.stop = (bytesOf (a ++ m)).length := by
  obtain ⟨front, b, rfl, hb⟩ := h.stop.exists_split hstop
  have hstart := h.start
  rw [List.append_assoc] at hstart
  obtain ⟨a, m, rfl, ha⟩ := hstart.exists_split (hb ▸ Nat.le_of_lt h.nonempty)
  exact ⟨a, m, b, List.append_assoc a m b, ha, hb⟩

/-- In bytes, such a stretch is replaced. -/
theorem Replacement.replaceBytes?_parts (hstart : r.start = (bytesOf a).length)
    (hstop : r.stop = (bytesOf (a ++ m)).length) (b : List Char) :
    Replacement.replaceBytes? (bytesOf (a ++ (m ++ b))) r = some (bytesOf (a ++ (r.text ++ b))) := by
  have hbefore : IsBoundary (bytesOf (a ++ (m ++ b))) r.start := hstart ▸ isBoundary_length a (m ++ b)
  have hbehind : IsBoundary (bytesOf (a ++ (m ++ b))) r.stop := by
    rw [hstop, ← List.append_assoc]
    exact isBoundary_length (a ++ m) b
  rw [bytesOf_append, List.length_append] at hstop
  rw [replaceBytes?, if_pos ⟨hbefore, hbehind, by omega⟩, bytesOf_append, bytesOf_append,
    replaceIn_parts hstart hstop, bytesOf_append, bytesOf_append]
  rfl

/-- In characters, it is the same stretch. -/
theorem Replacement.replaceIn_inChars (hs : s = a ++ (m ++ u)) (hstart : r.start = (bytesOf a).length)
    (hstop : r.stop = (bytesOf (a ++ m)).length) (b : List Char) :
    Replacement.replaceIn text (a ++ (m ++ b)) (r.inChars (bytesOf s)) = a ++ (r.text ++ b) := by
  have hbefore : (r.inChars (bytesOf s)).start = a.length := by
    rw [inChars, hstart, hs, charsBefore_length]
  have hbehind : (r.inChars (bytesOf s)).stop = a.length + m.length := by
    rw [inChars, hstop, hs, ← List.append_assoc, charsBefore_length, List.length_append]
  exact replaceIn_parts hbefore hbehind b

end

/-- **The run over the bytes goes through**, and does what the run over the characters does. In front of the
stretches that were made stands the text that they were all found in, up to some `p`; anything may stand
behind it. -/
theorem foldlM_replaceBytes? (hsorted : rs.Pairwise fun a b => b.stop ≤ a.start)
    (hin : ∀ r ∈ rs, r.LiesIn (bytesOf s)) (hs : s = p ++ u) (hstop : ∀ r ∈ rs, r.stop ≤ (bytesOf p).length)
    (t : List Char) :
    rs.foldlM Replacement.replaceBytes? (bytesOf (p ++ t)) =
      some (bytesOf ((rs.map (Replacement.inChars (bytesOf s))).foldl (Replacement.replaceIn Replacement.text)
        (p ++ t))) := by
  induction rs generalizing p u t with
  | nil => rfl
  | cons r rs ih =>
    obtain ⟨hlast, hsorted⟩ := List.pairwise_cons.mp hsorted
    obtain ⟨hr, hrest⟩ := List.forall_mem_cons.mp hin
    obtain ⟨a, m, b, rfl, ha, hm⟩ := (hs ▸ hr).exists_parts (List.forall_mem_cons.mp hstop).1
    rw [List.append_assoc, List.append_assoc] at hs
    rw [List.append_assoc, List.append_assoc, List.foldlM_cons, Replacement.replaceBytes?_parts ha hm,
      List.map_cons, List.foldl_cons, Replacement.replaceIn_inChars hs ha hm]
    exact ih hsorted hrest hs (fun r' hr' => ha ▸ hlast r' hr') _

/-- Counted in characters, the stretches are in the same order. -/
theorem fromLast_map_inChars (hin : ∀ r ∈ rs, r.LiesIn bytes) :
    fromLast (rs.map (Replacement.inChars bytes)) = (fromLast rs).map (Replacement.inChars bytes) := by
  refine (List.map_mergeSort fun r hr r' hr' => ?_).symm
  exact decide_eq_decide.mpr (charsBefore_le_iff (hin r' hr').start (hin r hr).start).symm

/-- **Replacing from the last stretch to the first is replacing all at once**, for stretches that are not empty,
lie between characters and do not overlap, whatever their order and whatever is put in their places. Counted in
bytes, no place is out of range or within a character when its turn comes, and the bytes are those of the text
outside the stretches, with each replacement at its own stretch. Counted in characters, the same text comes of
it. -/
theorem splice_at_once (s : List Char) (rs : List Replacement) (hdisjoint : rs.Pairwise Replacement.Disjoint)
    (hin : ∀ r ∈ rs, r.LiesIn (bytesOf s)) :
    spliceBytes? rs (bytesOf s) = some (atOnce Replacement.utf8 rs (bytesOf s)) ∧
      bytesOf (splice (rs.map (Replacement.inChars (bytesOf s))) s) =
        atOnce Replacement.utf8 rs (bytesOf s) := by
  have hlast : ∀ r ∈ fromLast rs, r.LiesIn (bytesOf s) :=
    fun r hr => hin r ((fromLast_perm rs).mem_iff.mp hr)
  have hsorted : (fromLast rs).Pairwise fun a b => b.stop ≤ a.start :=
    pairwise_fromLast hdisjoint fun r hr => (hin r hr).nonempty
  have hrun : spliceBytes? rs (bytesOf s) =
      some (bytesOf (splice (rs.map (Replacement.inChars (bytesOf s))) s)) := by
    have hbytes := foldlM_replaceBytes? hsorted hlast (List.append_nil s).symm
      (fun r hr => (hlast r hr).stop.le_length) []
    rw [List.append_nil, ← fromLast_map_inChars hin] at hbytes
    exact hbytes
  have honce : bytesOf (splice (rs.map (Replacement.inChars (bytesOf s))) s) =
      atOnce Replacement.utf8 rs (bytesOf s) := by
    rw [← foldl_of_foldlM hrun]
    exact foldl_fromLast hdisjoint fun r hr => ⟨(hin r hr).nonempty, (hin r hr).stop.le_length⟩
  exact ⟨hrun.trans (congrArg some honce), honce⟩

/-- Two literals side by side, behind and around characters of two bytes, and a longer and a shorter text for
them. -/
def sideBySide : List Replacement := [⟨2, 5, "\"/ab\"".toList⟩, ⟨5, 9, "→".toList⟩]

theorem splice_at_once_side_by_side :
    sideBySide.Pairwise Replacement.Disjoint ∧
      (∀ r ∈ sideBySide, r.LiesIn (bytesOf "é'a''ü'".toList)) ∧
      spliceBytes? sideBySide (bytesOf "é'a''ü'".toList) = some (bytesOf "é\"/ab\"→".toList) ∧
      bytesOf (splice (sideBySide.map (Replacement.inChars (bytesOf "é'a''ü'".toList))) "é'a''ü'".toList) =
        bytesOf "é\"/ab\"→".toList := by
  have hdisjoint : sideBySide.Pairwise Replacement.Disjoint := by decide
  have hin : ∀ r ∈ sideBySide, r.LiesIn (bytesOf "é'a''ü'".toList) := by decide
  obtain ⟨hbytes, hchars⟩ := splice_at_once _ _ hdisjoint hin
  have honce : atOnce Replacement.utf8 sideBySide (bytesOf "é'a''ü'".toList) =
      bytesOf "é\"/ab\"→".toList := by decide
  exact ⟨hdisjoint, hin, hbytes.trans (congrArg some honce), hchars.trans honce⟩

/-- Within a character nothing is replaced. -/
example : Replacement.replaceBytes? (bytesOf "é'a'".toList) ⟨1, 2, []⟩ = none := by decide

end Vitrine.Text
