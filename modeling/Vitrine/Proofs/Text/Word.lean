import Vitrine.Proofs.Text.Slots

/-!
# Words in texts (section 4.6)

Where a word can stand in a text that is put together from others.

The words are those that a script must not hold, and the replacements those of `script_safe_json`,
`loader_script` and `error_capture_script`.

* `infix_append_cons`, `infix_intercalate`: on one side of a character that is not in the word.
* `infix_substituteFrom`: a replacement can bring a word into a text in two ways, in the replacement itself
  or across an edge of it. `Apart` rules out the second; then the word stands in the text before, or in the
  replacement.
* `not_infix_substituteFrom`: if the pattern is apart from its replacement and does not stand in it, then
  it stands nowhere in the text behind.
-/

namespace Vitrine.Text

/-! ## Separators -/

/-- A text that ends at the first `d` is told apart from what stands behind. -/
theorem append_cons_inj {d : Char} {a a' b b' : List Char} (ha : d ∉ a) (ha' : d ∉ a') :
    a ++ d :: b = a' ++ d :: b' ↔ a = a' ∧ b = b' := by
  have htext {a b : List Char} (ha : d ∉ a) : (a ++ d :: b).takeWhile (· != d) = a := by
    have hall : ∀ c ∈ a, (c != d) = true := fun c hc => bne_iff_ne.mpr fun he => ha (he ▸ hc)
    rw [List.takeWhile_append_of_pos hall, List.takeWhile_cons_of_neg (by simp), List.append_nil]
  constructor
  · intro h
    obtain rfl : a = a' := by rw [← htext ha, h, htext ha']
    exact ⟨rfl, (List.cons.inj (List.append_cancel_left h)).2⟩
  · rintro ⟨rfl, rfl⟩
    rfl

/-- No word reaches across a character that is not in it. -/
theorem infix_append_cons {w before behind : List Char} {d : Char} (hd : d ∉ w)
    (h : w <:+: before ++ d :: behind) : w <:+: before ∨ w <:+: behind := by
  rw [List.infix_append_iff] at h
  rcases h with hleft | hright | ⟨front, back, rfl, hfront, hback⟩
  · exact Or.inl hleft
  · rcases List.infix_cons_iff.mp hright with hbegins | hright
    · rcases List.prefix_cons_iff.mp hbegins with rfl | ⟨w, rfl, -⟩
      · exact Or.inl List.nil_infix
      · exact absurd List.mem_cons_self hd
    · exact Or.inr hright
  · rcases List.prefix_cons_iff.mp hback with rfl | ⟨back, rfl, -⟩
    · rw [List.append_nil]
      exact Or.inl hfront.isInfix
    · exact absurd (by simp) hd

/-- A word stands in one of the texts between separators that are not in it. -/
theorem infix_intercalate {w : List Char} (hne : w ≠ []) {d : Char} (hd : d ∉ w) {texts : List (List Char)}
    (h : w <:+: List.intercalate [d] texts) : ∃ text ∈ texts, w <:+: text := by
  induction texts with
  | nil => exact absurd (List.eq_nil_of_infix_nil h) hne
  | cons text texts ih =>
    cases texts with
    | nil => exact ⟨text, List.mem_cons_self, by simpa [List.intercalate] using h⟩
    | cons text' texts =>
      rw [List.intercalate_cons_cons, List.append_assoc, List.singleton_append] at h
      rcases infix_append_cons hd h with hhead | hbehind
      · exact ⟨text, List.mem_cons_self, hhead⟩
      · obtain ⟨t, ht, hw⟩ := ih hbehind
        exact ⟨t, List.mem_cons_of_mem _ ht, hw⟩

theorem mem_of_mem_intercalate {sep : List Char} {c : Char} {texts : List (List Char)}
    (h : c ∈ List.intercalate sep texts) : c ∈ sep ∨ ∃ text ∈ texts, c ∈ text := by
  induction texts with
  | nil => simp [List.intercalate] at h
  | cons text texts ih =>
    cases texts with
    | nil => exact Or.inr ⟨text, List.mem_cons_self, by simpa [List.intercalate] using h⟩
    | cons text' texts =>
      rw [List.intercalate_cons_cons, List.append_assoc, List.mem_append, List.mem_append] at h
      rcases h with hhead | hsep | hbehind
      · exact Or.inr ⟨text, List.mem_cons_self, hhead⟩
      · exact Or.inl hsep
      · exact (ih hbehind).imp_right fun ⟨t, ht, hc⟩ => ⟨t, List.mem_cons_of_mem _ ht, hc⟩

/-! ## Replacements -/

theorem substituteFrom_drop (pattern by_ : List Char) (n : Nat) (s : List Char) :
    substituteFrom pattern by_ n s = substituteFrom pattern by_ 0 (s.drop n) := by
  simp only [substituteFrom_eq_fillFrom, ← fillFrom_drop]

theorem substituteFrom_kept {pattern by_ : List Char} {c : Char} {s : List Char} (h : ¬ pattern <+: c :: s) :
    substituteFrom pattern by_ 0 (c :: s) = c :: substituteFrom pattern by_ 0 s :=
  (substituteFrom_zero_cons pattern by_ c s).elim (fun hoccurs => absurd hoccurs.1 h) And.right

theorem substituteFrom_occurs {pattern by_ : List Char} (hne : pattern ≠ []) (rest : List Char) :
    substituteFrom pattern by_ 0 (pattern ++ rest) = by_ ++ substituteFrom pattern by_ 0 rest := by
  obtain ⟨p, ps, rfl⟩ := List.exists_cons_of_ne_nil hne
  rcases substituteFrom_zero_cons (p :: ps) by_ p (ps ++ rest) with ⟨-, heq⟩ | ⟨hnot, -⟩
  · rw [List.cons_append, heq, substituteFrom_drop, List.length_cons, Nat.add_sub_cancel, List.drop_left]
  · exact absurd (List.prefix_append (p :: ps) rest) hnot

/-- A text is empty, or begins with an occurrence of the pattern, or with a character that is kept. -/
@[elab_as_elim]
theorem scan_induction {pattern : List Char} (hne : pattern ≠ []) {motive : List Char → Prop}
    (nil : motive []) (occurs : ∀ rest, motive rest → motive (pattern ++ rest))
    (kept : ∀ c s, ¬ pattern <+: c :: s → motive s → motive (c :: s)) (s : List Char) : motive s := by
  induction hlength : s.length using Nat.strong_induction_on generalizing s with
  | h n ih =>
    subst hlength
    cases s with
    | nil => exact nil
    | cons c s =>
      by_cases hstart : pattern <+: c :: s
      · obtain ⟨rest, heq⟩ := hstart
        have hlength := congrArg List.length heq
        rw [List.length_append] at hlength
        have hpositive := List.length_pos_of_ne_nil hne
        rw [← heq]
        exact occurs rest (ih rest.length (by rw [← heq, List.length_append]; omega) rest rfl)
      · exact kept c s hstart (ih s.length (Nat.lt_succ_self _) s rfl)

/-- No occurrence of a word reaches across an edge of a replacement: behind the beginning of the word does
not stand the first character of the replacement, and before its end not the last. -/
structure Apart (w by_ : List Char) : Prop where
  head : ∃ b ∈ by_.head?, b ∉ w.tail
  last : ∃ e ∈ by_.getLast?, e ∉ w.dropLast

/-- A word stands on one side of an edge. -/
theorem Apart.infix_append {w by_ : List Char} (h : Apart w by_) {rest : List Char}
    (hoccurs : w <:+: by_ ++ rest) : w <:+: by_ ∨ w <:+: rest := by
  rw [List.infix_append_iff] at hoccurs
  rcases hoccurs with hleft | hright | ⟨front, behind, rfl, hfront, hbehind⟩
  · exact Or.inl hleft
  · exact Or.inr hright
  · obtain ⟨e, he, hlast⟩ := h.last
    rcases List.eq_nil_or_concat front with rfl | ⟨front, d, rfl⟩
    · exact Or.inr hbehind.isInfix
    · cases behind with
      | nil =>
        rw [List.append_nil]
        exact Or.inl hfront.isInfix
      | cons c behind =>
        obtain ⟨before, rfl⟩ := hfront
        obtain rfl : d = e := by simpa using he
        exact absurd (by simp) hlast

/-- Where a character is kept, a word that begins with it stood there before. -/
theorem Apart.prefix_cons {pattern by_ w : List Char} (h : Apart w by_) {c : Char} {s : List Char}
    (hbegins : w <+: c :: substituteFrom pattern by_ 0 s) : w <+: c :: s := by
  rw [substituteFrom_eq_fillFrom] at hbegins
  exact prefix_cons_of_fillFrom (List.forall_mem_singleton.mpr h.head) hbegins

/-- **What stands in the text after a replacement** stood there before, or stands in the replacement. -/
theorem infix_substituteFrom {pattern by_ w : List Char} (h : Apart w by_) {n : Nat} {s : List Char}
    (hoccurs : w <:+: substituteFrom pattern by_ n s) : w <:+: s ∨ w <:+: by_ := by
  induction s generalizing n with
  | nil =>
    rw [substituteFrom] at hoccurs
    exact Or.inl hoccurs
  | cons c s ih =>
    have hbehind {n : Nat} (hoccurs : w <:+: substituteFrom pattern by_ n s) :
        w <:+: c :: s ∨ w <:+: by_ :=
      (ih hoccurs).imp_left fun h => h.trans (List.suffix_cons c s).isInfix
    cases n with
    | succ n => exact hbehind hoccurs
    | zero =>
      rcases substituteFrom_zero_cons pattern by_ c s with ⟨-, heq⟩ | ⟨-, heq⟩
      · rw [heq] at hoccurs
        exact (h.infix_append hoccurs).elim Or.inr hbehind
      · rw [heq] at hoccurs
        rcases List.infix_cons_iff.mp hoccurs with hbegins | hoccurs
        · exact Or.inl (h.prefix_cons hbegins).isInfix
        · exact hbehind hoccurs

/-- **The pattern does not stand in the text after its replacement**, nor does it come about there. -/
theorem not_infix_substituteFrom {pattern by_ : List Char} (hne : pattern ≠ []) (h : Apart pattern by_)
    (hby : ¬ pattern <:+: by_) (n : Nat) (s : List Char) :
    ¬ pattern <:+: substituteFrom pattern by_ n s := by
  induction s generalizing n with
  | nil =>
    rw [substituteFrom]
    exact fun hoccurs => hne (List.eq_nil_of_infix_nil hoccurs)
  | cons c s ih =>
    cases n with
    | succ n => exact ih n
    | zero =>
      intro hoccurs
      rcases substituteFrom_zero_cons pattern by_ c s with ⟨-, heq⟩ | ⟨hnot, heq⟩
      · rw [heq] at hoccurs
        exact (h.infix_append hoccurs).elim hby (ih _)
      · rw [heq] at hoccurs
        rcases List.infix_cons_iff.mp hoccurs with hbegins | hoccurs
        · exact hnot (h.prefix_cons hbegins)
        · exact ih 0 hoccurs

theorem mem_of_mem_substituteFrom {pattern by_ : List Char} {c : Char} {n : Nat} {s : List Char}
    (h : c ∈ substituteFrom pattern by_ n s) : c ∈ s ∨ c ∈ by_ := by
  induction s generalizing n with
  | nil => exact Or.inl h
  | cons d s ih =>
    cases n with
    | succ n => exact (ih h).imp_left (List.mem_cons_of_mem d)
    | zero =>
      rcases substituteFrom_zero_cons pattern by_ d s with ⟨-, heq⟩ | ⟨-, heq⟩
      · rw [heq] at h
        rcases List.mem_append.mp h with hby | hbehind
        · exact Or.inr hby
        · exact (ih hbehind).imp_left (List.mem_cons_of_mem d)
      · rw [heq] at h
        rcases List.mem_cons.mp h with rfl | hbehind
        · exact Or.inl List.mem_cons_self
        · exact (ih hbehind).imp_left (List.mem_cons_of_mem d)

/-- Two texts are replaced one by one if the pattern does not reach from one to the other. -/
theorem substituteFrom_append {pattern by_ a b : List Char} (hne : pattern ≠ [])
    (hedge : ∀ front behind, pattern = front ++ behind → front ≠ [] → behind ≠ [] →
      front <:+ a → ¬ behind <+: b) :
    substituteFrom pattern by_ 0 (a ++ b) =
      substituteFrom pattern by_ 0 a ++ substituteFrom pattern by_ 0 b := by
  induction a using scan_induction hne with
  | nil => rfl
  | occurs rest ih =>
    rw [List.append_assoc, substituteFrom_occurs hne, substituteFrom_occurs hne, List.append_assoc, ih]
    exact fun front behind heq hfront hbehind hsuffix =>
      hedge front behind heq hfront hbehind (hsuffix.trans (List.suffix_append pattern rest))
  | kept c s hstart ih =>
    have hstart' : ¬ pattern <+: c :: s ++ b := by
      rintro ⟨rest, hrest⟩
      rcases List.append_eq_append_iff.mp hrest with ⟨rest', heq, -⟩ | ⟨behind, rfl, heq⟩
      · exact hstart ⟨rest', heq.symm⟩
      · have hbehind : behind ≠ [] := by
          rintro rfl
          exact hstart (by rw [List.append_nil])
        exact hedge (c :: s) behind rfl (List.cons_ne_nil c s) hbehind List.suffix_rfl ⟨rest, heq.symm⟩
    rw [List.cons_append] at hstart' ⊢
    rw [substituteFrom_kept hstart, substituteFrom_kept hstart', List.cons_append, ih]
    exact fun front behind heq hfront hbehind hsuffix =>
      hedge front behind heq hfront hbehind (hsuffix.trans (List.suffix_cons c s))

/-- A piece without the first character of the pattern is kept. -/
theorem substituteFrom_clear {p : Char} {ps by_ a : List Char} (h : p ∉ a) (b : List Char) :
    substituteFrom (p :: ps) by_ 0 (a ++ b) = a ++ substituteFrom (p :: ps) by_ 0 b := by
  induction a with
  | nil => rfl
  | cons c a ih =>
    have hstart : ¬ p :: ps <+: c :: (a ++ b) :=
      fun hbegins => h ((List.cons_prefix_cons.mp hbegins).1 ▸ List.mem_cons_self)
    rw [List.cons_append, substituteFrom_kept hstart, ih (List.not_mem_of_not_mem_cons h), List.cons_append]

/-- A word that has no character in common with the pattern still stands in the text. -/
theorem infix_substituteFrom_of_disjoint {pattern by_ w s : List Char} (hne : pattern ≠ [])
    (hdisjoint : pattern.Disjoint w) (h : w <:+: s) : w <:+: substituteFrom pattern by_ 0 s := by
  obtain ⟨before, behind, rfl⟩ := h
  cases w with
  | nil => exact List.nil_infix
  | cons c w =>
    obtain ⟨p, ps, rfl⟩ := List.exists_cons_of_ne_nil hne
    have hclear : p ∉ c :: w := hdisjoint List.mem_cons_self
    rw [List.append_assoc, substituteFrom_append hne, substituteFrom_clear hclear, ← List.append_assoc]
    · exact List.infix_append _ _ _
    · intro front back heq _ hback _ hbegins
      obtain ⟨d, back, rfl⟩ := List.exists_cons_of_ne_nil hback
      obtain ⟨rfl, -⟩ := List.cons_prefix_cons.mp hbegins
      exact hdisjoint (heq ▸ List.mem_append_right front List.mem_cons_self) List.mem_cons_self

/-- A character behind the text that is not in the pattern stays behind it. -/
theorem substituteFrom_concat {pattern by_ : List Char} {d : Char} (hne : pattern ≠ []) (hd : d ∉ pattern)
    (s : List Char) :
    substituteFrom pattern by_ 0 (s ++ [d]) = substituteFrom pattern by_ 0 s ++ [d] := by
  rw [substituteFrom_append hne]
  · have hstart : ¬ pattern <+: [d] := by
      obtain ⟨p, ps, rfl⟩ := List.exists_cons_of_ne_nil hne
      exact fun h => hd ((List.cons_prefix_cons.mp h).1 ▸ List.mem_cons_self)
    rw [substituteFrom_kept hstart, substituteFrom]
  · rintro front behind rfl - hbehind - hbegins
    obtain ⟨e, behind, rfl⟩ := List.exists_cons_of_ne_nil hbehind
    exact hd ((List.cons_prefix_cons.mp hbegins).1 ▸ List.mem_append_right front List.mem_cons_self)

end Vitrine.Text
