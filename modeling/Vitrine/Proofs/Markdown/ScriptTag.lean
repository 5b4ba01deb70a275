import Mathlib.Data.List.Infix
import Vitrine.Markdown.Written

/-!
# Script tags in what is written (section 4.2)

* `HoldsScriptTag`: a script tag as a browser tells one, by its bracket, its name and what ends the name.
* `harmless_of_holds`: raw HTML that holds a script tag is written as text.
* `Sealed`: no script tag starts in a text, whatever stands behind it. Sealed texts in a row are sealed, so
  that no tag comes about where parts of a document meet.
* `Ending`: a text that is sealed only if nothing, or another tag, stands behind it. Such a text is the last
  line of a source that has no line end; the one tag that it may hold is cut by a carriage return in the
  source.

`markdown_to_html` turns raw HTML that `SCRIPT_TAG_RE` matches into text (`namesScript`).
-/

namespace Vitrine.Markdown

/-! ## Tags -/

/-- What stands in a script tag behind its bracket: `script` in any case, and a slash before it if the tag
ends an element. -/
def ScriptName (name : List Char) : Prop :=
  ∃ word : List Char, (name = word ∨ name = '/' :: word) ∧ word.map Char.toLower = "script".toList

/-- Where the name of a tag ends: at a blank, a slash, a bracket, or with the text. -/
def EndsName : List Char → Prop
  | [] => True
  | c :: _ => Text.isBlank c ∨ c = '/' ∨ c = '>'

/-- A text that goes on as a script tag does behind its bracket. -/
def OpensScript (cs : List Char) : Prop :=
  ∃ name rest, cs = name ++ rest ∧ ScriptName name ∧ EndsName rest

/-- A text with a script tag in it. -/
def HoldsScriptTag (cs : List Char) : Prop := ∃ behind, '<' :: behind <:+ cs ∧ OpensScript behind

/-- The name of a tag as the last part of a source, but with a carriage return before its last character. -/
def CutAtEnd (source name : List Char) : Prop :=
  ∃ front last, '<' :: (front ++ ['\r', last]) <:+ source ∧ name = front ++ [last]

/-- The characters that may stand in the name of a script tag. -/
def isNameChar (c : Char) : Bool := c = '/' || "script".toList.contains c.toLower

variable {name cs behind : List Char}

/-- The name of a script tag is written with the characters of `script` and a slash. -/
theorem ScriptName.isNameChar (h : ScriptName name) {c : Char} (hc : c ∈ name) : isNameChar c = true := by
  obtain ⟨word, hname, hword⟩ := h
  have hletter : c ∈ word → "script".toList.contains c.toLower = true := fun hc =>
    List.contains_iff_mem.mpr (hword ▸ List.mem_map_of_mem hc)
  rw [Markdown.isNameChar, Bool.or_eq_true, decide_eq_true_iff]
  rcases hname with rfl | rfl
  · exact .inr (hletter hc)
  · exact (List.mem_cons.mp hc).imp_right hletter

theorem ScriptName.ne_nil (h : ScriptName name) : name ≠ [] := by
  obtain ⟨word, rfl | rfl, hword⟩ := h
  · rintro rfl
    exact absurd hword (by decide)
  · exact List.cons_ne_nil _ _

/-- What goes on as a script tag starts with a character of its name. -/
theorem OpensScript.head {c : Char} (h : OpensScript (c :: cs)) : isNameChar c = true := by
  obtain ⟨name, rest, heq, hname, -⟩ := h
  obtain ⟨d, tail, rfl⟩ := List.exists_cons_of_ne_nil hname.ne_nil
  obtain ⟨rfl, -⟩ := List.cons.inj heq
  exact hname.isNameChar List.mem_cons_self

/-! ## What looks like a tag -/

/-- A word is found whatever the case of its letters. -/
theorem afterWord?_of_toLower (rest : List Char) : ∀ {ws word : List Char}, word.map Char.toLower = ws →
    afterWord? ws (word ++ rest) = some rest
  | _, [], h => h ▸ rfl
  | _, c :: word, h => by
    subst h
    have hletter : isLetter c.toLower c = true := by rw [isLetter, beq_self_eq_true, Bool.true_or]
    rw [List.map_cons, List.cons_append, afterWord?, if_pos hletter]
    exact afterWord?_of_toLower rest rfl

/-- The blanks, by their numbers. -/
def blankNumbers : List Nat :=
  [9, 10, 11, 12, 13, 0x20, 0x85, 0xA0, 0x1680, 0x2000, 0x2001, 0x2002, 0x2003, 0x2004, 0x2005, 0x2006,
    0x2007, 0x2008, 0x2009, 0x200A, 0x2028, 0x2029, 0x202F, 0x205F, 0x3000]

/-- What holds of every blank is checked number by number. -/
theorem forall_blank {P : Char → Prop} (h : ∀ n ∈ blankNumbers, P (Char.ofNat n)) {c : Char}
    (hc : Text.isBlank c = true) : P c := by
  rw [← Char.ofNat_toNat c]
  apply h
  simp only [Text.isBlank, Bool.or_eq_true, Bool.and_eq_true, decide_eq_true_eq] at hc
  simp only [blankNumbers, List.mem_cons, List.not_mem_nil, or_false]
  omega

theorem isWordChar_of_isBlank {c : Char} : Text.isBlank c = true → isWordChar c = false :=
  forall_blank (P := (isWordChar · = false)) (by decide +kernel)

theorem isNameChar_of_isBlank {c : Char} : Text.isBlank c = true → isNameChar c = false :=
  forall_blank (P := (isNameChar · = false)) (by decide)

theorem isWordChar_of_endsName {c : Char} (h : EndsName (c :: cs)) : isWordChar c = false := by
  rcases h with hc | rfl | rfl
  · exact isWordChar_of_isBlank hc
  · decide +kernel
  · decide +kernel

/-- A character of a name is no blank, so none is skipped. -/
theorem dropWhile_isBlank {c : Char} (hc : isNameChar c = true) (cs : List Char) :
    (c :: cs).dropWhile Text.isBlank = c :: cs :=
  List.dropWhile_cons_of_neg fun hblank => absurd (isNameChar_of_isBlank hblank ▸ hc) Bool.false_ne_true

/-- **What goes on as a script tag looks as if it did.** -/
theorem startsScript_of_opens (h : OpensScript cs) : startsScript cs = true := by
  obtain ⟨name, rest, rfl, hname, hrest⟩ := h
  have hchar := fun c => hname.isNameChar (c := c)
  obtain ⟨word, hslash, hword⟩ := hname
  have hafter := afterWord?_of_toLower rest hword
  obtain ⟨w, ws, rfl⟩ : ∃ w ws, word = w :: ws := List.exists_cons_of_ne_nil fun h => by
    subst h
    exact absurd hword (by decide)
  have hbare := dropWhile_isBlank (hchar w (hslash.elim (fun h => h ▸ List.mem_cons_self)
    fun h => h ▸ List.mem_cons_of_mem _ List.mem_cons_self))
  rw [List.cons_append] at hafter
  rcases hslash with rfl | rfl
  · have hne : w ≠ '/' := fun h => absurd (List.cons.inj hword).1 (h ▸ by decide)
    rw [startsScript, List.cons_append, hbare]
    simp only [List.cons.injEq, hne, false_and, imp_false, not_false_eq_true, implies_true, hafter]
    cases rest with
    | nil => rfl
    | cons c rest => exact congrArg Bool.not (isWordChar_of_endsName hrest)
  · rw [startsScript, List.cons_append, dropWhile_isBlank (by decide), List.cons_append]
    simp only [hbare, hafter]
    cases rest with
    | nil => rfl
    | cons c rest => exact congrArg Bool.not (isWordChar_of_endsName hrest)

/-- Where nothing looks like a script tag none starts. -/
theorem not_opens_of_names (h : namesScript cs = false) (hbehind : '<' :: behind <:+ cs) :
    ¬ OpensScript behind := by
  induction cs with
  | nil => exact absurd (List.suffix_nil.mp hbehind) (List.cons_ne_nil _ _)
  | cons c cs ih =>
    rw [namesScript, Bool.or_eq_false_iff, Bool.and_eq_false_iff] at h
    rcases List.suffix_cons_iff.mp hbehind with heq | hbehind
    · obtain ⟨rfl, rfl⟩ := List.cons.inj heq
      intro hopens
      exact absurd (startsScript_of_opens hopens) (h.1.resolve_left (by decide) ▸ Bool.false_ne_true)
    · exact ih h.2 hbehind

/-- Where a text that does not look as if it held a script tag starts one with what stands behind it, the
name of the tag is not at its end yet. -/
theorem unfinished {more : List Char} (h : namesScript cs = false) (hbehind : '<' :: behind <:+ cs)
    (hopens : OpensScript (behind ++ more)) : ∃ c front rest, more = c :: (front ++ rest) ∧
      ScriptName (behind ++ c :: front) ∧ EndsName rest := by
  have hnot := not_opens_of_names h hbehind
  obtain ⟨name, rest, heq, hname, hrest⟩ := hopens
  rcases List.append_eq_append_iff.mp heq with ⟨as, rfl, rfl⟩ | ⟨bs, rfl, rfl⟩
  · cases as with
    | nil =>
      rw [List.append_nil] at hname
      exact absurd ⟨behind, [], (List.append_nil _).symm, hname, trivial⟩ hnot
    | cons c front => exact ⟨c, front, rest, rfl, hname, hrest⟩
  · refine absurd ⟨name, bs, rfl, hname, ?_⟩ hnot
    cases bs with
    | nil => trivial
    | cons c bs => exact hrest

theorem namesScript_of_holds (h : HoldsScriptTag cs) : namesScript cs = true := by
  obtain ⟨behind, hbehind, hopens⟩ := h
  by_contra hnames
  exact not_opens_of_names (Bool.not_eq_true _ ▸ hnames) hbehind hopens

/-- **Raw HTML that holds a script tag is written as text.** -/
theorem harmless_of_holds {html : String} (h : HoldsScriptTag html.toList) :
    harmless html = escapedText html :=
  if_pos (namesScript_of_holds h)

/-! ## Sealed texts -/

/-- No script tag starts in a text if a text with a property stands behind it. -/
def SealedBefore (P : List Char → Prop) (cs : List Char) : Prop :=
  ∀ behind, '<' :: behind <:+ cs → ∀ more, P more → ¬ OpensScript (behind ++ more)

/-- No script tag starts in a text, whatever stands behind it. -/
def Sealed : List Char → Prop := SealedBefore fun _ => True

variable {P : List Char → Prop} {xs ys : List Char}

/-- What starts with a bracket at the end of two texts starts in the second one or in the first. -/
theorem suffix_append_cases (h : '<' :: behind <:+ xs ++ ys) :
    '<' :: behind <:+ ys ∨ ∃ front, behind = front ++ ys ∧ '<' :: front <:+ xs := by
  induction xs with
  | nil => exact .inl h
  | cons x xs ih =>
    rcases List.suffix_cons_iff.mp h with heq | h
    · obtain ⟨rfl, rfl⟩ := List.cons.inj heq
      exact .inr ⟨xs, rfl, List.suffix_refl _⟩
    · exact (ih h).imp_right fun ⟨front, heq, hfront⟩ =>
        ⟨front, heq, List.suffix_cons_iff.mpr (.inr hfront)⟩

theorem eq_nil_of_suffix_singleton {c : Char} (h : '<' :: behind <:+ [c]) : behind = [] :=
  List.eq_nil_of_length_eq_zero (Nat.le_zero.mp (Nat.le_of_succ_le_succ h.length_le))

/-- Two texts in a row are sealed if the first is sealed before the second. -/
theorem SealedBefore.append (hx : SealedBefore (fun more => ∃ m, P m ∧ more = ys ++ m) xs)
    (hy : SealedBefore P ys) : SealedBefore P (xs ++ ys) := by
  intro behind hbehind more hmore
  rcases suffix_append_cases hbehind with hys | ⟨front, rfl, hxs⟩
  · exact hy behind hys more hmore
  · rw [List.append_assoc]
    exact hx front hxs (ys ++ more) ⟨more, hmore, rfl⟩

theorem SealedBefore.mono {Q : List Char → Prop} (h : SealedBefore P cs) (hmono : ∀ more, Q more → P more) :
    SealedBefore Q cs :=
  fun behind hbehind more hmore => h behind hbehind more (hmono more hmore)

theorem Sealed.before (h : Sealed cs) : SealedBefore P cs := SealedBefore.mono h fun _ _ => trivial

theorem Sealed.append (hx : Sealed xs) (hy : Sealed ys) : Sealed (xs ++ ys) :=
  SealedBefore.append hx.before hy

theorem Sealed.not_holds (h : Sealed cs) : ¬ HoldsScriptTag cs := by
  rintro ⟨behind, hbehind, hopens⟩
  exact h behind hbehind [] trivial (by rwa [List.append_nil])

theorem sealed_of_notMem (h : '<' ∉ cs) : Sealed cs := fun _ hbehind =>
  absurd (hbehind.subset List.mem_cons_self) h

/-- Sealed texts in a row are sealed, however many there are. -/
theorem Sealed.flatMap {α : Type} {f : α → List Char} {items : List α} (h : ∀ x ∈ items, Sealed (f x)) :
    Sealed (items.flatMap f) := by
  induction items with
  | nil => exact sealed_of_notMem List.not_mem_nil
  | cons x items ih =>
    exact (h x List.mem_cons_self).append (ih fun y hy => h y (List.mem_cons_of_mem _ hy))

/-- A text that does not look as if it held a script tag is sealed before what starts with no character of a
name. -/
theorem sealedBefore_of_names (h : namesScript cs = false) :
    SealedBefore (fun more => ∀ c ∈ more.head?, isNameChar c = false) cs := by
  intro behind hbehind more hmore hopens
  obtain ⟨c, front, rest, rfl, hname, -⟩ := unfinished h hbehind hopens
  have hc := hname.isNameChar (List.mem_append_right behind List.mem_cons_self)
  exact absurd hc (by rw [hmore c rfl]; decide)

/-- A text that does not look as if it held a script tag is sealed if its last character is neither a
bracket nor in a name. -/
theorem sealed_of_names {c : Char} (h : namesScript (cs ++ [c]) = false) (hc : isNameChar c = false)
    (hne : c ≠ '<') : Sealed (cs ++ [c]) := by
  intro behind hbehind more _ hopens
  obtain ⟨d, front, rest, -, hname, -⟩ := unfinished h hbehind hopens
  have hmem : c ∈ behind := by
    rcases suffix_append_cases hbehind with hlast | ⟨front, rfl, -⟩
    · exact absurd (List.mem_singleton.mp (hlast.subset List.mem_cons_self)).symm hne
    · exact List.mem_append_right _ List.mem_cons_self
  exact absurd (hname.isNameChar (List.mem_append_left _ hmem)) (by rw [hc]; decide)

/-- Whether a text is sealed by its last character. -/
def isClosed (cs : List Char) : Bool :=
  !namesScript cs && cs.getLast?.any fun c => !isNameChar c && c != '<'

theorem sealed_of_isClosed (h : isClosed cs = true) : Sealed cs := by
  simp only [isClosed, Bool.and_eq_true, Option.any_eq_true, Bool.not_eq_true', bne_iff_ne] at h
  obtain ⟨hnames, c, hlast, hc, hne⟩ := h
  obtain ⟨front, rfl⟩ := List.getLast?_eq_some_iff.mp hlast
  exact sealed_of_names hnames hc hne

/-! ## Texts at the end of a source -/

variable {source : List Char}

/-- A text in which no script tag starts before another tag, and none at its end, unless a tag in the source
is cut there. -/
structure Ending (source cs : List Char) : Prop where
  before : SealedBefore (fun more => ∃ m, more = '<' :: m) cs
  atEnd : ∀ behind, '<' :: behind <:+ cs → OpensScript behind → ScriptName behind ∧ CutAtEnd source behind

theorem Sealed.ending (h : Sealed cs) : Ending source cs :=
  ⟨h.before, fun behind hbehind hopens =>
    absurd ((List.append_nil behind).symm ▸ hopens) (h behind hbehind [] trivial)⟩

/-- What is sealed may stand in front of the end of a source. -/
theorem Sealed.append_ending (hx : Sealed xs) (hy : Ending source ys) : Ending source (xs ++ ys) where
  before := SealedBefore.append hx.before hy.before
  atEnd behind hbehind hopens := by
    rcases suffix_append_cases hbehind with hys | ⟨front, rfl, hxs⟩
    · exact hy.atEnd behind hys hopens
    · exact absurd hopens (hx front hxs ys trivial)

/-- Another tag behind it seals the text at the end of a source. -/
theorem Ending.append_sealed (hx : Ending source xs) (hy : Sealed ys) (htag : ∃ m, ys = '<' :: m) :
    Sealed (xs ++ ys) := by
  obtain ⟨tag, rfl⟩ := htag
  exact SealedBefore.append (hx.before.mono fun _ ⟨m, _, hm⟩ => ⟨tag ++ m, hm⟩) hy

/-- A text at the end of a source holds a script tag exactly if it ends with one that the source cuts. -/
theorem Ending.holds_iff (h : Ending source cs) :
    HoldsScriptTag cs ↔ ∃ name, ScriptName name ∧ CutAtEnd source name ∧ '<' :: name <:+ cs := by
  constructor
  · rintro ⟨behind, hbehind, hopens⟩
    obtain ⟨hname, hcut⟩ := h.atEnd behind hbehind hopens
    exact ⟨behind, hname, hcut, hbehind⟩
  · rintro ⟨name, hname, -, hsuffix⟩
    exact ⟨name, hsuffix, name, [], (List.append_nil _).symm, hname, trivial⟩

/-- A text that does not look as if it held a script tag may end a source. -/
theorem ending_of_names (h : namesScript cs = false) : Ending source cs where
  before := (sealedBefore_of_names h).mono fun more ⟨m, hm⟩ c hc => by
    subst hm
    obtain rfl := Option.some.inj hc
    decide
  atEnd behind hbehind hopens := absurd hopens (not_opens_of_names h hbehind)

/-- The last character may be written by itself where a carriage return stood before it in the source. -/
theorem ending_of_cut {last : Char} (h : namesScript cs = false) (hsource : cs ++ ['\r', last] <:+ source) :
    Ending source (cs ++ [last]) where
  before := by
    rintro behind hbehind more ⟨m, rfl⟩ hopens
    rcases suffix_append_cases hbehind with hlast | ⟨front, rfl, hcs⟩
    · obtain rfl := eq_nil_of_suffix_singleton hlast
      exact absurd hopens.head (by decide)
    · rw [List.append_assoc] at hopens
      obtain ⟨c, word, rest, heq, hname, hrest⟩ := unfinished h hcs hopens
      -- The name would have to end before the bracket, which ends no name, or hold it.
      rw [List.singleton_append] at heq
      obtain ⟨rfl, htail⟩ := List.cons.inj heq
      cases word with
      | nil => exact absurd (htail ▸ hrest : EndsName ('<' :: m)) (by simp [EndsName, Text.isBlank])
      | cons d word =>
        obtain ⟨rfl, -⟩ := List.cons.inj htail
        exact absurd (hname.isNameChar (c := '<') (by simp)) (by decide)
  atEnd behind hbehind hopens := by
    rcases suffix_append_cases hbehind with hlast | ⟨front, rfl, hcs⟩
    · obtain rfl := eq_nil_of_suffix_singleton hlast
      obtain ⟨name, rest, heq, hname, -⟩ := hopens
      exact absurd (List.append_eq_nil_iff.mp heq.symm).1 hname.ne_nil
    · obtain ⟨c, word, rest, heq, hname, -⟩ := unfinished h hcs hopens
      obtain ⟨rfl, htail⟩ := List.cons.inj heq
      obtain ⟨rfl, -⟩ := List.append_eq_nil_iff.mp htail.symm
      refine ⟨hname, front, last, ?_, rfl⟩
      obtain ⟨before, rfl⟩ := hcs
      exact (List.suffix_append before _).trans (by rwa [List.append_assoc] at hsource)

end Vitrine.Markdown
