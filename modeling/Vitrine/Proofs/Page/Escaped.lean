import Vitrine.Page.Escaped
import Vitrine.Proofs.Html.Tokens
import Vitrine.Text.Replace

/-!
# Escaped text is read back (section 4.6)

Each of the five characters that mean something in a document has an entity of its own (`entities`), and no
other character is written differently. So putting the characters back for the five entities (`unescaped`)
gives the text, whatever the text is, also one that holds entities itself.

Escaping is `escape_html`, which replaces five characters one after the other.

* `isEscaped_escape`: what escaped text is made of.
* `unescaped_escape`, `decode_escape`: it is read back, by its five entities or by all references of HTML.
* `escaped_in_turn`: replacing the five characters one after the other, the ampersand first, gives the
  same as replacing each by itself.
-/

namespace Vitrine.Page

open Html.Names (capital capitalA capitalB capitalC firstHalf firstHalfA firstHalfB firstHalfC secondHalf
  secondHalfA secondHalfB secondHalfC)
open Text (findSorted?)

/-! ## Entities -/

/-- The characters that are escaped, in the order in which they may be replaced. -/
def entities : List (Char × String) :=
  [('&', "&amp;"), ('<', "&lt;"), ('>', "&gt;"), ('"', "&quot;"), ('\'', "&#039;")]

/-- A text as it is written in a document, character by character. -/
def escape (text : List Char) : List Char := text.flatMap escapedChar

theorem toList_escaped (s : String) : (escaped s).toList = escape s.toList := String.toList_ofList

@[simp]
theorem escape_nil : escape [] = [] := rfl

@[simp]
theorem escape_cons (c : Char) (text : List Char) : escape (c :: text) = escapedChar c ++ escape text :=
  List.flatMap_cons

theorem escape_append (a b : List Char) : escape (a ++ b) = escape a ++ escape b := List.flatMap_append

/-- A character is written as its entity, or it stands for itself. -/
theorem escapedChar_cases (c : Char) :
    (∃ entity, (c, entity) ∈ entities ∧ escapedChar c = entity.toList) ∨
      c ∉ entities.map Prod.fst ∧ escapedChar c = [c] := by
  by_cases hc : c ∈ entities.map Prod.fst
  · left
    simp only [entities, List.map_cons, List.map_nil, List.mem_cons, List.not_mem_nil, or_false] at hc
    rcases hc with rfl | rfl | rfl | rfl | rfl
    · exact ⟨"&amp;", by decide, rfl⟩
    · exact ⟨"&lt;", by decide, rfl⟩
    · exact ⟨"&gt;", by decide, rfl⟩
    · exact ⟨"&quot;", by decide, rfl⟩
    · exact ⟨"&#039;", by decide, rfl⟩
  · right
    refine ⟨hc, ?_⟩
    simp only [entities, List.map_cons, List.map_nil, List.mem_cons, List.not_mem_nil, or_false, not_or] at hc
    obtain ⟨hand, hless, hgreater, hquote, happle⟩ := hc
    simp [escapedChar, hand, hless, hgreater, hquote, happle]

/-! ## What escaped text is made of -/

/-- No quote of either kind and neither end of a tag stands in the text, and each ampersand begins one of the
five entities. -/
structure IsEscaped (raw : List Char) : Prop where
  clear : ∀ c ∈ raw, c ≠ '"' ∧ c ≠ '\'' ∧ c ≠ '<' ∧ c ≠ '>'
  entity : ∀ before behind, raw = before ++ '&' :: behind → ∃ e ∈ entities, e.2.toList <+: '&' :: behind

theorem IsEscaped.append {a b : List Char} (ha : IsEscaped a) (hb : IsEscaped b) : IsEscaped (a ++ b) := by
  refine ⟨List.forall_mem_append.mpr ⟨ha.clear, hb.clear⟩, fun before behind heq => ?_⟩
  rcases List.append_eq_append_iff.mp heq with ⟨middle, rfl, hb'⟩ | ⟨middle, rfl, hbehind⟩
  · exact hb.entity middle behind hb'
  · cases middle with
    | nil => exact hb.entity [] behind hbehind.symm
    | cons d middle =>
      obtain ⟨rfl, rfl⟩ := List.cons.inj hbehind
      obtain ⟨e, he, hprefix⟩ := ha.entity before middle rfl
      exact ⟨e, he, hprefix.trans (List.prefix_append ('&' :: middle) b)⟩

/-- An entity has one ampersand, at its beginning. -/
theorem isEscaped_entity : ∀ e ∈ entities, IsEscaped e.2.toList := by
  intro e he
  have hclear : ∀ e ∈ entities,
      e.2.toList.all (fun c => c ≠ '"' ∧ c ≠ '\'' ∧ c ≠ '<' ∧ c ≠ '>') = true := by decide
  have hfirst : ∀ e ∈ entities, e.2.toList.head? = some '&' ∧ '&' ∉ e.2.toList.tail := by decide
  refine ⟨fun c hc => of_decide_eq_true (List.all_eq_true.mp (hclear e he) c hc), fun before behind heq => ?_⟩
  obtain ⟨hhead, htail⟩ := hfirst e he
  cases before with
  | nil => exact ⟨e, he, heq ▸ List.prefix_rfl⟩
  | cons c before =>
    rw [heq] at htail
    exact absurd (List.mem_append_right before List.mem_cons_self) htail

/-- An escaped text is what it should be: entities, and characters that need none. -/
theorem isEscaped_escape (text : List Char) : IsEscaped (escape text) := by
  induction text with
  | nil => exact ⟨List.forall_mem_nil _, fun _ _ h => by simp at h⟩
  | cons c text ih =>
    rw [escape_cons]
    refine .append ?_ ih
    rcases escapedChar_cases c with ⟨entity, hmem, heq⟩ | ⟨hother, heq⟩
    · exact heq ▸ isEscaped_entity _ hmem
    · rw [heq]
      have hne : ∀ d ∈ entities.map Prod.fst, c ≠ d := fun d hd he => hother (he ▸ hd)
      refine ⟨List.forall_mem_singleton.mpr
        ⟨hne _ (by decide), hne _ (by decide), hne _ (by decide), hne _ (by decide)⟩, fun before behind hc => ?_⟩
      have hand : '&' ∈ [c] := hc ▸ List.mem_append_right before List.mem_cons_self
      exact absurd (List.mem_singleton.mp hand).symm (hne _ (by decide))

/-! ## Reading back -/

/-- The text with the five characters in place of their entities. -/
def unescaped : List Char → List Char
  | '&' :: 'a' :: 'm' :: 'p' :: ';' :: cs => '&' :: unescaped cs
  | '&' :: 'l' :: 't' :: ';' :: cs => '<' :: unescaped cs
  | '&' :: 'g' :: 't' :: ';' :: cs => '>' :: unescaped cs
  | '&' :: 'q' :: 'u' :: 'o' :: 't' :: ';' :: cs => '"' :: unescaped cs
  | '&' :: '#' :: '0' :: '3' :: '9' :: ';' :: cs => '\'' :: unescaped cs
  | c :: cs => c :: unescaped cs
  | [] => []

theorem unescaped_cons {c : Char} (hc : c ≠ '&') (cs : List Char) :
    unescaped (c :: cs) = c :: unescaped cs := by
  rw [unescaped] <;> exact fun _ he => absurd he hc

/-- **Putting the characters back for the entities gives the text.** -/
theorem unescaped_escape (text : List Char) : unescaped (escape text) = text := by
  induction text with
  | nil => rfl
  | cons c text ih =>
    rcases escapedChar_cases c with ⟨entity, hmem, heq⟩ | ⟨hother, heq⟩
    · simp only [entities, List.mem_cons, List.not_mem_nil, or_false, Prod.mk.injEq] at hmem
      rw [escape_cons, heq]
      rcases hmem with ⟨rfl, rfl⟩ | ⟨rfl, rfl⟩ | ⟨rfl, rfl⟩ | ⟨rfl, rfl⟩ | ⟨rfl, rfl⟩ <;>
        exact congrArg (_ :: ·) ih
    · have hc : c ≠ '&' := fun he => hother (he ▸ by decide)
      rw [escape_cons, heq, List.singleton_append, unescaped_cons hc, ih]

/-- Different texts are escaped differently, since each can be read back. -/
theorem escape_injective : Function.Injective escape :=
  Function.LeftInverse.injective unescaped_escape

/-! ### By all references of HTML -/

/-- The tables of names are joined from parts. As lists the parts are joined lazily, so looking a name up
evaluates only what the search reads. -/
theorem capital_eq : capital = (capitalA.toList ++ capitalB.toList ++ capitalC.toList).toArray := by
  rw [← Array.toList_inj]
  simp only [capital, Array.toList_append]

theorem firstHalf_eq : firstHalf = (firstHalfA.toList ++ firstHalfB.toList ++ firstHalfC.toList).toArray := by
  rw [← Array.toList_inj]
  simp only [firstHalf, Array.toList_append]

theorem secondHalf_eq :
    secondHalf = (secondHalfA.toList ++ secondHalfB.toList ++ secondHalfC.toList).toArray := by
  rw [← Array.toList_inj]
  simp only [secondHalf, Array.toList_append]

/-- Names are looked up in three tables, one after the other. -/
theorem names_find?_of_tables {name : String} {n : Nat}
    (h : (findSorted? capital name <|> findSorted? firstHalf name <|> findSorted? secondHalf name) = some n) :
    Html.Names.find? name = some [Char.ofNat n] := by
  -- unfolded below its argument: with it, the kernel would compare the two sides by searching the tables
  generalize hlook : Html.Names.find? = look
  delta Html.Names.find? at hlook
  have hname := congrFun hlook name
  rewrite [h] at hname
  exact hname.symm

/-- Four of the five characters have names. -/
def names : List (List Char × Char) :=
  [(['a', 'm', 'p'], '&'), (['l', 't'], '<'), (['g', 't'], '>'), (['q', 'u', 'o', 't'], '"')]

theorem names_find? : ∀ e ∈ names, Html.Names.find? (String.ofList e.1) = some [e.2] := by
  have htables : ∀ e ∈ names, (findSorted? capital (String.ofList e.1) <|>
      findSorted? firstHalf (String.ofList e.1) <|> findSorted? secondHalf (String.ofList e.1)) =
        some e.2.toNat := by
    rewrite [capital_eq, firstHalf_eq, secondHalf_eq]
    decide +kernel
  intro e he
  rw [names_find?_of_tables (htables e he), Char.ofNat_toNat]

/-- A known name between `&` and `;` is a reference, in text and in attributes. -/
theorem find?_name (inAttribute : Bool) {name out : List Char} (hname : ∀ c ∈ name, c.isAlphanum = true)
    (hfound : Html.Names.find? (String.ofList name) = some out) (rest : List Char) :
    Html.Reference.find? inAttribute (name ++ ';' :: rest) = some (out, name.length + 1) := by
  have hword : (name ++ ';' :: rest).takeWhile Char.isAlphanum = name := by
    rw [List.takeWhile_append_of_pos hname, List.takeWhile_cons_of_neg (by decide), List.append_nil]
  have hnumber : ∀ cs, name ++ ';' :: rest ≠ '#' :: cs := by
    intro cs he
    cases name with
    | nil => cases he
    | cons c name =>
      obtain ⟨rfl, -⟩ := List.cons.inj he
      exact absurd (hname '#' List.mem_cons_self) (by decide)
  rw [Html.Reference.find?]
  · simp [Html.Reference.name?, hword, hfound]
  · exact fun _ he => hnumber _ he
  · exact fun _ he => hnumber _ he
  · exact fun _ he => hnumber _ he

/-- The apostrophe is referred to by its number. -/
theorem find?_apostrophe (inAttribute : Bool) (rest : List Char) :
    Html.Reference.find? inAttribute ('#' :: '0' :: '3' :: '9' :: ';' :: rest) = some (['\''], 5) := rfl

/-- Each entity is a reference to its character. -/
theorem find?_entity (inAttribute : Bool) : ∀ e ∈ entities, ∃ body, e.2.toList = '&' :: body ∧ ∀ rest,
    Html.Reference.find? inAttribute (body ++ rest) = some ([e.1], body.length) := by
  have hnamed : ∀ e ∈ names, ∀ rest, Html.Reference.find? inAttribute (e.1 ++ [';'] ++ rest) =
      some ([e.2], (e.1 ++ [';']).length) := by
    intro e he rest
    have hword : ∀ e ∈ names, e.1.all Char.isAlphanum = true := by decide
    rw [List.append_assoc, List.length_append]
    exact find?_name inAttribute (List.all_eq_true.mp (hword e he)) (names_find? e he) rest
  simp only [names, List.forall_mem_cons] at hnamed
  obtain ⟨hand, hless, hgreater, hquote, -⟩ := hnamed
  simp only [entities, List.forall_mem_cons]
  exact ⟨⟨_, rfl, hand⟩, ⟨_, rfl, hless⟩, ⟨_, rfl, hgreater⟩, ⟨_, rfl, hquote⟩,
    ⟨_, rfl, find?_apostrophe inAttribute⟩, List.forall_mem_nil _⟩

/-- Reading references from a place on is reading those of what stands there. -/
theorem decodeFrom_drop (inAttribute : Bool) (n : Nat) (text : List Char) :
    Html.Reference.decodeFrom inAttribute n text = Html.Reference.decodeFrom inAttribute 0 (text.drop n) := by
  induction text generalizing n with
  | nil => cases n <;> rfl
  | cons c text ih =>
    cases n with
    | zero => rfl
    | succ n => exact ih n

/-- **A reader of HTML puts the characters back**, in text as well as in the values of attributes. -/
theorem decode_escape (inAttribute : Bool) (text : List Char) :
    Html.Reference.decode inAttribute (escape text) = text := by
  induction text with
  | nil => rfl
  | cons c text ih =>
    rw [Html.Reference.decode] at ih ⊢
    rcases escapedChar_cases c with ⟨entity, hmem, heq⟩ | ⟨hother, heq⟩
    · obtain ⟨body, hbody, hfind⟩ := find?_entity inAttribute _ hmem
      rw [escape_cons, heq, hbody, List.cons_append, Html.Reference.decodeFrom, if_pos rfl]
      simp only [hfind]
      rw [decodeFrom_drop, List.drop_left, ih, List.singleton_append]
    · have hc : c ≠ '&' := fun he => hother (he ▸ by decide)
      rw [escape_cons, heq, List.singleton_append, Html.Reference.decodeFrom, if_neg hc, ih]

/-! ### As documents are read

Before a document is read its line ends become line feeds, and a null character in a value is shown by the
replacement character. Neither is a matter of the five characters.
-/

/-- What becomes of a character in the value of an attribute. -/
def seen (text : List Char) : List Char := (Html.lineFeeds text).map Html.Lexer.shown

/-- Escaping does not matter to the ends of lines. -/
theorem lineFeeds_escape (text : List Char) : Html.lineFeeds (escape text) = escape (Html.lineFeeds text) := by
  induction text using Html.lineFeeds.induct with
  | case1 cs ih => exact congrArg ('\n' :: ·) ih
  | case2 cs hcs ih =>
    have hfeed : ∀ rest, escape cs ≠ '\n' :: rest := fun rest he => by
      have hback := unescaped_escape cs
      rw [he, unescaped_cons (by decide)] at hback
      exact hcs (unescaped rest) hback.symm
    change Html.lineFeeds ('\r' :: escape cs) = _
    rw [Html.lineFeeds, Html.lineFeeds, ih]
    · rfl
    · exact hcs
    · exact hfeed
  | case3 c cs _ hc ih =>
    have hclear : '\r' ∉ escapedChar c := by
      have hentities : ∀ e ∈ entities, '\r' ∉ e.2.toList := by decide
      rcases escapedChar_cases c with ⟨entity, hmem, heq⟩ | ⟨-, heq⟩
      · exact heq ▸ hentities _ hmem
      · exact heq ▸ List.mem_singleton.not.mpr fun he => hc he.symm
    have hsingle : '\r' ∉ [c] := List.mem_singleton.not.mpr fun he => hc he.symm
    have hself (text : List Char) : Html.lineFeeds (c :: text) = c :: Html.lineFeeds text :=
      Html.lineFeeds_append hsingle text
    rw [escape_cons, Html.lineFeeds_append hclear, ih, hself, escape_cons]
  | case4 => rfl

theorem shown_escape (text : List Char) :
    (escape text).map Html.Lexer.shown = escape (text.map Html.Lexer.shown) := by
  have hchar (c : Char) : (escapedChar c).map Html.Lexer.shown = escapedChar (Html.Lexer.shown c) := by
    have hentities : ∀ e ∈ entities, e.2.toList.map Html.Lexer.shown = e.2.toList ∧ Html.Lexer.shown e.1 = e.1 := by
      decide
    rcases escapedChar_cases c with ⟨entity, hmem, heq⟩ | ⟨-, heq⟩
    · rw [heq, (hentities _ hmem).1, (hentities _ hmem).2, heq]
    · by_cases hc : c = '\x00'
      · subst hc
        rfl
      · rw [Html.Lexer.shown, if_neg hc, heq, List.map_singleton, Html.Lexer.shown, if_neg hc]
  induction text with
  | nil => rfl
  | cons c text ih => rw [escape_cons, List.map_append, ih, hchar, List.map_cons, escape_cons]

/-- The value of an attribute is read back as it is seen. -/
theorem attributeRead_escape (name text : List Char) :
    Html.Lexer.attributeRead (name, Html.lineFeeds (escape text)) =
      ⟨.plain, String.ofList name, String.ofList (seen text)⟩ := by
  rw [Html.Lexer.attributeRead, lineFeeds_escape, shown_escape, decode_escape, seen]

/-! ## One character after the other -/

/-- Replaces the characters of a list by their entities, one after the other. -/
def escapedInTurn (replaced : List (Char × String)) (s : String) : String :=
  replaced.foldl (fun s e => Text.substitute (String.singleton e.1) e.2 s) s

/-- A character by the entity that a list gives it. -/
def entityOf (replaced : List (Char × String)) (c : Char) : List Char :=
  ((replaced.lookup c).map String.toList).getD [c]

/-- The first entity for a character is the one that counts. -/
theorem entityOf_cons (c d : Char) (entity : String) (replaced : List (Char × String)) :
    entityOf ((c, entity) :: replaced) d = if d = c then entity.toList else entityOf replaced d := by
  by_cases hd : d = c
  · simp [entityOf, hd]
  · simp [entityOf, List.lookup_cons, beq_false_of_ne hd, hd]

theorem entityOf_other {replaced : List (Char × String)} {c : Char} (h : ∀ e ∈ replaced, e.1 ≠ c) :
    entityOf replaced c = [c] := by
  induction replaced with
  | nil => rfl
  | cons e replaced ih =>
    rw [List.forall_mem_cons] at h
    rw [entityOf_cons, if_neg (Ne.symm h.1), ih h.2]

theorem escapedChar_eq (c : Char) : escapedChar c = entityOf entities c := by
  simp only [entities, entityOf_cons]
  rfl

/-- Replacing one character is a map over the characters. -/
theorem substituteFrom_singleton (c : Char) (by_ text : List Char) :
    Text.substituteFrom [c] by_ 0 text = text.flatMap fun d => if d = c then by_ else [d] := by
  induction text with
  | nil => rfl
  | cons d text ih =>
    rw [List.flatMap_cons, ← ih]
    by_cases hd : d = c
    · subst hd
      simp [Text.substituteFrom, Text.afterStart?]
    · simp [Text.substituteFrom, Text.afterStart?, hd, Ne.symm hd]

/-- If no entity holds a character that is looked for later, the replacements do not meet each other. -/
theorem toList_escapedInTurn {replaced : List (Char × String)}
    (h : replaced.Pairwise fun earlier later => later.1 ∉ earlier.2.toList) (s : String) :
    (escapedInTurn replaced s).toList = s.toList.flatMap (entityOf replaced) := by
  induction replaced generalizing s with
  | nil => exact (List.flatMap_singleton' s.toList).symm
  | cons e replaced ih =>
    rw [List.pairwise_cons] at h
    have hkept : e.2.toList.flatMap (entityOf replaced) = e.2.toList := by
      conv_rhs => rw [← List.flatMap_singleton' e.2.toList]
      refine List.flatMap_congr fun c hc => entityOf_other fun later hlater he => ?_
      exact h.1 later hlater (he ▸ hc)
    calc (escapedInTurn (e :: replaced) s).toList
        = (escapedInTurn replaced (Text.substitute (String.singleton e.1) e.2 s)).toList := rfl
      _ = (s.toList.flatMap fun c => if c = e.1 then e.2.toList else [c]).flatMap (entityOf replaced) := by
          rw [ih h.2, Text.substitute, String.toList_ofList, String.toList_singleton, substituteFrom_singleton]
      _ = s.toList.flatMap (entityOf (e :: replaced)) := by
          rw [List.flatMap_assoc]
          refine List.flatMap_congr fun c _ => ?_
          rw [entityOf_cons]
          split
          · exact hkept
          · exact List.flatMap_singleton (entityOf replaced) c

/-- **Replacing the five characters one after the other is escaping**: the ampersand comes first, so no
replacement finds the character it looks for in an entity that stands there already. -/
theorem escaped_in_turn (s : String) : escaped s = escapedInTurn entities s := by
  have hclear : entities.Pairwise fun earlier later => later.1 ∉ earlier.2.toList := by decide
  rw [← String.toList_inj, toList_escaped, toList_escapedInTurn hclear]
  exact List.flatMap_congr fun c _ => escapedChar_eq c

end Vitrine.Page
