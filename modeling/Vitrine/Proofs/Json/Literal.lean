import Vitrine.Proofs.Json.ReadBack

/-!
# What a literal holds and where it ends (sections 4.4 and 4.6)

A literal is read up to the first quote that no backslash escapes. In a literal that is made of a text that is
the last character: each quote of the text is written behind a backslash that escapes it
(`Spells.inEscape_of_quote`), and no escape is left open in front of the end (`Spells.inEscape_eq_false`). So
nothing in the text ends the literal early, and it stays on its line (`IsLiteral`).

Such literals carry the texts that `script_safe_json` puts into a page, `wrap_stylesheet` into a module and
`normalize_specifiers` into a script.

A character of a literal either stands for itself or belongs to an escape, and escapes are written with few
characters (`escapeMarks`). So a word without them stands in a literal only if it stands in the text that
the literal denotes (`infix_of_infix_quoted`).
-/

namespace Vitrine.Json

/-- Whether the next character is escaped. A backslash escapes the character behind it, unless it is escaped
itself. -/
def inEscape (cs : List Char) : Bool := cs.foldl (fun escaped c => !escaped && c == '\\') false

/-- A literal of a text: in quotes, of which only those two are unescaped, without control characters, and read
as the text. -/
structure IsLiteral (literal value : String) : Prop where
  enclosed : ∃ body, literal.toList = '"' :: body ++ ['"']
  printable : ∀ c ∈ literal.toList, 32 ≤ c.toNat
  unescaped : ∀ front behind, literal.toList = front ++ '"' :: behind →
    (inEscape front = false ↔ front = [] ∨ behind = [])
  read : readAll readText literal = .ok value

variable {unit body front behind s : List Char}

theorem inEscape_append (h : inEscape unit = false) (cs : List Char) :
    inEscape (unit ++ cs) = inEscape cs := by
  rw [inEscape, List.foldl_append]
  exact congrArg (cs.foldl _) h

theorem inEscape_single {c : Char} (h : c ≠ '\\') : inEscape [c] = false := beq_eq_false_iff_ne.mpr h

theorem inEscape_pair (e : Char) : inEscape ['\\', e] = false := rfl

/-- The marks of a character that is written by its number. -/
theorem hexDigit_plain {n : Nat} (h : n < 16) :
    hexDigit n ≠ '"' ∧ hexDigit n ≠ '\\' ∧ 32 ≤ (hexDigit n).toNat :=
  (by decide : ∀ n < 16, hexDigit n ≠ '"' ∧ hexDigit n ≠ '\\' ∧ 32 ≤ (hexDigit n).toNat) n h

theorem inEscape_numbered {a b : Nat} (ha : a < 16) (hb : b < 16) :
    inEscape ['\\', 'u', '0', '0', hexDigit a, hexDigit b] = false := by
  have hunit : ['\\', 'u', '0', '0', hexDigit a, hexDigit b] =
      ['\\', 'u'] ++ (['0'] ++ (['0'] ++ ([hexDigit a] ++ [hexDigit b]))) := rfl
  rw [hunit, inEscape_append (inEscape_pair 'u'), inEscape_append (inEscape_single (by decide)),
    inEscape_append (inEscape_single (by decide)), inEscape_append (inEscape_single (hexDigit_plain ha).2.1),
    inEscape_single (hexDigit_plain hb).2.1]

/-! ## The body of a literal -/

/-- No escape is open at the end. -/
theorem Spells.inEscape_eq_false (h : Spells body s) : inEscape body = false := by
  induction h with
  | nil => rfl
  | @plain ch body s _ _ hslash _ ih => exact (inEscape_append (inEscape_single hslash) body).trans ih
  | @escaped e ch body s _ _ ih => exact (inEscape_append (inEscape_pair e) body).trans ih
  | @numbered ch body s hcontrol _ ih =>
    exact (inEscape_append (inEscape_numbered (by omega) (by omega)) body).trans ih

/-- A quote behind characters that hold none stands in the rest. -/
theorem quote_behind (hunit : '"' ∉ unit) (h : unit ++ body = front ++ '"' :: behind) :
    ∃ front', front = unit ++ front' ∧ body = front' ++ '"' :: behind := by
  rcases List.append_eq_append_iff.mp h with h | ⟨bs, rfl, hbs⟩
  · exact h
  · cases bs with
    | nil => exact ⟨[], by simp, hbs.symm⟩
    | cons b bs =>
      obtain ⟨rfl, -⟩ := List.cons.inj hbs
      exact absurd (List.mem_append_right front List.mem_cons_self) hunit

/-- **Each quote is escaped.** -/
theorem Spells.inEscape_of_quote (h : Spells body s) (hbody : body = front ++ '"' :: behind) :
    inEscape front = true := by
  induction h generalizing front with
  | nil => exact absurd hbody.symm (List.append_ne_nil_of_right_ne_nil _ (List.cons_ne_nil _ _))
  | @plain ch body s _ hquote hslash _ ih =>
    have hunit : '"' ∉ [ch] := fun hmem => hquote (List.mem_singleton.mp hmem).symm
    have hsplit : [ch] ++ body = front ++ '"' :: behind := hbody
    obtain ⟨front', rfl, hrest⟩ := quote_behind hunit hsplit
    rw [inEscape_append (inEscape_single hslash), ih hrest]
  | @escaped e ch body s _ _ ih =>
    match front, hbody with
    | [], hbody => exact absurd (List.cons.inj hbody).1 (by decide)
    | [c], hbody =>
      obtain rfl : '\\' = c := (List.cons.inj hbody).1
      rfl
    | c :: d :: front, hbody =>
      obtain ⟨hc, hbody⟩ := List.cons.inj hbody
      obtain ⟨hd, hrest⟩ := List.cons.inj hbody
      subst hc hd
      exact (inEscape_append (inEscape_pair e) front).trans (ih hrest)
  | @numbered ch body s hcontrol _ ih =>
    have hhigh := hexDigit_plain (n := ch.toNat / 16) (by omega)
    have hlow := hexDigit_plain (n := ch.toNat % 16) (by omega)
    have hunit : '"' ∉ ['\\', 'u', '0', '0', hexDigit (ch.toNat / 16), hexDigit (ch.toNat % 16)] := by
      simp [hhigh.1.symm, hlow.1.symm]
    have hsplit : ['\\', 'u', '0', '0', hexDigit (ch.toNat / 16), hexDigit (ch.toNat % 16)] ++ body =
        front ++ '"' :: behind := hbody
    obtain ⟨front', rfl, hrest⟩ := quote_behind hunit hsplit
    rw [inEscape_append (inEscape_numbered (by omega) (by omega)), ih hrest]

/-- No control character is written. -/
theorem Spells.printable (h : Spells body s) : ∀ c ∈ body, 32 ≤ c.toNat := by
  induction h with
  | nil => exact List.forall_mem_nil _
  | plain hcontrol _ _ _ ih => exact List.forall_mem_cons.mpr ⟨hcontrol, ih⟩
  | @escaped e ch body s hlookup _ ih =>
    obtain ⟨before, after, hescapes, -⟩ := List.lookup_eq_some_iff.mp hlookup
    have he : e ∈ escapes.map (·.1) := by simp [hescapes]
    have hmarks : (escapes.map (·.1)).all (fun e => 32 ≤ e.toNat) = true := by decide
    have hmark : 32 ≤ e.toNat := of_decide_eq_true (List.all_eq_true.mp hmarks e he)
    exact List.forall_mem_cons.mpr ⟨by decide, List.forall_mem_cons.mpr ⟨hmark, ih⟩⟩
  | @numbered ch body s hcontrol _ ih =>
    have hhigh := hexDigit_plain (n := ch.toNat / 16) (by omega)
    have hlow := hexDigit_plain (n := ch.toNat % 16) (by omega)
    simp only [List.forall_mem_cons]
    exact ⟨by decide, by decide, by decide, by decide, hhigh.2.2, hlow.2.2, ih⟩

/-! ## The literal -/

/-- A literal of a text. -/
def Denotes (literal : List Char) (s : String) : Prop :=
  ∃ body, literal = '"' :: body ++ ['"'] ∧ Spells body s.toList

/-- What stands in front of an unescaped quote of a literal, or behind it, is nothing. -/
theorem Spells.unescaped (h : Spells body s) (hliteral : '"' :: body ++ ['"'] = front ++ '"' :: behind) :
    inEscape front = false ↔ front = [] ∨ behind = [] := by
  cases front with
  | nil => exact iff_of_true rfl (.inl rfl)
  | cons c front =>
    obtain ⟨rfl, hbody⟩ : '"' = c ∧ body ++ ['"'] = front ++ '"' :: behind := List.cons.inj hliteral
    rw [show '"' :: front = ['"'] ++ front from rfl, inEscape_append (inEscape_single (by decide))]
    rcases List.eq_nil_or_concat behind with rfl | ⟨behind, c, rfl⟩
    · obtain rfl := List.append_cancel_right hbody
      exact iff_of_true h.inEscape_eq_false (.inr rfl)
    · have hfront : body ++ ['"'] = (front ++ '"' :: behind) ++ [c] := by
        rw [hbody, List.concat_eq_append, List.append_assoc, List.cons_append]
      have hescaped := h.inEscape_of_quote (List.append_inj_left' hfront rfl)
      simp [hescaped]

theorem Denotes.isLiteral {literal value : String} (h : Denotes literal.toList value) :
    IsLiteral literal value := by
  obtain ⟨body, hliteral, hspells⟩ := h
  refine ⟨⟨body, hliteral⟩, ?_, fun front behind hquote => ?_, ?_⟩
  · rw [hliteral, List.cons_append, List.forall_mem_cons, List.forall_mem_append]
    exact ⟨by decide, hspells.printable, List.forall_mem_singleton.mpr (by decide)⟩
  · exact hspells.unescaped (hliteral ▸ hquote)
  · rw [readText_of_spells hspells hliteral, String.ofList_toList]

/-- **What a text is written as is a literal of the text.** -/
theorem isLiteral_quoted (s : String) : IsLiteral (quoted s) s :=
  Denotes.isLiteral ⟨escape s.toList, String.toList_ofList, spells_escape s.toList⟩

/-- No control character stands in a literal. -/
theorem le_of_mem_quoted {s : String} {c : Char} (h : c ∈ (quoted s).toList) : 32 ≤ c.toNat :=
  (isLiteral_quoted s).printable c h

/-! ## Words in a literal -/

/-- The characters that escapes are written with. -/
def escapeMarks : List Char := "\"\\nrtbfu0123456789abcdef".toList

theorem hexDigit_mem {n : Nat} (h : n < 16) : hexDigit n ∈ escapeMarks :=
  (by decide : ∀ n < 16, hexDigit n ∈ escapeMarks) n h

/-- A character stands for itself, or an escape stands for it. -/
theorem escapeChar_cases (c : Char) :
    escapeChar c = [c] ∧ 32 ≤ c.toNat ∨ escapeChar c ⊆ escapeMarks := by
  unfold escapeChar
  -- Seven escapes are fixed texts; the eighth is made of digits.
  iterate 7
    split
    · exact Or.inr (by decide)
  split
  case isTrue hcontrol =>
    refine Or.inr fun d hd => ?_
    simp only [List.mem_cons, List.not_mem_nil, or_false] at hd
    rcases hd with rfl | rfl | rfl | rfl | rfl | rfl
    · decide
    · decide
    · decide
    · decide
    · exact hexDigit_mem (by omega)
    · exact hexDigit_mem (by omega)
  case isFalse hcontrol => exact Or.inl ⟨rfl, Nat.le_of_not_lt hcontrol⟩

theorem escapeChar_ne_nil (c : Char) : escapeChar c ≠ [] := by
  unfold escapeChar
  repeat' split
  all_goals exact List.cons_ne_nil _ _

/-- A quote is written with a quote. -/
theorem count_escape (s : List Char) : s.count '"' ≤ (escape s).count '"' := by
  induction s with
  | nil => exact Nat.le_refl _
  | cons c s ih =>
    rw [escape_cons, List.count_append, ← List.singleton_append, List.count_append]
    refine Nat.add_le_add ?_ ih
    by_cases hc : c = '"'
    · rw [hc]
      decide
    · rw [List.count_cons_of_ne hc]
      exact Nat.zero_le _

variable {w : List Char}

/-- A word without the marks of escapes stands at the start of what is written only if it does in the text. -/
theorem prefix_of_prefix_escape (hw : ∀ m ∈ escapeMarks, m ∉ w) {s : List Char} (h : w <+: escape s) :
    w <+: s := by
  induction s generalizing w with
  | nil => exact h
  | cons c s ih =>
    cases w with
    | nil => exact List.nil_prefix
    | cons d w =>
      obtain ⟨e, es, he⟩ := List.exists_cons_of_ne_nil (escapeChar_ne_nil c)
      rw [escape_cons, he] at h
      have hhead : d = e := (List.cons_prefix_cons.mp h).1
      rcases escapeChar_cases c with ⟨hself, -⟩ | hmarks
      · obtain ⟨rfl, rfl⟩ := List.cons.inj (he.symm.trans hself)
        have htail := (List.cons_prefix_cons.mp h).2
        exact List.cons_prefix_cons.mpr
          ⟨hhead, ih (fun m hm => List.not_mem_of_not_mem_cons (hw m hm)) htail⟩
      · have hmark : e ∈ escapeMarks := hmarks (he ▸ List.mem_cons_self)
        exact absurd (hhead ▸ List.mem_cons_self) (hw e hmark)

/-- No word reaches into an escape whose marks are not in it. -/
theorem infix_of_disjoint {marks rest : List Char} (hne : w ≠ []) (hmarks : ∀ m ∈ marks, m ∉ w)
    (h : w <:+: marks ++ rest) : w <:+: rest := by
  induction marks with
  | nil => exact h
  | cons m marks ih =>
    have hm : m ∉ w := hmarks m List.mem_cons_self
    rcases List.infix_cons_iff.mp h with hbegins | h
    · obtain ⟨d, w, rfl⟩ := List.exists_cons_of_ne_nil hne
      exact absurd ((List.cons_prefix_cons.mp hbegins).1 ▸ List.mem_cons_self) hm
    · exact ih (fun m' hm' => hmarks m' (List.mem_cons_of_mem m hm')) h

theorem infix_of_infix_escape (hne : w ≠ []) (hw : ∀ m ∈ escapeMarks, m ∉ w) {s : List Char}
    (h : w <:+: escape s) : w <:+: s := by
  induction s with
  | nil => exact h
  | cons c s ih =>
    rw [escape_cons] at h
    rcases escapeChar_cases c with ⟨hself, -⟩ | hmarks
    · rw [hself, List.singleton_append] at h
      rcases List.infix_cons_iff.mp h with hbegins | h
      · rw [← List.singleton_append, ← hself, ← escape_cons] at hbegins
        exact (prefix_of_prefix_escape hw hbegins).isInfix
      · exact (ih h).trans (List.suffix_cons c s).isInfix
    · have hrest := infix_of_disjoint hne (fun m hm => hw m (hmarks hm)) h
      exact (ih hrest).trans (List.suffix_cons c s).isInfix

/-- **A word without marks of escapes stands in a literal only if it stands in the text.** -/
theorem infix_of_infix_quoted (hne : w ≠ []) (hw : ∀ m ∈ escapeMarks, m ∉ w) {s : String}
    (h : w <:+: (quoted s).toList) : w <:+: s.toList := by
  have hquote : '"' ∉ w := hw _ (by decide)
  rw [quoted, String.toList_ofList, ← List.nil_append ('"' :: _)] at h
  refine infix_of_infix_escape hne hw ?_
  rcases Text.infix_append_cons hquote h with hnil | hbody
  · exact absurd (List.eq_nil_of_infix_nil hnil) hne
  · rcases Text.infix_append_cons hquote hbody with hbody | hnil
    · exact hbody
    · exact absurd (List.eq_nil_of_infix_nil hnil) hne

/-- A word that is written as it is stands in the literal of each text in which it stands. -/
theorem infix_quoted_of_infix (hw : escape w = w) {s : String} (h : w <:+: s.toList) :
    w <:+: (quoted s).toList := by
  obtain ⟨before, behind, hs⟩ := h
  refine ⟨'"' :: escape before, escape behind ++ ['"'], ?_⟩
  rw [quoted, String.toList_ofList, ← hs, escape_append, escape_append, hw]
  simp

theorem substituteFrom_escape {by_ : List Char} (hne : w ≠ []) (hmarks : ∀ m ∈ escapeMarks, m ∉ w)
    (hw : escape w = w) (hby : escape by_ = by_) (s : List Char) :
    Text.substituteFrom w by_ 0 (escape s) = escape (Text.substituteFrom w by_ 0 s) := by
  induction s using Text.scan_induction hne with
  | nil => rfl
  | occurs rest ih =>
    rw [escape_append, hw, Text.substituteFrom_occurs hne, Text.substituteFrom_occurs hne, escape_append,
      hby, ih]
  | kept c s hstart ih =>
    rw [Text.substituteFrom_kept hstart, escape_cons, escape_cons, ← ih]
    rcases escapeChar_cases c with ⟨hself, -⟩ | hescape
    · have hstart' : ¬ w <+: c :: escape s := fun hbegins => by
        rw [← List.singleton_append, ← hself, ← escape_cons] at hbegins
        exact hstart (prefix_of_prefix_escape hmarks hbegins)
      rw [hself, List.singleton_append, Text.substituteFrom_kept hstart', List.singleton_append]
    · obtain ⟨d, w, rfl⟩ := List.exists_cons_of_ne_nil hne
      exact Text.substituteFrom_clear (fun hmem => hmarks d (hescape hmem) List.mem_cons_self) _

/-- **Words that are written as they are may be replaced in the literal**, or in the text before. -/
theorem substituteFrom_quoted {by_ : List Char} (hne : w ≠ []) (hmarks : ∀ m ∈ escapeMarks, m ∉ w)
    (hw : escape w = w) (hby : escape by_ = by_) (s : String) :
    Text.substituteFrom w by_ 0 (quoted s).toList =
      (quoted (String.ofList (Text.substituteFrom w by_ 0 s.toList))).toList := by
  have hquote : '"' ∉ w := hmarks _ (by decide)
  have hstart : ¬ w <+: '"' :: escape s.toList := fun hbegins => by
    obtain ⟨d, w, rfl⟩ := List.exists_cons_of_ne_nil hne
    exact hquote ((List.cons_prefix_cons.mp hbegins).1 ▸ List.mem_cons_self)
  rw [quoted, quoted, String.toList_ofList, String.toList_ofList, String.toList_ofList, ← List.cons_append,
    Text.substituteFrom_concat hne hquote, Text.substituteFrom_kept hstart,
    substituteFrom_escape hne hmarks hw hby, List.cons_append]

end Vitrine.Json
