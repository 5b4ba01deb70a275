import Vitrine.Json.Quoted
import Vitrine.Json.Reader
import Vitrine.Proofs.Text.Word

/-!
# Reading a literal back (sections 4.5 and 4.6)

A literal is read character by character, and escapes are put back into what they stand for. `Spells` says
which text the characters between the quotes spell.

What `script_safe_json` does to a literal is among the things that do not matter to the text.

* `spells_escape`: the characters that a text is written with spell it; and they still do after each `</` is
  written `<\/` (`Spells.guarded`).
* `readText_of_spells`: a text that holds nothing but a literal is read as what the literal spells.
* `readAll_quotes`: whatever is read as a text has at most two quotes more than the text.
-/

namespace Vitrine.Json

/-! ## Cursors -/

namespace Cursor

theorem next_rest (c : Cursor) : c.next.rest = c.rest.tail := by
  unfold next
  split
  · next h => rw [h, List.tail_nil]
  · next h => rw [h, List.tail_cons]
  · next h => rw [h, List.tail_cons]

theorem skip_rest (c : Cursor) (n : Nat) : (c.skip n).rest = c.rest.drop n := by
  induction n generalizing c with
  | zero => rfl
  | succ n ih => rw [skip, ih, next_rest, List.drop_tail]

/-- Where no blank stands, none is skipped. -/
theorem skipSpace_eq {c : Cursor} (h : ∀ ch ∈ c.rest.head?, isSpace ch = false) : c.skipSpace = c := by
  have hnone : c.rest.takeWhile isSpace = [] := by
    cases hrest : c.rest with
    | nil => rfl
    | cons ch cs => rw [List.takeWhile_cons_of_neg (by simp [h ch (by rw [hrest]; rfl)])]
  rw [skipSpace, hnone, List.length_nil, skip]

end Cursor

/-! ## One character -/

section

variable {c : Cursor} {n : Nat} {read rest : List Char}

theorem stringFrom_quote (h : c.rest = '"' :: rest) : stringFrom (n + 1) read c = .ok (read, c.next) := by
  simp only [stringFrom, h]

theorem stringFrom_plain {ch : Char} (h : c.rest = ch :: rest) (hcontrol : 32 ≤ ch.toNat) (hquote : ch ≠ '"')
    (hslash : ch ≠ '\\') : stringFrom (n + 1) read c = stringFrom n (ch :: read) c.next := by
  simp only [stringFrom, h, if_neg (Nat.not_lt.mpr hcontrol)]

/-- A character behind a backslash. -/
theorem stringFrom_escaped {e ch : Char} (h : c.rest = '\\' :: e :: rest) (he : escapes.lookup e = some ch) :
    stringFrom (n + 1) read c = stringFrom n (ch :: read) (c.skip 2) := by
  have hnext : c.next.rest = e :: rest := by rw [Cursor.next_rest, h, List.tail_cons]
  have hu : e ≠ 'u' := by
    rintro rfl
    have hnone : escapes.lookup 'u' = none := by decide
    exact absurd (hnone.symm.trans he) nofun
  simp only [stringFrom, h, hnext, he]
  rfl

/-- Four digits of which two are zero. -/
theorem hexFour_digits {a b : Nat} (ha : a < 16) (hb : b < 16)
    (h : c.rest = '0' :: '0' :: hexDigit a :: hexDigit b :: rest) :
    hexFour c = .ok (a * 16 + b, c.skip 4) := by
  have hdigit : ∀ d < 16, hexValue? (hexDigit d) = some d ∧ (hexDigit d).utf8Size = 1 := by decide
  have htake : c.rest.take 4 = ['0', '0', hexDigit a, hexDigit b] := by rw [h]; rfl
  have hsize : ['0', '0', hexDigit a, hexDigit b].foldl (fun n ch => n + ch.utf8Size) 0 = 4 := by
    simp only [List.foldl_cons, List.foldl_nil, (hdigit a ha).2, (hdigit b hb).2]
    decide
  have hvalues : ['0', '0', hexDigit a, hexDigit b].mapM hexValue? = some [0, 0, a, b] := by
    have hzero : hexValue? '0' = some 0 := by decide
    simp only [List.mapM_cons, hzero, (hdigit a ha).1, (hdigit b hb).1]
    rfl
  simp only [hexFour, htake, hsize, hvalues, Nat.zero_mul, Nat.zero_add]
  rfl

/-- A control character that is written by its number. -/
theorem stringFrom_numbered {ch : Char} (hch : ch.toNat < 32)
    (h : c.rest = '\\' :: 'u' :: '0' :: '0' :: hexDigit (ch.toNat / 16) :: hexDigit (ch.toNat % 16) :: rest) :
    stringFrom (n + 1) read c = stringFrom n (ch :: read) (c.skip 6) := by
  have hnext : c.next.rest =
      'u' :: '0' :: '0' :: hexDigit (ch.toNat / 16) :: hexDigit (ch.toNat % 16) :: rest := by
    rw [Cursor.next_rest, h, List.tail_cons]
  have hdigits : hexFour c.next.next = .ok (ch.toNat, c.skip 6) := by
    have hrest := c.next.next_rest
    rw [hnext, List.tail_cons] at hrest
    have hvalue : ch.toNat / 16 * 16 + ch.toNat % 16 = ch.toNat := Nat.div_add_mod' _ _
    rw [hexFour_digits (by omega) (by omega) hrest, hvalue]
    rfl
  have hescape : unicodeEscape c.next.next = .ok (ch, c.skip 6) := by
    have hnot : ¬ 0xdc00 ≤ ch.toNat := by omega
    have hlow : ch.toNat < 0xd800 := by omega
    simp [unicodeEscape, hdigits, Except.bind, bind, pure, Except.pure, hnot, hlow]
  simp only [stringFrom, h, hnext, hescape]
  rfl

end

/-! ## What a literal spells -/

/-- The characters between the quotes of a literal, and the text they spell. -/
inductive Spells : List Char → List Char → Prop where
  | nil : Spells [] []
  | plain {ch body s} (hcontrol : 32 ≤ ch.toNat) (hquote : ch ≠ '"') (hslash : ch ≠ '\\')
      (hrest : Spells body s) : Spells (ch :: body) (ch :: s)
  | escaped {e ch body s} (hlookup : escapes.lookup e = some ch) (hrest : Spells body s) :
      Spells ('\\' :: e :: body) (ch :: s)
  | numbered {ch body s} (hcontrol : ch.toNat < 32) (hrest : Spells body s) :
      Spells ('\\' :: 'u' :: '0' :: '0' :: hexDigit (ch.toNat / 16) :: hexDigit (ch.toNat % 16) :: body)
        (ch :: s)

/-- The characters that a text is written with spell it. -/
theorem spells_escape (s : List Char) : Spells (escape s) s := by
  induction s with
  | nil => exact .nil
  | cons c s ih =>
    rw [escape_cons, escapeChar]
    split_ifs with hquote hslash hfeed hreturn htab hback hform hcontrol
    · exact .escaped (by rw [hquote]; decide) ih
    · exact .escaped (by rw [hslash]; decide) ih
    · exact .escaped (by rw [hfeed]; decide) ih
    · exact .escaped (by rw [hreturn]; decide) ih
    · exact .escaped (by rw [htab]; decide) ih
    · have hc : c = '\x08' := Char.toNat_inj.mp hback
      exact .escaped (by rw [hc]; decide) ih
    · have hc : c = '\x0c' := Char.toNat_inj.mp hform
      exact .escaped (by rw [hc]; decide) ih
    · exact .numbered hcontrol ih
    · exact .plain (Nat.le_of_not_lt hcontrol) hquote hslash ih

/-- A literal that starts with a slash is that of a text that does. -/
theorem Spells.of_slash {body s : List Char} (h : Spells ('/' :: body) s) :
    ∃ s', s = '/' :: s' ∧ Spells body s' := by
  cases h with
  | plain _ _ _ hrest => exact ⟨_, rfl, hrest⟩

/-- Each `</` may be written `<\/`. -/
theorem Spells.guarded {body s : List Char} (h : Spells body s) :
    Spells (Text.substituteFrom ['<', '/'] ['<', '\\', '/'] 0 body) s := by
  induction h with
  | nil => exact .nil
  | @plain ch body s hcontrol hquote hslash _ ih =>
    by_cases hstart : ['<', '/'] <+: ch :: body
    · obtain ⟨rest, heq⟩ := hstart
      obtain ⟨rfl, rfl⟩ := List.cons.inj heq
      have hclear : '<' ∉ ['/'] := by decide
      obtain ⟨s, rfl, hrest⟩ := Spells.of_slash (Text.substituteFrom_clear hclear rest ▸ ih)
      rw [← heq, Text.substituteFrom_occurs (List.cons_ne_nil _ _)]
      exact .plain hcontrol hquote hslash (.escaped (by decide) hrest)
    · rw [Text.substituteFrom_kept hstart]
      exact .plain hcontrol hquote hslash ih
  | @escaped e ch body s hlookup _ ih =>
    have hclear : '<' ∉ ['\\', e] := by
      have hnone : escapes.lookup '<' = none := by decide
      have he : '<' ≠ e := by
        rintro rfl
        exact absurd (hnone.symm.trans hlookup) nofun
      simp [he]
    exact (Text.substituteFrom_clear hclear body).symm ▸ .escaped hlookup ih
  | @numbered ch body s hcontrol _ ih =>
    have hclear : '<' ∉ ['\\', 'u', '0', '0', hexDigit (ch.toNat / 16), hexDigit (ch.toNat % 16)] := by
      have hdigit : ∀ d < 16, '<' ≠ hexDigit d := by decide
      have hhigh := hdigit (ch.toNat / 16) (by omega)
      have hlow := hdigit (ch.toNat % 16) (by omega)
      simp [hhigh, hlow]
    exact (Text.substituteFrom_clear hclear body).symm ▸ .numbered hcontrol ih

/-- A literal is read to its quote, and gives what it spells. -/
theorem Spells.stringFrom {body s : List Char} (h : Spells body s) {rest read : List Char} {n : Nat}
    {c : Cursor} (hrest : c.rest = body ++ '"' :: rest) (hn : body.length < n) :
    stringFrom n read c = .ok (s.reverse ++ read, c.skip (body.length + 1)) := by
  induction h generalizing read n c with
  | nil =>
    obtain ⟨n, rfl⟩ := Nat.exists_eq_add_one.mpr hn
    exact stringFrom_quote hrest
  | plain hcontrol hquote hslash _ ih =>
    obtain ⟨n, rfl⟩ := Nat.exists_eq_add_one.mpr (Nat.zero_lt_of_lt hn)
    have hbehind := c.next_rest.trans (congrArg List.tail hrest)
    rw [stringFrom_plain hrest hcontrol hquote hslash, ih hbehind (Nat.lt_of_succ_lt_succ hn),
      List.reverse_cons, List.append_assoc]
    rfl
  | escaped hlookup _ ih =>
    obtain ⟨n, rfl⟩ := Nat.exists_eq_add_one.mpr (Nat.zero_lt_of_lt hn)
    have hbehind := (c.skip_rest 2).trans (congrArg (List.drop 2) hrest)
    simp only [List.length_cons] at hn
    rw [stringFrom_escaped hrest hlookup, ih hbehind (by omega), List.reverse_cons, List.append_assoc]
    rfl
  | numbered hcontrol _ ih =>
    obtain ⟨n, rfl⟩ := Nat.exists_eq_add_one.mpr (Nat.zero_lt_of_lt hn)
    have hbehind := (c.skip_rest 6).trans (congrArg (List.drop 6) hrest)
    simp only [List.length_cons] at hn
    rw [stringFrom_numbered hcontrol hrest, ih hbehind (by omega), List.reverse_cons, List.append_assoc]
    rfl

/-- A literal is read up to its quote, and gives the text that it spells. -/
theorem Spells.string {body s : List Char} (h : Spells body s) {rest : List Char} {c : Cursor}
    (hrest : c.rest = body ++ '"' :: rest) : string c = .ok (String.ofList s, c.skip (body.length + 1)) := by
  have hlength : body.length < c.rest.length + 1 := by
    rw [hrest, List.length_append]
    omega
  rw [Json.string, h.stringFrom hrest hlength, List.append_nil]
  exact congrArg (fun read => Except.ok (String.ofList read, _)) s.reverse_reverse

/-- **A text that holds nothing but a literal is read as what the literal spells.** -/
theorem readText_of_spells {body s : List Char} (h : Spells body s) {text : String}
    (htext : text.toList = '"' :: body ++ ['"']) : readAll readText text = .ok (String.ofList s) := by
  have hstart : (Cursor.ofText text).rest = '"' :: (body ++ ['"']) := htext
  generalize hc : Cursor.ofText text = c at hstart
  have hspace : c.skipSpace = c := Cursor.skipSpace_eq fun ch hch => by
    rw [hstart] at hch
    obtain rfl := Option.some.inj hch
    decide
  have hstring : string c.next = .ok (String.ofList s, c.next.skip (body.length + 1)) :=
    h.string (c.next_rest.trans (congrArg List.tail hstart))
  have hvalue : toValue c = .ok c := by simp [toValue, hspace, hstart]
  have hread : readText c = .ok (String.ofList s, c.skip (body.length + 2)) := by
    simp only [readText, hvalue, Cursor.peek?, hstart, List.head?_cons, hstring, bind, Except.bind]
    rfl
  have hend : (c.skip (body.length + 2)).rest = [] := by
    rw [Cursor.skip_rest, hstart, List.drop_eq_nil_iff, List.length_cons, List.length_append]
    rfl
  have hbehind : (c.skip (body.length + 2)).skipSpace.rest.isEmpty = true := by
    rw [Cursor.skipSpace_eq (by rw [hend]; exact nofun), hend, List.isEmpty_nil]
  simp only [readAll, hc, hread, hbehind, bind, Except.bind, if_true]
  rfl

/-! ## Quotes -/

theorem count_drop_takeWhile (s : List Char) :
    (s.drop (s.takeWhile Cursor.isSpace).length).count '"' = s.count '"' := by
  induction s with
  | nil => rfl
  | cons c s ih =>
    by_cases hspace : Cursor.isSpace c = true
    · have hc : c ≠ '"' := by
        rintro rfl
        exact absurd hspace (by decide)
      rw [List.takeWhile_cons_of_pos hspace, List.length_cons, List.drop_succ_cons, ih,
        List.count_cons_of_ne hc]
    · rw [List.takeWhile_cons_of_neg hspace, List.length_nil, List.drop_zero]

theorem Cursor.count_skipSpace (c : Cursor) : c.skipSpace.rest.count '"' = c.rest.count '"' := by
  rw [skipSpace, skip_rest, count_drop_takeWhile]

/-- One character on, there is one quote less if it was one. -/
theorem Cursor.count_next {c : Cursor} {ch : Char} {cs : List Char} (h : c.rest = ch :: cs) :
    c.rest.count '"' = c.next.rest.count '"' + [ch].count '"' := by
  rw [next_rest, h, List.tail_cons, ← List.singleton_append, List.count_append, Nat.add_comm]

/-- Digits of an escape are no quotes. -/
theorem quote_notMem_hexDigits {s : List Char} {values : List Nat} (h : s.mapM hexValue? = some values) :
    '"' ∉ s := by
  induction s generalizing values with
  | nil => exact List.not_mem_nil
  | cons c s ih =>
    simp only [List.mapM_cons, Option.bind_eq_bind, Option.bind_eq_some_iff] at h
    obtain ⟨value, hc, rest, hrest, -⟩ := h
    have hne : '"' ≠ c := by
      rintro rfl
      have hnone : hexValue? '"' = none := by decide
      exact absurd (hnone.symm.trans hc) nofun
    exact List.not_mem_cons_of_ne_of_not_mem hne (ih hrest)

theorem hexFour_quotes {c c' : Cursor} {n : Nat} (h : hexFour c = .ok (n, c')) :
    c.rest.count '"' = c'.rest.count '"' := by
  simp only [hexFour] at h
  split at h
  · exact absurd h nofun
  · split at h
    · next hdigits =>
      obtain ⟨-, rfl⟩ := Prod.mk.inj (Except.ok.inj h)
      rw [Cursor.skip_rest, ← List.take_append_drop 4 c.rest, List.count_append,
        List.count_eq_zero.mpr (quote_notMem_hexDigits hdigits)]
      simp
    · exact absurd h nofun

theorem unicodeEscape_quotes {c c' : Cursor} {ch : Char} (h : unicodeEscape c = .ok (ch, c')) :
    c.rest.count '"' = c'.rest.count '"' := by
  simp only [unicodeEscape, bind, Except.bind, pure, Except.pure, throw, throwThe, MonadExceptOf.throw] at h
  split at h
  · exact absurd h nofun
  · next v hfour =>
    rw [hexFour_quotes hfour]
    split at h
    · exact absurd h nofun
    · split at h
      · obtain ⟨-, rfl⟩ := Prod.mk.inj (Except.ok.inj h)
        rfl
      · split at h
        · exact absurd h nofun
        · next hrest =>
          split at h
          · exact absurd h nofun
          · next hlow =>
            split at h
            · exact absurd h nofun
            · obtain ⟨-, rfl⟩ := Prod.mk.inj (Except.ok.inj h)
              rw [← hexFour_quotes hlow, Cursor.skip_rest, hrest]
              simp
        all_goals exact absurd h nofun

/-- A letter that stands for a quote is one. -/
theorem count_lookup_escapes {e ch : Char} (h : escapes.lookup e = some ch) :
    [e].count '"' ≤ [ch].count '"' := by
  by_cases he : e = '"'
  · have hquote : escapes.lookup '"' = some '"' := by decide
    rw [he, hquote] at h
    rw [he, ← Option.some.inj h]
  · rw [List.count_cons_of_ne he]
    exact Nat.zero_le _

/-- What one step of the reader does: it stops at a quote, or reads a character, and a quote only as one. -/
theorem stringFrom_step {n : Nat} {read read' : List Char} {c c' : Cursor}
    (h : stringFrom (n + 1) read c = .ok (read', c')) :
    (∃ rest, c.rest = '"' :: rest ∧ read' = read ∧ c' = c.next) ∨
      ∃ ch behind, stringFrom n (ch :: read) behind = .ok (read', c') ∧
        c.rest.count '"' ≤ behind.rest.count '"' + [ch].count '"' := by
  simp only [stringFrom] at h
  split at h
  · exact absurd h nofun
  · next hrest =>
    obtain ⟨rfl, rfl⟩ := Prod.mk.inj (Except.ok.inj h)
    exact Or.inl ⟨_, hrest, rfl, rfl⟩
  · next hrest =>
    have hfirst := Cursor.count_next hrest
    rw [show ['\\'].count '"' = 0 by decide, Nat.add_zero] at hfirst
    split at h
    · exact absurd h nofun
    · next hnext =>
      have hsecond := Cursor.count_next hnext
      rw [show ['u'].count '"' = 0 by decide, Nat.add_zero] at hsecond
      cases hescape : unicodeEscape c.next.next with
      | error e =>
        rw [hescape] at h
        exact absurd h nofun
      | ok v =>
        rw [hescape] at h
        refine Or.inr ⟨_, _, h, ?_⟩
        rw [hfirst, hsecond, unicodeEscape_quotes hescape]
        exact Nat.le_add_right _ _
    · next hnext =>
      split at h
      · next hlookup =>
        refine Or.inr ⟨_, _, h, ?_⟩
        rw [hfirst, Cursor.count_next hnext]
        exact Nat.add_le_add_left (count_lookup_escapes hlookup) _
      · exact absurd h nofun
  · next hrest =>
    split at h
    · exact absurd h nofun
    · exact Or.inr ⟨_, _, h, (Cursor.count_next hrest).le⟩

/-- Each quote but the last is read as one. -/
theorem stringFrom_quotes {n : Nat} {read read' : List Char} {c c' : Cursor}
    (h : stringFrom n read c = .ok (read', c')) :
    c.rest.count '"' + read.count '"' ≤ c'.rest.count '"' + read'.count '"' + 1 := by
  induction n generalizing read c with
  | zero => exact absurd h nofun
  | succ n ih =>
    rcases stringFrom_step h with ⟨rest, hrest, rfl, rfl⟩ | ⟨ch, behind, hbehind, hcount⟩
    · rw [Cursor.count_next hrest]
      exact Nat.le_of_eq (Nat.add_right_comm _ _ _)
    · have hread := ih hbehind
      rw [← List.singleton_append, List.count_append] at hread
      omega

/-- A literal takes two quotes, and those that its text has. -/
theorem readText_quotes {c c' : Cursor} {s : String} (h : readText c = .ok (s, c')) :
    c.rest.count '"' ≤ c'.rest.count '"' + s.toList.count '"' + 2 := by
  simp only [readText, toValue, string, bind, Except.bind, pure, Except.pure] at h
  split at h
  · exact absurd h nofun
  · next value hvalue =>
    split at hvalue
    · exact absurd hvalue nofun
    · obtain rfl := Except.ok.inj hvalue
      split at h
      · next hquote =>
        split at h
        · exact absurd h nofun
        · next v hread =>
          obtain ⟨rfl, rfl⟩ := Prod.mk.inj (Except.ok.inj h)
          obtain ⟨cs, hrest⟩ := List.head?_eq_some_iff.mp hquote
          have hcount := stringFrom_quotes hread
          rw [← Cursor.count_skipSpace, Cursor.count_next hrest, String.toList_ofList, List.count_reverse]
          rw [List.count_nil] at hcount
          have hone : ['"'].count '"' = 1 := by decide
          omega
      · exact absurd h nofun

/-- **A literal has at most two quotes more than its text.** -/
theorem readAll_quotes {text s : String} (h : readAll readText text = .ok s) :
    text.toList.count '"' ≤ s.toList.count '"' + 2 := by
  simp only [readAll, bind, Except.bind, pure, Except.pure] at h
  split at h
  · exact absurd h nofun
  · next v hread =>
    split at h
    · next hend =>
      obtain rfl := Except.ok.inj h
      have hcount := readText_quotes hread
      rw [← v.2.count_skipSpace, List.isEmpty_iff.mp hend, List.count_nil, Nat.zero_add] at hcount
      exact hcount
    · exact absurd h nofun

end Vitrine.Json
