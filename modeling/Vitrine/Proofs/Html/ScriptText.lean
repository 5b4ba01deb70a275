import Mathlib
import Vitrine.Html.Parse

/-!
# Where the text of a script ends (section 4.6)

The text of a script runs up to the first end tag, except that an end tag does not count inside a `<script`
inside a comment. The reader keeps track of this in phases, a character at a time. What the phases mean can
be said of the text alone:

`script_safe_json` breaks up each `</` of a text that goes into a script, and that is enough for the end tag. It
leaves `<!--` and `<script` as they are; what those do is said here.

* `nested_iff`: behind a text without end tags the reader is inside a nested script exactly if the text
  hides an end tag (`HidesEnd`): it opens a comment that it does not close, and in it opens a script.
* `scriptText_closing_iff`: so a text without end tags is read as the content of its element, whatever
  stands behind that, exactly if it does not hide the end tag of the element; and in no case does the
  element end before its text (`prefix_scriptText`).
-/

namespace Vitrine.Html.Lexer

/-! ## End tags -/

/-- The end tag of a script. -/
def scriptEnd : List Char := "</script>".toList

/-- Somewhere in the text stands `</script`, in any case of its letters. -/
def HasEndTag (text : List Char) : Prop :=
  ∃ w, w <:+: text ∧ Text.lowerAscii w = "</script".toList

/-- An end tag in a part is one in the whole. -/
theorem HasEndTag.mono {text text' : List Char} (h : HasEndTag text) (hoccurs : text <:+: text') :
    HasEndTag text' := by
  obtain ⟨w, hw, hlower⟩ := h
  exact ⟨w, hw.trans hoccurs, hlower⟩

/-- An end tag begins with `</`. -/
theorem HasEndTag.slash {text : List Char} (h : HasEndTag text) : "</".toList <:+: text := by
  obtain ⟨w, hw, hlower⟩ := h
  obtain ⟨c, w, rfl, hc, hlower⟩ := List.map_eq_cons_iff.mp hlower
  obtain ⟨d, w, rfl, hd, -⟩ := List.map_eq_cons_iff.mp hlower
  obtain rfl : c = '<' := (Text.toLower_eq_iff (by decide)).mp hc
  obtain rfl : d = '/' := (Text.toLower_eq_iff (by decide)).mp hd
  exact (List.prefix_append ['<', '/'] w).isInfix.trans hw

theorem HasEndTag.lowered {text : List Char} (h : HasEndTag text) :
    "</script".toList <:+: Text.lowerAscii text := by
  obtain ⟨w, hw, hlower⟩ := h
  exact hlower ▸ hw.map Char.toLower

/-- What is read as an end tag in front of the end tag of a script stands in the text already. -/
theorem hasEndTag_of_endsRaw {text rest : List Char}
    (h : endsRaw "script".toList (text ++ scriptEnd ++ rest) = true) : HasEndTag ('<' :: text) := by
  cases text with
  | nil => exact absurd h nofun
  | cons c text =>
    have hc : c = '/' := by
      by_contra hc
      rw [List.cons_append, List.cons_append, endsRaw] at h
      · exact absurd h nofun
      · exact fun _ he => hc (List.cons.inj he).1
    subst hc
    rw [List.cons_append, List.cons_append, endsRaw, Bool.and_eq_true, beq_iff_eq] at h
    have hname : Text.lowerAscii ((text ++ scriptEnd ++ rest).take 6) = "script".toList := h.1
    have hlength : 6 ≤ text.length := by
      -- A shorter text would have the `<` of the end tag among its next six characters.
      by_contra hshort
      have hmem : '<' ∈ (text ++ scriptEnd ++ rest).take 6 := by
        rw [List.append_assoc, List.take_append, List.mem_append]
        obtain ⟨n, hn⟩ := Nat.exists_eq_add_of_lt (Nat.lt_of_not_le hshort)
        rw [show 6 - text.length = n + 1 by omega]
        exact Or.inr List.mem_cons_self
      have hlower : '<' ∈ Text.lowerAscii ((text ++ scriptEnd ++ rest).take 6) :=
        List.mem_map.mpr ⟨'<', hmem, by decide⟩
      rw [hname] at hlower
      exact absurd hlower (by decide)
    rw [List.append_assoc, List.take_append_of_le_length hlength] at hname
    refine ⟨'<' :: '/' :: text.take 6, ?_, congrArg ('<' :: '/' :: ·) hname⟩
    have hbegins : '<' :: '/' :: text.take 6 <+: '<' :: '/' :: text :=
      List.cons_prefix_cons.mpr ⟨rfl, List.cons_prefix_cons.mpr ⟨rfl, List.take_prefix 6 text⟩⟩
    exact hbegins.isInfix

/-! ## Reading on -/

/-- The phase behind a text. -/
def ScriptPhase.behind (p : ScriptPhase) (text : List Char) : ScriptPhase := text.foldl step p

/-- How deep the reader is. -/
def ScriptPhase.depth : ScriptPhase → Depth
  | .text depth | .less depth | .dash depth | .dashes depth => depth
  | .opening | .openingDash => .plain
  | .word leaves _ => if leaves then .nested else .comment

/-- An end tag counts unless the reader is inside a nested script. -/
theorem ScriptPhase.canEnd_iff (p : ScriptPhase) : p.canEnd = true ↔ p.depth ≠ .nested := by
  cases p with
  | text depth => cases depth <;> decide
  | less depth => cases depth <;> decide
  | opening => decide
  | openingDash => decide
  | dash depth => cases depth <;> decide
  | dashes depth => cases depth <;> decide
  | word leaves letters => cases leaves <;> simp [canEnd, depth]

/-- **The element does not end inside a text without end tags.** -/
theorem scriptText_append {body : List Char} (hbody : ¬ HasEndTag body) (p : ScriptPhase)
    (rest : List Char) :
    scriptText p (body ++ scriptEnd ++ rest) =
      (body.map shown ++ (scriptText (p.behind body) (scriptEnd ++ rest)).1,
        (scriptText (p.behind body) (scriptEnd ++ rest)).2) := by
  induction body generalizing p with
  | nil => rfl
  | cons c body ih =>
    have hbody' : ¬ HasEndTag body := fun h => hbody (h.mono (List.suffix_cons c body).isInfix)
    have hstay : ¬ (c = '<' && p.canEnd && endsRaw "script".toList (body ++ scriptEnd ++ rest)) = true := by
      rw [Bool.and_eq_true, Bool.and_eq_true, decide_eq_true_eq]
      rintro ⟨⟨rfl, -⟩, hend⟩
      exact hbody (hasEndTag_of_endsRaw hend)
    rw [List.cons_append, List.cons_append, scriptText, if_neg hstay, ih hbody']
    rfl

/-- At the end tag the element ends, unless the reader is inside a nested script. -/
theorem scriptText_scriptEnd (p : ScriptPhase) (rest : List Char) :
    scriptText p (scriptEnd ++ rest) = ([], scriptEnd ++ rest) ↔ p.depth ≠ .nested := by
  rw [← ScriptPhase.canEnd_iff]
  have hend : endsRaw "script".toList ("/script>".toList ++ rest) = true := by
    rw [show "/script>".toList ++ rest = '/' :: ("script>".toList ++ rest) from rfl, endsRaw]
    rfl
  show scriptText p ('<' :: ("/script>".toList ++ rest)) = _ ↔ _
  rw [scriptText, hend]
  cases hp : p.canEnd with
  | true =>
    simp only [decide_true, Bool.and_self, if_true]
    exact iff_of_true rfl trivial
  | false => simp

/-! ## Comments and scripts in the text -/

/-- The text opens a comment that it does not close. The dashes that open a comment may be those that
close it. -/
def InComment (text : List Char) : Prop :=
  ∃ u v, text = u ++ "<!--".toList ++ v ∧ ¬ "-->".toList <:+: "--".toList ++ v

/-- The text ends in `<script`, in any case of its letters. -/
def OpensScript (text : List Char) : Prop :=
  ∃ name, '<' :: name <:+ text ∧ Text.lowerAscii name = "script".toList

/-- What the name of a tag ends with. -/
def endsName (c : Char) : Bool := isSpace c || c = '/' || c = '>'

/-- In a comment the text opens a script, and it does not close the comment behind that. -/
def HidesEnd (text : List Char) : Prop :=
  ∃ u c v, text = u ++ c :: v ∧ InComment u ∧ OpensScript u ∧ endsName c ∧ ¬ "-->".toList <:+: v

theorem endsName_not_alpha {c : Char} (h : endsName c = true) : c.isAlpha = false := by
  simp only [endsName, isSpace, Bool.or_eq_true, decide_eq_true_eq] at h
  rcases h with (((((rfl | rfl) | rfl) | rfl) | rfl) | rfl) <;> decide

/-- The two dashes in front of a `>` that closes a comment stand behind the `<!` that opens it. -/
theorem dashes_suffix_iff {u v : List Char} :
    "--".toList <:+ u ++ "<!--".toList ++ v ↔ "--".toList <:+ "--".toList ++ v := by
  have hbehind : "--".toList ++ v <:+ u ++ "<!--".toList ++ v := ⟨u ++ "<!".toList, by simp⟩
  exact ⟨fun h => List.suffix_of_suffix_length_le h hbehind (by simp), fun h => h.trans hbehind⟩

/-- One character more closes a comment if it is the bracket behind two dashes. -/
theorem closes_concat_iff {v : List Char} {c : Char} :
    "-->".toList <:+: v ++ [c] ↔ c = '>' ∧ "--".toList <:+ v ∨ "-->".toList <:+: v := by
  have hsuffix : "-->".toList <:+ v ++ [c] ↔ c = '>' ∧ "--".toList <:+ v := by
    have hdashes : "--".toList <:+ v ↔ "--".toList.reverse <+: v.reverse := List.reverse_prefix.symm
    rw [← List.reverse_prefix, List.reverse_append, hdashes]
    exact List.cons_prefix_cons.trans (and_congr_left' eq_comm)
  rw [List.infix_concat_iff, hsuffix]

/-- A character closes a comment, or it opens one. -/
theorem inComment_concat {text : List Char} {c : Char} :
    InComment (text ++ [c]) ↔
      InComment text ∧ ¬ (c = '>' ∧ "--".toList <:+ text) ∨ c = '-' ∧ "<!-".toList <:+ text := by
  constructor
  · rintro ⟨u, v, htext, hopen⟩
    rcases List.eq_nil_or_concat v with rfl | ⟨v, d, rfl⟩
    · have hdash : text ++ [c] = (u ++ "<!-".toList) ++ ['-'] := by simpa using htext
      obtain ⟨rfl, hc⟩ := List.append_inj' hdash rfl
      exact Or.inr ⟨by simpa using hc, u, rfl⟩
    · rw [List.concat_eq_append, ← List.append_assoc] at htext hopen
      obtain ⟨rfl, hc⟩ := List.append_inj' htext rfl
      obtain rfl : c = d := by simpa using hc
      rw [closes_concat_iff, not_or] at hopen
      exact Or.inl ⟨⟨u, v, rfl, hopen.2⟩, by rw [dashes_suffix_iff]; exact hopen.1⟩
  · rintro (⟨⟨u, v, rfl, hopen⟩, hc⟩ | ⟨rfl, u, rfl⟩)
    · refine ⟨u, v ++ [c], by simp, ?_⟩
      rw [← List.append_assoc, closes_concat_iff, ← dashes_suffix_iff (u := u)]
      exact not_or.mpr ⟨hc, hopen⟩
    · exact ⟨u, [], by simp, by decide⟩

/-- What ends a name is no dash, so the dashes at the end stand behind it. -/
theorem dashes_behind_name {u v : List Char} {d : Char} (hd : endsName d = true)
    (h : "--".toList <:+ u ++ d :: v) : "--".toList <:+ v := by
  have hbehind : v <:+ u ++ d :: v := ⟨u ++ [d], by simp⟩
  refine List.suffix_of_suffix_length_le h hbehind (Nat.le_of_not_lt fun hshort => ?_)
  have hin : d :: v <:+ "--".toList := List.suffix_of_suffix_length_le ⟨u, rfl⟩ h hshort
  have hdash : d = '-' := by simpa using hin.subset List.mem_cons_self
  exact absurd (hdash ▸ hd) (by decide)

/-- A character opens a script in a comment, or it closes the comment around one. -/
theorem hidesEnd_concat {text : List Char} {c : Char} :
    HidesEnd (text ++ [c]) ↔
      HidesEnd text ∧ ¬ (c = '>' ∧ "--".toList <:+ text)
        ∨ InComment text ∧ OpensScript text ∧ endsName c := by
  constructor
  · rintro ⟨u, d, v, htext, hin, hopens, hd, hopen⟩
    rcases List.eq_nil_or_concat v with rfl | ⟨v, e, rfl⟩
    · obtain ⟨rfl, hc⟩ := List.append_inj' htext rfl
      obtain rfl : c = d := by simpa using hc
      exact Or.inr ⟨hin, hopens, hd⟩
    · rw [List.concat_eq_append] at htext hopen
      rw [← List.cons_append, ← List.append_assoc] at htext
      obtain ⟨rfl, hc⟩ := List.append_inj' htext rfl
      obtain rfl : c = e := by simpa using hc
      rw [closes_concat_iff, not_or] at hopen
      exact Or.inl ⟨⟨u, d, v, rfl, hin, hopens, hd, hopen.2⟩,
        fun ⟨hc, hdashes⟩ => hopen.1 ⟨hc, dashes_behind_name hd hdashes⟩⟩
  · rintro (⟨⟨u, d, v, rfl, hin, hopens, hd, hopen⟩, hc⟩ | ⟨hin, hopens, hc⟩)
    · refine ⟨u, d, v ++ [c], by simp, hin, hopens, hd, ?_⟩
      rw [closes_concat_iff]
      refine not_or.mpr ⟨fun ⟨he, hdashes⟩ => hc ⟨he, ?_⟩, hopen⟩
      exact hdashes.trans ⟨u ++ [d], by simp⟩
    · exact ⟨text, c, [], rfl, hin, hopens, hc, by decide⟩

/-! ## What a phase says of the text

The text that was read so far is kept with its last character first. -/

/-- Behind `mark` the text ends in a word, whose letters are kept lowered. -/
def EndsInWord (mark letters read : List Char) : Prop :=
  Text.lowerAscii (read.takeWhile Char.isAlpha) = letters ∧ mark <+: read.dropWhile Char.isAlpha

theorem endsInWord_cons {mark letters read : List Char} {c : Char} (hc : c.isAlpha = true)
    (h : EndsInWord mark letters read) : EndsInWord mark (c.toLower :: letters) (c :: read) := by
  rw [EndsInWord, List.takeWhile_cons_of_pos hc, List.dropWhile_cons_of_pos hc]
  exact ⟨congrArg (c.toLower :: ·) h.1, h.2⟩

theorem endsInWord_nil {mark read : List Char} {c : Char} (hc : c.isAlpha = false)
    (h : mark <+: c :: read) : EndsInWord mark [] (c :: read) := by
  rw [EndsInWord, List.takeWhile_cons_of_neg (by simp [hc]), List.dropWhile_cons_of_neg (by simp [hc])]
  exact ⟨rfl, h⟩

/-- A word is read back from the end of the text. -/
theorem EndsInWord.exists_name {mark letters read : List Char} (h : EndsInWord mark letters read) :
    ∃ name, mark.reverse ++ name <:+ read.reverse ∧ Text.lowerAscii name = letters.reverse := by
  obtain ⟨rest, hrest⟩ := h.2
  refine ⟨(read.takeWhile Char.isAlpha).reverse, ?_, ?_⟩
  · rw [← List.reverse_append, List.reverse_suffix]
    refine ⟨rest, ?_⟩
    rw [List.append_assoc, hrest, List.takeWhile_append_dropWhile]
  · rw [← h.1, Text.lowerAscii, Text.lowerAscii, List.map_reverse]

/-- A script is opened where its word ends a text. -/
theorem opensScript_reverse {read : List Char} :
    OpensScript read.reverse ↔ EndsInWord ['<'] "script".toList.reverse read := by
  constructor
  · rintro ⟨name, hsuffix, hlower⟩
    have halpha : ∀ c ∈ name.reverse, c.isAlpha = true := by
      intro c hc
      have hmem : c.toLower ∈ Text.lowerAscii name := List.mem_map_of_mem (List.mem_reverse.mp hc)
      have hscript : ∀ d ∈ "script".toList, d.isAlpha = true := List.all_eq_true.mp (by decide)
      rw [← Char.isAlpha_toLower_eq_isAlpha]
      exact hscript _ (hlower ▸ hmem)
    rw [← List.reverse_prefix, List.reverse_reverse, List.reverse_cons] at hsuffix
    obtain ⟨rest, rfl⟩ := hsuffix
    rw [EndsInWord, List.append_assoc, List.takeWhile_append_of_pos halpha,
      List.dropWhile_append_of_pos halpha]
    refine ⟨?_, by simp⟩
    rw [← hlower, Text.lowerAscii, Text.lowerAscii, ← List.map_reverse]
    simp
  · intro h
    obtain ⟨name, hsuffix, hlower⟩ := h.exists_name
    exact ⟨name, hsuffix, by rw [hlower, List.reverse_reverse]⟩

/-- How deep in comment and nested script a text ends. -/
def EndsAt (read : List Char) : Depth → Prop
  | .plain => ¬ InComment read.reverse ∧ ¬ HidesEnd read.reverse
  | .comment => InComment read.reverse ∧ ¬ HidesEnd read.reverse
  | .nested => HidesEnd read.reverse

/-- What a phase says of the last characters of the text. -/
def EndsIn (read : List Char) : ScriptPhase → Prop
  | .text .plain => ¬ ['<'] <+: read ∧ ¬ ['!', '<'] <+: read ∧ ¬ ['-', '!', '<'] <+: read
  | .text .comment => ¬ ['-'] <+: read ∧ ¬ ['<'] <+: read.dropWhile Char.isAlpha
  | .text .nested => ¬ ['-'] <+: read
  | .less _ => ['<'] <+: read
  | .opening => ['!', '<'] <+: read
  | .openingDash => ['-', '!', '<'] <+: read
  | .dash depth => depth ≠ .plain ∧ ['-'] <+: read ∧ ¬ ['-', '-'] <+: read
  | .dashes depth => depth ≠ .plain ∧ ['-', '-'] <+: read
  | .word leaves letters => EndsInWord (if leaves then ['/', '<'] else ['<']) letters read

/-- The phase that is right behind a text. -/
structure Follows (read : List Char) (p : ScriptPhase) : Prop where
  depth : EndsAt read p.depth
  last : EndsIn read p

section

variable {read : List Char} {c : Char}

/-- One character more leaves a comment, or opens one. -/
theorem inComment_cons :
    InComment (c :: read).reverse ↔
      InComment read.reverse ∧ ¬ (c = '>' ∧ ['-', '-'] <+: read)
        ∨ c = '-' ∧ ['-', '!', '<'] <+: read := by
  rw [List.reverse_cons, inComment_concat, ← List.reverse_suffix, ← List.reverse_suffix]
  rfl

/-- One character more ends a nested script, or completes the word of one. -/
theorem hidesEnd_cons :
    HidesEnd (c :: read).reverse ↔
      HidesEnd read.reverse ∧ ¬ (c = '>' ∧ ['-', '-'] <+: read)
        ∨ InComment read.reverse ∧ EndsInWord ['<'] "script".toList.reverse read ∧ endsName c := by
  rw [List.reverse_cons, hidesEnd_concat, ← List.reverse_suffix, opensScript_reverse]
  rfl

theorem EndsAt.plain_cons (h : EndsAt read .plain) (hc : ¬ (c = '-' ∧ ['-', '!', '<'] <+: read)) :
    EndsAt (c :: read) .plain := by
  constructor
  · rw [inComment_cons]
    simp [h.1, hc]
  · rw [hidesEnd_cons]
    simp [h.1, h.2]

theorem EndsAt.comment_cons (h : EndsAt read .comment) (hc : ¬ (c = '>' ∧ ['-', '-'] <+: read))
    (hword : endsName c → ¬ EndsInWord ['<'] "script".toList.reverse read) :
    EndsAt (c :: read) .comment := by
  constructor
  · rw [inComment_cons]
    exact Or.inl ⟨h.1, hc⟩
  · rw [hidesEnd_cons]
    rintro (⟨hhides, -⟩ | ⟨-, hscript, hname⟩)
    · exact h.2 hhides
    · exact hword hname hscript

theorem EndsAt.nested_cons (h : EndsAt read .nested) (hc : ¬ (c = '>' ∧ ['-', '-'] <+: read)) :
    EndsAt (c :: read) .nested :=
  hidesEnd_cons.mpr (Or.inl ⟨h, hc⟩)

/-- No word ends in a character that is no letter. -/
theorem not_endsInWord {mark letters : List Char} {d : Char} (hd : d.isAlpha = false)
    (hmark : ¬ mark <+: d :: read) : ¬ EndsInWord mark letters (d :: read) := by
  rw [EndsInWord, List.dropWhile_cons_of_neg (by simp [hd])]
  exact fun h => hmark h.2

/-- Two dashes and a `>` close the comment, and the scripts in it with it. -/
theorem endsAt_closed (hdashes : ['-', '-'] <+: read) : EndsAt ('>' :: read) .plain := by
  constructor
  · rw [inComment_cons]
    simp [hdashes]
  · rw [hidesEnd_cons]
    obtain ⟨rest, rfl⟩ := hdashes
    rintro (⟨-, hopen⟩ | ⟨-, hscript, -⟩)
    · exact hopen ⟨rfl, rest, rfl⟩
    · exact not_endsInWord (by decide) (by simp) hscript

/-- The end of the name in `<script` opens a script. -/
theorem endsAt_opened (h : EndsAt read .comment) (hc : endsName c)
    (hword : EndsInWord ['<'] "script".toList.reverse read) : EndsAt (c :: read) .nested :=
  hidesEnd_cons.mpr (Or.inr ⟨h.1, hword, hc⟩)

/-- A character that goes on with nothing. -/
theorem follows_plainStep {depth : Depth} (hdepth : EndsAt (c :: read) depth)
    (hplain : depth = .plain → ¬ ['!', '<'] <+: c :: read ∧ ¬ ['-', '!', '<'] <+: c :: read)
    (hword : depth = .comment → c.isAlpha → ¬ ['<'] <+: read.dropWhile Char.isAlpha)
    (hdash : depth ≠ .plain → ¬ ['-'] <+: read) :
    Follows (c :: read) (ScriptPhase.plainStep depth c) := by
  unfold ScriptPhase.plainStep
  split
  case isTrue hc =>
    subst hc
    exact ⟨hdepth, by simp [EndsIn]⟩
  case isFalse hc =>
    split
    case isTrue h =>
      simp only [ne_eq, Bool.and_eq_true, decide_eq_true_eq] at h
      obtain ⟨hne, rfl⟩ := h
      exact ⟨hdepth, hne, by simp, by simpa using hdash hne⟩
    case isFalse h =>
      refine ⟨hdepth, ?_⟩
      cases depth with
      | plain => exact ⟨by simpa using Ne.symm hc, hplain rfl⟩
      | comment =>
        have hcdash : c ≠ '-' := by simpa using h
        refine ⟨by simpa using hcdash.symm, ?_⟩
        by_cases halpha : c.isAlpha = true
        · rw [List.dropWhile_cons_of_pos halpha]
          exact hword rfl halpha
        · rw [List.dropWhile_cons_of_neg halpha]
          simpa using Ne.symm hc
      | nested =>
        have hcdash : c ≠ '-' := by simpa using h
        simpa [EndsIn] using hcdash.symm

theorem EndsIn.not_dash_of_word {leaves : Bool} {letters : List Char}
    (h : EndsIn read (.word leaves letters)) : ¬ ['-'] <+: read := by
  rintro ⟨rest, rfl⟩
  exact not_endsInWord (by decide) (by cases leaves <;> simp) h

theorem not_closes_of_not_dash (h : ¬ ['-'] <+: read) : ¬ (c = '>' ∧ ['-', '-'] <+: read) :=
  fun hc => h (List.IsPrefix.trans ⟨['-'], rfl⟩ hc.2)

theorem endsName_ne {d : Char} (hc : endsName c = true) (hd : endsName d = false) : d ≠ c :=
  fun h => Bool.false_ne_true (hd.symm.trans (h ▸ hc))

theorem follows_text {depth : Depth} (h : Follows read (.text depth)) :
    Follows (c :: read) (ScriptPhase.step (.text depth) c) := by
  obtain ⟨hdepth, hlast⟩ := h
  cases depth with
  | plain =>
    obtain ⟨h1, h2, h3⟩ := hlast
    exact follows_plainStep (hdepth.plain_cons (by simp [h3])) (by simp [h1, h2]) nofun nofun
  | comment =>
    obtain ⟨h1, h2⟩ := hlast
    exact follows_plainStep (hdepth.comment_cons (not_closes_of_not_dash h1) fun _ h => h2 h.2)
      nofun (fun _ _ => h2) (fun _ => h1)
  | nested =>
    exact follows_plainStep (hdepth.nested_cons (not_closes_of_not_dash hlast)) nofun nofun
      (fun _ => hlast)

theorem follows_less {depth : Depth} (h : Follows read (.less depth)) :
    Follows (c :: read) (ScriptPhase.step (.less depth) c) := by
  obtain ⟨hdepth, rest, rfl⟩ := h
  have hcloses : ¬ (c = '>' ∧ ['-', '-'] <+: '<' :: rest) := by simp
  cases depth with
  | plain =>
    have hdepth' : EndsAt (c :: '<' :: rest) .plain := hdepth.plain_cons (by simp)
    rw [ScriptPhase.step]
    split
    case isTrue hc => exact ⟨hdepth', by simp [EndsIn, hc]⟩
    case isFalse hc => exact follows_plainStep hdepth' (by simp [Ne.symm hc]) nofun nofun
  | comment =>
    have hword : ¬ EndsInWord ['<'] "script".toList.reverse ('<' :: rest) := fun h => nomatch h.1
    have hdepth' : EndsAt (c :: '<' :: rest) .comment := hdepth.comment_cons hcloses fun _ => hword
    rw [ScriptPhase.step]
    split
    case isTrue hc => exact ⟨hdepth', endsInWord_cons hc ⟨rfl, by simp⟩⟩
    case isFalse hc =>
      exact follows_plainStep hdepth' nofun (fun _ halpha => absurd halpha hc) (by simp)
  | nested =>
    have hdepth' : EndsAt (c :: '<' :: rest) .nested := hdepth.nested_cons hcloses
    rw [ScriptPhase.step]
    split
    case isTrue hc => exact ⟨hdepth', endsInWord_nil (by simp [hc]) (by simp [hc])⟩
    case isFalse hc => exact follows_plainStep hdepth' nofun nofun (by simp)

theorem follows_opening (h : Follows read .opening) :
    Follows (c :: read) (ScriptPhase.step .opening c) := by
  obtain ⟨hdepth, rest, rfl⟩ := h
  have hdepth' : EndsAt (c :: '!' :: '<' :: rest) .plain := hdepth.plain_cons (by simp)
  rw [ScriptPhase.step]
  split
  case isTrue hc => exact ⟨hdepth', by simp [EndsIn, hc]⟩
  case isFalse hc => exact follows_plainStep hdepth' (by simp [Ne.symm hc]) nofun nofun

theorem follows_openingDash (h : Follows read .openingDash) :
    Follows (c :: read) (ScriptPhase.step .openingDash c) := by
  obtain ⟨hdepth, rest, rfl⟩ := h
  rw [ScriptPhase.step]
  split
  case isTrue hc =>
    subst hc
    refine ⟨⟨inComment_cons.mpr (Or.inr ⟨rfl, rest, rfl⟩), ?_⟩, by simp [EndsIn]⟩
    rw [hidesEnd_cons]
    rintro (⟨hhides, -⟩ | ⟨-, -, hname⟩)
    · exact hdepth.2 hhides
    · exact absurd hname (by decide)
  case isFalse hc => exact follows_plainStep (hdepth.plain_cons (by simp [hc])) (by simp) nofun nofun

/-- In a comment, behind a dash. -/
theorem EndsAt.dash_cons {depth : Depth} (h : EndsAt read depth) (hne : depth ≠ .plain)
    (hdash : ['-'] <+: read) (hc : ¬ (c = '>' ∧ ['-', '-'] <+: read)) : EndsAt (c :: read) depth := by
  obtain ⟨rest, rfl⟩ := hdash
  cases depth with
  | plain => exact absurd rfl hne
  | comment => exact h.comment_cons hc fun _ => not_endsInWord (by decide) (by simp)
  | nested => exact h.nested_cons hc

theorem endsIn_text_of_not_dash {depth : Depth} (hne : depth ≠ .plain) (hdash : ['-'] <+: read)
    (hc : c ≠ '-') (hless : c ≠ '<') : EndsIn (c :: read) (.text depth) := by
  obtain ⟨rest, rfl⟩ := hdash
  cases depth with
  | plain => exact absurd rfl hne
  | comment =>
    refine ⟨by simpa using hc.symm, ?_⟩
    by_cases halpha : c.isAlpha = true
    · rw [List.dropWhile_cons_of_pos halpha]
      simp [List.dropWhile_cons_of_neg]
    · rw [List.dropWhile_cons_of_neg halpha]
      simpa using hless.symm
  | nested => simpa [EndsIn] using hc.symm

/-- Dashes, a `<` and what is neither are read alike behind one dash and behind more. -/
theorem follows_behindDash {depth : Depth} (hdepth : EndsAt (c :: read) depth) (hne : depth ≠ .plain)
    (hdash : ['-'] <+: read) : Follows (c :: read) (ScriptPhase.step (.dash depth) c) := by
  rw [ScriptPhase.step]
  split
  case isTrue hc => exact ⟨hdepth, hne, by simpa [hc] using hdash⟩
  case isFalse hc =>
    split
    case isTrue hless => exact ⟨hdepth, by simp [EndsIn, hless]⟩
    case isFalse hless => exact ⟨hdepth, endsIn_text_of_not_dash hne hdash hc hless⟩

theorem follows_dash {depth : Depth} (h : Follows read (.dash depth)) :
    Follows (c :: read) (ScriptPhase.step (.dash depth) c) := by
  obtain ⟨hdepth, hne, hdash, hdashes⟩ := h
  exact follows_behindDash (EndsAt.dash_cons hdepth hne hdash fun h => hdashes h.2) hne hdash

theorem step_dashes {depth : Depth} (hc : c ≠ '>') :
    ScriptPhase.step (.dashes depth) c = ScriptPhase.step (.dash depth) c := by
  rw [ScriptPhase.step, ScriptPhase.step, if_neg hc]

/-- Behind two dashes and more a bracket closes the comment. -/
theorem follows_dashes {depth : Depth} (h : Follows read (.dashes depth)) :
    Follows (c :: read) (ScriptPhase.step (.dashes depth) c) := by
  obtain ⟨hdepth, hne, hdashes⟩ := h
  have hdash : ['-'] <+: read := List.IsPrefix.trans ⟨['-'], rfl⟩ hdashes
  by_cases hgreater : c = '>'
  · subst hgreater
    rw [ScriptPhase.step]
    refine ⟨endsAt_closed hdashes, ?_⟩
    simp [EndsIn]
  · rw [step_dashes hgreater]
    exact follows_behindDash (EndsAt.dash_cons hdepth hne hdash fun h => hgreater h.1) hne hdash

theorem step_word {leaves : Bool} {letters : List Char} :
    ScriptPhase.step (.word leaves letters) c =
      if endsName c then
        if letters.reverse == "script".toList then .text (if leaves then .comment else .nested)
        else .text (ScriptPhase.word leaves letters).depth
      else if c.isAlpha then .word leaves (c.toLower :: letters)
      else ScriptPhase.plainStep (ScriptPhase.word leaves letters).depth c := rfl

/-- The word behind a slash is that of an end tag. -/
theorem hasEndTag_of_endsInWord (h : EndsInWord ['/', '<'] "script".toList.reverse read) :
    HasEndTag read.reverse := by
  obtain ⟨name, hsuffix, hlower⟩ := h.exists_name
  exact ⟨_, hsuffix.isInfix, congrArg ('<' :: '/' :: ·) hlower⟩

/-- A word that is complete opens a nested script or leaves it. -/
theorem follows_word {leaves : Bool} {letters : List Char} (h : Follows read (.word leaves letters))
    (hend : ¬ HasEndTag read.reverse) :
    Follows (c :: read) (ScriptPhase.step (.word leaves letters) c) := by
  obtain ⟨hdepth, hlast⟩ := h
  have hdash : ¬ ['-'] <+: read := hlast.not_dash_of_word
  have hcloses : ¬ (c = '>' ∧ ['-', '-'] <+: read) := not_closes_of_not_dash hdash
  rw [step_word]
  split
  case isTrue hname =>
    have hnot : c.isAlpha = false := endsName_not_alpha hname
    have hcdash : '-' ≠ c := endsName_ne hname (by decide)
    have hless : '<' ≠ c := endsName_ne hname (by decide)
    split
    case isTrue hscript =>
      have hletters : letters = "script".toList.reverse := by
        rw [← List.reverse_reverse letters, eq_of_beq hscript]
      subst hletters
      cases leaves with
      | false => exact ⟨endsAt_opened hdepth hname hlast, by simpa [EndsIn] using hcdash⟩
      | true => exact absurd (hasEndTag_of_endsInWord hlast) hend
    case isFalse hscript =>
      cases leaves with
      | false =>
        refine ⟨EndsAt.comment_cons hdepth hcloses fun _ hword => ?_, by simpa using hcdash, ?_⟩
        · rw [← hlast.1, hword.1, List.reverse_reverse] at hscript
          exact hscript (beq_self_eq_true _)
        · rw [List.dropWhile_cons_of_neg (by simp [hnot])]
          simpa using hless
      | true =>
        have hlast' : ¬ ['-'] <+: c :: read := by simpa using hcdash
        exact ⟨EndsAt.nested_cons hdepth hcloses, hlast'⟩
  case isFalse hname =>
    have hdepth' : EndsAt (c :: read) (ScriptPhase.word leaves letters).depth := by
      cases leaves with
      | false => exact EndsAt.comment_cons hdepth hcloses fun h => absurd h hname
      | true => exact EndsAt.nested_cons hdepth hcloses
    split
    case isTrue halpha => exact ⟨hdepth', endsInWord_cons halpha hlast⟩
    case isFalse halpha =>
      refine follows_plainStep hdepth' ?_ (fun _ h => absurd h halpha) (fun _ => hdash)
      cases leaves <;> exact nofun

/-- **One character of a script.** No end tag of a script has stood before it. -/
theorem Follows.step {p : ScriptPhase} (h : Follows read p) (hend : ¬ HasEndTag read.reverse) :
    Follows (c :: read) (p.step c) := by
  cases p with
  | text depth => exact follows_text h
  | less depth => exact follows_less h
  | opening => exact follows_opening h
  | openingDash => exact follows_openingDash h
  | dash depth => exact follows_dash h
  | dashes depth => exact follows_dashes h
  | word leaves letters => exact follows_word h hend

end

/-- **What the phase behind a text says.** -/
theorem follows_behind {text : List Char} (hend : ¬ HasEndTag text) :
    Follows text.reverse ((ScriptPhase.text .plain).behind text) := by
  induction text using List.reverseRecOn with
  | nil =>
    have hcomment : ¬ InComment [] := fun ⟨u, v, h, _⟩ => by simp at h
    exact ⟨⟨hcomment, fun ⟨u, c, v, h, _⟩ => by simp at h⟩, by simp [ScriptPhase.behind, EndsIn]⟩
  | append_singleton text c ih =>
    have hend' : ¬ HasEndTag text := fun h => hend (h.mono (List.prefix_append text [c]).isInfix)
    rw [ScriptPhase.behind, List.foldl_append, List.reverse_append]
    exact (ih hend').step (by rwa [List.reverse_reverse])

/-- **Behind a text without end tags the reader is inside a nested script exactly if the text hides an end
tag.** -/
theorem nested_iff {text : List Char} (hend : ¬ HasEndTag text) :
    ((ScriptPhase.text .plain).behind text).depth = .nested ↔ HidesEnd text := by
  have h := (follows_behind hend).depth
  cases hdepth : ((ScriptPhase.text .plain).behind text).depth with
  | plain =>
    rw [hdepth, EndsAt, List.reverse_reverse] at h
    exact iff_of_false nofun h.2
  | comment =>
    rw [hdepth, EndsAt, List.reverse_reverse] at h
    exact iff_of_false nofun h.2
  | nested =>
    rw [hdepth, EndsAt, List.reverse_reverse] at h
    exact iff_of_true rfl h

/-- **A text without end tags is the content of its element exactly if it does not hide the end tag.** -/
theorem scriptText_closing_iff {body : List Char} (hend : ¬ HasEndTag body) (rest : List Char) :
    scriptText (.text .plain) (body ++ scriptEnd ++ rest) = (body.map shown, scriptEnd ++ rest)
      ↔ ¬ HidesEnd body := by
  rw [scriptText_append hend, ← nested_iff hend, ← ne_eq, ← scriptText_scriptEnd _ rest, Prod.ext_iff,
    Prod.ext_iff]
  exact and_congr_left' List.append_right_eq_self

/-- An element does not end before a text without end tags does. -/
theorem prefix_scriptText {body : List Char} (hend : ¬ HasEndTag body) (rest : List Char) :
    body.map shown <+: (scriptText (.text .plain) (body ++ scriptEnd ++ rest)).1 := by
  rw [scriptText_append hend]
  exact List.prefix_append _ _

/-- What opens no comment hides no end tag. -/
theorem not_hidesEnd {text : List Char} (h : ¬ "<!--".toList <:+: text) : ¬ HidesEnd text := by
  rintro ⟨u, c, v, rfl, ⟨u', v', rfl, -⟩, -⟩
  exact h ⟨u', v' ++ c :: v, by simp⟩

end Vitrine.Html.Lexer
