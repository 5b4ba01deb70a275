import Mathlib.Tactic.Tauto
import Vitrine.Html.Construction.Step

/-!
# How the text behind a tag is read (section 4.6)

Whether text is read as markup depends on the tree that is being built, but only in one way: a start tag whose
content is no markup says so by its name (`rawReading?`). No other token changes how the text is read, in
whatever state the tree is.

A document is parsed by a lexer and a tree construction that tells it how to go on (`parse` of the
`DocumentBuilder`). So what the lexer makes of a text cannot be said without the tree, and this is what can be
said of the tree for all texts.

* `ReadsOn`: the reading stays as it was, or it is the one that the name of the start tag asks for.
* `readsOn_take`: this is so for every token and every state.
-/

namespace Vitrine.Html

/-- How the text behind a start tag is read, where that is not as markup. -/
def rawReading? (name : String) : Option Reading :=
  if ["title", "textarea"].contains name then some (.raw name true)
  else if ["noframes", "style", "noscript", "xmp", "iframe", "noembed"].contains name then some (.raw name false)
  else if name = "script" then some .script
  else if name = "plaintext" then some .plain
  else none

namespace Construction

variable {s s' : Construction} {t : Token} {r : Reading}

/-! ## What does not touch the reading -/

@[simp]
theorem reading_switchTo (s : Construction) (m : Mode) : (s.switchTo m).reading = s.reading := rfl

@[simp]
theorem reading_retry (s : Construction) (m : Mode) : (s.retry m).reading = s.reading := rfl

@[simp]
theorem reading_forbidFrames (s : Construction) : s.forbidFrames.reading = s.reading := rfl

@[simp]
theorem reading_pop (s : Construction) : s.pop.reading = s.reading := rfl

@[simp]
theorem reading_close (s : Construction) (node : NodeId) : (s.close node).reading = s.reading := rfl

@[simp]
theorem reading_popThrough (s : Construction) (p : ElementName → Bool) : (s.popThrough p).reading = s.reading := rfl

@[simp]
theorem reading_popThroughTag (s : Construction) (tag : String) : (s.popThroughTag tag).reading = s.reading := rfl

@[simp]
theorem reading_popTo (s : Construction) (tags : List String) : (s.popTo tags).reading = s.reading := rfl

@[simp]
theorem reading_closeImplied (s : Construction) (kept : List String) : (s.closeImplied kept).reading = s.reading := rfl

@[simp]
theorem reading_closeParagraph (s : Construction) : s.closeParagraph.reading = s.reading := rfl

@[simp]
theorem reading_push (s : Construction) (e : OpenElement) : (s.push e).reading = s.reading := rfl

@[simp]
theorem reading_create (s : Construction) (content : Content) : (s.create content).1.reading = s.reading := rfl

@[simp]
theorem reading_markFormatting (s : Construction) : s.markFormatting.reading = s.reading := rfl

@[simp]
theorem reading_forgetFormatting (s : Construction) : s.forgetFormatting.reading = s.reading := rfl

@[simp]
theorem reading_dropFormatting (s : Construction) (node : NodeId) : (s.dropFormatting node).reading = s.reading := rfl

@[simp]
theorem reading_leaveTemplate (s : Construction) : s.leaveTemplate.reading = s.reading := rfl

/-- A choice between two states is a choice between their readings. -/
@[simp]
theorem reading_ite {c : Prop} [Decidable c] (s s' : Construction) :
    (if c then s else s').reading = if c then s.reading else s'.reading := apply_ite Construction.reading c s s'

@[simp]
theorem reading_endParagraph (s : Construction) : s.endParagraph.reading = s.reading := by
  simp [endParagraph]

/-! ### New nodes -/

/-- A node is put somewhere in the store, and the reading is no part of the store. -/
@[simp]
theorem reading_putAt (s : Construction) (place : Place) (node : NodeId) : (s.putAt place node).reading = s.reading := by
  cases place <;> rfl

@[simp]
theorem reading_putCharacter (s : Construction) (c : Char) : (s.putCharacter c).reading = s.reading := by
  rw [putCharacter]
  split <;> rfl

@[simp]
theorem reading_putComment (s : Construction) (text : String) : (s.putComment text).reading = s.reading := by
  simp [putComment]

@[simp]
theorem reading_putCommentIn (s : Construction) (parent : NodeId) (text : String) :
    (s.putCommentIn parent text).reading = s.reading := by
  simp [putCommentIn]

/-- A new element goes where the next node goes, and nothing is read for it. -/
@[simp]
theorem reading_newElement (s : Construction) (vocabulary : Vocabulary) (tag : Tag) :
    (s.newElement vocabulary tag).1.reading = s.reading := by
  simp [newElement]

/-- An element may be opened without asking for a reading; only `insertRaw` asks for one. -/
@[simp]
theorem reading_insert (s : Construction) (tag : Tag) : (s.insert tag).reading = s.reading := by
  simp [insert]

@[simp]
theorem reading_insertNamed (s : Construction) (tag : String) : (s.insertNamed tag).reading = s.reading := by
  simp [insertNamed]

@[simp]
theorem reading_insertEmpty (s : Construction) (tag : Tag) : (s.insertEmpty tag).reading = s.reading := by
  simp [insertEmpty]

@[simp]
theorem reading_insertForeign (s : Construction) (vocabulary : Vocabulary) (tag : Tag) :
    (s.insertForeign vocabulary tag).reading = s.reading := by
  simp [insertForeign]

/-- The one operation that changes how the text is read. -/
@[simp]
theorem reading_insertRaw (s : Construction) (tag : Tag) (r : Reading) : (s.insertRaw tag r).reading = r := rfl

/-! ### Formatting elements -/

/-- A fold keeps a reading that its step keeps. -/
theorem reading_foldl {α β : Type} (reading : β → Reading) {f : β → α → β}
    (hf : ∀ b a, reading (f b a) = reading b) (as : List α) (b : β) : reading (as.foldl f b) = reading b := by
  induction as generalizing b with
  | nil => rfl
  | cons a as ih => rw [List.foldl_cons, ih, hf]

/-- Formatting elements are opened again as elements whose content is markup. -/
@[simp]
theorem reading_reopenEntry (s : Construction) (e : FormatEntry) : (s.reopenEntry e).reading = s.reading := by
  cases e <;> simp [reopenEntry]

/-- However many formatting elements are opened again. -/
@[simp]
theorem reading_reopen (s : Construction) : s.reopen.reading = s.reading :=
  reading_foldl reading reading_reopenEntry _ _

@[simp]
theorem reading_insertFormatting (s : Construction) (tag : Tag) : (s.insertFormatting tag).reading = s.reading := by
  simp [insertFormatting]

@[simp]
theorem reading_endOther (s : Construction) (tag : String) : (s.endOther tag).reading = s.reading := by
  rw [endOther]
  split <;> simp

/-- One step through the open elements between a formatting element and its block. -/
theorem reading_step (l : Lifting) (block : NodeId) (e : OpenElement) (count : Nat) :
    (l.step block e count).state.reading = l.state.reading := by
  rw [Lifting.step]
  split
  · simp
  · split <;> simp

/-- The children of the block move under a copy of the formatting element. -/
@[simp]
theorem reading_splitAround (s : Construction) (element : OpenElement) (tag : Tag) (inner : List OpenElement)
    (block : OpenElement) (between outer : List OpenElement) :
    (s.splitAround element tag inner block between outer).reading = s.reading := by
  have hlift (f : Lifting → OpenElement × Nat → Lifting) (hf : ∀ l e, (f l e).state.reading = l.state.reading)
      (entries : List (OpenElement × Nat)) (l : Lifting) : (entries.foldl f l).state.reading = l.state.reading :=
    reading_foldl (fun l : Lifting => l.state.reading) hf entries l
  rw [splitAround]
  simp only [reading_create]
  split <;> simp [hlift _ fun l e => reading_step l block.node e.1 e.2]

/-- One round, whether it goes on to the next or not. -/
@[simp]
theorem reading_adoptOnce (s : Construction) (subject : String) : (s.adoptOnce subject).1.reading = s.reading := by
  rw [adoptOnce]
  dsimp only
  split
  · split
    · simp
    · split
      · rfl
      · split <;> simp
  · simp

/-- The rounds of the end tag of a formatting element, however many there are. -/
theorem reading_adoptRounds (subject : String) (n : Nat) (s : Construction) :
    (adoptRounds subject n s).reading = s.reading := by
  induction n generalizing s with
  | zero => rfl
  | succ n ih =>
    have honce := reading_adoptOnce s subject
    rw [adoptRounds]
    split <;> rename_i heq <;> rw [heq] at honce
    · exact (ih _).trans honce
    · exact honce

/-- The end tag of a formatting element moves elements and reads nothing. -/
@[simp]
theorem reading_adopt (s : Construction) (subject : String) : (s.adopt subject).reading = s.reading := by
  rw [adopt]
  split
  · simp [reading_adoptRounds]
  · rfl

/-- A link that opens in a link closes the outer one as its end tag does. -/
@[simp]
theorem reading_closeLink (s : Construction) : s.closeLink.reading = s.reading := by
  rw [closeLink]
  split <;> simp

/-! ### Parts of the rules -/

/-- The root is opened without asking for a reading. -/
@[simp]
theorem reading_openRoot (s : Construction) (tag : Tag) : (s.openRoot tag).reading = s.reading := by
  simp [openRoot]

@[simp]
theorem reading_mergeRoot (s : Construction) (tag : Tag) : (s.mergeRoot tag).reading = s.reading := by
  rw [mergeRoot]
  split
  · rfl
  · split <;> rfl

@[simp]
theorem reading_openHead (s : Construction) (tag : Tag) : (s.openHead tag).reading = s.reading := by
  simp [openHead]

@[simp]
theorem reading_openTemplate (s : Construction) (tag : Tag) : (s.openTemplate tag).reading = s.reading := by
  simp [openTemplate]

@[simp]
theorem reading_closeTemplate (s : Construction) : s.closeTemplate.reading = s.reading := by
  simp [closeTemplate]

@[simp]
theorem reading_endInTemplate (s : Construction) : s.endInTemplate.reading = s.reading := by
  simp [endInTemplate]

/-- A character of the body opens the formatting elements again, and goes behind them. -/
@[simp]
theorem reading_bodyCharacter (s : Construction) (c : Char) : (s.bodyCharacter c).reading = s.reading := by
  simp [bodyCharacter]

/-- The attributes of a second body are added to the first. -/
@[simp]
theorem reading_mergeBody (s : Construction) (tag : Tag) : (s.mergeBody tag).reading = s.reading := by
  rw [mergeBody]
  split <;> simp

/-- Frames take the place of the body. -/
@[simp]
theorem reading_replaceBody (s : Construction) (tag : Tag) : (s.replaceBody tag).reading = s.reading := by
  rw [replaceBody]
  split
  · rfl
  · split <;> simp

@[simp]
theorem reading_openForm (s : Construction) (tag : Tag) : (s.openForm tag).reading = s.reading := by
  simp [openForm]

/-- An item closes the open one of its kind and an open paragraph. -/
@[simp]
theorem reading_openItem (s : Construction) (tag : Tag) : (s.openItem tag).reading = s.reading := by
  simp only [openItem]
  split <;> simp

@[simp]
theorem reading_openButton (s : Construction) (tag : Tag) : (s.openButton tag).reading = s.reading := by
  simp [openButton]

@[simp]
theorem reading_openNobr (s : Construction) (tag : Tag) : (s.openNobr tag).reading = s.reading := by
  simp [openNobr]

/-- The options of a selection are markup, under rules of their own. -/
@[simp]
theorem reading_openSelect (s : Construction) (tag : Tag) : (s.openSelect tag).reading = s.reading := by
  simp [openSelect]

@[simp]
theorem reading_openRuby (s : Construction) (tag : Tag) : (s.openRuby tag).reading = s.reading := by
  simp [openRuby]

@[simp]
theorem reading_insertVoid (s : Construction) (tag : Tag) : (s.insertVoid tag).reading = s.reading := by
  simp [insertVoid]

/-- Content of another vocabulary is markup too. -/
@[simp]
theorem reading_openForeign (s : Construction) (vocabulary : Vocabulary) (tag : Tag) :
    (s.openForeign vocabulary tag).reading = s.reading := by
  simp [openForeign]

@[simp]
theorem reading_closeForm (s : Construction) : s.closeForm.reading = s.reading := by
  rw [closeForm]
  split
  · simp
  · split <;> simp

/-- An end tag closes its element if this is open in its scope, and is dropped otherwise. -/
@[simp]
theorem reading_closeScoped (s : Construction) (ends : ElementName → Bool) (tag : String) (kept : List String) :
    (s.closeScoped ends tag kept).reading = s.reading := by
  simp [closeScoped]

@[simp]
theorem reading_closeCell (s : Construction) : s.closeCell.reading = s.reading := rfl

@[simp]
theorem reading_leaveForeign (s : Construction) : s.leaveForeign.reading = s.reading := rfl

/-! ## What a token does -/

/-- Behind the token `t`, text is read as `r`, as before, or as the name of the start tag asks for. -/
def ReadsOn (t : Token) (r : Reading) (s : Construction) : Prop :=
  s.reading = r ∨ ∃ tag, t = .startTag tag ∧ rawReading? tag.name = some s.reading

namespace ReadsOn

/-- What leaves the reading as it was. -/
theorem same (h : s.reading = r) : ReadsOn t r s := .inl h

/-- What sets the reading that the start tag asks for. -/
theorem raw {tag : Tag} (h : rawReading? tag.name = some s.reading) : ReadsOn (.startTag tag) r s := .inr ⟨tag, rfl, h⟩

/-- What is done to the tree behind the token does not matter. -/
theorem congr (h : ReadsOn t r s) (hsame : s'.reading = s.reading) : ReadsOn t r s' := by
  rwa [ReadsOn, hsame]

/-- A token may be passed on from one set of rules to another. -/
theorem trans (h : ReadsOn t r s) (h' : ReadsOn t s.reading s') : ReadsOn t r s' := by
  rcases h' with h' | h'
  · exact h.congr h'
  · exact .inr h'

/-- A token other than a start tag leaves the reading as it is. -/
theorem eq_of_not_start (h : ReadsOn t r s) (ht : ∀ tag, t ≠ .startTag tag) : s.reading = r :=
  h.elim id fun ⟨tag, htag, _⟩ => absurd htag (ht tag)

/-- The rules choose by the kind and the name of the token. -/
theorem ite {c : Prop} [Decidable c] (h : c → ReadsOn t r s) (h' : ReadsOn t r s') :
    ReadsOn t r (if c then s else s') := by
  split
  · exact h ‹c›
  · exact h'

end ReadsOn

/-- The elements that are read up to their end tags, with their references left as they are. -/
theorem rawReading?_of_mem {name : String}
    (h : ["noframes", "style", "noscript", "xmp", "iframe", "noembed"].contains name = true) :
    rawReading? name = some (.raw name false) := by
  rw [rawReading?, if_neg, if_pos h]
  intro hreferences
  simp only [List.contains_cons, List.contains_nil, Bool.or_false, Bool.or_eq_true, beq_iff_eq] at h hreferences
  rcases hreferences with rfl | rfl <;> simp at h

/-! ### Up to the body -/

/-- In the head `title`, `style`, `noframes`, `noscript` and `script` ask for their readings. -/
theorem readsOn_inHead (s : Construction) (t : Token) : ReadsOn t s.reading (s.inHead t) := by
  cases t with
  | character c => exact .ite (fun _ => .same (by simp)) (.same (by simp))
  | comment text => exact .same (by simp [inHead])
  | startTag tag =>
    exact .ite (fun _ => .same (by simp)) <|
      .ite (fun _ => .same (by simp)) <|
      .ite (fun htag => .raw (by rw [htag]; rfl)) <|
      .ite (fun htag => .raw (rawReading?_of_mem (by simp at htag ⊢; tauto))) <|
      .ite (fun htag => .raw (by rw [htag]; rfl)) <|
      .ite (fun _ => .same (by simp)) <|
      .ite (fun _ => .same rfl) (.same (by simp))
  | endTag tag =>
    exact .ite (fun _ => .same (by simp)) <|
      .ite (fun _ => .same (by simp)) <|
      .ite (fun _ => .same (by simp)) (.same rfl)
  | doctype | fault | endOfFile => exact .same rfl

/-- Behind the head its rules are used once more. -/
theorem readsOn_inHeadAgain (s : Construction) (t : Token) : ReadsOn t s.reading (s.inHeadAgain t) := by
  rw [inHeadAgain]
  split
  · rename_i node _
    exact (readsOn_inHead (s.push ⟨node, ⟨.html, "head"⟩, false⟩) t).congr (reading_close _ node)
  · exact .same rfl

/-- In front of the root nothing is opened. -/
theorem readsOn_initial (s : Construction) (t : Token) : ReadsOn t s.reading (s.initial t) := by
  cases t with
  | character c => exact .ite (fun _ => .same rfl) (.same rfl)
  | comment text => exact .same (by simp [initial])
  | startTag | endTag | doctype | fault | endOfFile => exact .same rfl

/-- The start tag of the root opens it, and its content is markup. -/
theorem readsOn_beforeHtml (s : Construction) (t : Token) : ReadsOn t s.reading (s.beforeHtml t) := by
  refine .same ?_
  cases t <;> simp [beforeHtml]

/-- So does that of the head. -/
theorem readsOn_beforeHead (s : Construction) (t : Token) : ReadsOn t s.reading (s.beforeHead t) := by
  refine .same ?_
  cases t <;> simp [beforeHead]

/-- Behind the head what belongs into it is passed on, and asks as it does there. -/
theorem readsOn_afterHead (s : Construction) (t : Token) : ReadsOn t s.reading (s.afterHead t) := by
  cases t with
  | character c => exact .ite (fun _ => .same (by simp)) (.same (by simp))
  | comment text => exact .same (by simp [afterHead])
  | startTag tag =>
    exact .ite (fun _ => .same (by simp)) <|
      .ite (fun _ => .same (by simp)) <|
      .ite (fun _ => .same (by simp)) <|
      .ite (fun _ => readsOn_inHeadAgain s _) <|
      .ite (fun _ => .same rfl) (.same (by simp))
  | endTag tag =>
    exact .ite (fun _ => readsOn_inHead s _) <| .ite (fun _ => .same (by simp)) (.same rfl)
  | doctype | fault | endOfFile => exact .same (by simp [afterHead])

/-! ### In the body -/

/-- In the body `plaintext`, `textarea` and the elements without references ask for their readings, and what
belongs into the head does as it does there. -/
theorem readsOn_bodyStart (s : Construction) (tag : Tag) : ReadsOn (.startTag tag) s.reading (s.bodyStart tag) := by
  rw [bodyStart]
  have hsame {s' : Construction} (h : s'.reading = s.reading) : ReadsOn (.startTag tag) s.reading s' := .same h
  refine .ite (fun _ => hsame (by simp)) <|
    .ite (fun _ => readsOn_inHead s _) <|
    .ite (fun _ => hsame (by simp)) <|
    .ite (fun _ => hsame (by simp)) <|
    .ite (fun _ => hsame (by simp)) <|
    .ite (fun _ => hsame (by simp)) <|
    .ite (fun _ => hsame (by simp)) <|
    .ite (fun _ => hsame (by simp)) <|
    .ite (fun _ => hsame (by simp)) <|
    .ite (fun hplain => .raw ?plaintext) <|
    .ite (fun _ => hsame (by simp)) <|
    .ite (fun _ => hsame (by simp)) <|
    .ite (fun _ => hsame (by simp)) <|
    .ite (fun _ => hsame (by simp)) <|
    .ite (fun _ => hsame (by simp)) <|
    .ite (fun _ => hsame (by simp)) <|
    .ite (fun _ => hsame (by simp)) <|
    .ite (fun _ => hsame (by simp)) <|
    .ite (fun _ => hsame (by simp)) <|
    .ite (fun _ => hsame (by simp)) <|
    .ite (fun hraw => .raw ?textarea) <|
    .ite (fun hraw => .raw (rawReading?_of_mem (by simp at hraw ⊢; tauto))) <|
    .ite (fun hraw => .raw (rawReading?_of_mem (by simp at hraw ⊢; tauto))) <|
    .ite (fun hraw => .raw (rawReading?_of_mem (by simp at hraw ⊢; tauto))) <|
    .ite (fun _ => hsame (by simp)) <|
    .ite (fun _ => hsame (by simp)) <|
    .ite (fun _ => hsame (by simp)) <|
    .ite (fun _ => hsame (by simp)) <|
    .ite (fun _ => hsame (by simp)) <|
    .ite (fun _ => hsame rfl) (hsame (by simp))
  case plaintext =>
    rw [show tag.name = "plaintext" by simpa using hplain]
    rfl
  case textarea =>
    rw [show tag.name = "textarea" by simpa using hraw]
    rfl

/-- No end tag of the body asks for a reading. -/
theorem reading_bodyEnd (s : Construction) (tag : Tag) : (s.bodyEnd tag).reading = s.reading := by
  have hhead (t : Tag) : (s.inHead (.endTag t)).reading = s.reading :=
    (readsOn_inHead s (.endTag t)).eq_of_not_start nofun
  simp [bodyEnd, hhead]

/-- The rules of the body are those that most others pass on to. -/
theorem readsOn_inBody (s : Construction) (t : Token) : ReadsOn t s.reading (s.inBody t) := by
  cases t with
  | character c => exact .same (by simp [inBody])
  | comment text => exact .same (by simp [inBody])
  | startTag tag => exact readsOn_bodyStart s tag
  | endTag tag => exact .same (reading_bodyEnd s tag)
  | endOfFile => exact .same (by simp [inBody])
  | doctype | fault => exact .same rfl

/-- In front of a table the rules of the body hold. -/
theorem readsOn_foster (s : Construction) (t : Token) : ReadsOn t s.reading (s.foster t) :=
  (readsOn_inBody { s with fosters := true } t).congr rfl

/-- The text of a raw element is put into it, and its end tag closes it; the reader has then gone back to markup
by itself. -/
theorem readsOn_inText (s : Construction) (t : Token) : ReadsOn t s.reading (s.inText t) := by
  refine .same ?_
  cases t <;> simp [inText]

/-- A start tag in a template is left to the rules that it calls for. -/
theorem readsOn_inTemplate (s : Construction) (t : Token) : ReadsOn t s.reading (s.inTemplate t) := by
  have hinBody := readsOn_inBody s t
  have hinHead := readsOn_inHead s t
  cases t with
  | character | comment => exact hinBody
  | startTag tag => exact .ite (fun _ => hinHead) (.same rfl)
  | endTag tag => exact .ite (fun _ => hinHead) (.same rfl)
  | endOfFile => exact .same (by simp [inTemplate])
  | doctype | fault => exact .same rfl

/-! ### Tables and selections -/

/-- A character in a table waits for those behind it, or stands in front of the table. -/
theorem readsOn_tableCharacter (s : Construction) (c : Char) :
    ReadsOn (.character c) s.reading (s.tableCharacter c) :=
  .ite (fun _ => .same rfl) (readsOn_foster s _)

/-- Parts of the table, a hidden `input`, a form, scripts, styles and templates are put into a table as they are; the
rest stands in front of it. -/
theorem readsOn_tableStart (s : Construction) (tag : Tag) : ReadsOn (.startTag tag) s.reading (s.tableStart tag) := by
  rw [tableStart]
  exact .ite (fun _ => .same (by simp)) <|
    .ite (fun _ => .same (by simp)) <|
    .ite (fun _ => .same (by simp)) <|
    .ite (fun _ => .same (by simp)) <|
    .ite (fun _ => .same (by simp)) <|
    .ite (fun _ => .same (by simp)) <|
    .ite (fun _ => readsOn_inHead s _) <|
    .ite (fun _ => .ite (fun _ => .same (by simp)) (readsOn_foster s _)) <|
    .ite (fun _ => .ite (fun _ => .same rfl) (.same (by simp))) (readsOn_foster s _)

/-- An end tag of a part that is not open is dropped, and one of a template is left to the head. -/
theorem readsOn_tableEnd (s : Construction) (tag : Tag) : ReadsOn (.endTag tag) s.reading (s.tableEnd tag) := by
  rw [tableEnd]
  exact .ite (fun _ => .same (by simp)) <|
    .ite (fun _ => .same rfl) <| .ite (fun _ => readsOn_inHead s _) (readsOn_foster s _)

/-- The rules of a table; those of its groups and rows fall back on them. -/
theorem readsOn_inTable (s : Construction) (t : Token) : ReadsOn t s.reading (s.inTable t) := by
  cases t with
  | character c => exact readsOn_tableCharacter s c
  | comment text => exact .same (by simp [inTable])
  | startTag tag => exact readsOn_tableStart s tag
  | endTag tag => exact readsOn_tableEnd s tag
  | endOfFile => exact readsOn_inBody s _
  | doctype | fault => exact .same rfl

/-- Characters that waited in a table are put there, or in front of it. -/
@[simp]
theorem reading_flushTableText (s : Construction) : s.flushTableText.reading = s.reading := by
  have hfoster (s : Construction) (c : Char) : (s.foster (.character c)).reading = s.reading :=
    (readsOn_foster s _).eq_of_not_start nofun
  rw [flushTableText, reading_ite]
  exact ite_eq_iff'.mpr ⟨fun _ => reading_foldl reading reading_putCharacter _ _,
    fun _ => reading_foldl reading hfoster _ _⟩

/-- Any token that is no character puts what waited first, and is then taken again. -/
theorem readsOn_inTableText (s : Construction) (t : Token) : ReadsOn t s.reading (s.inTableText t) := by
  refine .same ?_
  cases t <;> simp [inTableText]

/-- A caption holds what a body holds, until a part of the table closes it. -/
theorem readsOn_inCaption (s : Construction) (t : Token) : ReadsOn t s.reading (s.inCaption t) := by
  have hinBody := readsOn_inBody s t
  cases t with
  | startTag tag => exact .ite (fun _ => .same (by simp)) hinBody
  | endTag tag =>
    exact .ite (fun _ => .same (by simp)) <|
      .ite (fun _ => .same (by simp)) <| .ite (fun _ => .same rfl) hinBody
  | character | comment | doctype | fault | endOfFile => exact hinBody

/-- All but blanks, comments, columns and templates closes a group of columns. -/
theorem readsOn_inColumnGroup (s : Construction) (t : Token) : ReadsOn t s.reading (s.inColumnGroup t) := by
  have hinBody := readsOn_inBody s t
  have hinHead := readsOn_inHead s t
  cases t with
  | character c => exact .same (by simp [inColumnGroup])
  | comment text => exact .same (by simp [inColumnGroup])
  | startTag tag =>
    exact .ite (fun _ => .same (by simp)) <|
      .ite (fun _ => .same (by simp)) <| .ite (fun _ => hinHead) (.same (by simp))
  | endTag tag =>
    exact .ite (fun _ => .same (by simp)) <|
      .ite (fun _ => .same rfl) <| .ite (fun _ => hinHead) (.same (by simp))
  | endOfFile => exact hinBody
  | doctype | fault => exact .same (by simp [inColumnGroup])

/-- A cell without a row opens one. -/
theorem readsOn_inTableBody (s : Construction) (t : Token) : ReadsOn t s.reading (s.inTableBody t) := by
  have hinTable := readsOn_inTable s t
  cases t with
  | startTag tag =>
    exact .ite (fun _ => .same (by simp)) <|
      .ite (fun _ => .same (by simp)) <| .ite (fun _ => .same (by simp)) hinTable
  | endTag tag =>
    exact .ite (fun _ => .same (by simp)) <|
      .ite (fun _ => .same (by simp)) <| .ite (fun _ => .same rfl) hinTable
  | character | comment | doctype | fault | endOfFile => exact hinTable

/-- What belongs into no row is taken by the rules of the table. -/
theorem readsOn_inRow (s : Construction) (t : Token) : ReadsOn t s.reading (s.inRow t) := by
  have hinTable := readsOn_inTable s t
  cases t with
  | startTag tag =>
    exact .ite (fun _ => .same (by simp)) <| .ite (fun _ => .same (by simp)) hinTable
  | endTag tag =>
    exact .ite (fun _ => .same (by simp)) <|
      .ite (fun _ => .same (by simp)) <|
      .ite (fun _ => .same (by simp)) <| .ite (fun _ => .same rfl) hinTable
  | character | comment | doctype | fault | endOfFile => exact hinTable

/-- A cell holds what a body holds, so a script in it asks for its reading there. -/
theorem readsOn_inCell (s : Construction) (t : Token) : ReadsOn t s.reading (s.inCell t) := by
  have hinBody := readsOn_inBody s t
  cases t with
  | startTag tag => exact .ite (fun _ => .same (by simp)) hinBody
  | endTag tag =>
    exact .ite (fun _ => .same (by simp)) <|
      .ite (fun _ => .same rfl) <| .ite (fun _ => .same (by simp)) hinBody
  | character | comment | doctype | fault | endOfFile => exact hinBody

/-- Of the start tags in a selection only those of scripts and templates are left to the head. -/
theorem readsOn_selectStart (s : Construction) (tag : Tag) :
    ReadsOn (.startTag tag) s.reading (s.selectStart tag) := by
  rw [selectStart]
  exact .ite (fun _ => .same (by simp)) <|
    .ite (fun _ => .same (by simp)) <|
    .ite (fun _ => .same (by simp)) <|
    .ite (fun _ => .same (by simp)) <|
    .ite (fun _ => .same (by simp)) <|
    .ite (fun _ => readsOn_inHead s _) (.same rfl)

/-- The end tag of a group closes an option that is open in it as well. -/
theorem readsOn_selectEnd (s : Construction) (tag : Tag) : ReadsOn (.endTag tag) s.reading (s.selectEnd tag) := by
  rw [selectEnd]
  refine .ite (fun _ => .same ?_) <|
    .ite (fun _ => .same (by simp)) <|
    .ite (fun _ => .same (by simp)) <|
    .ite (fun _ => readsOn_inHead s _) (.same rfl)
  dsimp only
  split <;> simp

/-- Characters and comments of a selection go into it. -/
theorem readsOn_inSelect (s : Construction) (t : Token) : ReadsOn t s.reading (s.inSelect t) := by
  cases t with
  | character c => exact .same (by simp [inSelect])
  | comment text => exact .same (by simp [inSelect])
  | startTag tag => exact readsOn_selectStart s tag
  | endTag tag => exact readsOn_selectEnd s tag
  | endOfFile => exact readsOn_inBody s _
  | doctype | fault => exact .same rfl

/-- A start tag of a table ends a selection in it. -/
theorem readsOn_inSelectInTable (s : Construction) (t : Token) : ReadsOn t s.reading (s.inSelectInTable t) := by
  have hinSelect := readsOn_inSelect s t
  cases t with
  | startTag tag => exact .ite (fun _ => .same (by simp)) hinSelect
  | endTag tag => exact .ite (fun _ => .same (by simp)) hinSelect
  | character | comment | doctype | fault | endOfFile => exact hinSelect

/-! ### Frames, and behind the body -/

/-- Behind the body blanks go into it. -/
theorem readsOn_afterBody (s : Construction) (t : Token) : ReadsOn t s.reading (s.afterBody t) := by
  cases t with
  | character c => exact .ite (fun _ => readsOn_inBody s _) (.same rfl)
  | comment | startTag | endTag | doctype | fault | endOfFile => exact .same (by simp [afterBody])

/-- Behind the root blanks go into the body too. -/
theorem readsOn_afterAfterBody (s : Construction) (t : Token) : ReadsOn t s.reading (s.afterAfterBody t) := by
  cases t with
  | character c => exact .ite (fun _ => readsOn_inBody s _) (.same rfl)
  | comment | startTag | endTag | doctype | fault | endOfFile => exact .same (by simp [afterAfterBody])

/-- Between frames only `noframes` asks for a reading. -/
theorem readsOn_inFrameset (s : Construction) (t : Token) : ReadsOn t s.reading (s.inFrameset t) := by
  cases t with
  | startTag tag =>
    exact .ite (fun _ => .same (by simp)) <|
      .ite (fun _ => .same (by simp)) <|
      .ite (fun _ => .same (by simp)) <|
      .ite (fun _ => readsOn_inHead s _) (.same rfl)
  | character | comment | endTag | doctype | fault | endOfFile => exact .same (by simp [inFrameset])

/-- Behind the frames `noframes` asks for a reading as it does between them. -/
theorem readsOn_afterFrameset (s : Construction) (t : Token) : ReadsOn t s.reading (s.afterFrameset t) := by
  cases t with
  | startTag tag =>
    exact .ite (fun _ => .same (by simp)) <| .ite (fun _ => readsOn_inHead s _) (.same rfl)
  | character | comment | endTag | doctype | fault | endOfFile => exact .same (by simp [afterFrameset])

theorem readsOn_afterAfterFrameset (s : Construction) (t : Token) :
    ReadsOn t s.reading (s.afterAfterFrameset t) := by
  cases t with
  | character c => exact .ite (fun _ => readsOn_inBody s _) (.same rfl)
  | startTag tag =>
    exact .ite (fun _ => .same (by simp)) <| .ite (fun _ => readsOn_inHead s _) (.same rfl)
  | comment | endTag | doctype | fault | endOfFile => exact .same (by simp [afterAfterFrameset])

/-! ## A token as a whole -/

/-- The rules of every mode. -/
theorem readsOn_byMode (s : Construction) (t : Token) : ReadsOn t s.reading (s.byMode t) := by
  rw [byMode]
  split
  · exact readsOn_initial s t
  · exact readsOn_beforeHtml s t
  · exact readsOn_beforeHead s t
  · exact readsOn_inHead s t
  · exact readsOn_afterHead s t
  · exact readsOn_inBody s t
  · exact readsOn_inText s t
  · exact readsOn_inTable s t
  · exact readsOn_inTableText s t
  · exact readsOn_inCaption s t
  · exact readsOn_inColumnGroup s t
  · exact readsOn_inTableBody s t
  · exact readsOn_inRow s t
  · exact readsOn_inCell s t
  · exact readsOn_inSelect s t
  · exact readsOn_inSelectInTable s t
  · exact readsOn_inTemplate s t
  · exact readsOn_afterBody s t
  · exact readsOn_inFrameset s t
  · exact readsOn_afterFrameset s t
  · exact readsOn_afterAfterBody s t
  · exact readsOn_afterAfterFrameset s t

/-- The rules of other vocabularies ask for nothing themselves. -/
theorem readsOn_foreign (s : Construction) (t : Token) : ReadsOn t s.reading (s.foreign t) := by
  cases t with
  | character c => exact .same (by simp [foreign])
  | comment text => exact .same (by simp [foreign])
  | startTag tag => exact .same (by simp [foreign, foreignStart])
  | endTag tag =>
    simp only [foreign, foreignEnd]
    split
    · exact .same rfl
    · exact readsOn_byMode s _
  | doctype | fault | endOfFile => exact .same rfl

/-- A token may be taken again under other rules, and then is still the same start tag. -/
theorem readsOn_settle (t : Token) (n : Nat) (s : Construction) : ReadsOn t s.reading (settle t n s) := by
  induction n generalizing s with
  | zero => exact .same rfl
  | succ n ih =>
    have hstep : ReadsOn t s.reading (if s.isForeign t then s.foreign t else s.byMode t) :=
      .ite (fun _ => readsOn_foreign s t) (readsOn_byMode s t)
    rw [settle]
    generalize (if s.isForeign t then s.foreign t else s.byMode t) = s' at hstep
    exact .ite (fun _ => hstep.trans (ih { s' with again := false })) hstep

/-- **A token changes how the text is read only where it is a start tag that asks for it by its name.** -/
theorem readsOn_take (s : Construction) (t : Token) : ReadsOn t s.reading (s.take t) := by
  have hsettle : ReadsOn t s.reading (settle t (8 * (s.openElements.length + 4)) { s with dropsLineFeed := false }) :=
    readsOn_settle t _ _
  cases t with
  | fault => exact .same rfl
  | doctype d =>
    refine .ite (fun _ => .same rfl) (.same ?_)
    simp
  | startTag | endTag | character | comment | endOfFile => exact .ite (fun _ => .same rfl) hsettle

/-- Tokens without start tags leave the reading as it is. -/
theorem reading_takeAll {ts : List Token} (hts : ∀ t ∈ ts, ∀ tag, t ≠ .startTag tag) (s : Construction) :
    (ts.foldl take s).reading = s.reading := by
  induction ts generalizing s with
  | nil => rfl
  | cons t ts ih =>
    rw [List.forall_mem_cons] at hts
    rw [List.foldl_cons, ih hts.2, (readsOn_take s t).eq_of_not_start hts.1]

end Construction

end Vitrine.Html
