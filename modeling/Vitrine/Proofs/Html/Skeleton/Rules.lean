import Vitrine.Html.Construction.Step
import Vitrine.Proofs.Html.Skeleton.Formatting

/-!
# No token moves the root or the head (section 4.6)

Every set of rules that is used once the head is there keeps the invariant `Sound`, and with it a token does
as a whole. The proofs go through the rules in the order of the definitions.

These are the rules that `parse` of the `DocumentBuilder` goes by, twenty-two modes and foreign content.

* `Sound.inHeadAgain`: the head is opened and closed again for what belongs into it.
* `Sound.byMode`: the rules of any mode but those before the head.
* `Sound.step`: those of foreign content too.
-/

namespace Vitrine.Html.Construction

variable {r h : NodeId} {aside : Bool} {s : Construction}

namespace Sound

/-- The rules choose between states, and know in each what was asked. -/
theorem iteOf {c : Prop} [Decidable c] {s t : Construction} (hs : c → Sound r h aside s)
    (ht : ¬ c → Sound r h aside t) : Sound r h aside (if c then s else t) := by
  split
  · exact hs ‹c›
  · exact ht ‹¬ c›

/-- What was asked does not matter if both states are sound. -/
theorem ite {c : Prop} [Decidable c] {s t : Construction} (hs : Sound r h aside s) (ht : Sound r h aside t) :
    Sound r h aside (if c then s else t) :=
  iteOf (fun _ => hs) fun _ => ht

/-! ## The head -/

/-- A second root adds its attributes to the first. -/
theorem mergeRoot (hs : Sound r h aside s) (tag : Tag) : Sound r h aside (s.mergeRoot tag) := by
  rw [Construction.mergeRoot]
  refine .ite hs ?_
  split
  · exact hs.addAttributes _ _
  · exact hs

/-- The modes of open templates are none of those before the head. -/
theorem templateModes {l : List Mode} (hs : Sound r h aside s) (hl : ∀ m ∈ l, m.IsLasting) :
    Sound r h aside { s with templateModes := l } :=
  { hs with templates := hl }

/-- A template is opened as any element, and a mode of its own with it. -/
theorem openTemplate (hs : Sound r h aside s) {tag : Tag} (htag : tag.MayHold) :
    Sound r h aside (s.openTemplate tag) := by
  have hopen := (hs.insert htag).markFormatting.forbidFrames
  have hlasting : Mode.inTemplate.IsLasting := by decide
  exact (hopen.mode hlasting).templateModes (List.forall_mem_cons.mpr ⟨hlasting, hopen.templates⟩)

/-- The mode behind a template is again one behind the head. -/
theorem leaveTemplate (hs : Sound r h aside s) : Sound r h aside s.leaveTemplate := by
  have hleft := hs.forgetFormatting.templateModes
    (l := s.templateModes.drop 1) fun m hm => hs.templates m (List.drop_subset 1 _ hm)
  exact hleft.switchTo hleft.properMode_lasting

theorem closeTemplate (hs : Sound r h aside s) : Sound r h aside s.closeTemplate :=
  .ite hs ((hs.dropWhile _).popThroughTag "template").leaveTemplate

/-- The end of the text closes templates one at a time. -/
theorem endInTemplate (hs : Sound r h aside s) : Sound r h aside s.endInTemplate := by
  refine .ite hs ?_
  have hleft := (hs.popThroughTag "template").leaveTemplate
  exact { hleft with }

/-- What belongs into the head is opened in it, and anything else leaves it. -/
theorem inHead (hs : Sound r h aside s) (t : Token) : Sound r h aside (s.inHead t) := by
  have hotherwise : Sound r h aside (s.pop.retry .afterHead) := hs.pop.retry (by decide)
  cases t with
  | character c => exact .ite (hs.putCharacter c) hotherwise
  | comment text => exact hs.putComment text
  | startTag tag =>
    exact .ite (hs.mergeRoot tag) <|
      .ite (hs.insertEmpty tag) <|
      .iteOf (fun hc => hs.insertRaw (tag.mayHold_of_name hc (by decide)) _) fun _ =>
      .iteOf (fun hc => hs.insertRaw (tag.mayHold_of_contains hc (by decide)) _) fun _ =>
      .iteOf (fun hc => hs.insertRaw (tag.mayHold_of_name hc (by decide)) _) fun _ =>
      .iteOf (fun hc => hs.openTemplate (tag.mayHold_of_name hc (by decide))) fun _ =>
      .ite hs hotherwise
  | endTag tag =>
    exact .ite (hs.pop.switchTo (by decide)) <| .ite hotherwise <| .ite hs.closeTemplate hs
  | doctype | fault | endOfFile => exact hotherwise

/-- The head may be open above other elements as long as it stays aside. -/
theorem pushHead (hs : Sound r h false s) : Sound r h true (s.push ⟨h, ⟨.html, "head"⟩, false⟩) :=
  { hs with
    opened := List.forall_mem_cons.mpr ⟨hs.framed.head, hs.opened⟩
    holding := List.forall_mem_cons.mpr
      ⟨show (⟨.html, "head"⟩ : ElementName).isHtml emptyTags = false by decide, hs.holding⟩
    ordered := List.pairwise_cons.mpr
      ⟨fun _ _ hu => (hu.elim hs.framed.head_ne_root nofun).elim,
        hs.ordered.imp fun hu hupper => hu (hupper.imp_right nofun)⟩ }

/-- The head is taken out of the open elements wherever it stands among them, so nothing is aside any more. -/
theorem closeHead (hs : Sound r h true s) : Sound r h false (s.close h) := by
  have hclosed := hs.close h
  refine { hclosed with ordered := hclosed.ordered.imp_of_mem fun hupper _ hu hup => hu ?_ }
  rcases hup with hup | ⟨hup, -⟩
  · exact .inl hup
  · have hne := (List.mem_filter.mp hupper).2
    exact absurd hup (by simpa using hne)

/-- Behind the head its rules are used with the head open, aside. -/
theorem inHeadAgain (hs : Sound r h false s) (t : Token) : Sound r h false (s.inHeadAgain t) := by
  rw [Construction.inHeadAgain, hs.known]
  exact (hs.pushHead.inHead t).closeHead

/-- Behind the head the body or frames are opened, and what belongs into the head is put there. -/
theorem afterHead (hs : Sound r h false s) (t : Token) : Sound r h false (s.afterHead t) := by
  have hotherwise : Sound r h false ((s.insertNamed "body").retry .inBody) :=
    (hs.insertNamed (by decide)).retry (by decide)
  cases t with
  | character c => exact .ite (hs.putCharacter c) hotherwise
  | comment text => exact hs.putComment text
  | startTag tag =>
    exact .ite (hs.mergeRoot tag) <|
      .iteOf (fun hc =>
        (hs.insert (tag.mayHold_of_name hc (by decide))).forbidFrames.switchTo (by decide)) fun _ =>
      .iteOf (fun hc => (hs.insert (tag.mayHold_of_name hc (by decide))).switchTo (by decide)) fun _ =>
      .ite (hs.inHeadAgain _) <|
      .ite hs hotherwise
  | endTag tag => exact .ite (hs.inHead _) <| .ite hotherwise hs
  | doctype | fault | endOfFile => exact hotherwise

/-! ## The body -/

/-- Formatting elements are opened again before a character is put. -/
theorem bodyCharacter (hs : Sound r h aside s) (c : Char) : Sound r h aside (s.bodyCharacter c) :=
  .ite hs <| (Sound.ite hs.reopen hs.reopen.forbidFrames).putCharacter c

theorem mergeBody (hs : Sound r h aside s) (tag : Tag) : Sound r h aside (s.mergeBody tag) := by
  rw [Construction.mergeBody]
  split
  · exact .ite hs (hs.forbidFrames.addAttributes _ _)
  · exact hs

/-- The body is neither the root nor the head. -/
theorem movable_body (hs : Sound r h aside s) {node : NodeId} (hbody : s.bodyIfOpen? = some node) :
    Movable r h s.store node := by
  rw [bodyIfOpen?] at hbody
  split at hbody
  · rename_i root e rest hopen
    split at hbody
    · rename_i hname
      obtain rfl := Option.some.inj hbody
      have hname : e.name = ⟨.html, "body"⟩ := by
        cases hn : e.name
        simpa [ElementName.isHtml, hn] using hname
      have he := hs.opened e (List.mem_reverse.mp (hopen ▸ by simp))
      exact ⟨he.lt, hs.framed.ne_of_name he (hname ▸ by decide) (hname ▸ by decide)⟩
    · cases hbody
  · cases hbody

/-- Frames are put into the root in place of the body, and all else is closed. -/
theorem replaceBody (hs : Sound r h aside s) {tag : Tag} (htag : tag.MayHold) :
    Sound r h aside (s.replaceBody tag) := by
  rw [Construction.replaceBody]
  refine .ite hs ?_
  split
  · rename_i node root hbody hroot
    have hnode := hs.movable_body hbody
    have hout := hs.restore (hs.framed.linked.detach node) hnode.keeps_detach (hnode.tidy_detach hs.tidy)
    have hopen : [root].Sublist s.openElements :=
      List.singleton_sublist.mpr (List.mem_of_getLast? hroot)
    exact ((hout.shrink hopen).insert htag).switchTo (by decide)
  · exact hs

/-- A form is opened unless one is open, and is remembered as such. -/
theorem openForm (hs : Sound r h aside s) {tag : Tag} (htag : tag.MayHold) :
    Sound r h aside (s.openForm tag) := by
  have hopen := hs.endParagraph.insert htag
  exact .ite hs (.ite hopen hopen.irrelevant)

theorem openItem (hs : Sound r h aside s) {tag : Tag} (htag : tag.MayHold) :
    Sound r h aside (s.openItem tag) := by
  simp only [Construction.openItem]
  split
  · rename_i name _
    exact ((hs.forbidFrames.closeImplied [name]).popThroughTag name).endParagraph.insert htag
  · exact hs.forbidFrames.endParagraph.insert htag

theorem openButton (hs : Sound r h aside s) {tag : Tag} (htag : tag.MayHold) :
    Sound r h aside (s.openButton tag) :=
  ((Sound.ite ((hs.closeImplied []).popThroughTag "button") hs).reopen.insert htag).forbidFrames

/-- This formatting element may not stand in another one of its kind. -/
theorem openNobr (hs : Sound r h false s) {tag : Tag} (htag : tag.MayHold) :
    Sound r h false (s.openNobr tag) :=
  (Sound.ite (hs.reopen.adopt "nobr").reopen hs.reopen).insertFormatting htag

/-- A selection is opened in a mode of its own, which depends on whether a table is around. -/
theorem openSelect (hs : Sound r h aside s) {tag : Tag} (htag : tag.MayHold) :
    Sound r h aside (s.openSelect tag) :=
  (hs.reopen.insert htag).forbidFrames.switchTo (by split <;> decide)

theorem openRuby (hs : Sound r h aside s) {tag : Tag} (htag : tag.MayHold) :
    Sound r h aside (s.openRuby tag) :=
  (Sound.ite (hs.closeImplied _) hs).insert htag

/-- An element that is always empty is put and closed at once. -/
theorem insertVoid (hs : Sound r h aside s) (tag : Tag) : Sound r h aside (s.insertVoid tag) :=
  .ite (hs.reopen.insertEmpty tag) (hs.reopen.insertEmpty tag).forbidFrames

/-- The element of another vocabulary may hold children whatever its name is. -/
theorem openForeign (hs : Sound r h aside s) (vocabulary : Vocabulary) (hforeign : vocabulary ≠ .html)
    (tag : Tag) : Sound r h aside (s.openForeign vocabulary tag) :=
  hs.insertForeign hforeign _

/-- Elements that are always empty have rules of their own, or are dropped. -/
theorem mayHold_of_other {tag : Tag} (hhead : ¬ headTags.contains tag.name = true)
    (hvoid : ¬ ["area", "br", "embed", "img", "keygen", "wbr", "input"].contains tag.name = true)
    (hmedia : ¬ ["param", "source", "track"].contains tag.name = true)
    (hrule : ¬ ["hr"].contains tag.name = true)
    (hdropped : ¬ ["caption", "col", "colgroup", "frame", "head", "tbody", "td", "tfoot", "th", "thead",
      "tr"].contains tag.name = true) : tag.MayHold := by
  have hcover : ∀ t ∈ emptyTags, t ∈ headTags ∨
      t ∈ ["area", "br", "embed", "img", "keygen", "wbr", "input"] ∨ t ∈ ["param", "source", "track"] ∨
      t ∈ ["hr"] ∨ t ∈ ["caption", "col", "colgroup", "frame", "head", "tbody", "td", "tfoot", "th",
        "thead", "tr"] := by decide
  rw [List.contains_iff_mem] at hhead hvoid hmedia hrule hdropped
  intro hempty
  rcases hcover _ hempty with h | h | h | h | h
  · exact hhead h
  · exact hvoid h
  · exact hmedia h
  · exact hrule h
  · exact hdropped h

/-- Each start tag of the body opens an element that may hold children, or puts one that is closed at once. -/
theorem bodyStart (hs : Sound r h false s) (tag : Tag) : Sound r h false (s.bodyStart tag) := by
  have hheading : Sound r h false
      (if s.endParagraph.currentIs headingTags then s.endParagraph.pop else s.endParagraph) :=
    .ite hs.endParagraph.pop hs.endParagraph
  have htable : Sound r h false (if s.isOld then s else s.endParagraph) := .ite hs hs.endParagraph
  have hoption : Sound r h false (if s.currentIs ["option"] then s.pop else s) := .ite hs.pop hs
  have holds {tags : List String} (htags : ∀ t ∈ tags, t ∉ emptyTags)
      (hc : tags.contains tag.name = true) : tag.MayHold := tag.mayHold_of_contains hc htags
  rw [Construction.bodyStart]
  exact .ite (hs.mergeRoot tag) <|
    .iteOf (fun _ => hs.inHead _) fun hhead =>
    .ite (hs.mergeBody tag) <|
    .iteOf (fun hc => hs.replaceBody (holds (by decide) hc)) fun _ =>
    .iteOf (fun hc => hs.endParagraph.insert (holds (by decide) hc)) fun _ =>
    .iteOf (fun hc => hheading.insert (holds (by decide) hc)) fun _ =>
    .iteOf (fun hc => (hs.endParagraph.insert (holds (by decide) hc)).forbidFrames.irrelevant) fun _ =>
    .iteOf (fun hc => hs.openForm (holds (by decide) hc)) fun _ =>
    .iteOf (fun hc => hs.openItem (holds (by decide) hc)) fun _ =>
    .iteOf (fun hc => (hs.endParagraph.insert (holds (by decide) hc)).irrelevant) fun _ =>
    .iteOf (fun hc => hs.openButton (holds (by decide) hc)) fun _ =>
    .iteOf (fun hc => hs.closeLink.reopen.insertFormatting (holds (by decide) hc)) fun _ =>
    .iteOf (fun hc => hs.reopen.insertFormatting (holds (by decide) hc)) fun _ =>
    .iteOf (fun hc => hs.openNobr (holds (by decide) hc)) fun _ =>
    .iteOf (fun hc => (hs.reopen.insert (holds (by decide) hc)).markFormatting.forbidFrames) fun _ =>
    .iteOf (fun hc => (htable.insert (holds (by decide) hc)).forbidFrames.switchTo (by decide)) fun _ =>
    .iteOf (fun _ => hs.insertVoid tag) fun hvoid =>
    .iteOf (fun _ => hs.insertEmpty tag) fun hmedia =>
    .iteOf (fun _ => (hs.endParagraph.insertEmpty tag).forbidFrames) fun hrule =>
    .ite (hs.insertVoid _) <|
    .iteOf (fun hc => (hs.forbidFrames.insertRaw (holds (by decide) hc) _).irrelevant) fun _ =>
    .iteOf (fun hc => hs.endParagraph.reopen.forbidFrames.insertRaw (holds (by decide) hc) _) fun _ =>
    .iteOf (fun hc => hs.forbidFrames.insertRaw (holds (by decide) hc) _) fun _ =>
    .iteOf (fun hc => hs.insertRaw (holds (by decide) hc) _) fun _ =>
    .iteOf (fun hc => hs.openSelect (holds (by decide) hc)) fun _ =>
    .iteOf (fun hc => hoption.reopen.insert (holds (by decide) hc)) fun _ =>
    .iteOf (fun hc => hs.openRuby (holds (by decide) hc)) fun _ =>
    .ite (hs.openForeign .mathml nofun tag) <|
    .ite (hs.openForeign .svg nofun tag) <|
    .iteOf (fun _ => hs) fun hdropped =>
    hs.reopen.insert (mayHold_of_other hhead hvoid hmedia hrule hdropped)

/-- The end tag of a form closes the form that is remembered, wherever it stands among the open elements. -/
theorem closeForm (hs : Sound r h aside s) : Sound r h aside s.closeForm := by
  rw [Construction.closeForm]
  refine .ite (.ite ((hs.closeImplied []).popThroughTag "form") hs) ?_
  split
  · exact hs
  · have hforgot : Sound r h aside { s with form := none } := hs.irrelevant
    exact .ite ((hforgot.closeImplied []).close _) hforgot

/-- An end tag closes down to its element, if this is in scope. -/
theorem closeScoped (hs : Sound r h aside s) (ends : ElementName → Bool) (tag : String)
    (kept : List String) : Sound r h aside (s.closeScoped ends tag kept) :=
  .ite ((hs.closeImplied kept).popThroughTag tag) hs

/-- An end tag of the body closes elements, or moves blocks around a formatting element. -/
theorem bodyEnd (hs : Sound r h false s) (tag : Tag) : Sound r h false (s.bodyEnd tag) := by
  rw [Construction.bodyEnd]
  exact .ite (hs.inHead _) <|
    .ite (.ite (hs.switchTo (by decide)) hs) <|
    .ite (.ite (hs.retry (by decide)) hs) <|
    .ite (hs.closeScoped _ _ _) <|
    .ite hs.closeForm <|
    .ite (Sound.ite hs (hs.insertNamed (by decide))).closeParagraph <|
    .ite (hs.closeScoped _ _ _) <|
    .ite (hs.closeScoped _ _ _) <|
    .ite (.ite ((hs.closeImplied []).popThrough _) hs) <|
    .ite (hs.adopt tag.name) <|
    .ite (.ite ((hs.closeImplied []).popThroughTag tag.name).forgetFormatting hs) <|
    .ite (hs.insertVoid _) (hs.endOther tag.name)

theorem inBody (hs : Sound r h false s) (t : Token) : Sound r h false (s.inBody t) := by
  cases t with
  | character c => exact hs.bodyCharacter c
  | comment text => exact hs.putComment text
  | startTag tag => exact hs.bodyStart tag
  | endTag tag => exact hs.bodyEnd tag
  | endOfFile => exact .ite hs hs.endInTemplate
  | doctype | fault => exact hs

/-- What may not stand in a table is put in front of it by the rules of the body. -/
theorem foster (hs : Sound r h false s) (t : Token) : Sound r h false (s.foster t) := by
  have hfosters : Sound r h false { s with fosters := true } := hs.irrelevant
  exact (hfosters.inBody t).irrelevant

/-- The mode that was left for text comes back. -/
theorem resume (hs : Sound r h aside s) (hpause : s.mode.isPause = true) :
    Sound r h aside { s with mode := s.resumed } :=
  { hs with
    late := hs.resumes hpause
    resumes := fun _ => hs.resumes hpause }

/-- The content of a raw element ends with the mode that was left for it. -/
theorem inText (hs : Sound r h aside s) (hmode : s.mode = .text) (t : Token) :
    Sound r h aside (s.inText t) := by
  have hresumed := hs.pop.resume (by rw [Construction.pop, hmode]; rfl)
  cases t with
  | character c => exact hs.putCharacter c
  | endTag tag => exact hresumed
  | endOfFile => exact hresumed.irrelevant
  | comment | startTag | doctype | fault => exact hs

/-- In a template a start tag that does not belong into the head chooses the mode of what follows. -/
theorem inTemplate (hs : Sound r h false s) (t : Token) : Sound r h false (s.inTemplate t) := by
  have hinBody := hs.inBody t
  have hinHead := hs.inHead t
  cases t with
  | character | comment => exact hinBody
  | startTag tag =>
    have hmode : (templateMode tag).IsLasting := by
      rw [templateMode]
      split_ifs <;> decide
    have hmodes : ∀ m ∈ templateMode tag :: s.templateModes.drop 1, m.IsLasting :=
      List.forall_mem_cons.mpr ⟨hmode, fun m hm => hs.templates m (List.drop_subset 1 _ hm)⟩
    exact .ite hinHead ((hs.templateModes hmodes).retry hmode)
  | endTag tag => exact .ite hinHead hs
  | endOfFile => exact hs.endInTemplate
  | doctype | fault => exact hs

/-! ## Tables -/

/-- The characters of a table wait until it is known whether they are blank. -/
theorem tableCharacter (hs : Sound r h false s) (c : Char) : Sound r h false (s.tableCharacter c) := by
  refine .ite ?_ (hs.foster _)
  exact { hs with
    late := rfl
    resumes := fun _ => hs.late }

/-- A start tag in a table opens a part of it, closing what is open down to where the part belongs. -/
theorem tableStart (hs : Sound r h false s) (tag : Tag) : Sound r h false (s.tableStart tag) := by
  have hcleared := hs.popTo ["html", "table", "template"]
  have hleft := hs.popThroughTag "table"
  rw [Construction.tableStart]
  have holds {tags : List String} (htags : ∀ t ∈ tags, t ∉ emptyTags)
      (hc : tags.contains tag.name = true) : tag.MayHold := tag.mayHold_of_contains hc htags
  exact .iteOf (fun hc => (hcleared.markFormatting.insert (holds (by decide) hc)).switchTo (by decide)) fun _ =>
    .iteOf (fun hc => (hcleared.insert (holds (by decide) hc)).switchTo (by decide)) fun _ =>
    .ite ((hcleared.insertNamed (by decide)).retry (by decide)) <|
    .iteOf (fun hc => (hcleared.insert (holds (by decide) hc)).switchTo (by decide)) fun _ =>
    .ite ((hcleared.insertNamed (by decide)).retry (by decide)) <|
    .ite (.ite (hleft.retry hleft.properMode_lasting) hs) <|
    .ite (hs.inHead _) <|
    .ite (.ite (hs.insertEmpty tag) (hs.foster _)) <|
    .ite (.ite hs (hs.newElement .html tag).irrelevant) (hs.foster _)

/-- The end tag of a table closes it, and the mode is found from what is open then. -/
theorem tableEnd (hs : Sound r h false s) (tag : Tag) : Sound r h false (s.tableEnd tag) := by
  have hleft := hs.popThroughTag "table"
  rw [Construction.tableEnd]
  exact .ite (.ite (hleft.switchTo hleft.properMode_lasting) hs) <|
    .ite hs <| .ite (hs.inHead _) (hs.foster _)

theorem inTable (hs : Sound r h false s) (t : Token) : Sound r h false (s.inTable t) := by
  have hinBody := hs.inBody t
  cases t with
  | character c => exact hs.tableCharacter c
  | comment text => exact hs.putComment text
  | startTag tag => exact hs.tableStart tag
  | endTag tag => exact hs.tableEnd tag
  | endOfFile => exact hinBody
  | doctype | fault => exact hs

end Sound

/-! ### Waiting characters -/

/-- Two states that differ neither in their mode nor in the one to go back to. -/
def SameModes (s s' : Construction) : Prop := s'.mode = s.mode ∧ s'.resumed = s.resumed

theorem Grows.sameModes {s' : Construction} (h : Grows s s') : SameModes s s' := by
  rw [h.rest]
  exact ⟨rfl, rfl⟩

/-- States whose modes are alike in turn have the same modes. -/
theorem SameModes.trans {s' s'' : Construction} (h : SameModes s s') (h' : SameModes s' s'') :
    SameModes s s'' := ⟨h'.1.trans h.1, h'.2.trans h.2⟩

/-- One step that leaves the modes leaves them in all its steps. -/
theorem sameModes_foldl {α : Type} {f : Construction → α → Construction}
    (hf : ∀ s a, SameModes s (f s a)) (as : List α) (s : Construction) : SameModes s (as.foldl f s) := by
  induction as generalizing s with
  | nil => exact ⟨rfl, rfl⟩
  | cons a as ih => exact (hf s a).trans (ih (f s a))

theorem sameModes_reopenEntry (s : Construction) (e : FormatEntry) : SameModes s (s.reopenEntry e) := by
  cases e with
  | marker => exact ⟨rfl, rfl⟩
  | element node tag => exact (grows_newElement s .html tag).sameModes

theorem sameModes_reopen (s : Construction) : SameModes s s.reopen :=
  sameModes_foldl sameModes_reopenEntry _ _

theorem sameModes_bodyCharacter (s : Construction) (c : Char) : SameModes s (s.bodyCharacter c) := by
  rw [bodyCharacter]
  split
  · exact ⟨rfl, rfl⟩
  · have hput := (grows_putCharacter (if isBlank c then s.reopen else s.reopen.forbidFrames) c).sameModes
    refine (sameModes_reopen s).trans (SameModes.trans ?_ hput)
    split <;> exact ⟨rfl, rfl⟩

/-- Putting a character in front of a table leaves the modes, so the next waiting character finds those of the
first. -/
theorem sameModes_foster (s : Construction) (c : Char) : SameModes s (s.foster (.character c)) := by
  have hsame := sameModes_bodyCharacter { s with fosters := true } c
  exact ⟨hsame.1, hsame.2⟩

/-- Characters that waited in a table leave the mode as it is. -/
theorem sameModes_flushTableText (s : Construction) : SameModes s s.flushTableText := by
  rw [flushTableText]
  split
  · exact sameModes_foldl (fun s c => (grows_putCharacter s c).sameModes) _ _
  · exact sameModes_foldl sameModes_foster _ _

namespace Sound

theorem foldl {α : Type} {f : Construction → α → Construction}
    (hf : ∀ {s} a, Sound r h aside s → Sound r h aside (f s a)) (as : List α)
    (hs : Sound r h aside s) : Sound r h aside (as.foldl f s) := by
  induction as generalizing s with
  | nil => exact hs
  | cons a as ih => exact ih (hf a hs)

/-- The characters that waited are put into the table if all are blank, and in front of it otherwise. -/
theorem flushTableText (hs : Sound r h false s) : Sound r h false s.flushTableText := by
  have hemptied : Sound r h false { s with tableText := [] } := hs.irrelevant
  exact .ite (hemptied.foldl (fun c hs => hs.putCharacter c) _)
    (hemptied.foldl (fun c hs => hs.foster (.character c)) _)

/-- The mode of the table comes back with the first token that is no character. -/
theorem inTableText (hs : Sound r h false s) (hmode : s.mode = .inTableText) (t : Token) :
    Sound r h false (s.inTableText t) := by
  have hsame := sameModes_flushTableText s
  have hleave : Sound r h false (s.flushTableText.retry s.resumed) := by
    have hresumed := hs.flushTableText.resume (by rw [hsame.1, hmode]; rfl)
    rw [Construction.retry, ← hsame.2]
    exact hresumed.irrelevant
  cases t with
  | character c => exact .ite hs hs.irrelevant
  | comment | startTag | endTag | doctype | fault | endOfFile => exact hleave

theorem inCaption (hs : Sound r h false s) (t : Token) : Sound r h false (s.inCaption t) := by
  have hinBody := hs.inBody t
  have hclosed := ((hs.closeImplied []).popThroughTag "caption").forgetFormatting
  cases t with
  | startTag tag => exact .ite (.ite (hclosed.retry (by decide)) hs) hinBody
  | endTag tag =>
    exact .ite (.ite (hclosed.switchTo (by decide)) hs) <|
      .ite (.ite (hclosed.retry (by decide)) hs) <| .ite hs hinBody
  | character | comment | doctype | fault | endOfFile => exact hinBody

theorem inColumnGroup (hs : Sound r h false s) (t : Token) : Sound r h false (s.inColumnGroup t) := by
  have hinBody := hs.inBody t
  have hinHead := hs.inHead t
  have hotherwise : Sound r h false
      (if s.currentIs ["colgroup"] then s.pop.retry .inTable else s) :=
    .ite (hs.pop.retry (by decide)) hs
  cases t with
  | character c => exact .ite (hs.putCharacter c) hotherwise
  | comment text => exact hs.putComment text
  | startTag tag =>
    exact .ite (hs.mergeRoot tag) <| .ite (hs.insertEmpty tag) <| .ite hinHead hotherwise
  | endTag tag =>
    exact .ite (.ite (hs.pop.switchTo (by decide)) hs) <| .ite hs <| .ite hinHead hotherwise
  | endOfFile => exact hinBody
  | doctype | fault => exact hotherwise

theorem inTableBody (hs : Sound r h false s) (t : Token) : Sound r h false (s.inTableBody t) := by
  have hinTable := hs.inTable t
  have hcleared := hs.popTo rowGroups
  have hleave : Sound r h false
      (if s.inTableScope ["table", "tbody", "tfoot"] then (s.popTo rowGroups).pop.retry .inTable else s) :=
    .ite (hcleared.pop.retry (by decide)) hs
  cases t with
  | startTag tag =>
    exact .iteOf (fun hc => (hcleared.insert (tag.mayHold_of_name hc (by decide))).switchTo (by decide)) fun _ =>
      .ite ((hcleared.insertNamed (by decide)).retry (by decide)) <| .ite hleave hinTable
  | endTag tag =>
    exact .ite (.ite (hcleared.pop.switchTo (by decide)) hs) <|
      .ite hleave <| .ite hs hinTable
  | character | comment | doctype | fault | endOfFile => exact hinTable

theorem inRow (hs : Sound r h false s) (t : Token) : Sound r h false (s.inRow t) := by
  have hinTable := hs.inTable t
  have hcleared := hs.popTo ["tr", "template", "html"]
  have hleave : Sound r h false (if s.inTableScope ["tr"] then
      (s.popTo ["tr", "template", "html"]).pop.retry .inTableBody else s) :=
    .ite (hcleared.pop.retry (by decide)) hs
  cases t with
  | startTag tag =>
    exact .iteOf (fun hc =>
        ((hcleared.insert (tag.mayHold_of_contains hc (by decide))).switchTo (by decide)).markFormatting) fun _ =>
      .ite hleave hinTable
  | endTag tag =>
    exact .ite (.ite (hcleared.pop.switchTo (by decide)) hs) <|
      .ite hleave <| .ite (.ite hleave hs) <| .ite hs hinTable
  | character | comment | doctype | fault | endOfFile => exact hinTable

theorem closeCell (hs : Sound r h aside s) : Sound r h aside s.closeCell :=
  ((hs.closeImplied []).popThrough _).forgetFormatting.retry (by decide)

/-- A cell closes with the next one, with its row or with its table. -/
theorem inCell (hs : Sound r h false s) (t : Token) : Sound r h false (s.inCell t) := by
  have hinBody := hs.inBody t
  cases t with
  | startTag tag => exact .ite (.ite hs.closeCell hs) hinBody
  | endTag tag =>
    have hclosed := ((hs.closeImplied []).popThroughTag tag.name).forgetFormatting
    exact .ite (.ite (hclosed.switchTo (by decide)) hs) <|
      .ite hs <| .ite (.ite hs.closeCell hs) hinBody
  | character | comment | doctype | fault | endOfFile => exact hinBody

/-! ## Selections -/

theorem selectStart (hs : Sound r h false s) (tag : Tag) : Sound r h false (s.selectStart tag) := by
  have hpopIf : ∀ {s : Construction} (name : String), Sound r h false s →
      Sound r h false (if s.currentIs [name] then s.pop else s) := fun name hs => .ite hs.pop hs
  have hleft := hs.popThroughTag "select"
  rw [Construction.selectStart]
  exact .ite (hs.mergeRoot tag) <|
    .iteOf (fun hc => (hpopIf "option" hs).insert (tag.mayHold_of_name hc (by decide))) fun _ =>
    .iteOf (fun hc =>
      (hpopIf "optgroup" (hpopIf "option" hs)).insert (tag.mayHold_of_name hc (by decide))) fun _ =>
    .ite (.ite (hleft.switchTo hleft.properMode_lasting) hs) <|
    .ite (.ite (hleft.retry hleft.properMode_lasting) hs) <|
    .ite (hs.inHead _) hs

/-- The end of a selection closes it, and the mode is found from what is open then. -/
theorem selectEnd (hs : Sound r h false s) (tag : Tag) : Sound r h false (s.selectEnd tag) := by
  have hleft := hs.popThroughTag "select"
  rw [Construction.selectEnd]
  refine .ite ?_ <| .ite (.ite hs.pop hs) <|
    .ite (.ite (hleft.switchTo hleft.properMode_lasting) hs) <| .ite (hs.inHead _) hs
  dsimp only
  split
  · exact .ite (Sound.ite hs.pop hs).pop (.ite hs.pop hs)
  · exact .ite hs.pop hs

theorem inSelect (hs : Sound r h false s) (t : Token) : Sound r h false (s.inSelect t) := by
  have hinBody := hs.inBody t
  cases t with
  | character c => exact .ite hs (hs.putCharacter c)
  | comment text => exact hs.putComment text
  | startTag tag => exact hs.selectStart tag
  | endTag tag => exact hs.selectEnd tag
  | endOfFile => exact hinBody
  | doctype | fault => exact hs

theorem inSelectInTable (hs : Sound r h false s) (t : Token) : Sound r h false (s.inSelectInTable t) := by
  have hinSelect := hs.inSelect t
  have hleft := hs.popThroughTag "select"
  have hleave := hleft.retry hleft.properMode_lasting
  cases t with
  | startTag tag => exact .ite hleave hinSelect
  | endTag tag => exact .ite (.ite hleave hs) hinSelect
  | character | comment | doctype | fault | endOfFile => exact hinSelect

/-! ## Frames, and behind the body -/

/-- Behind the body a comment goes to the root, as its last child. -/
theorem afterBody (hs : Sound r h false s) (t : Token) : Sound r h false (s.afterBody t) := by
  have hinBody := hs.inBody t
  have hotherwise : Sound r h false (s.retry .inBody) := hs.retry (by decide)
  cases t with
  | character c => exact .ite hinBody hotherwise
  | comment text => exact hs.putCommentIn hs.hosts_root text
  | startTag tag => exact .ite (hs.mergeRoot tag) hotherwise
  | endTag tag => exact .ite (hs.switchTo (by decide)) hotherwise
  | endOfFile => exact hs
  | doctype | fault => exact hotherwise

/-- Behind the root a comment goes to the document, behind the root. -/
theorem afterAfterBody (hs : Sound r h false s) (t : Token) : Sound r h false (s.afterAfterBody t) := by
  have hinBody := hs.inBody t
  have hotherwise : Sound r h false (s.retry .inBody) := hs.retry (by decide)
  cases t with
  | character c => exact .ite hinBody hotherwise
  | comment text => exact hs.putCommentIn hs.framed.hosts_document text
  | startTag tag => exact .ite (hs.mergeRoot tag) hotherwise
  | endOfFile => exact hs
  | endTag | doctype | fault => exact hotherwise

/-- Frames are opened in frames, and the outermost closes into a mode behind the body. -/
theorem inFrameset (hs : Sound r h false s) (t : Token) : Sound r h false (s.inFrameset t) := by
  have hinHead := hs.inHead t
  cases t with
  | character c => exact .ite (hs.putCharacter c) hs
  | comment text => exact hs.putComment text
  | startTag tag =>
    exact .ite (hs.mergeRoot tag) <|
      .iteOf (fun hc => hs.insert (tag.mayHold_of_name hc (by decide))) fun _ =>
      .ite (hs.insertEmpty tag) <| .ite hinHead hs
  | endTag tag => exact .ite hs (.ite hs.pop (hs.pop.switchTo (by decide)))
  | doctype | fault | endOfFile => exact hs

theorem afterFrameset (hs : Sound r h false s) (t : Token) : Sound r h false (s.afterFrameset t) := by
  have hinHead := hs.inHead t
  cases t with
  | character c => exact .ite (hs.putCharacter c) hs
  | comment text => exact hs.putComment text
  | startTag tag => exact .ite (hs.mergeRoot tag) <| .ite hinHead hs
  | endTag tag => exact .ite (hs.switchTo (by decide)) hs
  | doctype | fault | endOfFile => exact hs

theorem afterAfterFrameset (hs : Sound r h false s) (t : Token) :
    Sound r h false (s.afterAfterFrameset t) := by
  have hinBody := hs.inBody t
  have hinHead := hs.inHead t
  cases t with
  | character c => exact .ite hinBody hs
  | comment text => exact hs.putCommentIn hs.framed.hosts_document text
  | startTag tag => exact .ite (hs.mergeRoot tag) <| .ite hinHead hs
  | endTag | doctype | fault | endOfFile => exact hs

/-! ## All rules -/

/-- **The rules of any mode but the early ones leave root and head in place.** -/
theorem byMode (hs : Sound r h false s) (t : Token) : Sound r h false (s.byMode t) := by
  have hlate := hs.late
  rw [Construction.byMode]
  split <;> rename_i hmode
  · rw [hmode] at hlate
    exact absurd hlate nofun
  · rw [hmode] at hlate
    exact absurd hlate nofun
  · rw [hmode] at hlate
    exact absurd hlate nofun
  · exact hs.inHead t
  · exact hs.afterHead t
  · exact hs.inBody t
  · exact hs.inText hmode t
  · exact hs.inTable t
  · exact hs.inTableText hmode t
  · exact hs.inCaption t
  · exact hs.inColumnGroup t
  · exact hs.inTableBody t
  · exact hs.inRow t
  · exact hs.inCell t
  · exact hs.inSelect t
  · exact hs.inSelectInTable t
  · exact hs.inTemplate t
  · exact hs.afterBody t
  · exact hs.inFrameset t
  · exact hs.afterFrameset t
  · exact hs.afterAfterBody t
  · exact hs.afterAfterFrameset t

/-- Foreign content goes on in the vocabulary of its element. -/
theorem vocabulary_of_isForeign {t : Token} (hforeign : s.isForeign t = true) :
    (s.current?.map (·.name.vocabulary)).getD .html ≠ .html := by
  cases hcurrent : s.current? with
  | none => cases t <;> simp [isForeign, hcurrent] at hforeign
  | some e =>
    intro hhtml
    have he : e.name.vocabulary = .html := hhtml
    cases t <;> simp [isForeign, hcurrent, he] at hforeign

/-- The start tag of another vocabulary opens an element in the one of its parent. -/
theorem foreignStart (hs : Sound r h aside s) {tag : Tag} (hforeign : s.isForeign (.startTag tag) = true) :
    Sound r h aside (s.foreignStart tag) :=
  .ite (hs.pop.dropWhile _).irrelevant (hs.insertForeign (vocabulary_of_isForeign hforeign) _)

/-- What an end tag of another vocabulary leaves open was open. -/
theorem closedForeign?_sublist {tag : String} {es whole l : List OpenElement} {first : Bool}
    (hes : es.Sublist whole) (h : closedForeign? tag es first whole = some l) : l.Sublist whole := by
  induction es generalizing first with
  | nil => exact Option.some.inj h ▸ List.Sublist.refl _
  | cons e es ih =>
    cases es with
    | nil => exact Option.some.inj h ▸ List.Sublist.refl _
    | cons e' es =>
      have htail : (e' :: es).Sublist whole := (List.sublist_cons_self e _).trans hes
      rw [closedForeign?] at h
      split at h
      · exact absurd h nofun
      · split at h
        · exact Option.some.inj h ▸ htail
        · exact ih htail h
      · nofun

/-- The end tag of another vocabulary closes down to its element, or is left to the rules of the mode if an element of
markup comes first. -/
theorem foreignEnd (hs : Sound r h false s) (tag : Tag) : Sound r h false (s.foreignEnd tag) := by
  rw [Construction.foreignEnd]
  split
  · rename_i hclosed
    exact hs.shrink (closedForeign?_sublist (List.Sublist.refl _) hclosed)
  · exact hs.byMode _

theorem foreign (hs : Sound r h false s) {t : Token} (hforeign : s.isForeign t = true) :
    Sound r h false (s.foreign t) := by
  cases t with
  | character c =>
    exact .ite (hs.putCharacter _) ((Sound.ite hs hs.forbidFrames).putCharacter c)
  | comment text => exact hs.putComment text
  | startTag tag => exact hs.foreignStart hforeign
  | endTag tag => exact hs.foreignEnd tag
  | doctype | fault | endOfFile => exact hs

/-- **One look at a token leaves root and head in place.** -/
theorem step (hs : Sound r h false s) (t : Token) :
    Sound r h false (if s.isForeign t then s.foreign t else s.byMode t) :=
  .iteOf hs.foreign fun _ => hs.byMode t

end Sound

end Vitrine.Html.Construction
