import Vitrine.Markdown
import Vitrine.Proofs.Markdown.Block

/-!
# Script tags in documents (section 4.2)

* `Outline.Sealed`: the outline of what is read so far holds only sealed blocks. `Outline.Ends` says so of all
  but the last block of the innermost container, which may end the source.
* `Outline.Ends.pop`: closing a container seals what stands in it.
* `Outline.Sealed.step_goes`: a step leaves a sealed outline unless it reads the source to its end;
  `Outline.Sealed.readAll_ends` says what a whole reading leaves.
* `ending_html`: what is written of a text is sealed but for its end.

The outline is read by the parser behind `markdown_to_html`. A carriage return at the end of a source is where
the filter of that operation fails, so the last block is told apart throughout.
-/

namespace Vitrine.Markdown

/-! ## Outlines -/

variable {source : List Char}

/-- Open containers that hold only what is sealed when it is written. An item is open in a list only. -/
inductive Frames.Sealed (source : List Char) : Frames → Prop
  | nil : Sealed source []
  | quote {blocks rest} : (∀ b ∈ blocks, Block.IsSealed b) → Sealed source rest →
    Sealed source (.quote blocks :: rest)
  | list {marker start isTight items rest} : (∀ item ∈ items, Block.WritesAll (Ending source) item) →
    Sealed source rest → Sealed source (.list marker start isTight items :: rest)
  | item {indent blocks marker start isTight items rest} : (∀ b ∈ blocks, Block.IsSealed b) →
    Sealed source (.list marker start isTight items :: rest) →
    Sealed source (.item indent blocks :: .list marker start isTight items :: rest)

/-- As `Frames.Sealed`, but for the last block of the innermost container, which may end the source. -/
inductive Frames.Ends (source : List Char) : Frames → Prop
  | nil : Ends source []
  | quote {blocks rest} : Block.WritesAll (Ending source) blocks.reverse → Frames.Sealed source rest →
    Ends source (.quote blocks :: rest)
  | list {marker start isTight items rest} : (∀ item ∈ items, Block.WritesAll (Ending source) item) →
    Frames.Sealed source rest → Ends source (.list marker start isTight items :: rest)
  | item {indent blocks marker start isTight items rest} :
    Block.WritesAll (Ending source) blocks.reverse →
    Frames.Sealed source (.list marker start isTight items :: rest) →
    Ends source (.item indent blocks :: .list marker start isTight items :: rest)

theorem Block.WritesAll.ending {bs : List (Block Content)} (h : ∀ b ∈ bs, b.IsSealed) :
    WritesAll (Ending source) bs := fun f hf isTight =>
  (writesAll_of_isSealed h f hf isTight).mono fun _ => Sealed.ending

theorem Block.WritesAll.ending_reverse {bs : List (Block Content)} (h : ∀ b ∈ bs, b.IsSealed) :
    WritesAll (Ending source) bs.reverse :=
  .ending fun b hb => h b (List.mem_reverse.mp hb)

/-- The blocks of a container are kept in reverse, so the last one stands first. -/
theorem Block.WritesAll.ending_cons {b : Block Content} {bs : List (Block Content)}
    (hbs : ∀ b ∈ bs, b.IsSealed) (hb : b.Writes (Ending source)) :
    WritesAll (Ending source) (b :: bs).reverse := by
  rw [List.reverse_cons]
  exact .append_singleton (fun b hb => hbs b (List.mem_reverse.mp hb)) hb

/-- If all blocks are sealed, so are all but the last. -/
theorem Frames.Sealed.ends {frames : Frames} (h : Frames.Sealed source frames) :
    Frames.Ends source frames := by
  cases h with
  | nil => exact .nil
  | quote hblocks hrest => exact .quote (.ending_reverse hblocks) hrest
  | list hitems hrest => exact .list hitems hrest
  | item hblocks hrest => exact .item (.ending_reverse hblocks) hrest

namespace Outline

/-- An outline that holds only what is sealed when it is written. -/
structure Sealed (source : List Char) (o : Outline) : Prop where
  frames : Frames.Sealed source o.frames
  blocks : ∀ b ∈ o.blocks, b.IsSealed

/-- As `Sealed`, but for the last block of the innermost container, which may end the source. -/
structure Ends (source : List Char) (o : Outline) : Prop where
  frames : Frames.Ends source o.frames
  blocks : Block.WritesAll (Ending source) o.blocks.reverse
  outside : o.frames ≠ [] → ∀ b ∈ o.blocks, b.IsSealed

variable {o : Outline}

theorem Sealed.ends (h : o.Sealed source) : o.Ends source :=
  ⟨h.frames.ends, .ending_reverse h.blocks, fun _ => h.blocks⟩

/-- A sealed block is added to the innermost container. -/
theorem Sealed.add (h : o.Sealed source) {b : Block Content} (hb : b.IsSealed) : (o.add b).Sealed source := by
  obtain ⟨frames, blocks, isBlank, isFresh, task?, definitions⟩ := o
  obtain ⟨hframes, hblocks⟩ := h
  change Frames.Sealed source frames at hframes
  cases hframes with
  | nil => exact ⟨.nil, List.forall_mem_cons.mpr ⟨hb, hblocks⟩⟩
  | quote hinner hrest => exact ⟨.quote (List.forall_mem_cons.mpr ⟨hb, hinner⟩) hrest, hblocks⟩
  | list hitems hrest =>
    have hitem : Block.WritesAll (Ending source) [b] := .ending (List.forall_mem_singleton.mpr hb)
    exact ⟨.list (List.forall_mem_cons.mpr ⟨hitem, hitems⟩) hrest, hblocks⟩
  | item hinner hrest => exact ⟨.item (List.forall_mem_cons.mpr ⟨hb, hinner⟩) hrest, hblocks⟩

/-- A last block. -/
theorem Sealed.add_ends (h : o.Sealed source) {b : Block Content} (hb : b.Writes (Ending source)) :
    (o.add b).Ends source := by
  obtain ⟨frames, blocks, isBlank, isFresh, task?, definitions⟩ := o
  obtain ⟨hframes, hblocks⟩ := h
  change Frames.Sealed source frames at hframes
  cases hframes with
  | nil => exact ⟨.nil, .ending_cons hblocks hb, fun hne => absurd rfl hne⟩
  | quote hinner hrest =>
    exact ⟨.quote (.ending_cons hinner hb) hrest, .ending_reverse hblocks, fun _ => hblocks⟩
  | list hitems hrest =>
    have hitem : Block.WritesAll (Ending source) ([] ++ [b]) := .append_singleton (List.forall_mem_nil _) hb
    exact ⟨.list (List.forall_mem_cons.mpr ⟨hitem, hitems⟩) hrest, .ending_reverse hblocks, fun _ => hblocks⟩
  | item hinner hrest =>
    exact ⟨.item (.ending_cons hinner hb) hrest, .ending_reverse hblocks, fun _ => hblocks⟩

/-- **Closing a container seals what stands in it.** -/
theorem Ends.pop (h : o.Ends source) (hne : o.frames ≠ []) : o.pop.Sealed source := by
  have hblocks := h.outside hne
  obtain ⟨frames, blocks, isBlank, isFresh, task?, definitions⟩ := o
  obtain ⟨hframes, -, -⟩ := h
  change Frames.Ends source frames at hframes
  cases hframes with
  | nil => exact absurd rfl hne
  | @quote inner rest hinner hrest =>
    have hout : Sealed source ⟨rest, blocks, isBlank, isFresh, task?, definitions⟩ := ⟨hrest, hblocks⟩
    exact hout.add (Block.isSealed_quote hinner)
  | @list marker start isTight items rest hitems hrest =>
    have hout : Sealed source ⟨rest, blocks, isBlank, isFresh && !isTight, task?, definitions⟩ :=
      ⟨hrest, hblocks⟩
    exact hout.add (Block.isSealed_list (fun item hitem => hitems item (List.mem_reverse.mp hitem)) _ _)
  | item hinner hrest =>
    cases hrest with
    | list hitems hrest => exact ⟨.list (List.forall_mem_cons.mpr ⟨hinner, hitems⟩) hrest, hblocks⟩

theorem pop_of_nil (h : o.frames = []) : o.pop = o := by
  rw [pop, h]

/-- Closing a container adds a sealed block to the one around it. -/
theorem Sealed.pop (h : o.Sealed source) : o.pop.Sealed source := by
  by_cases hne : o.frames = []
  · rwa [pop_of_nil hne]
  · exact h.ends.pop hne

theorem Ends.pop_ends (h : o.Ends source) : o.pop.Ends source := by
  by_cases hne : o.frames = []
  · rwa [pop_of_nil hne]
  · exact (h.pop hne).ends

theorem Sealed.popMany : ∀ (n : Nat) {o : Outline}, o.Sealed source → (popMany n o).Sealed source
  | 0, _, h => h
  | n + 1, _, h => Sealed.popMany n h.pop

theorem Ends.popMany : ∀ (n : Nat) {o : Outline}, o.Ends source → (Outline.popMany n o).Ends source
  | 0, _, h => h
  | n + 1, _, h => Ends.popMany n h.pop_ends

/-- The blocks of the whole document. -/
theorem Ends.close (h : o.Ends source) : Block.WritesAll (Ending source) o.close :=
  (Ends.popMany _ h).blocks

/-! ### What a line opens -/

/-- An item that holds nothing but a blank line is closed. -/
theorem Sealed.closeEmptyItem (h : o.Sealed source) : o.closeEmptyItem.Sealed source := by
  simp only [Outline.closeEmptyItem]
  split
  · exact ⟨h.pop.frames, h.pop.blocks⟩
  · exact ⟨h.frames, h.blocks⟩

/-- Whether a list is tight makes no tag. -/
theorem sealed_loosenAround {frames : Frames} (h : Frames.Sealed source frames) :
    Frames.Sealed source (loosenAround frames) := by
  have hlist : ∀ {marker start isTight items rest},
      Frames.Sealed source (.list marker start isTight items :: rest) →
      Frames.Sealed source (.list marker start false items :: rest) := fun h => by
    cases h with
    | list hitems hrest => exact .list hitems hrest
  rw [loosenAround.eq_def]
  split
  · cases h with
    | quote hinner hrest => exact .quote hinner (hlist hrest)
    | list hitems hrest => exact .list hitems (hlist hrest)
    | item hinner hrest => exact .item hinner (hlist hrest)
  · exact h

/-- Blocks with a blank line between them make their list loose. -/
theorem Sealed.loosen (h : o.Sealed source) : Sealed source
    (if o.isBlank then { o with frames := loosenAround o.frames, isBlank := false } else o) := by
  split
  · exact ⟨sealed_loosenAround h.frames, h.blocks⟩
  · exact h

theorem Sealed.closeList (h : o.Sealed source) : o.closeList.Sealed source := by
  simp only [Outline.closeList]
  split
  · exact h.closeEmptyItem.pop.loosen
  · exact h.closeEmptyItem.loosen

/-- An item is opened in a list. -/
theorem Sealed.toList (h : o.Sealed source) (mark : ListMark) : (o.toList mark).Sealed source ∧
    ∃ marker start isTight items rest, (o.toList mark).frames = .list marker start isTight items :: rest := by
  have hempty := h.closeEmptyItem
  have hnew := hempty.closeList
  simp only [Outline.toList]
  split
  · rename_i marker start isTight items rest heq
    split
    · have hframes := hempty.frames
      rw [heq] at hframes
      cases hframes with
      | list hitems hrest => exact ⟨⟨.list hitems hrest, hempty.blocks⟩, _, _, _, _, _, rfl⟩
    · exact ⟨⟨.list nofun hnew.frames, hnew.blocks⟩, _, _, _, _, _, rfl⟩
  · exact ⟨⟨.list nofun hnew.frames, hnew.blocks⟩, _, _, _, _, _, rfl⟩

/-- A blank line is kept in mind, and is no block. -/
theorem Sealed.blankLine (h : o.Sealed source) : o.blankLine.Sealed source := by
  have hframes := h.frames
  rw [Outline.blankLine]
  split
  · exact h
  · rename_i heq
    rw [heq] at hframes
    cases hframes with
    | item hinner hrest => exact ⟨.item hinner hrest, h.blocks⟩
  · exact ⟨h.frames, h.blocks⟩

/-! ### Reading -/

/-- An outline and where reading goes on: what is read may end the source; it is sealed if reading goes on. -/
def Goes (s : Source) (read : Outline × Nat) : Prop :=
  read.1.Ends s.toList ∧ (read.2 < s.size → read.1.Sealed s.toList)

variable {s : Source}

theorem Sealed.goes (h : o.Sealed s.toList) (next : Nat) : Goes s (o, next) := ⟨h.ends, fun _ => h⟩

theorem Sealed.addLeaf_goes (h : o.Sealed s.toList) {leaf : Leaf} (hleaf : leaf.Goes s) :
    Goes s (o.addLeaf leaf) :=
  ⟨h.add_ends hleaf.1, fun hlt => h.add (hleaf.2 hlt)⟩

/-- What a line opens is sealed. -/
def Opened.Sealed (source : List Char) : Opened → Prop
  | .line o _ => o.Sealed source
  | .bareItem o _ => o.Sealed source

/-- An item may hold the box of a task in front of the rest of its line. -/
theorem Sealed.openItem (h : o.Sealed source) (s : Source) (mark : ListMark) (width : Nat) (m : Margin) :
    Opened.Sealed source (o.openItem s mark width m) := by
  obtain ⟨hlist, marker, start, isTight, items, rest, heq⟩ := h.toList mark
  have hframes := hlist.frames
  rw [heq] at hframes
  have hitem : Sealed source ((o.toList mark).push (.item width [])) :=
    ⟨by rw [push, heq]; exact .item nofun hframes, hlist.blocks⟩
  simp only [Outline.openItem]
  split
  · exact ⟨hitem.frames, hitem.blocks⟩
  · split
    · exact hitem
    · split
      · rename_i isDone _ _ _ _ _
        have htask := hitem.add (Block.isSealed_task isDone)
        exact ⟨htask.frames, htask.blocks⟩
      · exact ⟨hitem.frames, hitem.blocks⟩

/-- The marks at the start of a line open containers one in another. -/
theorem Sealed.openAll (s : Source) : ∀ (n : Nat) {o : Outline} (m : Margin), o.Sealed source →
    Opened.Sealed source (Outline.openAll s n o m)
  | 0, _, _, h => h
  | n + 1, o, m, h => by
    simp only [Outline.openAll]
    split
    · exact h
    · split
      · rename_i mark width behind _
        have hopened := h.openItem s mark width behind
        split
        · rename_i heq
          rw [heq] at hopened
          exact Sealed.openAll s n _ hopened
        · exact hopened
      · split
        · have hquote : Sealed source (o.closeList.push (.quote [])) :=
            ⟨.quote nofun h.closeList.frames, h.closeList.blocks⟩
          exact Sealed.openAll s n _ hquote
        · exact h

/-- Definitions write nothing; behind them stands a leaf. -/
theorem Sealed.readText (s : Source) : ∀ (n : Nat) {o : Outline} (i : Nat), o.Sealed source →
    (Outline.readText s n o i).1.Sealed source
  | 0, _, _, h => h
  | n + 1, o, i, h => by
    simp only [Outline.readText]
    split
    · have hbare : Sealed source { o with task? := none } := ⟨h.frames, h.blocks⟩
      exact hbare.add (Frames.isSealed_paragraph o.frames o.task? i)
    · rename_i behind label target _
      have hdefined : Sealed source { o with definitions := o.definitions.add label target } :=
        ⟨h.frames, h.blocks⟩
      split
      · exact hdefined
      · exact Sealed.readText s n _ hdefined

/-- Behind the marks of a line stands a leaf. -/
theorem Sealed.readBlock_goes (h : o.Sealed s.toList) (m : Margin) : Goes s (o.readBlock s m) := by
  have hout := h.closeList
  simp only [readBlock]
  split
  · have hcode : ∀ (code : String) (isBlank : Bool),
        Sealed s.toList { o.closeList.add (.code none code) with isBlank } := fun code _ =>
      have hadded := hout.add (Block.isSealed_code none code)
      ⟨hadded.frames, hadded.blocks⟩
    exact (hcode _ _).goes _
  · split
    · rename_i leaf hleaf
      exact hout.addLeaf_goes (Frames.htmlBlock?_goes hleaf)
    · split
      · exact (hout.add Block.isSealed_rule).goes _
      · exact (hout.add (s.isSealed_heading _ _)).goes _
      · exact (hout.add (Block.isSealed_code _ _)).goes _
      · exact (hout.readText s _ _).goes _

theorem Sealed.keep (h : o.Sealed source) (n : Nat) : (o.keep n).Sealed source := Sealed.popMany _ h

/-- **A step leaves a sealed outline, unless it reads the source to its end.** -/
theorem Sealed.step_goes (h : o.Sealed s.toList) (start : Nat) : Goes s (o.step s start) := by
  have hopened := (h.keep (o.frames.matchLine s start).1).openAll s (s.size + 1)
    (o.frames.matchLine s start).2
  simp only [step]
  split
  · rename_i heq
    rw [heq] at hopened
    exact Sealed.goes hopened _
  · rename_i heq
    rw [heq] at hopened
    split
    · exact (Sealed.blankLine hopened).goes _
    · exact Sealed.readBlock_goes hopened _

/-- **What is read of a source is sealed but for its end.** -/
theorem Sealed.readAll_ends : ∀ (n : Nat) {o : Outline} (i : Nat), o.Sealed s.toList →
    (Outline.readAll s n o i).Ends s.toList
  | 0, _, _, h => h.ends
  | n + 1, o, i, h => by
    have hstep := h.step_goes i
    simp only [Outline.readAll]
    split
    · exact h.ends
    · rcases Nat.lt_or_ge (o.step s i).2 s.size with hlt | hge
      · exact Sealed.readAll_ends n _ (hstep.2 hlt)
      · have hstop : Outline.readAll s n (o.step s i).1 (o.step s i).2 = (o.step s i).1 := by
          cases n with
          | zero => rfl
          | succ n => rw [Outline.readAll, if_pos hge]
        rw [hstop]
        exact hstep.1

end Outline

/-! ## What is written of a text -/

/-- **What is written of a text is sealed but for its end.** -/
theorem ending_html (text : String) : Ending text.toList (html text).toList := by
  let source : Source := text.toList.toArray
  have hempty : Outline.Sealed text.toList {} := ⟨.nil, nofun⟩
  have hread : source.outline.Ends text.toList :=
    Outline.Sealed.readAll_ends (s := source) (2 * source.size + 1) 0 hempty
  obtain ⟨t, ht, hending⟩ := hread.close
    (fun content => ({ source, content, definitions := source.outline.definitions } : Passage).inlines)
    (fun content => Passage.closed_inlines _) false ("", true)
  have hhtml : (html text).toList = "".toList ++ t := ht
  rwa [hhtml]

end Vitrine.Markdown
