import Vitrine.Markdown.Document
import Vitrine.Proofs.Markdown.Inline

/-!
# Script tags in blocks (section 4.2)

* `Chunk.Writes`: what chunks write, whether or not a line has just started before them.
* `Block.IsSealed`: a block whose chunks write a sealed text. All blocks but raw HTML are sealed, quotes and
  lists even if what stands in them ends the source.
* `Source.sealed_htmlLines`, `Source.ending_htmlLines`: a line of raw HTML is sealed by its line feed; without
  one, it ends the source.
* `Frames.htmlBlock?_goes`: a block of raw HTML is sealed unless it is read to the end of the source.

The blocks are those of the parser behind `markdown_to_html`; its filter for script tags sees raw HTML line by
line.
-/

namespace Vitrine.Markdown

/-! ## Chunks -/

/-- Chunks write a text with a property, wherever they are written. -/
def Chunk.Writes (P : List Char → Prop) (chunks : List Chunk) : Prop :=
  ∀ out : String × Bool, ∃ t, (chunks.foldl Chunk.appendTo out).1.toList = out.1.toList ++ t ∧ P t

namespace Chunk

variable {P Q R : List Char → Prop} {xs ys : List Chunk}

/-- What is written has every weaker property. -/
theorem Writes.mono (h : Writes P xs) (hmono : ∀ t, P t → Q t) : Writes Q xs := fun out =>
  have ⟨t, ht, hP⟩ := h out
  ⟨t, ht, hmono t hP⟩

/-- What chunks write stands behind what the chunks before them write. -/
theorem Writes.append (hx : Writes P xs) (hy : Writes Q ys) (h : ∀ t u, P t → Q u → R (t ++ u)) :
    Writes R (xs ++ ys) := by
  intro out
  obtain ⟨t, ht, hP⟩ := hx out
  obtain ⟨u, hu, hQ⟩ := hy (xs.foldl appendTo out)
  exact ⟨t ++ u, by rw [List.foldl_append, hu, ht, List.append_assoc], h t u hP hQ⟩

theorem writes_nil (h : P []) : Writes P [] := fun _ => ⟨[], (List.append_nil _).symm, h⟩

theorem writes_text {s : String} (h : P s.toList) : Writes P [.text s] := by
  intro out
  refine ⟨s.toList, ?_, h⟩
  rw [List.foldl_cons, List.foldl_nil, appendTo]
  split
  · rename_i hempty
    rw [String.isEmpty_iff.mp hempty]
    exact (List.append_nil _).symm
  · exact String.toList_append

/-- A line feed is written, unless a line has just started. -/
theorem writes_newLine : Writes Sealed [.newLine] := by
  intro out
  rw [List.foldl_cons, List.foldl_nil, appendTo]
  split
  · exact ⟨[], (List.append_nil _).symm, sealed_of_notMem List.not_mem_nil⟩
  · exact ⟨['\n'], String.toList_append, sealed_of_notMem (by decide)⟩

theorem Writes.sealed_append (hx : Writes Sealed xs) (hy : Writes Sealed ys) : Writes Sealed (xs ++ ys) :=
  hx.append hy fun _ _ => Sealed.append

/-- A text on a line of its own. -/
theorem writes_line {s : String} (h : Sealed s.toList) : Writes Sealed [.newLine, .text s] :=
  writes_newLine.sealed_append (writes_text h)

/-- Texts one after the other. -/
theorem writes_texts {texts : List String} (h : P (texts.flatMap String.toList)) :
    Writes P (texts.map .text) := by
  suffices hall : ∀ texts : List String, Writes (· = texts.flatMap String.toList) (texts.map .text) from
    (hall texts).mono fun t ht => ht ▸ h
  intro texts
  induction texts with
  | nil => exact writes_nil rfl
  | cons s texts ih =>
    exact (writes_text (P := (· = s.toList)) rfl).append ih fun t u ht hu => by
      rw [ht, hu, List.flatMap_cons]

/-- An end tag behind it seals what is the end of a source. -/
theorem Writes.endTag {source : List Char} {s : String} (h : Writes (Ending source) xs)
    (hs : isClosed s.toList = true) (htag : ∃ m, s.toList = '<' :: m) : Writes Sealed (xs ++ [.text s]) :=
  h.append (writes_text (P := (· = s.toList)) rfl) fun _ _ ht hu =>
    hu ▸ ht.append_sealed (sealed_of_isClosed hs) htag

end Chunk

/-! ## Parts of blocks -/

theorem sealed_join {texts : List String} (h : ∀ s ∈ texts, Sealed s.toList) :
    Sealed (String.join texts).toList :=
  String.toList_join ▸ Sealed.flatMap h

theorem sealed_taskBox (isDone : Bool) : Sealed (taskBox isDone).toList := by
  cases isDone <;> exact sealed_of_isClosed (by decide)

/-- A text with the box of a task in front of it. -/
theorem sealed_taskText (task? : Option Bool) {xs : List Inline} (h : Inline.ClosedAll xs) :
    Sealed (taskText task? xs).toList := by
  refine sealed_append ?_ (Inline.sealed_htmlAll h)
  cases task? with
  | none => exact sealed_of_notMem (by decide)
  | some isDone => exact sealed_taskBox isDone

/-- The language of a block of code is written as an escaped value. -/
theorem notMem_languageClass (info? : Option String) : '<' ∉ (languageClass info?).toList := by
  simp only [languageClass]
  split
  · decide
  · exact notMem_append (notMem_append (by decide) (notMem_escapedValue _)) (by decide)

/-- A text with an end tag behind it. -/
theorem sealed_endTag {s tag last : String} (hs : Sealed s.toList) (htag : Sealed ("</" ++ tag).toList)
    (hlast : '<' ∉ last.toList) : Sealed (s ++ "</" ++ tag ++ last).toList := by
  have hassoc : s ++ "</" ++ tag = s ++ ("</" ++ tag) := String.append_assoc
  rw [hassoc]
  exact sealed_append (sealed_append hs htag) (sealed_of_notMem hlast)

/-- A row of cells, each between its tags. -/
theorem sealed_cellsHtml {tag : String} (hopen : Sealed ("<" ++ tag).toList)
    (hclose : Sealed ("</" ++ tag).toList) (alignments : List Alignment) {cells : List (List Inline)}
    (hcells : ∀ cell ∈ cells, Inline.ClosedAll cell) : Sealed (cellsHtml tag alignments cells).toList := by
  refine sealed_join fun s hs => ?_
  obtain ⟨⟨alignment, cell⟩, hmem, rfl⟩ := List.mem_map.mp hs
  have hcell := Inline.sealed_htmlAll (hcells cell (List.of_mem_zip hmem).2)
  have hstyle : '<' ∉ alignment.style.toList := by cases alignment <;> decide
  exact sealed_endTag (sealed_append (sealed_append (sealed_append hopen (sealed_of_notMem hstyle))
    (sealed_of_notMem (by decide))) hcell) hclose (by decide)

theorem sealed_tableHtml (alignments : List Alignment) {head : List (List Inline)}
    {rows : List (List (List Inline))} (hhead : ∀ cell ∈ head, Inline.ClosedAll cell)
    (hrows : ∀ row ∈ rows, ∀ cell ∈ row, Inline.ClosedAll cell) :
    Sealed (tableHtml alignments head rows).toList := by
  have hbody : Sealed (String.join (rows.map fun row =>
      "<tr>" ++ cellsHtml "td" alignments row ++ "</tr>\n")).toList := by
    refine sealed_join fun s hs => ?_
    obtain ⟨row, hrow, rfl⟩ := List.mem_map.mp hs
    exact sealed_between (by decide) (sealed_cellsHtml (sealed_of_isClosed (by decide))
      (sealed_of_isClosed (by decide)) alignments (hrows row hrow)) (by decide)
  refine sealed_append (sealed_append (sealed_between (by decide) ?_ (by decide)) hbody)
    (sealed_of_isClosed (by decide))
  exact sealed_cellsHtml (sealed_of_isClosed (by decide)) (sealed_of_isClosed (by decide)) alignments hhead

theorem notMem_natural (n : Nat) : '<' ∉ (Decimal.natural n).toList := by
  rw [Decimal.natural, String.toList_ofList]
  intro h
  have hdigit : '<'.isDigit = true := Nat.isDigit_of_mem_toDigits (by decide) (by decide) h
  exact absurd hdigit (by decide)

/-- The tag of a list, with the number that it starts from. -/
theorem sealed_listTag (start? : Option Nat) : Sealed (listTag start?).toList := by
  rw [listTag.eq_def]
  split
  · exact sealed_of_isClosed (by decide)
  · exact sealed_of_isClosed (by decide)
  · exact sealed_between (by decide) (sealed_of_notMem (notMem_natural _)) (by decide)

/-! ## Blocks -/

/-- What lines of raw HTML write. -/
def RawLine.allWritten (lines : List RawLine) : List Char := lines.flatMap (·.written.toList)

namespace Block

/-- A block writes a text with a property, whatever closed text stands for its contents and wherever the block
is written. -/
def Writes (P : List Char → Prop) (b : Block Content) : Prop :=
  ∀ (f : Content → List Inline), (∀ c, Inline.ClosedAll (f c)) → ∀ isTight,
    Chunk.Writes P ((b.map f).chunks isTight)

/-- As `Writes`, of blocks one after the other. -/
def WritesAll (P : List Char → Prop) (bs : List (Block Content)) : Prop :=
  ∀ (f : Content → List Inline), (∀ c, Inline.ClosedAll (f c)) → ∀ isTight,
    Chunk.Writes P (chunksAll isTight (mapAll f bs))

/-- A block that is sealed when it is written. -/
def IsSealed : Block Content → Prop := Writes Sealed

variable {P : List Char → Prop} {source : List Char} {b : Block Content} {bs : List (Block Content)}

/-- Sealed blocks, and one behind them that may end the source. -/
theorem WritesAll.append_singleton (hbs : ∀ b ∈ bs, b.IsSealed) (hb : b.Writes (Ending source)) :
    WritesAll (Ending source) (bs ++ [b]) := by
  intro f hf isTight
  induction bs with
  | nil =>
    change Chunk.Writes _ ((b.map f).chunks isTight ++ [])
    rw [List.append_nil]
    exact hb f hf isTight
  | cons b' bs ih =>
    obtain ⟨hb', hbs⟩ := List.forall_mem_cons.mp hbs
    exact (hb' f hf isTight).append (ih hbs) fun _ _ => Sealed.append_ending

/-- Sealed blocks in a row are sealed. -/
theorem writesAll_of_isSealed (hbs : ∀ b ∈ bs, b.IsSealed) : WritesAll Sealed bs := by
  intro f hf isTight
  induction bs with
  | nil => exact Chunk.writes_nil (sealed_of_notMem List.not_mem_nil)
  | cons b bs ih =>
    obtain ⟨hb, hbs⟩ := List.forall_mem_cons.mp hbs
    exact (hb f hf isTight).append (ih hbs) fun _ _ => Sealed.append

/-- A block of raw HTML writes its lines. -/
theorem writes_raw {lines : List RawLine} (h : P (RawLine.allWritten lines)) : Writes P (.raw lines) := by
  intro f _ isTight
  have htexts : Chunk.Writes P ((lines.map RawLine.written).map .text) := Chunk.writes_texts <| by
    rw [List.flatMap_map]
    exact h
  rwa [List.map_map] at htexts

/-- A paragraph in a tight list writes its text alone. -/
theorem isSealed_paragraph (task? : Option Bool) (text : Content) : IsSealed (.paragraph task? text) := by
  intro f hf isTight
  have htext := sealed_taskText task? (hf text)
  simp only [map, chunks]
  split
  · exact Chunk.writes_text htext
  · exact Chunk.writes_line (sealed_between (by decide) htext (by decide))

theorem isSealed_heading (level : Nat) (task? : Option Bool) (text : Content) :
    IsSealed (.heading level task? text) := by
  intro f hf isTight
  have hlevel := sealed_of_notMem (notMem_natural level)
  have hstart : Sealed ("<" ++ ("h" ++ Decimal.natural level)).toList := by
    rw [← String.append_assoc]
    exact sealed_append (sealed_of_isClosed (by decide)) hlevel
  have hstop : Sealed ("</" ++ ("h" ++ Decimal.natural level)).toList := by
    rw [← String.append_assoc]
    exact sealed_append (sealed_of_isClosed (by decide)) hlevel
  exact Chunk.writes_line (sealed_endTag (sealed_append (sealed_append hstart (sealed_of_notMem (by decide)))
    (sealed_taskText task? (hf text))) hstop (by decide))

theorem isSealed_code (info? : Option String) (text : String) : IsSealed (.code info? text) := by
  intro f _ isTight
  refine Chunk.writes_line
    (sealed_append (sealed_append (sealed_append (sealed_append ?start ?language) ?stop) ?text) ?close)
  case language => exact sealed_of_notMem (notMem_languageClass info?)
  case text => exact sealed_of_notMem (notMem_escapedText text)
  case start | stop | close => exact sealed_of_isClosed (by decide)

theorem isSealed_rule : IsSealed .rule := fun _ _ _ => Chunk.writes_line (sealed_of_isClosed (by decide))

theorem isSealed_task (isDone : Bool) : IsSealed (.task isDone) := fun _ _ _ =>
  Chunk.writes_text (sealed_taskBox isDone)

/-- All that a table holds are cells of text. -/
theorem isSealed_table (alignments : List Alignment) (head : List Content) (rows : List (List Content)) :
    IsSealed (.table alignments head rows) := by
  intro f hf isTight
  refine Chunk.writes_text (sealed_tableHtml alignments (fun cell hcell => ?_) fun row hrow cell hcell => ?_)
  · obtain ⟨c, -, rfl⟩ := List.mem_map.mp hcell
    exact hf c
  · obtain ⟨r, -, rfl⟩ := List.mem_map.mp hrow
    obtain ⟨c, -, rfl⟩ := List.mem_map.mp hcell
    exact hf c

/-- A quote seals what stands in it, even at the end of a source. -/
theorem isSealed_quote (h : WritesAll (Ending source) bs) : IsSealed (.quote bs) := by
  intro f hf isTight
  have hstart : Chunk.Writes Sealed [.newLine, .text "<blockquote>\n"] :=
    Chunk.writes_line (sealed_of_isClosed (by decide))
  exact (hstart.append (h f hf false) fun _ _ => Sealed.append_ending).endTag (by decide) ⟨_, rfl⟩

/-- A list seals what stands in its items. -/
theorem isSealed_list {items : List (List (Block Content))}
    (h : ∀ item ∈ items, WritesAll (Ending source) item) (start? : Option Nat) (isTight : Bool) :
    IsSealed (.list start? isTight items) := by
  intro f hf _
  have hitems : Chunk.Writes Sealed (chunksItems isTight (mapItems f items)) := by
    induction items with
    | nil => exact Chunk.writes_nil (sealed_of_notMem List.not_mem_nil)
    | cons item items ih =>
      obtain ⟨hitem, hitems⟩ := List.forall_mem_cons.mp h
      have hstart : Chunk.Writes Sealed [.newLine, .text "<li>"] :=
        Chunk.writes_line (sealed_of_isClosed (by decide))
      exact ((hstart.append (hitem f hf isTight) fun _ _ => Sealed.append_ending).endTag (by decide)
        ⟨_, rfl⟩).sealed_append (ih hitems)
  have hstop : Sealed (if start?.isSome then "</ol>\n" else "</ul>\n").toList := by
    split <;> exact sealed_of_isClosed (by decide)
  exact ((Chunk.writes_line (sealed_listTag start?)).sealed_append hitems).sealed_append
    (Chunk.writes_text hstop)

end Block

/-! ## Lines of raw HTML -/

namespace Margin

variable {s : Source} {m m' : Margin}

/-- Columns of a margin are read on. -/
theorem le_columns (s : Source) : ∀ (n : Nat) (m : Margin), m.pos ≤ (columns s n m).2.pos
  | 0, _ => Nat.le_refl _
  | n + 1, m => by
    rw [columns]
    split
    · exact le_columns s n { m with pending := m.pending - 1 }
    · split
      · exact Nat.le_trans (Nat.le_succ _) (le_columns s n { m with pos := m.pos + 1 })
      · exact Nat.le_trans (Nat.le_succ _) (le_columns s n ⟨m.pos + 1, m.pos + 1, _⟩)
      · exact Nat.le_refl _

theorem le_quoteMark? (h : m.quoteMark? s = some m') : m.pos ≤ m'.pos := by
  obtain ⟨inner, hinner, rfl⟩ := Option.map_eq_some_iff.mp h
  obtain ⟨-, hinner⟩ := Option.ite_none_right_eq_some.mp hinner
  exact Nat.le_trans (Option.some.inj hinner ▸ Nat.le_succ _) (le_columns s 1 inner)

end Margin

/-- The mark of a container is read on, too. -/
theorem Frame.le_match? {s : Source} {f : Frame} {m m' : Margin} (h : f.match? s m = some m') :
    m.pos ≤ m'.pos := by
  cases f with
  | quote blocks => exact Nat.le_trans (Margin.le_columns s 3 m) (Margin.le_quoteMark? h)
  | list marker start isTight items => exact Option.some.inj h ▸ Nat.le_refl _
  | item indent blocks =>
    obtain ⟨-, h⟩ := Option.ite_none_right_eq_some.mp h
    exact Option.some.inj h ▸ Margin.le_columns s indent m

theorem le_matchFrames (s : Source) : ∀ (frames : List Frame) (m : Margin),
    m.pos ≤ (matchFrames s frames m).2.pos
  | [], _ => Nat.le_refl _
  | f :: frames, m => by
    rw [matchFrames]
    split
    · exact Nat.le_refl _
    · rename_i m' hmatch
      exact Nat.le_trans (Frame.le_match? hmatch) (le_matchFrames s frames m')

/-- The margin of a line is behind the start of the line. -/
theorem Frames.le_matchAll (frames : Frames) (s : Source) (start : Nat) :
    start ≤ (frames.matchAll s start).2.pos :=
  le_matchFrames s frames.reverse (.ofLine start)

namespace Source

variable {s : Source} {i : Nat}

/-- The next line starts behind a line feed, unless the source has ended. -/
theorem nextLine_cases (s : Source) (i : Nat) :
    s.size ≤ s.nextLine i ∨ ∃ k, s.nextLine i = k + 1 ∧ i ≤ k ∧ s[k]? = some '\n' := by
  simp only [nextLine]
  split
  · rename_i hlt
    obtain ⟨c, hc, hp⟩ := skipWhile_stop hlt
    obtain rfl : c = '\n' := by simpa using hp
    exact .inr ⟨_, rfl, s.le_skipWhile _ i, hc⟩
  · rename_i hge
    exact .inl (Nat.le_of_not_lt hge)

theorem notMem_columns (n : Nat) : '<' ∉ ("".pushn ' ' n).toList := by
  induction n with
  | zero => decide
  | succ n ih =>
    have hpush : ("".pushn ' ' (n + 1)).toList = ("".pushn ' ' n).toList ++ [' '] := String.toList_push _
    rw [hpush, List.mem_append, not_or]
    exact ⟨ih, by decide⟩

/-- One character does not look like a tag. -/
theorem namesScript_singleton (c : Char) : namesScript [c] = false := by
  rw [namesScript, namesScript, Bool.or_false, Bool.and_eq_false_iff]
  exact .inr (by decide)

/-- A single character is raw HTML that is written as it stands. -/
theorem written_singleton {html : String} {c : Char} (h : html.toList = [c]) :
    (RawLine.written ⟨0, html⟩).toList = [c] := by
  have hwritten : RawLine.written ⟨0, html⟩ = "" ++ html := by
    rw [RawLine.written, harmless, h, if_neg (by rw [namesScript_singleton]; decide)]
    rfl
  rw [hwritten, String.toList_append, h]
  rfl

/-- A line of raw HTML with a line feed is sealed. -/
theorem sealed_htmlLines {k : Nat} (columns : Nat) (h : i ≤ k) (hk : s[k]? = some '\n') :
    Sealed (RawLine.allWritten (s.htmlLines columns i (k + 1))) := by
  have hcolumns : Sealed ("".pushn ' ' columns).toList := sealed_of_notMem (notMem_columns columns)
  rw [htmlLines]
  split
  · have hlast : (s.slice k (k + 1)).toList = ['\n'] := by
      rw [slice_succ (Nat.le_refl k) hk, slice_of_le (Nat.le_refl k)]
      rfl
    have hsealed : Sealed ['\n'] := sealed_of_notMem (by decide)
    simp only [RawLine.allWritten, List.flatMap_cons, List.flatMap_nil, List.append_nil,
      Nat.add_sub_cancel, written_singleton hlast]
    rw [RawLine.written, String.toList_append, List.append_assoc]
    refine hcolumns.append ?_
    rcases harmless_cases (s.slice i (k + 1 - 2)) with hnot | ⟨hnames, heq⟩
    · exact (sealed_of_notMem hnot).append hsealed
    · rw [heq]
      refine SealedBefore.append ((sealedBefore_of_names hnames).mono ?_) hsealed
      rintro more ⟨m, -, rfl⟩ c hc
      obtain rfl := Option.some.inj hc
      decide
  · rw [RawLine.allWritten, List.flatMap_singleton]
    exact sealed_append hcolumns (sealed_harmless (slice_succ h hk) (by decide) (by decide))

/-- A line of raw HTML at the end of a source may end it. -/
theorem ending_htmlLines {next : Nat} (columns : Nat) (h : s.size ≤ next) :
    Ending s.toList (RawLine.allWritten (s.htmlLines columns i next)) := by
  have hcolumns : Sealed ("".pushn ' ' columns).toList := sealed_of_notMem (notMem_columns columns)
  rw [htmlLines]
  split
  · rename_i hreturn
    simp only [hasReturn, Bool.and_eq_true, decide_eq_true_eq] at hreturn
    obtain ⟨⟨htwo, hat⟩, hholds⟩ := hreturn
    obtain ⟨m, rfl⟩ := Nat.exists_eq_add_of_le' htwo
    obtain ⟨last, hlast, -⟩ := (Option.any_eq_true _ _).mp hholds
    have hreturn := getElem?_of_isAt hat
    simp only [Nat.add_sub_cancel, show m + 2 - 1 = m + 1 from rfl] at hreturn hlast ⊢
    have hone : (s.slice (m + 1) (m + 2)).toList = [last] := by
      rw [slice_succ (Nat.le_refl _) hlast, slice_of_le (Nat.le_refl _)]
      rfl
    -- The source is the text up to the carriage return, and two characters.
    have hsource : s.toList = s.toList.take m ++ ['\r', last] := by
      have hall : (s.slice 0 (m + 2)).toList = s.toList := by
        rw [toList_slice, List.drop_zero, List.take_of_length_le h]
      rw [slice_succ (Nat.zero_le _) hlast, slice_succ (Nat.zero_le _) hreturn, toList_slice, List.drop_zero,
        List.append_assoc] at hall
      exact hall.symm
    simp only [RawLine.allWritten, List.flatMap_cons, List.flatMap_nil, List.append_nil,
      written_singleton hone]
    rw [RawLine.written, String.toList_append, List.append_assoc]
    refine hcolumns.append_ending ?_
    rcases harmless_cases (s.slice i m) with hnot | ⟨hnames, heq⟩
    · have hend : Ending s.toList [last] := ending_of_names (namesScript_singleton last)
      exact (sealed_of_notMem hnot).append_ending hend
    · rw [heq]
      obtain ⟨before, hbefore⟩ := List.drop_suffix i (s.toList.take m)
      refine ending_of_cut hnames ⟨before, ?_⟩
      rw [toList_slice, ← List.append_assoc, hbefore, ← hsource]
  · rw [RawLine.allWritten, List.flatMap_singleton, RawLine.written, String.toList_append]
    refine hcolumns.append_ending ?_
    rcases harmless_cases (s.slice i next) with hnot | ⟨hnames, heq⟩
    · exact (sealed_of_notMem hnot).ending
    · rw [heq]
      exact ending_of_names hnames

end Source

/-- What is read of a block of raw HTML may end the source; it is sealed if reading goes on. -/
def RawLine.Goes (s : Source) (read : List RawLine × Nat) : Prop :=
  Ending s.toList (allWritten read.1.reverse) ∧ (read.2 < s.size → Sealed (allWritten read.1.reverse))

namespace Frames

variable {s : Source}

theorem goes_of_sealed {read : List RawLine} (h : Sealed (RawLine.allWritten read.reverse)) (next : Nat) :
    RawLine.Goes s (read, next) :=
  ⟨h.ending, fun _ => h⟩

/-- **One more line.** -/
theorem goes_htmlLines {read : List RawLine} (h : Sealed (RawLine.allWritten read.reverse))
    (columns i : Nat) :
    RawLine.Goes s ((s.htmlLines columns i (s.nextLine i)).reverse ++ read, s.nextLine i) := by
  have hall : RawLine.allWritten ((s.htmlLines columns i (s.nextLine i)).reverse ++ read).reverse =
      RawLine.allWritten read.reverse ++ RawLine.allWritten (s.htmlLines columns i (s.nextLine i)) := by
    rw [List.reverse_append, List.reverse_reverse]
    exact List.flatMap_append
  rw [RawLine.Goes, hall]
  rcases s.nextLine_cases i with hend | ⟨k, hnext, hle, hk⟩
  · exact ⟨h.append_ending (Source.ending_htmlLines columns hend),
      fun hlt => absurd hlt (Nat.not_lt.mpr hend)⟩
  · have hsealed := h.append (Source.sealed_htmlLines columns hle hk)
    rw [hnext]
    exact ⟨hsealed.ending, fun _ => hsealed⟩

/-- Lines up to one that holds the closing text. -/
theorem freeHtml_goes (frames : Frames) (close : String) :
    ∀ (n : Nat) {read : List RawLine} (columns i : Nat), Sealed (RawLine.allWritten read.reverse) →
      RawLine.Goes s (frames.freeHtml s close n read columns i)
  | 0, _, _, i, h => goes_of_sealed h i
  | n + 1, _, columns, i, h => by
    have hline := goes_htmlLines (s := s) h columns i
    simp only [freeHtml]
    split
    · exact hline
    · rename_i hmore
      simp only [Bool.or_eq_true, decide_eq_true_eq, not_or, Nat.not_le] at hmore
      refine freeHtml_goes frames close n _ _ (hline.2 ?_)
      exact Nat.lt_of_le_of_lt (frames.le_matchAll s _) hmore.2

/-- Lines up to a blank one. -/
theorem namedHtml_goes (frames : Frames) :
    ∀ (n : Nat) {read : List RawLine} (columns i : Nat), Sealed (RawLine.allWritten read.reverse) →
      RawLine.Goes s (frames.namedHtml s n read columns i)
  | 0, _, _, i, h => goes_of_sealed h i
  | n + 1, _, columns, i, h => by
    have hline := goes_htmlLines (s := s) h columns i
    simp only [namedHtml]
    split
    · exact hline
    · rename_i hmore
      simp only [Bool.or_eq_true, decide_eq_true_eq, not_or, Nat.not_le] at hmore
      refine namedHtml_goes frames n _ _ (hline.2 ?_)
      exact Nat.lt_of_le_of_lt (frames.le_matchAll s _) hmore.1.2

end Frames

/-! ## Leaves -/

/-- A leaf may end the source; it is sealed if reading goes on. -/
def Leaf.Goes (s : Source) (leaf : Leaf) : Prop :=
  leaf.block.Writes (Ending s.toList) ∧ (leaf.next < s.size → leaf.block.IsSealed)

namespace Frames

variable {s : Source}

/-- All sorts of blocks of raw HTML end with a line, and only the last line of a source has no line feed. -/
theorem htmlBlock?_goes {frames : Frames} {columns i : Nat} {leaf : Leaf}
    (h : frames.htmlBlock? s columns i = some leaf) : leaf.Goes s := by
  have hnone : Sealed (RawLine.allWritten ([] : List RawLine).reverse) := sealed_of_notMem List.not_mem_nil
  have hleaf : ∀ read : List RawLine × Nat, RawLine.Goes s read →
      Leaf.Goes s ⟨.raw read.1.reverse, read.2⟩ := fun _ hread =>
    ⟨Block.writes_raw hread.1, fun hlt => Block.writes_raw (hread.2 hlt)⟩
  rw [htmlBlock?] at h
  split at h
  · exact absurd h nofun
  · split at h
    · rename_i close _
      have hread := frames.freeHtml_goes (s := s) close (s.size + 1) columns i hnone
      exact Option.some.inj h ▸ hleaf _ hread
    · obtain ⟨-, h⟩ := Option.ite_none_right_eq_some.mp h
      have hread := frames.namedHtml_goes (s := s) (s.size + 1) columns i hnone
      exact Option.some.inj h ▸ hleaf _ hread

theorem isSealed_table? {frames : Frames} {start : Nat} {leaf : Leaf}
    (h : frames.table? s start = some leaf) : leaf.block.IsSealed := by
  simp only [table?, Option.bind_eq_bind] at h
  split at h
  · exact absurd h nofun
  · split at h
    · exact absurd h nofun
    · obtain ⟨found, -, h⟩ := Option.bind_eq_some_iff.mp h
      exact Option.some.inj h ▸ Block.isSealed_table _ _ _

/-- What begins as a paragraph is one, or a heading or a table. -/
theorem isSealed_paragraph (frames : Frames) (task? : Option Bool) (start : Nat) :
    (frames.paragraph s task? start).block.IsSealed := by
  simp only [paragraph]
  split
  · rename_i htable
    exact isSealed_table? htable
  · split
    · exact Block.isSealed_heading _ _ _
    · exact Block.isSealed_paragraph _ _

end Frames

theorem Source.isSealed_heading (s : Source) (level i : Nat) : (s.heading level i).block.IsSealed := by
  simp only [heading]
  split <;> exact Block.isSealed_heading _ _ _

end Vitrine.Markdown
