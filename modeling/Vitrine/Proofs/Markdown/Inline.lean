import Vitrine.Markdown.Inline.Emphasis
import Vitrine.Proofs.Markdown.ScriptTag

/-!
# Script tags in text (section 4.2)

* `Inline.Closed`: the raw HTML in a text ends with a bracket, as every tag, comment and declaration does.
* `Passage.closed_inlines`: what is read of a passage is closed. Readers hand pieces on and put them around
  one another, and only the reader of a `<` makes raw HTML.
* `Inline.sealed_htmlAll`: a closed text is sealed when it is written.

The filter of `markdown_to_html` sees each piece of raw HTML within a text as one event, and such a piece is
whole.
-/

namespace Vitrine.Markdown

/-! ## Places -/

namespace Source

variable {s : Source} {i j k : Nat} {c : Char}

theorem getElem?_of_isAt (h : s.isAt i c = true) : s[i]? = some c := beq_iff_eq.mp h

/-- A part of a source is a part of its list. -/
theorem toList_slice (s : Source) (i j : Nat) : (s.slice i j).toList = (s.toList.take j).drop i := by
  rw [slice, String.toList_ofList, Array.toList_extract, List.extract_eq_take_drop, List.drop_take]

/-- A part that ends before it starts is empty. -/
theorem slice_of_le (h : j ≤ i) : (s.slice i j).toList = [] := by
  rw [toList_slice, List.drop_eq_nil_iff]
  exact Nat.le_trans (List.length_take_le j _) h

/-- A text that goes up to a character ends with it. -/
theorem slice_succ (h : i ≤ k) (hk : s[k]? = some c) :
    (s.slice i (k + 1)).toList = (s.slice i k).toList ++ [c] := by
  have hlt : k < s.size := (Array.getElem?_eq_some_iff.mp hk).choose
  have hlength : (s.toList.take k).length = k := by
    rw [List.length_take, Array.length_toList, Nat.min_eq_left (Nat.le_of_lt hlt)]
  rw [toList_slice, toList_slice, List.take_add_one, Array.getElem?_toList, hk, Option.toList_some,
    List.drop_append_of_le_length (hlength.symm ▸ h)]

/-- Skipping stops at the first character that is not to be skipped. -/
theorem skipWhile_stop {p : Char → Bool} (h : s.skipWhile p i < s.size) :
    ∃ c, s[s.skipWhile p i]? = some c ∧ p c = false := by
  induction i using skipWhile.induct s p with
  | case1 i hi hp ih =>
    rw [skipWhile, dif_pos hi, if_pos hp] at h ⊢
    exact ih h
  | case2 i hi hp =>
    rw [skipWhile, dif_pos hi, if_neg hp]
    exact ⟨s[i], Array.getElem?_eq_getElem hi, Bool.not_eq_true _ ▸ hp⟩
  | case3 i hi =>
    rw [skipWhile, dif_neg hi] at h
    exact absurd h hi

/-- Skipping goes on, never back. -/
theorem le_skipWhile (s : Source) (p : Char → Bool) (i : Nat) : i ≤ s.skipWhile p i := by
  induction i using skipWhile.induct s p with
  | case1 i hi hp ih =>
    rw [skipWhile, dif_pos hi, if_pos hp]
    exact Nat.le_of_succ_le ih
  | case2 i hi hp => rw [skipWhile, dif_pos hi, if_neg hp]
  | case3 i hi => rw [skipWhile, dif_neg hi]

/-- A search stops at what is searched. -/
theorem find?_spec {p : Char → Bool} (h : s.find? p i = some j) : ∃ c, s[j]? = some c ∧ p c = true := by
  simp only [find?, Option.ite_none_right_eq_some, Option.some.injEq] at h
  obtain ⟨hlt, rfl⟩ := h
  obtain ⟨c, hc, hp⟩ := skipWhile_stop hlt
  exact ⟨c, hc, by simpa using hp⟩

/-! ## The ends of tags -/

/-- A position behind the bracket that ends a tag. -/
def BehindBracket (s : Source) (j : Nat) : Prop := ∃ k, j = k + 1 ∧ s[k]? = some '>'

theorem behindBracket_of_isAt (h : s.isAt k '>' = true) : s.BehindBracket (k + 1) :=
  ⟨k, rfl, getElem?_of_isAt h⟩

variable {lines : LineSkip} {stop n : Nat}

/-- A tag ends with a bracket. -/
theorem tag?_behind (h : s.tag? lines i = some j) : s.BehindBracket j := by
  simp only [tag?, Option.bind_eq_bind] at h
  -- A tag that ends an element has no attributes; both kinds need a name.
  split at h
  all_goals
    split at h
    · exact absurd h nofun
    · obtain ⟨behind, -, h⟩ := Option.bind_eq_some_iff.mp h
      obtain ⟨hat, h⟩ := Option.ite_none_right_eq_some.mp h
      exact Option.some.inj h ▸ behindBracket_of_isAt hat

/-- A comment ends with a bracket. -/
theorem commentEndFrom?_behind (h : s.commentEndFrom? stop n i = some j) : s.BehindBracket j := by
  induction n generalizing i with
  | zero => exact absurd h nofun
  | succ n ih =>
    simp only [commentEndFrom?, Option.bind_eq_bind, Option.bind_eq_some_iff] at h
    obtain ⟨k, -, h⟩ := h
    split at h
    · exact absurd h nofun
    · split at h
      · rename_i hend
        simp only [Bool.and_eq_true] at hend
        exact Option.some.inj h ▸ behindBracket_of_isAt hend.1.2
      · exact ih h

theorem instructionEndFrom?_behind (h : s.instructionEndFrom? stop n i = some j) : s.BehindBracket j := by
  induction n generalizing i with
  | zero => exact absurd h nofun
  | succ n ih =>
    simp only [instructionEndFrom?, Option.bind_eq_bind, Option.bind_eq_some_iff] at h
    obtain ⟨k, -, h⟩ := h
    split at h
    · exact absurd h nofun
    · split at h
      · rename_i hend
        exact Option.some.inj h ▸ behindBracket_of_isAt (Bool.and_eq_true_iff.mp hend).1
      · exact ih h

theorem dataEnd?_behind (h : s.dataEnd? stop i = some j) : s.BehindBracket j := by
  simp only [dataEnd?, Option.bind_eq_bind, Option.bind_eq_some_iff, Option.ite_none_right_eq_some] at h
  obtain ⟨k, -, hat, h⟩ := h
  exact Option.some.inj h ▸ behindBracket_of_isAt (Bool.and_eq_true_iff.mp hat).2

theorem declaration?_behind (h : s.declaration? stop i = some j) : s.BehindBracket j := by
  rw [declaration?] at h
  split at h
  · exact commentEndFrom?_behind (Option.ite_none_right_eq_some.mp h).2
  · exact dataEnd?_behind (Option.ite_none_right_eq_some.mp h).2
  · obtain ⟨-, h⟩ := Option.ite_none_right_eq_some.mp h
    split at h
    · rename_i k hfind
      obtain ⟨c, hc, hp⟩ := find?_spec hfind
      exact Option.some.inj (Option.ite_none_right_eq_some.mp h).2 ▸ ⟨k, rfl, beq_iff_eq.mp hp ▸ hc⟩
    · exact absurd h nofun
  · exact absurd h nofun

/-- Whatever is read as raw HTML within a text ends with a bracket. -/
theorem rawInline?_behind (h : s.rawInline? lines stop i = some j) : s.BehindBracket j := by
  rw [rawInline?] at h
  split at h
  · exact declaration?_behind h
  · exact instructionEndFrom?_behind h
  · split at h
    · rename_i htag
      split at h
      · exact Option.some.inj h ▸ tag?_behind htag
      · exact absurd h nofun
    · exact absurd h nofun

end Source

/-! ## Raw HTML -/

/-- A text that ends with a bracket, if it is not empty. -/
def EndsTag (cs : List Char) : Prop := ∀ c ∈ cs.getLast?, c = '>'

/-- A part of a source up to a bracket ends with it. -/
theorem Source.BehindBracket.endsTag {s : Source} {j : Nat} (h : s.BehindBracket j) (i : Nat) :
    EndsTag (s.slice i j).toList := by
  obtain ⟨k, rfl, hk⟩ := h
  intro c hc
  rcases Nat.lt_or_ge k i with hlt | hle
  · rw [Source.slice_of_le hlt] at hc
    exact absurd hc nofun
  · rw [Source.slice_succ hle hk, List.getLast?_concat] at hc
    exact (Option.some.inj hc).symm

/-- The last of two texts tells how both end. -/
theorem EndsTag.append {xs ys : List Char} (hy : EndsTag ys) (h : xs = [] ∨ ys ≠ []) :
    EndsTag (xs ++ ys) := by
  rcases h with rfl | hne
  · exact hy
  · intro c hc
    rw [List.getLast?_append_of_ne_nil _ hne] at hc
    exact hy c hc

/-- Cutting the marks of containers out of a text leaves something of it behind the last one. -/
theorem withoutMargins_last (s : Source) {j : Nat} : ∀ (ls : List Line) (acc : List String × Nat),
    (∀ l ∈ ls, l.body < j) → acc.1 = [] ∨ acc.2 < j →
    let found := ls.foldl (fun (parts, at_) l => (parts ++ [s.slice at_ l.first], l.body)) acc
    found.1 = [] ∨ found.2 < j
  | [], _, _, hacc => hacc
  | l :: ls, _, hls, _ =>
    withoutMargins_last s ls _ (fun l hl => hls l (List.mem_cons_of_mem _ hl))
      (.inr (hls l List.mem_cons_self))

/-- Cutting margins out leaves the last bracket. -/
theorem Passage.endsTag_withoutMargins (p : Passage) (i : Nat) {j : Nat} (h : p.source.BehindBracket j) :
    EndsTag (p.withoutMargins i j).toList := by
  obtain ⟨parts, last, heq, hlast⟩ : ∃ parts last,
      p.withoutMargins i j = String.join (parts ++ [p.source.slice last j]) ∧ (parts = [] ∨ last < j) :=
    ⟨_, _, rfl, withoutMargins_last p.source _ ([], i)
      (fun l hl => of_decide_eq_true (Bool.and_eq_true_iff.mp (List.mem_filter.mp hl).2).2) (.inl rfl)⟩
  rw [heq, String.toList_join, List.flatMap_append, List.flatMap_singleton]
  refine (h.endsTag last).append ?_
  rcases hlast with rfl | hlt
  · exact .inl rfl
  · obtain ⟨k, rfl, hk⟩ := h
    rw [Source.slice_succ (Nat.le_of_lt_succ hlt) hk]
    exact .inr (List.concat_ne_nil _ _)

/-- The raw HTML that is read at a bracket ends with one. -/
theorem Passage.endsTag_rawHtml? {p : Passage} {bracket i j : Nat} {html : String}
    (h : p.rawHtml? bracket i = some (j, html)) : EndsTag html.toList := by
  obtain ⟨k, hk, h⟩ := Option.map_eq_some_iff.mp h
  have hbehind := Source.rawInline?_behind hk
  split at h
  · obtain ⟨-, rfl⟩ := Prod.mk.inj h
    exact hbehind.endsTag bracket
  · obtain ⟨-, rfl⟩ := Prod.mk.inj h
    exact p.endsTag_withoutMargins bracket hbehind

/-! ## Pieces -/

mutual

/-- Raw HTML within a piece ends with a bracket. -/
def Piece.Closed : Piece → Prop
  | .raw html => EndsTag html.toList
  | .link _ _ pieces => Piece.ClosedAll pieces
  | .image _ pieces => Piece.ClosedAll pieces
  | _ => True

/-- Raw HTML within pieces ends with a bracket. -/
def Piece.ClosedAll : List Piece → Prop
  | [] => True
  | p :: ps => p.Closed ∧ Piece.ClosedAll ps

end

/-- All pieces of a list are closed if each is. -/
theorem Piece.closedAll_iff : ∀ {ps : List Piece}, Piece.ClosedAll ps ↔ ∀ p ∈ ps, p.Closed
  | [] => by simp [Piece.ClosedAll]
  | p :: ps => by rw [Piece.ClosedAll, closedAll_iff, List.forall_mem_cons]

/-- What is read so far is closed. -/
structure Reading.Closed (r : Reading) : Prop where
  pieces : ∀ p ∈ r.pieces, p.Closed
  before : ∀ b ∈ r.brackets, ∀ p ∈ b.before, p.Closed

namespace Reading

variable {r : Reading} {b : OpenBracket}

theorem Closed.add (h : r.Closed) {p : Piece} (hp : p.Closed) : (r.add p).Closed :=
  ⟨List.forall_mem_cons.mpr ⟨hp, h.pieces⟩, h.before⟩

/-- A bracket that opens nothing is text. -/
theorem Closed.giveUp (h : r.Closed) (hb : ∀ p ∈ b.before, p.Closed) : (r.giveUp b).Closed := by
  refine ⟨fun p hp => ?_, h.before⟩
  rcases List.mem_append.mp hp with hp | hp
  · exact h.pieces p hp
  · exact List.forall_mem_cons.mpr ⟨trivial, hb⟩ p hp

/-- A link or an image holds what was read since its bracket. -/
theorem Closed.close (h : r.Closed) (hb : ∀ p ∈ b.before, p.Closed) (target : Target) :
    (r.close b target).Closed := by
  have hcontent : Piece.ClosedAll r.pieces.reverse :=
    Piece.closedAll_iff.mpr fun p hp => h.pieces p (List.mem_reverse.mp hp)
  rw [Reading.close]
  split
  · exact ⟨List.forall_mem_cons.mpr ⟨hcontent, hb⟩, h.before⟩
  · refine ⟨List.forall_mem_cons.mpr ⟨hcontent, hb⟩, fun b' hb' => ?_⟩
    obtain ⟨b', hmem, rfl⟩ := List.mem_map.mp hb'
    exact h.before b' hmem

theorem Closed.giveUpAll {bs : List OpenBracket} (h : r.Closed) (hbs : ∀ b ∈ bs, ∀ p ∈ b.before, p.Closed) :
    (bs.foldl Reading.giveUp r).Closed := by
  induction bs generalizing r with
  | nil => exact h
  | cons b bs ih =>
    obtain ⟨hb, hbs⟩ := List.forall_mem_cons.mp hbs
    exact ih (h.giveUp hb) hbs

theorem Closed.finish (h : r.Closed) : ∀ p ∈ r.finish, p.Closed := fun p hp =>
  (h.giveUpAll h.before).pieces p (List.mem_reverse.mp hp)

end Reading

namespace Passage

variable {p : Passage} {r : Reading} {m : Mark} {rest : List Mark}

theorem closed_readTicks (h : r.Closed) (isEscaped : Bool) : (p.readTicks r m isEscaped rest).1.Closed := by
  simp only [readTicks]
  split
  · exact h.add trivial
  · split
    · exact (h.add (p := .text "\x60") trivial).add trivial
    · exact h.add trivial

/-- At an angle bracket stands raw HTML, an address or a character. -/
theorem closed_readAngle (h : r.Closed) : (p.readAngle r m rest).1.Closed := by
  simp only [readAngle]
  split
  · exact h.add trivial
  · split
    · exact h.add ⟨trivial, trivial⟩
    · split
      · rename_i hraw
        exact h.add (endsTag_rawHtml? hraw)
      · exact h.add trivial

/-- A link by a label holds what stands between its brackets. -/
theorem closed_readReference {b : OpenBracket} (h : r.Closed) (hb : ∀ p ∈ b.before, p.Closed) :
    (p.readReference r b m rest).1.Closed := by
  have hfailed : ((r.giveUp b).add (.text "]")).Closed := (h.giveUp hb).add trivial
  have hclose := h.close hb
  simp only [readReference]
  split
  · split
    · exact hclose _
    · exact ⟨hfailed.pieces, hfailed.before⟩
  -- A bracket without a label behind it may be its own label.
  all_goals
    split
    · exact hfailed
    · split
      · split
        · exact hclose _
        · exact hfailed
      · exact hfailed

/-- A closing bracket makes a link, gives a bracket up or is text. -/
theorem closed_readClosing (h : r.Closed) : (p.readClosing r m rest).1.Closed := by
  rw [readClosing]
  split
  · exact h.add trivial
  · rename_i b brackets heq
    have hbefore := h.before
    rw [heq] at hbefore
    obtain ⟨hb, hbrackets⟩ := List.forall_mem_cons.mp hbefore
    have hr : ({ r with brackets } : Reading).Closed := ⟨h.pieces, hbrackets⟩
    simp only
    split
    · exact (hr.giveUp hb).add trivial
    · split
      · exact hr.close hb _
      · exact closed_readReference hr hb

/-- Every mark hands on closed pieces. -/
theorem closed_readMark (h : r.Closed) : (p.readMark r m rest).1.Closed := by
  rw [readMark]
  split
  case h_1 | h_2 | h_3 | h_4 | h_5 => exact h.add trivial
  · exact closed_readTicks h _
  · exact closed_readAngle h
  · exact ⟨nofun, List.forall_mem_cons.mpr ⟨h.pieces, h.before⟩⟩
  · exact closed_readClosing h

theorem closed_readMarks : ∀ (n : Nat) (r : Reading) (marks : List Mark), r.Closed →
    (p.readMarks n r marks).Closed
  | 0, _, _, h => h
  | _ + 1, _, [], h => h
  | n + 1, _, _ :: _, h => closed_readMarks n _ _ (closed_readMark h)

/-- **The pieces of a text are closed.** -/
theorem closed_pieces (p : Passage) : ∀ q ∈ p.pieces, q.Closed :=
  (closed_readMarks _ {} _ ⟨nofun, nofun⟩).finish

end Passage

/-! ## Emphasis -/

mutual

/-- Raw HTML within a text ends with a bracket. -/
def Inline.Closed : Inline → Prop
  | .raw html => EndsTag html.toList
  | .emphasis content => Inline.ClosedAll content
  | .strong content => Inline.ClosedAll content
  | .struck content => Inline.ClosedAll content
  | .link _ _ content => Inline.ClosedAll content
  | .image _ content => Inline.ClosedAll content
  | _ => True

/-- Raw HTML within texts ends with a bracket. -/
def Inline.ClosedAll : List Inline → Prop
  | [] => True
  | x :: xs => x.Closed ∧ Inline.ClosedAll xs

end

/-- All texts of a list are closed if each is. -/
theorem Inline.closedAll_iff : ∀ {xs : List Inline}, Inline.ClosedAll xs ↔ ∀ x ∈ xs, x.Closed
  | [] => by simp [Inline.ClosedAll]
  | x :: xs => by rw [Inline.ClosedAll, closedAll_iff, List.forall_mem_cons]

namespace EmphasisState

/-- What stands before and behind the open runs is closed. -/
structure Closed (e : EmphasisState) : Prop where
  base : ∀ x ∈ e.base, x.Closed
  after : ∀ r ∈ e.runs, ∀ x ∈ r.after, x.Closed

variable {e : EmphasisState}

theorem Closed.add (h : e.Closed) {x : Inline} (hx : x.Closed) : (e.add x).Closed := by
  have hafter := h.after
  rw [EmphasisState.add]
  split
  · rename_i heq
    exact ⟨List.forall_mem_cons.mpr ⟨hx, h.base⟩, h.after⟩
  · rename_i r rest heq
    rw [heq] at hafter
    obtain ⟨hr, hrest⟩ := List.forall_mem_cons.mp hafter
    exact ⟨h.base, List.forall_mem_cons.mpr ⟨List.forall_mem_cons.mpr ⟨hx, hr⟩, hrest⟩⟩

/-- Closed texts may be added behind the open runs. -/
theorem Closed.addAll {xs : List Inline} (h : e.Closed) (hxs : ∀ x ∈ xs, x.Closed) :
    (xs.foldl EmphasisState.add e).Closed := by
  induction xs generalizing e with
  | nil => exact h
  | cons x xs ih =>
    obtain ⟨hx, hxs⟩ := List.forall_mem_cons.mp hxs
    exact ih (h.add hx) hxs

/-- The run that fits and those inside it are all open. -/
theorem split?_mem {fit : OpenRun → Bool} : ∀ {rs inner outer : List OpenRun} {r : OpenRun},
    split? fit rs = some (inner, r, outer) → r ∈ rs ∧ ∀ i ∈ inner, i ∈ rs
  | r' :: rs, inner, outer, r, h => by
    rw [split?] at h
    split at h
    · obtain ⟨rfl, rfl, -⟩ := h
      exact ⟨List.mem_cons_self, nofun⟩
    · obtain ⟨⟨inner, r, outer⟩, hrest, heq⟩ := Option.map_eq_some_iff.mp h
      obtain ⟨rfl, rfl, -⟩ := heq
      obtain ⟨hr, hinner⟩ := split?_mem hrest
      refine ⟨List.mem_cons_of_mem _ hr, List.forall_mem_cons.mpr ⟨List.mem_cons_self, fun i hi => ?_⟩⟩
      exact List.mem_cons_of_mem _ (hinner i hi)

/-- Open runs as text, and what stands before them. -/
theorem closed_unmatched {rs : List OpenRun} {xs : List Inline} (hrs : ∀ r ∈ rs, ∀ x ∈ r.after, x.Closed)
    (hxs : ∀ x ∈ xs, x.Closed) :
    ∀ x ∈ rs.flatMap (fun r => r.after ++ [runText r.char r.count]) ++ xs, x.Closed := by
  intro x hx
  rcases List.mem_append.mp hx with hx | hx
  · obtain ⟨r, hr, hx⟩ := List.mem_flatMap.mp hx
    rcases List.mem_append.mp hx with hx | hx
    · exact hrs r hr x hx
    · rw [List.mem_singleton.mp hx]
      trivial
  · exact hxs x hx

/-- Emphasis around closed texts is closed. -/
theorem closed_wrap (char : Char) : ∀ (n : Nat) {xs : List Inline}, (∀ x ∈ xs, x.Closed) →
    ∀ x ∈ wrap char n xs, x.Closed
  | 0, _, h => h
  | 1, xs, h => List.forall_mem_singleton.mpr <| by
    split <;> exact Inline.closedAll_iff.mpr h
  | n + 2, xs, h => closed_wrap char n <| List.forall_mem_singleton.mpr <| by
    split <;> exact Inline.closedAll_iff.mpr h

/-- A run that closes emphasis puts it around what was read since the run that opened it. -/
theorem Closed.closeRun {char : Char} {runLength : Nat} {isBoth : Bool} :
    ∀ (n : Nat) {e : EmphasisState} (count : Nat), e.Closed →
      (EmphasisState.closeRun char runLength isBoth n e count).1.Closed
  | 0, _, _, h => h
  | n + 1, e, count, h => by
    simp only [EmphasisState.closeRun]
    split
    · exact h
    · split
      · split
        · exact ⟨h.base, h.after⟩
        · exact h
      · rename_i inner r outer hsplit
        obtain ⟨hr, hinner⟩ := split?_mem hsplit
        have hcontent : ∀ x ∈ (contentOf inner r).reverse, x.Closed := fun x hx =>
          closed_unmatched (fun i hi => h.after i (List.mem_of_mem_take (hinner i hi)))
            (h.after r (List.mem_of_mem_take hr)) x (List.mem_reverse.mp hx)
        have hwrapped := closed_wrap char (min count r.count) hcontent
        have houter : ∀ o ∈ e.runs.drop (inner.length + 1), ∀ x ∈ o.after, x.Closed := fun o ho =>
          h.after o (List.mem_of_mem_drop ho)
        refine Closed.closeRun n _ ?_
        split
        · exact ⟨h.base, List.forall_mem_cons.mpr ⟨hwrapped, houter⟩⟩
        · exact Closed.addAll ⟨h.base, houter⟩ hwrapped

/-- A run closes what it can, and opens with the rest. -/
theorem Closed.readRun (h : e.Closed) (char : Char) (length : Nat) (canOpen canClose : Bool) :
    (e.readRun char length canOpen canClose).Closed := by
  have hleft : ∀ found : EmphasisState × Nat, found.1.Closed →
      (if found.2 = 0 then found.1
        else if canOpen then
          { found.1 with runs := ⟨char, found.2, length, canOpen && canClose, []⟩ :: found.1.runs }
        else found.1.add (runText char found.2)).Closed := by
    intro found hfound
    split
    · exact hfound
    · split
      · exact ⟨hfound.base, List.forall_mem_cons.mpr ⟨nofun, hfound.after⟩⟩
      · exact hfound.add trivial
  have hclosed : (if canClose then
      EmphasisState.closeRun char length (canOpen && canClose) (length + 1) e length
      else (e, length)).1.Closed := by
    split
    · exact Closed.closeRun _ _ h
    · exact h
  exact hleft _ hclosed

theorem Closed.finish (h : e.Closed) : ∀ x ∈ e.finish, x.Closed := fun x hx =>
  closed_unmatched h.after h.base x (List.mem_reverse.mp hx)

end EmphasisState

/-! ## What is read of a passage -/

/-- Raw HTML within a part ends with a bracket. -/
def Part.Closed : Part → Prop
  | .done x => x.Closed
  | .run .. => True

/-- Matching the runs puts emphasis around the other parts. -/
theorem Part.closed_matchAll {parts : List Part} (h : ∀ part ∈ parts, part.Closed) :
    Inline.ClosedAll (Part.matchAll parts) := by
  suffices hfold : ∀ (parts : List Part) (e : EmphasisState), (∀ part ∈ parts, part.Closed) → e.Closed →
      (parts.foldl (fun e part =>
        match part with
        | done x => e.add x
        | run char count canOpen canClose => e.readRun char count canOpen canClose) e).Closed from
    Inline.closedAll_iff.mpr (hfold parts {} h ⟨nofun, nofun⟩).finish
  intro parts
  induction parts with
  | nil => exact fun _ _ he => he
  | cons part parts ih =>
    intro e hparts he
    obtain ⟨hpart, hparts⟩ := List.forall_mem_cons.mp hparts
    refine ih _ hparts ?_
    cases part with
    | done x => exact he.add hpart
    | run char count canOpen canClose => exact he.readRun char count canOpen canClose

mutual

theorem Piece.closed_part : ∀ {p : Piece}, p.Closed → p.part.Closed
  | .text _, _ | .code _, _ | .softBreak, _ | .hardBreak _, _ | .run .., _ => trivial
  | .raw _, h => h
  | .link _ _ pieces, h => Part.closed_matchAll (Piece.closed_parts (pieces.any Piece.isRun) h)
  | .image _ pieces, h => Part.closed_matchAll (Piece.closed_parts (pieces.any Piece.isRun) h)

theorem Piece.closed_parts (hasRuns : Bool) : ∀ {ps : List Piece}, Piece.ClosedAll ps →
    ∀ part ∈ Piece.parts hasRuns ps, part.Closed
  | [], _ => nofun
  | p :: ps, h => by
    have hrest := Piece.closed_parts hasRuns h.2
    rw [Piece.parts.eq_def]
    split
    · exact nofun
    · exact List.forall_mem_singleton.mpr (by split <;> trivial)
    · rename_i heq
      obtain ⟨rfl, rfl⟩ := List.cons.inj heq
      exact List.forall_mem_cons.mpr ⟨Piece.closed_part h.1, hrest⟩

end

/-- **The text of a passage is closed.** -/
theorem Passage.closed_inlines (p : Passage) : Inline.ClosedAll p.inlines :=
  Part.closed_matchAll (Piece.closed_parts _ (Piece.closedAll_iff.mpr p.closed_pieces))

/-! ## Texts that are written -/

/-- Of the escapes none writes the bracket that starts a tag. -/
theorem notMem_escapedInText (c : Char) : '<' ∉ escapedInText c := by
  rw [escapedInText]
  split_ifs with _ hbracket
  · decide
  · decide
  · decide
  · exact fun h => hbracket (List.mem_singleton.mp h).symm

theorem notMem_escapedInValue (c : Char) : '<' ∉ escapedInValue c := by
  rw [escapedInValue]
  split_ifs
  · decide
  · decide
  · exact notMem_escapedInText c

theorem upperHexDigit_ne {n : Nat} (h : n < 16) : upperHexDigit n ≠ '<' := by
  have hall : ∀ n < 16, upperHexDigit n ≠ '<' := by decide
  exact hall n h

theorem notMem_escapedInAddress (c : Char) : '<' ∉ escapedInAddress c := by
  rw [escapedInAddress]
  split_ifs with hself
  · intro h
    exact absurd (List.mem_singleton.mp h ▸ hself) (by decide)
  · decide
  · decide
  · intro h
    obtain ⟨b, -, hb⟩ := List.mem_flatMap.mp h
    have hlt := b.toNat_lt
    simp only [List.mem_cons, List.not_mem_nil, or_false] at hb
    rcases hb with hb | hb | hb
    · exact absurd hb (by decide)
    · exact upperHexDigit_ne (by omega) hb.symm
    · exact upperHexDigit_ne (by omega) hb.symm

/-- What is written character by character without brackets holds none. -/
theorem notMem_written {f : Char → List Char} (h : ∀ c, '<' ∉ f c) (s : String) :
    '<' ∉ (String.ofList (s.toList.flatMap f)).toList := by
  rw [String.toList_ofList]
  intro hmem
  obtain ⟨c, -, hc⟩ := List.mem_flatMap.mp hmem
  exact h c hc

theorem notMem_escapedText (s : String) : '<' ∉ (escapedText s).toList :=
  notMem_written notMem_escapedInText s

theorem notMem_escapedValue (s : String) : '<' ∉ (escapedValue s).toList :=
  notMem_written notMem_escapedInValue s

theorem notMem_escapedAddress (s : String) : '<' ∉ (escapedAddress s).toList :=
  notMem_written notMem_escapedInAddress s

theorem notMem_append {s t : String} (hs : '<' ∉ s.toList) (ht : '<' ∉ t.toList) : '<' ∉ (s ++ t).toList := by
  rw [String.toList_append, List.mem_append, not_or]
  exact ⟨hs, ht⟩

/-- The title of a link is written as an escaped value. -/
theorem notMem_titlePart (title : String) : '<' ∉ (Inline.titlePart title).toList := by
  rw [Inline.titlePart]
  split
  · decide
  · exact notMem_append (by decide) (notMem_escapedValue title)

/-- Raw HTML is written as text without brackets, or it does not look as if it held a script tag. -/
theorem harmless_cases (html : String) :
    '<' ∉ (harmless html).toList ∨ namesScript html.toList = false ∧ harmless html = html := by
  rw [harmless]
  split
  · exact .inl (notMem_escapedText html)
  · rename_i hnames
    exact .inr ⟨Bool.not_eq_true _ ▸ hnames, rfl⟩

/-- Raw HTML is sealed when it is written if its last character is neither a bracket nor in a name. -/
theorem sealed_harmless {html : String} {cs : List Char} {c : Char} (h : html.toList = cs ++ [c])
    (hc : isNameChar c = false) (hne : c ≠ '<') : Sealed (harmless html).toList := by
  rcases harmless_cases html with hnot | ⟨hnames, heq⟩
  · exact sealed_of_notMem hnot
  · rw [h] at hnames
    rw [heq, h]
    exact sealed_of_names hnames hc hne

/-- Raw HTML that ends with a bracket is sealed. -/
theorem EndsTag.sealed_harmless {html : String} (h : EndsTag html.toList) :
    Sealed (harmless html).toList := by
  rcases List.eq_nil_or_concat html.toList with hnil | ⟨cs, c, heq⟩
  · rw [String.toList_eq_nil_iff.mp hnil]
    exact sealed_of_notMem (by decide)
  · rw [List.concat_eq_append] at heq
    obtain rfl : c = '>' := h c (by rw [heq, List.getLast?_concat]; rfl)
    exact Markdown.sealed_harmless heq (by decide) (by decide)

/-- Texts that are written one after the other. -/
theorem sealed_append {s t : String} (hs : Sealed s.toList) (ht : Sealed t.toList) : Sealed (s ++ t).toList :=
  String.toList_append ▸ hs.append ht

theorem sealed_between {first last s : String} (hfirst : isClosed first.toList = true) (hs : Sealed s.toList)
    (hlast : isClosed last.toList = true) : Sealed (first ++ s ++ last).toList :=
  sealed_append (sealed_append (sealed_of_isClosed hfirst) hs) (sealed_of_isClosed hlast)

namespace Inline

mutual

/-- The text that stands for an image holds no bracket. -/
theorem notMem_plain : ∀ x : Inline, '<' ∉ x.plain.toList
  | text s | code s | raw s => notMem_escapedValue s
  | softBreak | hardBreak => by decide
  | emphasis content | strong content | struck content | link _ _ content | image _ content =>
    notMem_plainAll content

theorem notMem_plainAll : ∀ xs : List Inline, '<' ∉ (plainAll xs).toList
  | [] => by decide
  | x :: xs => notMem_append (notMem_plain x) (notMem_plainAll xs)

end

mutual

/-- Marks are put around sealed texts, and what is text is escaped. -/
theorem sealed_html : ∀ {x : Inline}, x.Closed → Sealed x.html.toList
  | text s, _ => sealed_of_notMem (notMem_escapedText s)
  | code s, _ => sealed_between (by decide) (sealed_of_notMem (notMem_escapedText s)) (by decide)
  | raw _, h => EndsTag.sealed_harmless h
  | softBreak, _ | hardBreak, _ => sealed_of_isClosed (by decide)
  | emphasis _, h | strong _, h | struck _, h => sealed_between (by decide) (sealed_htmlAll h) (by decide)
  | link isEmail target _, h => by
    refine sealed_append (sealed_append (sealed_append (sealed_append (sealed_append (sealed_append ?start
      ?scheme) ?address) ?title) ?stop) (sealed_htmlAll h)) ?close
    case scheme => cases isEmail <;> exact sealed_of_notMem (by decide)
    case address => exact sealed_of_notMem (notMem_escapedAddress target.destination)
    case title => exact sealed_of_notMem (notMem_titlePart target.title)
    case start | stop | close => exact sealed_of_isClosed (by decide)
  | image target content, _ => by
    refine sealed_append (sealed_append (sealed_append (sealed_append (sealed_append ?start ?address) ?alt)
      ?content) ?title) ?close
    case address => exact sealed_of_notMem (notMem_escapedAddress target.destination)
    case content => exact sealed_of_notMem (notMem_plainAll content)
    case title => exact sealed_of_notMem (notMem_titlePart target.title)
    case start | alt | close => exact sealed_of_isClosed (by decide)

/-- **A closed text is sealed when it is written.** -/
theorem sealed_htmlAll : ∀ {xs : List Inline}, Inline.ClosedAll xs → Sealed (htmlAll xs).toList
  | [], _ => sealed_of_notMem (by decide)
  | _ :: _, h => sealed_append (sealed_html h.1) (sealed_htmlAll h.2)

end

end Inline

end Vitrine.Markdown
