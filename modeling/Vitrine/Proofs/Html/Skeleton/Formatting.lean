import Mathlib.Data.List.TakeDrop
import Vitrine.Html.Construction.Formatting
import Vitrine.Proofs.Html.Skeleton

/-!
# Formatting elements leave the skeleton in place (section 4.6)

The end tag of a formatting element may take a block out of where it stands and move its children. The block
is open above the formatting element, which is neither the root nor the head, so the block is neither of
them.

This is the one rule of the construction that takes elements out of the tree again while it is being built, so
`Sound` needs a proof of its own for it.

* `Sound.adopt`: the end tag of a formatting element keeps the skeleton.
* `Sound.reopen`: so does opening formatting elements again.
-/

namespace Vitrine.Html.Construction

open Store (Framed Keeps Pillar)

variable {r h : NodeId} {aside : Bool} {s : Construction}

namespace Sound

/-! ## The list of formatting elements -/

/-- A mark among the formatting elements is no element. -/
theorem markFormatting (hs : Sound r h aside s) : Sound r h aside s.markFormatting :=
  hs.formats fun node tag he => by
    have hmem : FormatEntry.element node tag ∈ s.formatting := by simpa using he
    exact ⟨hs.formatted node tag hmem, hs.refilled node tag hmem⟩

theorem forgetFormatting (hs : Sound r h aside s) : Sound r h aside s.forgetFormatting :=
  hs.forget fun _ he => List.dropWhile_subset _ (List.drop_subset 1 _ he)

theorem dropFormatting (hs : Sound r h aside s) (node : NodeId) :
    Sound r h aside (s.dropFormatting node) :=
  hs.forget fun _ he => List.filter_subset_self _ he

/-- A new formatting element is opened and noted. -/
theorem pushFormatting (hs : Sound r h aside s) {tag : Tag} (htag : tag.MayHold) :
    Sound r h aside { (s.newElement .html tag).1.push (s.newElement .html tag).2 with
      formatting := .element (s.newElement .html tag).2.node tag ::
        (s.newElement .html tag).1.formatting } := by
  have hnew := hs.newElement .html tag
  refine (hs.pushNew (htag.isHtml .html)).formats fun node t he => ?_
  rcases List.mem_cons.mp he with he | he
  · obtain ⟨rfl, rfl⟩ := FormatEntry.element.inj he
    exact ⟨hs.newElement_ne .html t, htag⟩
  · exact ⟨hnew.formatted node t he, hnew.refilled node t he⟩

/-- Entries are opened again, the elements of which may have children. -/
theorem reopenAll {entries : List FormatEntry} (hs : Sound r h aside s)
    (hentries : ∀ node tag, FormatEntry.element node tag ∈ entries → tag.MayHold) :
    Sound r h aside (entries.foldl reopenEntry s) := by
  induction entries generalizing s with
  | nil => exact hs
  | cons entry entries ih =>
    have hrest := fun node tag he => hentries node tag (List.mem_cons_of_mem _ he)
    cases entry with
    | marker => exact ih hs hrest
    | element node tag => exact ih (hs.pushFormatting (hentries node tag List.mem_cons_self)) hrest

/-- Formatting elements that were closed by force are opened again as new elements. -/
theorem reopen (hs : Sound r h aside s) : Sound r h aside s.reopen :=
  (hs.forget (List.drop_subset _ _)).reopenAll fun node tag he =>
    hs.refilled node tag (List.takeWhile_subset _ (List.mem_reverse.mp he))

/-- Of four alike the oldest is forgotten, and none is added. -/
theorem withoutFourth_subset (tag : Tag) (entries : List FormatEntry) :
    withoutFourth tag entries ⊆ entries := by
  rw [withoutFourth]
  dsimp only
  split
  · exact List.Subset.refl _
  · rw [List.span_eq_takeWhile_dropWhile]
    have hrecent : ∀ e, e ∈ (entries.takeWhile fun e => !FormatEntry.isMarker e).reverse → e ∈ entries :=
      fun e he => List.takeWhile_subset _ (List.mem_reverse.mp he)
    refine List.append_subset.mpr ⟨fun e he => ?_, List.drop_subset _ _⟩
    rcases List.mem_append.mp (List.mem_reverse.mp he) with he | he
    · exact hrecent e (List.takeWhile_subset _ he)
    · exact hrecent e (List.dropWhile_subset _ (List.drop_subset _ _ he))

theorem insertFormatting (hs : Sound r h aside s) {tag : Tag} (htag : tag.MayHold) :
    Sound r h aside (s.insertFormatting tag) :=
  (hs.forget (withoutFourth_subset tag s.formatting)).pushFormatting htag

/-! ## End tags -/

/-- Any other end tag closes down to its element, unless a special one is in between. -/
theorem endOther (hs : Sound r h aside s) (tag : String) : Sound r h aside (s.endOther tag) := by
  rw [Construction.endOther]
  split
  · split
    · exact (hs.closeImplied _).popThroughTag tag
    · exact hs
  · exact hs

/-- What is open above an element that is neither the root nor the head is neither of them. -/
theorem ne_of_above {upper outer : List OpenElement} {element : OpenElement} (hs : Sound r h false s)
    (hopen : s.openElements = upper ++ element :: outer) (helement : element.node ≠ r ∧ element.node ≠ h) :
    ∀ e ∈ upper, e.node ≠ r ∧ e.node ≠ h := by
  intro e he
  have hordered := hs.ordered
  rw [hopen, List.pairwise_append] at hordered
  have hupholds := hordered.2.2 e he element List.mem_cons_self
  constructor <;> intro heq
  · exact (hupholds (.inl heq)).elim helement.1 helement.2
  · exact (hupholds (.inr ⟨heq, rfl⟩)).elim helement.1 helement.2

end Sound

/-! ### Splitting a formatting element -/

/-- A node that may be moved. -/
def Movable (r h : NodeId) (σ : Store) (id : NodeId) : Prop :=
  id < σ.slots.size ∧ id ≠ r ∧ id ≠ h

section Movable

variable {σ σ' : Store} {A : NodeId → NodeId → Prop} {e : OpenElement} {id : NodeId}

/-- An open element that is neither the root nor the head may move. -/
theorem Loose.movable (he : Loose r h σ e) : Movable r h σ e.node := ⟨he.element.lt, he.free⟩

/-- What is done to the store does not make the root or the head of an element. -/
theorem Loose.keep (he : Loose r h σ e) (hkeeps : Keeps A σ σ') : Loose r h σ' e :=
  ⟨hkeeps.isElement he.element, he.free, he.holds⟩

theorem Movable.keep (hid : Movable r h σ id) (hkeeps : Keeps A σ σ') : Movable r h σ' id :=
  ⟨hkeeps.lt hid.1, hid.2⟩

theorem Movable.free (hid : Movable r h σ id) (p d : NodeId) (hd : Pillar r h p d) : d ≠ id := by
  rcases hd with ⟨-, rfl⟩ | ⟨-, rfl⟩
  · exact hid.2.1.symm
  · exact hid.2.2.symm

/-- A movable node may be taken out of where it stands. -/
theorem Movable.keeps_detach (hid : Movable r h σ id) : Keeps (Pillar r h) σ (σ.detach id) :=
  Store.keeps_detach hid.free

theorem Movable.tidy_detach (hid : Movable r h σ id) (htidy : σ.Tidy (Pillar r h)) :
    (σ.detach id).Tidy (Pillar r h) :=
  htidy.detach hid.free

end Movable

/-- A new element is movable. -/
theorem Sound.loose_create (hs : Sound r h aside s) {name : ElementName} (attributes : List Attribute)
    (hname : name.isHtml emptyTags = false) :
    Loose r h (s.create (.element name attributes)).1.store
      ⟨(s.create (.element name attributes)).2, name, false⟩ :=
  ⟨create_isElement s name attributes,
    ⟨Store.create_ne (.element name attributes) hs.framed.root.choose_spec,
      Store.create_ne (.element name attributes) hs.framed.head.choose_spec⟩, hname⟩

/-- What holds while a part of the tree is lifted out of a formatting element, from the state `s` on. -/
structure Lifting.Sound (r h : NodeId) (s : Construction) (l : Lifting) : Prop where
  state : l.state.Sound r h false
  keeps : Keeps (Pillar r h) s.store l.state.store
  openElements : l.state.openElements = s.openElements
  lifted : Movable r h l.state.store l.lifted
  kept : ∀ e ∈ l.kept, Loose r h l.state.store e

/-- The entry of an element is given to a copy of the element. -/
theorem Sound.formats_map {p : FormatEntry → Bool} {id : NodeId} {tag : Tag} (hs : Sound r h aside s)
    (hid : id ≠ r ∧ id ≠ h) (htag : tag.MayHold) : Sound r h aside { s with
      formatting := s.formatting.map fun e => if p e then .element id tag else e } :=
  hs.formats fun node t he => by
    obtain ⟨e, he, heq⟩ := List.mem_map.mp he
    split at heq
    · obtain ⟨rfl, rfl⟩ := FormatEntry.element.inj heq
      exact ⟨hid, htag⟩
    · exact ⟨hs.formatted node t (heq ▸ he), hs.refilled node t (heq ▸ he)⟩

/-- One step copies an element between the formatting element and the block, or drops it. -/
theorem Lifting.Sound.step {l : Lifting} (hl : l.Sound r h s) (block : NodeId) (e : OpenElement)
    (count : Nat) : (l.step block e count).Sound r h s := by
  rw [Lifting.step]
  split
  · exact ⟨hl.state.dropFormatting e.node, hl.keeps, hl.openElements, hl.lifted, hl.kept⟩
  · split
    · rename_i node tag hfound
      have htag : tag.MayHold := hl.state.refilled node tag (List.mem_of_find?_eq_some hfound)
      let content : Content := .element ⟨.html, tag.name⟩ tag.attributes
      let created := l.state.create content
      have hcreated : Grows l.state created.1 := grows_create l.state content
      have hsound : created.1.Sound r h false := hl.state.create content
      have hnew : Loose r h created.1.store ⟨created.2, ⟨.html, tag.name⟩, false⟩ :=
        hl.state.loose_create tag.attributes (htag.isHtml .html)
      have hlifted : Movable r h created.1.store l.lifted := hl.lifted.keep (hcreated.keeps (Pillar r h))
      -- What was lifted becomes a child of the copy.
      let store := (created.1.store.detach l.lifted).append created.2 l.lifted
      have hlt : l.lifted < (created.1.store.detach l.lifted).slots.size := hlifted.keeps_detach.lt hlifted.1
      have hmove : Keeps (Pillar r h) created.1.store store :=
        hlifted.keeps_detach.trans Store.keeps_append
      have hlinked : store.Linked := (hsound.framed.linked.detach l.lifted).append
        (Store.parent?_detach l.lifted) hlt
      have htidy : store.Tidy (Pillar r h) := (hlifted.tidy_detach hsound.tidy).append hlt
        ((hlifted.keeps_detach.isElement hnew.element).hosts hnew.holds)
      have hkeeps := (hcreated.keeps (Pillar r h)).trans hmove
      exact {
        state := (hsound.restore hlinked hmove htidy).formats_map hnew.free htag
        keeps := hl.keeps.trans hkeeps
        openElements := hl.openElements
        lifted := (hnew.keep hmove).movable
        kept := List.forall_mem_append.mpr
          ⟨fun e he => (hl.kept e he).keep hkeeps, List.forall_mem_singleton.mpr (hnew.keep hmove)⟩ }
    · exact hl

theorem Lifting.Sound.steps {l : Lifting} (hl : l.Sound r h s) (block : NodeId)
    (between : List (OpenElement × Nat)) :
    (between.foldl (fun l (e, i) => l.step block e i) l).Sound r h s := by
  induction between generalizing l with
  | nil => exact hl
  | cons e between ih => exact ih (hl.step block e.1 e.2)

/-- Nothing but the new entry is added to the list of formatting elements. -/
theorem putBefore_mem {new entry : FormatEntry} {node : NodeId} {entries : List FormatEntry}
    (he : entry ∈ putBefore new node entries) : entry = new ∨ entry ∈ entries := by
  induction entries with
  | nil => exact absurd he List.not_mem_nil
  | cons e es ih =>
    rw [putBefore] at he
    split at he
    · exact List.mem_cons.mp he
    · rcases List.mem_cons.mp he with rfl | he
      · exact Or.inr List.mem_cons_self
      · exact (ih he).imp_right (List.mem_cons_of_mem _)

/-- The first part of `splitAround`: what is lifted leaves its place. -/
def Lifting.takenOut (l : Lifting) (element : OpenElement) (inner : List OpenElement)
    (block : OpenElement) (outer : List OpenElement) : Construction :=
  { l.state with
    openElements := inner ++ block :: l.kept ++ element :: outer
    store := l.state.store.detach l.lifted }

/-- The second part: it goes where the element around the formatting element takes it. -/
def putBack (s : Construction) (outer : List OpenElement) (id : NodeId) : Construction :=
  match outer.head? with
  | some ancestor => s.putAt (s.placeIn ancestor) id
  | none => s

/-- The third part: a copy of the formatting element takes the children of the block. -/
def wrapped (s : Construction) (element : OpenElement) (tag : Tag) (inner : List OpenElement)
    (block : OpenElement) (kept outer : List OpenElement) (behind : Option NodeId) : Construction :=
  let (s, id) := s.create (.element ⟨.html, tag.name⟩ tag.attributes)
  let entry := FormatEntry.element id tag
  { s with
    store := (s.store.moveChildren block.node id).append block.node id
    formatting := match behind with
      | none => s.formatting.map fun e => if FormatEntry.isFor element.node e then entry else e
      | some node =>
        (putBefore entry node s.formatting).filter fun e => !FormatEntry.isFor element.node e
    openElements := inner ++ ⟨id, ⟨.html, tag.name⟩, false⟩ :: block :: kept ++ outer }

/-- Splitting in three stages: the elements between are lifted or closed, what was lifted is put back, and what
the block holds is wrapped. -/
theorem splitAround_eq (s : Construction) (element : OpenElement) (tag : Tag) (inner : List OpenElement)
    (block : OpenElement) (between outer : List OpenElement) :
    s.splitAround element tag inner block between outer =
      let l := (between.zipIdx 1).foldl (fun (l : Lifting) (e, i) => l.step block.node e i)
        { state := s, lifted := block.node }
      (putBack (l.takenOut element inner block outer) outer l.lifted).wrapped element tag inner block
        l.kept outer l.behind := rfl

section Split

variable {element block : OpenElement} {inner outer : List OpenElement} {l : Lifting}

/-- What was lifted is taken out of where it stands. -/
theorem Lifting.Sound.takenOut (hl : l.Sound r h s) (helement : Loose r h s.store element)
    (hblock : Loose r h s.store block) (hinner : ∀ e ∈ inner, Loose r h s.store e)
    (houter : outer.Sublist s.openElements) :
    Construction.Sound r h false (l.takenOut element inner block outer) := by
  have hloose : ∀ e ∈ inner ++ block :: l.kept ++ [element], Loose r h l.state.store e := by
    intro e he
    simp only [List.mem_append, List.mem_cons, List.not_mem_nil, or_false] at he
    rcases he with (he | rfl | he) | rfl
    · exact (hinner e he).keep hl.keeps
    · exact hblock.keep hl.keeps
    · exact hl.kept e he
    · exact helement.keep hl.keeps
  have hopen := hl.state.reopenAs hloose (hl.openElements ▸ houter)
  rw [List.append_assoc, List.singleton_append] at hopen
  exact hopen.restore (hl.state.framed.linked.detach l.lifted) hl.lifted.keeps_detach
    (hl.lifted.tidy_detach hl.state.tidy)

theorem grows_putBack (s : Construction) (outer : List OpenElement) {id : NodeId}
    (hid : s.store.parent? id = none) (hlt : id < s.store.slots.size) : Grows s (putBack s outer id) := by
  rw [putBack]
  split
  · exact grows_putAt s _ hid hlt
  · exact .refl s

/-- What was lifted is put back where a node fits. -/
theorem Sound.putBack (hs : Sound r h aside s) (houter : outer ⊆ s.openElements) {id : NodeId}
    (hid : s.store.parent? id = none) (hlt : id < s.store.slots.size) :
    Sound r h aside (putBack s outer id) := by
  rw [Construction.putBack]
  split
  · rename_i ancestor hancestor
    exact hs.putAt (hs.fits_placeIn (houter (List.mem_of_mem_head? hancestor))) hid hlt
  · exact hs

/-- What the block holds moves into a copy of the formatting element. -/
theorem Sound.wrapped {kept : List OpenElement} (hs : Sound r h aside s) {tag : Tag} (htag : tag.MayHold)
    (behind : Option NodeId) (hblock : Loose r h s.store block) (hinner : ∀ e ∈ inner, Loose r h s.store e)
    (hkept : ∀ e ∈ kept, Loose r h s.store e) (houter : outer.Sublist s.openElements) :
    Sound r h aside (s.wrapped element tag inner block kept outer behind) := by
  let content : Content := .element ⟨.html, tag.name⟩ tag.attributes
  let created := s.create content
  have hcreated : Grows s created.1 := grows_create s content
  have hsound : created.1.Sound r h aside := hs.create content
  have hnew : Loose r h created.1.store ⟨created.2, ⟨.html, tag.name⟩, false⟩ :=
    hs.loose_create tag.attributes (htag.isHtml .html)
  -- The block gives its children to the copy and takes the copy as its only child.
  let moved := created.1.store.moveChildren block.node created.2
  have hsource (d : NodeId) : ¬ Pillar r h block.node d := by
    rintro (⟨hdoc, -⟩ | ⟨hroot, -⟩)
    · exact hs.framed.ne_document hblock.element hdoc
    · exact hblock.free.1 hroot
  have hmove : Keeps (Pillar r h) created.1.store moved := Store.keeps_moveChildren hsource
  have hdetached : moved.parent? created.2 = none := by
    have hnone : created.1.store.parent? created.2 = none :=
      @Store.parent?_create_new s.store content
    rw [Store.parent?_moveChildren hsound.framed.linked, if_neg (hsound.framed.linked.not_mem hnone _)]
    exact hnone
  let store := moved.append block.node created.2
  have hkeeps : Keeps (Pillar r h) created.1.store store := hmove.trans Store.keeps_append
  have hlinked : store.Linked :=
    (hsound.framed.linked.moveChildren block.node created.2).append hdetached (hmove.lt hnew.element.lt)
  have hblock' := (hblock.keep (hcreated.keeps (Pillar r h))).keep hmove
  have htidy : store.Tidy (Pillar r h) :=
    (hsound.tidy.moveChildren hsound.framed.linked hsource (hnew.element.hosts hnew.holds)).append
      (hmove.lt hnew.element.lt) (hblock'.element.hosts hblock'.holds)
  have hstore := hsound.restore hlinked hkeeps htidy
  have hloose : ∀ e, Loose r h s.store e → Loose r h store e := fun e he =>
    (he.keep (hcreated.keeps (Pillar r h))).keep hkeeps
  have habove : ∀ e ∈ inner ++ ⟨created.2, ⟨.html, tag.name⟩, false⟩ :: block :: kept,
      Loose r h store e := by
    intro e he
    simp only [List.mem_append, List.mem_cons] at he
    rcases he with he | rfl | rfl | he
    · exact hloose e (hinner e he)
    · exact hnew.keep hkeeps
    · exact hloose _ hblock
    · exact hloose e (hkept e he)
  refine (hstore.formats fun node t he => ?_).reopenAs habove houter
  cases behind with
  | none =>
    have hmapped := hsound.formats_map (p := FormatEntry.isFor element.node) hnew.free htag
    exact ⟨hmapped.formatted node t he, hmapped.refilled node t he⟩
  | some b =>
    rcases putBefore_mem (List.mem_of_mem_filter he) with heq | he
    · obtain ⟨rfl, rfl⟩ := FormatEntry.element.inj heq
      exact ⟨hnew.free, htag⟩
    · exact ⟨hsound.formatted node t he, hsound.refilled node t he⟩

end Split

/-- Splitting a formatting element around a block that is open in it. -/
theorem Sound.splitAround {element block : OpenElement} {inner between outer : List OpenElement}
    (hs : Sound r h false s) {tag : Tag} (htag : tag.MayHold) (helement : Loose r h s.store element)
    (hblock : Loose r h s.store block) (hinner : ∀ e ∈ inner, Loose r h s.store e)
    (houter : outer.Sublist s.openElements) :
    Sound r h false (s.splitAround element tag inner block between outer) := by
  rw [splitAround_eq]
  have hstart : Lifting.Sound r h s { state := s, lifted := block.node } :=
    ⟨hs, .refl _ _, rfl, hblock.movable, List.forall_mem_nil _⟩
  have hl := hstart.steps block.node (between.zipIdx 1)
  generalize (between.zipIdx 1).foldl (fun (l : Lifting) (e, i) => l.step block.node e i) _ = l at hl ⊢
  have hout := hl.takenOut helement hblock hinner houter
  have hopen : outer.Sublist (l.takenOut element inner block outer).openElements :=
    (List.sublist_cons_self element outer).trans (List.sublist_append_right _ _)
  have hlt := hl.lifted.keeps_detach.lt hl.lifted.1
  have hput := grows_putBack (l.takenOut element inner block outer) outer (Store.parent?_detach l.lifted) hlt
  have hkeeps := (hl.keeps.trans hl.lifted.keeps_detach).trans (hput.keeps (Pillar r h))
  refine (hout.putBack hopen.subset (Store.parent?_detach l.lifted) hlt).wrapped htag l.behind
    (hblock.keep hkeeps) (fun e he => (hinner e he).keep hkeeps) (fun e he => ?_) ?_
  · exact (hl.kept e he).keep (hl.lifted.keeps_detach.trans (hput.keeps (Pillar r h)))
  · rw [hput.rest]
    exact hopen

/-! ### The end tag of a formatting element -/

theorem recentFormatting_subset (s : Construction) : s.recentFormatting ⊆ s.formatting :=
  List.takeWhile_subset _

/-- One round of an end tag: it is dropped, closes its element, or splits it. -/
theorem Sound.adoptOnce (hs : Sound r h false s) (subject : String) :
    Sound r h false (s.adoptOnce subject).1 := by
  rw [Construction.adoptOnce]
  dsimp only
  split
  · rename_i node tag hfound
    have hmem := recentFormatting_subset s (List.mem_of_find?_eq_some hfound)
    have hnode := hs.formatted node tag hmem
    split
    · exact hs.dropFormatting node
    · rename_i element outer hsplit
      split
      · exact hs
      · -- The formatting element is open, with `inside` above it.
        have hopen : s.openElements = s.openElements.takeWhile (·.node ≠ node) ++ element :: outer := by
          rw [← hsplit, List.takeWhile_append_dropWhile]
        have houter : outer.Sublist s.openElements := by
          rw [hopen]
          exact (List.sublist_cons_self element outer).trans (List.sublist_append_right _ _)
        have helement : Loose r h s.store element := by
          have hfirst := List.head?_dropWhile_not (fun e : OpenElement => decide (e.node ≠ node))
            s.openElements
          rw [hsplit] at hfirst
          obtain rfl : element.node = node := by simpa using hfirst
          have hmem : element ∈ s.openElements := hopen ▸ by simp
          exact ⟨hs.opened element hmem, hnode, hs.holding element hmem⟩
        have hinside : ∀ e ∈ s.openElements.takeWhile (·.node ≠ node), Loose r h s.store e := fun e he =>
          have hmem := List.takeWhile_subset _ he
          ⟨hs.opened e hmem, hs.ne_of_above hopen helement.free e he, hs.holding e hmem⟩
        rw [List.span_eq_takeWhile_dropWhile]
        dsimp only
        split
        · exact (hs.dropFormatting node).shrink houter
        · rename_i block inner hrest
          have hrest : ∀ e ∈ block :: inner, Loose r h s.store e := fun e he =>
            hinside e (List.mem_reverse.mp (List.dropWhile_subset _ (hrest ▸ he)))
          rw [List.forall_mem_cons] at hrest
          exact hs.splitAround (hs.refilled node tag hmem) helement hrest.1
            (fun e he => hrest.2 e (List.mem_reverse.mp he)) houter
  · exact hs.endOther subject

theorem Sound.adoptRounds (hs : Sound r h false s) (subject : String) (n : Nat) :
    Sound r h false (adoptRounds subject n s) := by
  induction n generalizing s with
  | zero => exact hs
  | succ n ih =>
    have honce := hs.adoptOnce subject
    rw [Construction.adoptRounds]
    split <;> rename_i heq <;> rw [heq] at honce
    · exact ih honce
    · exact honce

/-- The end tag of a formatting element closes it where it is the current one, and goes its rounds otherwise. -/
theorem Sound.adopt (hs : Sound r h false s) (subject : String) : Sound r h false (s.adopt subject) := by
  rw [Construction.adopt]
  split
  · split
    · exact hs.pop
    · exact hs.adoptRounds subject 8
  · exact hs

theorem Sound.closeLink (hs : Sound r h false s) : Sound r h false s.closeLink := by
  rw [Construction.closeLink]
  split
  · exact ((hs.adopt "a").dropFormatting _).close _
  · exact hs

end Vitrine.Html.Construction
