import Vitrine.Html.Construction
import Vitrine.Proofs.Html.Tidy

/-!
# The skeleton of a document under construction (section 4.6)

Once the root and the head of a document are there, nothing moves them: the root stays a child of the
document and the head a child of the root, whatever tokens follow. `Sound` is the invariant that carries
this. Elements only move when they are above an open formatting element, or when they are a body that frames
take the place of; and above an open element that is neither the root nor the head there is neither of them.

Behind `parse` of the `DocumentBuilder` stands the construction of documents, with some seventy rules. What
`append_to_head` needs of it is that a head stays in its place.

One exception is made: while the rules of the head are used again behind it, the head is open above other
elements. `Sound` has a flag for that, and no element moves under it.

Nodes are put into elements that may have children, and never in front of the root or the head. For this
`Sound` says that the open elements, and those that may be opened again, are none of those that are always
empty.

* `Sound.fits_place`: where the next node goes.
* `Sound.grows`: nodes may be added there, texts and attributes may grow.
* `Sound.reopenAs`: any elements may be closed, and any but the root and the head may be opened.
* `Sound.properMode_lasting`: the rules never go back to those before the head.
-/

namespace Vitrine.Html

/-- The modes before the head is there. -/
def Mode.isEarly (m : Mode) : Bool := m = .initial || m = .beforeHtml || m = .beforeHead

/-- The modes that are left for the one before. -/
def Mode.isPause (m : Mode) : Bool := m = .text || m = .inTableText

/-- A tag of an element that may have children. -/
def Tag.MayHold (tag : Tag) : Prop := tag.name ∉ emptyTags

instance (tag : Tag) : Decidable tag.MayHold := inferInstanceAs (Decidable (_ ∉ _))

/-- An element that may hold children is not always empty, in any vocabulary. -/
theorem Tag.MayHold.isHtml {tag : Tag} (h : tag.MayHold) (vocabulary : Vocabulary) :
    (⟨vocabulary, tag.name⟩ : ElementName).isHtml emptyTags = false := by
  have hcontains : emptyTags.contains tag.name = false := by simpa [MayHold] using h
  rw [ElementName.isHtml, hcontains, Bool.and_false]

/-- A rule that is for some names is for none of an element that is always empty. -/
theorem Tag.mayHold_of_contains {tag : Tag} {tags : List String} (h : tags.contains tag.name = true)
    (htags : ∀ t ∈ tags, t ∉ emptyTags) : tag.MayHold :=
  htags _ (List.contains_iff_mem.mp h)

theorem Tag.mayHold_of_name {tag : Tag} {name : String} (h : tag.name = name) (hname : name ∉ emptyTags) :
    tag.MayHold := by
  rwa [Tag.MayHold, h]

/-- A mode that a document with a head may go on in. -/
def Mode.IsLasting (m : Mode) : Prop := m.isEarly = false ∧ m.isPause = false

instance (m : Mode) : Decidable m.IsLasting := inferInstanceAs (Decidable (_ ∧ _))

namespace Store

/-- The two pairs of parent and child that hold the root and the head. -/
def Pillar (r h : NodeId) (p c : NodeId) : Prop := p = document ∧ c = r ∨ p = r ∧ c = h

/-- A linked store where the root stands in the document and the head in the root. -/
structure Framed (r h : NodeId) (σ : Store) : Prop where
  linked : σ.Linked
  fragment : ∃ contents, σ.nature? document = some ⟨.fragment, contents⟩
  root : σ.IsElement r ⟨.html, "html"⟩
  head : σ.IsElement h ⟨.html, "head"⟩
  root_mem : r ∈ σ.childrenOf document
  head_mem : h ∈ σ.childrenOf r

variable {r h : NodeId} {σ σ' : Store}

/-- An operation that keeps the links and the pillars keeps the frame. -/
theorem Framed.keep (hσ : Framed r h σ) (hlinked : σ'.Linked) (hkeeps : Keeps (Pillar r h) σ σ') :
    Framed r h σ' where
  linked := hlinked
  fragment := hσ.fragment.imp fun _ hn => hkeeps.nature _ _ hn
  root := hkeeps.isElement hσ.root
  head := hkeeps.isElement hσ.head
  root_mem := hkeeps.children _ _ (.inl ⟨rfl, rfl⟩) hσ.root_mem
  head_mem := hkeeps.children _ _ (.inr ⟨rfl, rfl⟩) hσ.head_mem

/-- The root and the head have different names. -/
theorem Framed.head_ne_root (hσ : Framed r h σ) : h ≠ r := by
  rintro rfl
  exact absurd (hσ.head.unique hσ.root) (by decide)

/-- An element that is neither the root nor the head by name is neither of them. -/
theorem Framed.ne_of_name (hσ : Framed r h σ) {id : NodeId} {name : ElementName}
    (hid : σ.IsElement id name) (hroot : name ≠ ⟨.html, "html"⟩) (hhead : name ≠ ⟨.html, "head"⟩) :
    id ≠ r ∧ id ≠ h := by
  constructor
  · rintro rfl
    exact hroot (hid.unique hσ.root)
  · rintro rfl
    exact hhead (hid.unique hσ.head)

theorem Framed.hosts_document (hσ : Framed r h σ) : σ.Hosts document := by
  obtain ⟨contents, hn⟩ := hσ.fragment
  exact ⟨_, hn, rfl⟩

theorem Framed.ne_document (hσ : Framed r h σ) {id : NodeId} {name : ElementName}
    (hid : σ.IsElement id name) : id ≠ Store.document := by
  rintro rfl
  obtain ⟨_, hdoc⟩ := hσ.fragment
  obtain ⟨_, hid⟩ := hid
  exact absurd (hdoc.symm.trans hid) (by simp)

end Store

namespace Construction

open Store (Framed Keeps Pillar)

variable {r h : NodeId} {aside : Bool} {s s' : Construction}

/-! ## States that differ in their nodes alone -/

/-- `s'` is `s` with more nodes, longer texts or more attributes. -/
structure Grows (s s' : Construction) : Prop where
  rest : s' = { s with store := s'.store }
  linked : s.store.Linked → s'.store.Linked
  keeps : ∀ A, Keeps A s.store s'.store

theorem Grows.refl (s : Construction) : Grows s s := ⟨rfl, id, fun A => .refl A s.store⟩

theorem Grows.trans {s'' : Construction} (h : Grows s s') (h' : Grows s' s'') : Grows s s'' :=
  ⟨by rw [h'.rest, h.rest], h'.linked ∘ h.linked, fun A => (h.keeps A).trans (h'.keeps A)⟩

/-- A node that is put at a place, and has none yet. -/
theorem grows_putAt (s : Construction) (place : Place) {id : NodeId} (hid : s.store.parent? id = none)
    (hlt : id < s.store.slots.size) : Grows s (s.putAt place id) := by
  cases place with
  | inside parent => exact ⟨rfl, fun hs => hs.append hid hlt, fun _ => Store.keeps_append⟩
  | before table around =>
    exact ⟨rfl, fun hs => hs.insertBefore hid hlt, fun _ => Store.keeps_insertBefore⟩

theorem grows_create (s : Construction) (content : Content) : Grows s (s.create content).1 :=
  ⟨rfl, fun hs => hs.create content, fun _ => Store.keeps_create content⟩

theorem grows_put (s : Construction) (content : Content) (place : Place) :
    Grows s ((s.create content).1.putAt place (s.create content).2) :=
  (grows_create s content).trans (grows_putAt _ place (Store.parent?_create_new content)
    (Store.lt_create content))

/-- A character goes where the next node goes, and may be a new text there. -/
theorem grows_putCharacter (s : Construction) (c : Char) : Grows s (s.putCharacter c) := by
  rw [putCharacter]
  split
  · exact ⟨rfl, fun hs => hs.appendCharacter c, fun _ => Store.keeps_appendCharacter c⟩
  · exact ⟨rfl, fun hs => hs.insertCharacterBefore c, fun _ => Store.keeps_insertCharacterBefore c⟩

theorem grows_addAttributes (s : Construction) (node : NodeId) (new : List Attribute) :
    Grows s { s with store := s.store.addAttributes node new } :=
  ⟨rfl, fun hs => hs.addAttributes new, fun _ => Store.keeps_addAttributes new⟩

/-- A new element is a node that is put where the next one goes. -/
theorem grows_newElement (s : Construction) (vocabulary : Vocabulary) (tag : Tag) :
    Grows s (s.newElement vocabulary tag).1 :=
  grows_put s (.element ⟨vocabulary, tag.name⟩ tag.attributes) _

/-- The new element has the name that it was made with. -/
theorem create_isElement (s : Construction) (name : ElementName) (attributes : List Attribute) :
    (s.create (.element name attributes)).1.store.IsElement (s.create (.element name attributes)).2
      name := by
  have hcreated := @Store.nature?_create_new s.store (.element name attributes)
  exact ⟨hcreated.choose, hcreated.choose_spec.1⟩

/-- A new element is in the store. -/
theorem newElement_isElement (s : Construction) (vocabulary : Vocabulary) (tag : Tag) :
    (s.newElement vocabulary tag).1.store.IsElement (s.newElement vocabulary tag).2.node
      (s.newElement vocabulary tag).2.name := by
  have hcreated := create_isElement s ⟨vocabulary, tag.name⟩ tag.attributes
  let content : Content := .element ⟨vocabulary, tag.name⟩ tag.attributes
  have hput := grows_putAt (s.create content).1 (s.create content).1.place
    (@Store.parent?_create_new s.store content) (@Store.lt_create s.store content)
  exact (hput.keeps fun _ _ => True).isElement hcreated

/-- A new element is none that was in the store before. -/
theorem newElement_ne (s : Construction) (vocabulary : Vocabulary) (tag : Tag) {id : NodeId}
    {name : ElementName} (hid : s.store.IsElement id name) :
    (s.newElement vocabulary tag).2.node ≠ id :=
  Store.create_ne (.element ⟨vocabulary, tag.name⟩ tag.attributes) hid.choose_spec

/-! ## Where nodes may be put -/

/-- A place where a node may stand. -/
def Fits (r h : NodeId) (σ : Store) : Place → Prop
  | .inside parent => σ.Hosts parent
  | .before table around => σ.Opens (Pillar r h) table around

/-- Where a node fits the store stays tidy. -/
theorem tidy_putAt {place : Place} {id : NodeId} (htidy : s.store.Tidy (Pillar r h))
    (hplace : Fits r h s.store place) (hlt : id < s.store.slots.size) :
    (s.putAt place id).store.Tidy (Pillar r h) := by
  cases place with
  | inside parent => exact htidy.append hlt hplace
  | before table around => exact htidy.insertBefore hlt hplace

/-! ## The invariant -/

/-- Of two open elements, the upper one is the root or the head only if the lower one is. -/
def Upholds (r h : NodeId) (aside : Bool) (upper lower : OpenElement) : Prop :=
  upper.node = r ∨ upper.node = h ∧ aside = false → lower.node = r ∨ lower.node = h

/-- An open element that is neither the root nor the head. -/
structure Loose (r h : NodeId) (σ : Store) (e : OpenElement) : Prop where
  element : σ.IsElement e.node e.name
  free : e.node ≠ r ∧ e.node ≠ h
  holds : e.name.isHtml emptyTags = false

/-- The root and the head are there, and will stay. With `aside` the head may be open above other
elements. -/
structure Sound (r h : NodeId) (aside : Bool) (s : Construction) : Prop where
  framed : Framed r h s.store
  known : s.head = some h
  opened : ∀ e ∈ s.openElements, s.store.IsElement e.node e.name
  ordered : s.openElements.Pairwise (Upholds r h aside)
  formatted : ∀ node tag, FormatEntry.element node tag ∈ s.formatting → node ≠ r ∧ node ≠ h
  late : s.mode.isEarly = false
  resumes : s.mode.isPause = true → s.resumed.isEarly = false
  templates : ∀ m ∈ s.templateModes, m.IsLasting
  tidy : s.store.Tidy (Pillar r h)
  holding : ∀ e ∈ s.openElements, e.name.isHtml emptyTags = false
  refilled : ∀ node tag, FormatEntry.element node tag ∈ s.formatting → tag.MayHold

namespace Sound

/-- Parts of the state that nothing here depends on. -/
theorem irrelevant {tableText : List Char} {form : Option NodeId} {reading : Reading}
    {allowsFrames fosters dropsLineFeed isOld again : Bool} (hs : Sound r h aside s) :
    Sound r h aside { s with tableText, form, allowsFrames, fosters, dropsLineFeed, isOld, reading, again } :=
  ⟨hs.framed, hs.known, hs.opened, hs.ordered, hs.formatted, hs.late, hs.resumes, hs.templates, hs.tidy,
    hs.holding, hs.refilled⟩

/-- The nodes may change while the skeleton stays. -/
theorem restore {σ : Store} (hs : Sound r h aside s) (hlinked : σ.Linked)
    (hkeeps : Keeps (Pillar r h) s.store σ) (htidy : σ.Tidy (Pillar r h)) :
    Sound r h aside { s with store := σ } :=
  { hs with
    framed := hs.framed.keep hlinked hkeeps
    opened := fun e he => hkeeps.isElement (hs.opened e he)
    tidy := htidy }

/-- The skeleton stays in a state that grows and is tidy. -/
theorem grows (hs : Sound r h aside s) (hgrows : Grows s s') (htidy : s'.store.Tidy (Pillar r h)) :
    Sound r h aside s' := by
  rw [hgrows.rest]
  exact hs.restore (hgrows.linked hs.framed.linked) (hgrows.keeps _) htidy

/-- The formatting elements may be any others but the root and the head. -/
theorem formats {l : List FormatEntry} (hs : Sound r h aside s)
    (hl : ∀ node tag, FormatEntry.element node tag ∈ l → (node ≠ r ∧ node ≠ h) ∧ tag.MayHold) :
    Sound r h aside { s with formatting := l } :=
  { hs with
    formatted := fun node tag he => (hl node tag he).1
    refilled := fun node tag he => (hl node tag he).2 }

theorem forget {l : List FormatEntry} (hs : Sound r h aside s) (hl : l ⊆ s.formatting) :
    Sound r h aside { s with formatting := l } :=
  hs.formats fun node tag he => ⟨hs.formatted node tag (hl he), hs.refilled node tag (hl he)⟩

/-- Elements may be closed, and elements that are neither the root nor the head may be opened. -/
theorem reopenAs {above outer : List OpenElement} (hs : Sound r h aside s)
    (habove : ∀ e ∈ above, Loose r h s.store e) (houter : outer.Sublist s.openElements) :
    Sound r h aside { s with openElements := above ++ outer } :=
  { hs with
    opened := List.forall_mem_append.mpr
      ⟨fun e he => (habove e he).element, fun e he => hs.opened e (houter.subset he)⟩
    holding := List.forall_mem_append.mpr
      ⟨fun e he => (habove e he).holds, fun e he => hs.holding e (houter.subset he)⟩
    ordered := by
      have hfree : ∀ e ∈ above, ∀ lower, Upholds r h aside e lower := fun e he lower hu =>
        (hu.elim (habove e he).free.1 fun hu => (habove e he).free.2 hu.1).elim
      have habove : above.Pairwise (Upholds r h aside) :=
        List.Pairwise.imp_of_mem (fun he _ _ => hfree _ he _) (List.pairwise_of_forall fun _ _ => trivial)
      exact List.pairwise_append.mpr
        ⟨habove, hs.ordered.sublist houter, fun e he lower _ => hfree e he lower⟩ }

theorem shrink {l : List OpenElement} (hs : Sound r h aside s) (hl : l.Sublist s.openElements) :
    Sound r h aside { s with openElements := l } :=
  hs.reopenAs (List.forall_mem_nil _) hl

/-- Any element but the root and the head may be opened. -/
theorem push (hs : Sound r h aside s) {e : OpenElement} (he : Loose r h s.store e) : Sound r h aside (s.push e) :=
  hs.reopenAs (List.forall_mem_singleton.mpr he) (List.Sublist.refl _)

/-- The rules may become others. -/
theorem mode (hs : Sound r h aside s) {m : Mode} (hm : m.IsLasting) : Sound r h aside { s with mode := m } :=
  { hs with
    late := hm.1
    resumes := fun hp => absurd hp (by rw [hm.2]; nofun) }

variable (hs : Sound r h aside s)

include hs

/-- The rules may change to any but those before the head. -/
theorem switchTo {m : Mode} (hm : m.IsLasting) : Sound r h aside (s.switchTo m) := hs.mode hm

/-- A token may be left to other rules than those before the head. -/
theorem retry {m : Mode} (hm : m.IsLasting) : Sound r h aside (s.retry m) := (hs.mode hm).irrelevant

theorem forbidFrames : Sound r h aside s.forbidFrames := hs.irrelevant

/-! ### Closing -/

theorem pop : Sound r h aside s.pop := hs.shrink (List.drop_sublist _ _)

theorem close (node : NodeId) : Sound r h aside (s.close node) := hs.shrink List.filter_sublist

/-- The innermost elements may be closed up to any that is looked for. -/
theorem dropWhile (p : OpenElement → Bool) :
    Sound r h aside { s with openElements := s.openElements.dropWhile p } :=
  hs.shrink (List.dropWhile_sublist _)

theorem popThrough (p : ElementName → Bool) : Sound r h aside (s.popThrough p) :=
  hs.shrink ((List.drop_sublist _ _).trans (List.dropWhile_sublist _))

theorem popThroughTag (tag : String) : Sound r h aside (s.popThroughTag tag) := hs.popThrough _

theorem popTo (tags : List String) : Sound r h aside (s.popTo tags) := hs.dropWhile _

theorem closeImplied (kept : List String) : Sound r h aside (s.closeImplied kept) := hs.dropWhile _

theorem closeParagraph : Sound r h aside s.closeParagraph := (hs.closeImplied _).popThroughTag _

/-- A paragraph is closed if there is one, and nothing else is. -/
theorem endParagraph : Sound r h aside s.endParagraph := by
  rw [Construction.endParagraph]
  split
  · exact hs.closeParagraph
  · exact hs

/-! ### Where nodes go -/

/-- Every open element may have children, and so may the contents of an open template. -/
theorem hosts_inside {e : OpenElement} (he : e ∈ s.openElements) : s.store.Hosts (s.store.inside e.node) :=
  hs.tidy.hosts_inside ((hs.opened e he).hosts (hs.holding e he))

/-- In front of a table, or in a template around it, a node fits. -/
theorem fits_fosterPlace {es : List OpenElement} (hes : es ⊆ s.openElements) {place : Place}
    (hplace : fosterPlace? s.store es = some place) : Fits r h s.store place := by
  induction es with
  | nil => cases hplace
  | cons e es ih =>
    obtain ⟨he, hrest⟩ := List.cons_subset.mp hes
    rw [fosterPlace?] at hplace
    split at hplace
    · obtain rfl := Option.some.inj hplace
      exact hs.hosts_inside he
    · split at hplace
      · rename_i htable
        obtain rfl := Option.some.inj hplace
        have hname : e.name = ⟨.html, "table"⟩ := by
          cases hn : e.name
          simpa [ElementName.isHtml, hn] using htable
        obtain ⟨hroot, hhead⟩ := hs.framed.ne_of_name (hs.opened e he) (hname ▸ by decide) (hname ▸ by decide)
        refine ⟨⟨_, hs.opened e he⟩, ?_, ?_⟩
        · rintro p c (⟨-, rfl⟩ | ⟨-, rfl⟩)
          · exact hroot
          · exact hhead
        · cases es with
          | nil => exact hs.framed.hosts_document
          | cons around es =>
            have haround := hrest List.mem_cons_self
            exact (hs.opened around haround).hosts (hs.holding around haround)
      · exact ih hrest hplace

/-- The outermost open element may have children, or the document if nothing is open. -/
theorem hosts_root : s.store.Hosts ((s.root?.map OpenElement.node).getD Store.document) := by
  cases hroot : s.root? with
  | none => exact hs.framed.hosts_document
  | some root =>
    have hmem : root ∈ s.openElements := List.mem_of_getLast? hroot
    exact (hs.opened root hmem).hosts (hs.holding root hmem)

/-- In an open element a node fits, and where its parent does not take it, in front of the table. -/
theorem fits_placeIn {e : OpenElement} (he : e ∈ s.openElements) : Fits r h s.store (s.placeIn e) := by
  rw [placeIn]
  split
  · cases hplace : fosterPlace? s.store s.openElements with
    | some place => exact hs.fits_fosterPlace (List.Subset.refl _) hplace
    | none => exact hs.hosts_root
  · exact hs.hosts_inside he

/-- **The next node goes where it may stand**: into what may have children, or in front of a table. -/
theorem fits_place : Fits r h s.store s.place := by
  rw [Construction.place]
  cases hcurrent : s.current? with
  | none => exact hs.framed.hosts_document
  | some e => exact hs.fits_placeIn (List.mem_of_mem_head? hcurrent)

/-! ### New nodes -/

/-- A node that stands nowhere yet does not touch the skeleton. -/
theorem create (content : Content) : Sound r h aside (s.create content).1 :=
  hs.grows (grows_create s content) (hs.tidy.create content)

/-- A node that has no parent may be put where it fits. -/
theorem putAt {place : Place} (hplace : Fits r h s.store place) {id : NodeId}
    (hid : s.store.parent? id = none) (hlt : id < s.store.slots.size) : Sound r h aside (s.putAt place id) :=
  hs.grows (grows_putAt s place hid hlt) (tidy_putAt hs.tidy hplace hlt)

/-- A new node at some place. -/
theorem putNew (content : Content) (place : Place) (hplace : Fits r h (s.create content).1.store place) :
    Sound r h aside ((s.create content).1.putAt place (s.create content).2) :=
  (hs.create content).putAt hplace (@Store.parent?_create_new s.store content)
    (@Store.lt_create s.store content)

/-- A node may be put where the next one goes. -/
theorem putNext (content : Content) :
    Sound r h aside ((s.create content).1.putAt (s.create content).1.place (s.create content).2) :=
  hs.putNew content _ (hs.create content).fits_place

theorem putComment (text : String) : Sound r h aside (s.putComment text) := hs.putNext (.comment text)

/-- A comment may be put into any node that may have children. -/
theorem putCommentIn {parent : NodeId} (hparent : s.store.Hosts parent) (text : String) :
    Sound r h aside (s.putCommentIn parent text) :=
  hs.putNew (.comment text) (.inside parent) (hparent.extend (@Store.extends_create s.store (.comment text)))

/-- A character extends a text where the next node goes, or is a new one. -/
theorem putCharacter (c : Char) : Sound r h aside (s.putCharacter c) := by
  refine hs.grows (grows_putCharacter s c) ?_
  have hplace := hs.fits_place
  rw [Construction.putCharacter]
  split <;> rename_i heq <;> rw [heq] at hplace
  · exact hs.tidy.appendCharacter c hplace
  · exact hs.tidy.insertCharacterBefore c hplace

/-- Attributes do not tell whether an element may move. -/
theorem addAttributes (node : NodeId) (new : List Attribute) :
    Sound r h aside { s with store := s.store.addAttributes node new } :=
  hs.grows (grows_addAttributes s node new) (hs.tidy.addAttributes new)

/-- A new element is neither the root nor the head. -/
theorem newElement_ne (vocabulary : Vocabulary) (tag : Tag) :
    (s.newElement vocabulary tag).2.node ≠ r ∧ (s.newElement vocabulary tag).2.node ≠ h :=
  ⟨Construction.newElement_ne s _ _ hs.framed.root, Construction.newElement_ne s _ _ hs.framed.head⟩

/-- A new element is neither the root nor the head. -/
theorem newElement (vocabulary : Vocabulary) (tag : Tag) : Sound r h aside (s.newElement vocabulary tag).1 :=
  hs.putNext (.element ⟨vocabulary, tag.name⟩ tag.attributes)

/-- A new element may be opened if it may hold children. -/
theorem pushNew {vocabulary : Vocabulary} {tag : Tag}
    (hname : (⟨vocabulary, tag.name⟩ : ElementName).isHtml emptyTags = false) :
    Sound r h aside ((s.newElement vocabulary tag).1.push (s.newElement vocabulary tag).2) :=
  (hs.newElement vocabulary tag).push
    ⟨newElement_isElement s vocabulary tag, hs.newElement_ne vocabulary tag, hname⟩

/-- A tag opens its element if that may hold children. -/
theorem insert {tag : Tag} (htag : tag.MayHold) : Sound r h aside (s.insert tag) :=
  hs.pushNew (htag.isHtml .html)

theorem insertNamed {tag : String} (htag : tag ∉ emptyTags) : Sound r h aside (s.insertNamed tag) :=
  hs.insert htag

theorem insertEmpty (tag : Tag) : Sound r h aside (s.insertEmpty tag) := hs.newElement .html tag

/-- Elements of other vocabularies may hold children, whatever their names are. -/
theorem insertForeign {vocabulary : Vocabulary} (hforeign : vocabulary ≠ .html) (tag : Tag) :
    Sound r h aside (s.insertForeign vocabulary tag) := by
  rw [Construction.insertForeign]
  dsimp only
  split
  · exact hs.newElement vocabulary tag
  · exact hs.pushNew (by simp [ElementName.isHtml, hforeign])

/-- The mode that comes back behind the text of an element is the present one. -/
theorem insertRaw {tag : Tag} (htag : tag.MayHold) (reading : Reading) :
    Sound r h aside (s.insertRaw tag reading) :=
  { hs.insert htag with
    late := rfl
    resumes := fun _ => hs.late }

/-! ### The proper mode -/

omit hs in
/-- A selection is read by rules of its own. -/
theorem selectMode_lasting (es : List OpenElement) : (selectMode es).IsLasting := by
  induction es with
  | nil => decide
  | cons e es ih =>
    rw [selectMode]
    split
    · decide
    · split
      · decide
      · exact ih

/-- The mode of the innermost template. -/
theorem innermost_lasting : (s.templateModes.head?.getD .inTemplate).IsLasting := by
  cases hm : s.templateModes with
  | nil => exact ⟨rfl, rfl⟩
  | cons m ms => exact hs.templates m (hm ▸ List.mem_cons_self)

/-- The mode that an open element calls for is none of those before the head: where the root alone is open, the
head is there. -/
theorem modeOf?_lasting {e : OpenElement} {around : List OpenElement} {m : Mode}
    (hm : s.modeOf? e around = some m) : m.IsLasting := by
  simp only [modeOf?, hs.known] at hm
  split at hm
  · exact absurd hm nofun
  · split at hm
    case h_1 => exact Option.some.inj hm ▸ selectMode_lasting around
    case h_11 => exact Option.some.inj hm ▸ hs.innermost_lasting
    case h_2 | h_3 | h_12 =>
      split at hm
      · exact absurd hm nofun
      · exact Option.some.inj hm ▸ ⟨rfl, rfl⟩
    case h_16 => exact absurd hm nofun
    all_goals exact Option.some.inj hm ▸ ⟨rfl, rfl⟩

theorem openMode_lasting (es : List OpenElement) : (s.openMode es).IsLasting := by
  induction es with
  | nil => exact ⟨rfl, rfl⟩
  | cons e es ih =>
    rw [openMode]
    cases hm : s.modeOf? e es with
    | none => exact ih
    | some m => exact hs.modeOf?_lasting hm

theorem properMode_lasting : s.properMode.IsLasting := hs.openMode_lasting _

end Sound

end Construction

end Vitrine.Html
