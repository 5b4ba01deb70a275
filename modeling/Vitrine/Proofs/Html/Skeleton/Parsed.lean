import Vitrine.Html.Parse
import Vitrine.Proofs.Html.Skeleton.Rules

/-!
# The stages of a document (section 4.6)

A document is `Bare` until its root is there, `Rooted` until its head is there, and `Sound` from then on. A
token takes it from one stage to the next or leaves it in its stage, and the end of the text takes it to the
last one. So, whatever the text is, the finished document has a head in its root; and its store is linked,
so that every node that can be reached is found again from its parent. Comments and document types may stand in
front of the root and of the head, and nothing else does.

That is why `append_to_head` never misses a head, and why `replace_injection_point` never fails for a detached
node.

* `Stage.readAll`: any text leaves a document in one of the three stages.
* `tidy_built`: in the finished store there are root and head, and they stand in front.
* `linked_built`: in the finished store the children of a node name it as their parent.
-/

namespace Vitrine.Html

namespace Construction

variable {r h : NodeId} {s s' : Construction}

/-- There is no root yet. -/
structure Bare (s : Construction) : Prop where
  linked : s.store.Linked
  fragment : ∃ contents, s.store.nature? Store.document = some ⟨.fragment, contents⟩
  openElements : s.openElements = []
  formatting : s.formatting = []
  templateModes : s.templateModes = []
  mode : s.mode = .initial ∨ s.mode = .beforeHtml
  tidy : s.store.Tidy fun _ _ => False
  leaves : s.store.OnlyLeaves Store.document

/-- There is a root, and no head yet. -/
structure Rooted (r : NodeId) (s : Construction) : Prop where
  linked : s.store.Linked
  fragment : ∃ contents, s.store.nature? Store.document = some ⟨.fragment, contents⟩
  root : s.store.nature? r = some ⟨.element ⟨.html, "html"⟩ [], none⟩
  root_mem : r ∈ s.store.childrenOf Store.document
  openElements : s.openElements = [⟨r, ⟨.html, "html"⟩, false⟩]
  formatting : s.formatting = []
  templateModes : s.templateModes = []
  mode : s.mode = .beforeHead
  tidy : s.store.Tidy fun p c => p = Store.document ∧ c = r
  leaves : s.store.OnlyLeaves r

/-- A comment or a document type goes into a document without a root. -/
theorem Bare.putLeaf (hs : Bare s) (content : Content) (hleaf : content.kind.isLeaf = true) :
    Bare ((s.create content).1.putAt (.inside Store.document) (s.create content).2) := by
  have hgrows := grows_put s content (.inside Store.document)
  obtain ⟨contents, hdocument⟩ := hs.fragment
  exact { hs with
    linked := hgrows.linked hs.linked
    fragment := ⟨contents, Store.extends_put content _ _ hdocument⟩
    tidy := hs.tidy.put content ⟨_, hdocument, rfl⟩
    leaves := hs.leaves.put hleaf (Store.lt_of_nature? hdocument) }

theorem Rooted.hosts_root (hs : Rooted r s) : s.store.Hosts r := ⟨_, hs.root, by decide⟩

/-- A comment goes into the root. -/
theorem Rooted.putLeaf (hs : Rooted r s) (content : Content) (hleaf : content.kind.isLeaf = true) :
    Rooted r { s with store := s.store.put content r } := by
  obtain ⟨contents, hdocument⟩ := hs.fragment
  have hgrows := grows_put s content (.inside r)
  exact { hs with
    linked := hgrows.linked hs.linked
    fragment := ⟨contents, Store.extends_put content _ _ hdocument⟩
    root := Store.extends_put content _ _ hs.root
    root_mem := (hgrows.keeps fun _ _ => True).children _ _ trivial hs.root_mem
    tidy := hs.tidy.put content hs.hosts_root
    leaves := hs.leaves.put hleaf (Store.lt_of_nature? hs.root) }

/-- A second root tag adds attributes before there is a head, too. -/
theorem Rooted.addAttributes (hs : Rooted r s) (node : NodeId) (new : List Attribute) :
    Rooted r { s with store := s.store.addAttributes node new } := by
  have hkeeps := (grows_addAttributes s node new).keeps fun _ _ => True
  exact { hs with
    linked := hs.linked.addAttributes new
    fragment := hs.fragment.imp fun _ hn => hkeeps.nature _ _ hn
    root := hkeeps.nature _ _ hs.root
    root_mem := hkeeps.children _ _ trivial hs.root_mem
    tidy := hs.tidy.addAttributes new
    leaves := hs.leaves.addAttributes new }

/-- The three stages of a document. -/
inductive Stage (s : Construction) : Prop
  | bare (hs : Bare s)
  | rooted (r : NodeId) (hs : Rooted r s)
  | sound (r h : NodeId) (hs : Sound r h false s)

theorem Stage.ite {c : Prop} [Decidable c] {s t : Construction} (hs : Stage s) (ht : Stage t) :
    Stage (if c then s else t) := by
  split
  · exact hs
  · exact ht

/-! ## From one stage to the next -/

theorem root_not_empty : ElementName.isHtml ⟨.html, "html"⟩ emptyTags = false := by decide

/-- The first element is the root. -/
theorem Bare.openRoot (hs : Bare s) (tag : Tag) (again : Bool) : ∃ r,
    Rooted r { s.openRoot tag with mode := .beforeHead, again } := by
  let content : Content := .element ⟨.html, "html"⟩ tag.attributes
  let created := s.store.create content
  obtain ⟨contents, hnew, hplain⟩ := @Store.nature?_create_new s.store content
  obtain rfl : contents = none := hplain fun _ heq =>
    absurd (congrArg ElementName.tag (Content.element.inj heq).1) (by decide)
  have hgrows : Grows s { s with store := s.store.put content Store.document } :=
    grows_put s content (.inside Store.document)
  obtain ⟨contents, hdocument⟩ := hs.fragment
  have hlt := Store.lt_of_nature? hdocument
  exact ⟨created.2, {
    linked := hgrows.linked hs.linked
    fragment := ⟨contents, Store.extends_put content _ _ hdocument⟩
    root := Store.extends_append _ _ hnew
    root_mem := Store.mem_append ((Store.keeps_create (A := fun _ _ => True) content).lt hlt)
    openElements := congrArg (_ :: ·) hs.openElements
    formatting := hs.formatting
    templateModes := hs.templateModes
    mode := rfl
    tidy := { hs.tidy.put content ⟨_, hdocument, rfl⟩ with
      heads := by
        rintro p c ⟨rfl, rfl⟩
        exact hs.leaves.heads_put content hlt }
    leaves := Store.onlyLeaves_put_new content hlt }⟩

/-- What comes next goes into the root. -/
theorem Rooted.place (hs : Rooted r s) (content : Content) : (s.create content).1.place = .inside r := by
  have hroot := Store.extends_create content _ _ hs.root
  have hinside : (s.create content).1.store.inside r = r := by
    rw [Store.inside_eq]
    exact congrArg (fun n => ((Option.bind n Nature.contents).getD r)) hroot
  have hopen : (s.create content).1.openElements = [⟨r, ⟨.html, "html"⟩, false⟩] := hs.openElements
  rw [Construction.place, current?, hopen]
  simp [placeIn, hinside, tableParts, ElementName.isHtml]

/-- Before there is a head, nodes are put behind the children of the root. -/
theorem Rooted.putNext (hs : Rooted r s) (content : Content) :
    (s.create content).1.putAt (s.create content).1.place (s.create content).2 =
      { s with store := s.store.put content r } := by
  rw [hs.place content]
  rfl

/-- The first element in the root is the head, and from then on the state is sound. -/
theorem Rooted.openHead (hs : Rooted r s) (tag : Tag) (htag : tag.name = "head") (again : Bool) : ∃ h,
    Sound r h false { s.openHead tag with mode := .inHead, again } := by
  let content : Content := .element ⟨.html, tag.name⟩ tag.attributes
  let head := (s.store.create content).2
  have hput : (s.newElement .html tag).1 = { s with store := s.store.put content r } := hs.putNext content
  have hgrows : Grows s { s with store := s.store.put content r } := grows_put s content (.inside r)
  have hnew : (s.store.put content r).IsElement head ⟨.html, tag.name⟩ := by
    have hcreated := newElement_isElement s .html tag
    rwa [hput] at hcreated
  have hstate : { s.openHead tag with mode := .inHead, again } =
      { s with
        store := s.store.put content r
        openElements := (s.newElement .html tag).2 :: s.openElements
        head := some head, mode := .inHead, again } := by
    show { (s.newElement .html tag).1.push (s.newElement .html tag).2 with
      head := some head, mode := .inHead, again } = _
    rw [hput]
    rfl
  obtain ⟨contents, hdocument⟩ := hs.fragment
  have hroot := Store.extends_put (p := r) content _ _ hs.root
  have hlt := Store.lt_of_nature? hs.root
  have htidy : (s.store.put content r).Tidy fun p c => p = Store.document ∧ c = r :=
    hs.tidy.put content hs.hosts_root
  have hholds : tag.MayHold := tag.mayHold_of_name htag (by decide)
  rw [hstate]
  exact ⟨head, {
    framed := {
      linked := hgrows.linked hs.linked
      fragment := ⟨contents, Store.extends_put content _ _ hdocument⟩
      root := ⟨none, hroot⟩
      head := htag ▸ hnew
      root_mem := (hgrows.keeps fun _ _ => True).children _ _ trivial hs.root_mem
      head_mem := Store.mem_append ((Store.keeps_create (A := fun _ _ => True) content).lt hlt) }
    known := rfl
    opened := by
      rw [hs.openElements]
      exact List.forall_mem_cons.mpr ⟨hnew, List.forall_mem_singleton.mpr ⟨none, hroot⟩⟩
    ordered := by
      rw [hs.openElements]
      exact List.pairwise_pair.mpr fun _ => .inl rfl
    formatted := by simp [hs.formatting]
    late := rfl
    resumes := nofun
    templates := by simp [hs.templateModes]
    tidy := { htidy with
      heads := by
        rintro p c (⟨rfl, rfl⟩ | ⟨rfl, rfl⟩)
        · exact htidy.heads _ _ ⟨rfl, rfl⟩
        · exact hs.leaves.heads_put content hlt }
    holding := by
      rw [hs.openElements]
      exact List.forall_mem_cons.mpr ⟨hholds.isHtml .html, List.forall_mem_singleton.mpr root_not_empty⟩
    refilled := by simp [hs.formatting] }⟩

/-! ## The rules before the head -/

/-- Parts of the state that no stage depends on. -/
theorem Bare.irrelevant {reading : Reading} {dropsLineFeed isOld again : Bool} (hs : Bare s) :
    Bare { s with reading, dropsLineFeed, isOld, again } :=
  { hs with }

theorem Rooted.irrelevant {reading : Reading} {dropsLineFeed isOld again : Bool} (hs : Rooted r s) :
    Rooted r { s with reading, dropsLineFeed, isOld, again } :=
  { hs with }

theorem Stage.irrelevant {reading : Reading} {dropsLineFeed isOld again : Bool} (hs : Stage s) :
    Stage { s with reading, dropsLineFeed, isOld, again } := by
  cases hs with
  | bare hs => exact .bare hs.irrelevant
  | rooted r hs => exact .rooted r hs.irrelevant
  | sound r h hs => exact .sound r h hs.irrelevant

/-- The rules before the root. -/
theorem Bare.toBeforeHtml (hs : Bare s) : Bare ({ s with isOld := true }.retry .beforeHtml) :=
  { hs with mode := .inr rfl }

/-- In front of the root stand comments alone, and a document type. -/
theorem Bare.initial (hs : Bare s) (t : Token) : Stage (s.initial t) := by
  cases t with
  | character c => exact .ite (.bare hs) (.bare hs.toBeforeHtml)
  | comment text => exact .bare (hs.putLeaf (.comment text) rfl)
  | startTag | endTag | doctype | fault | endOfFile => exact .bare hs.toBeforeHtml

/-- What opens the root gives the state one; all else leaves it bare. -/
theorem Bare.beforeHtml (hs : Bare s) (t : Token) : Stage (s.beforeHtml t) := by
  obtain ⟨r, hotherwise⟩ := hs.openRoot { name := "html" } true
  have hopened : Stage ((s.openRoot { name := "html" }).retry .beforeHead) := .rooted r hotherwise
  cases t with
  | character c => exact .ite (.bare hs) hopened
  | comment text => exact .bare (hs.putLeaf (.comment text) rfl)
  | startTag tag =>
    obtain ⟨r, hroot⟩ := hs.openRoot tag (s.openRoot tag).again
    exact .ite (.rooted r hroot) hopened
  | endTag tag => exact .ite hopened (.bare hs)
  | doctype | fault | endOfFile => exact hopened

theorem Rooted.mergeRoot (hs : Rooted r s) (tag : Tag) : Rooted r (s.mergeRoot tag) := by
  rw [Construction.mergeRoot]
  split
  · exact hs
  · split
    · exact hs.addAttributes _ _
    · exact hs

/-- What opens the head makes the state sound; all else leaves it with a root. -/
theorem Rooted.beforeHead (hs : Rooted r s) (t : Token) : Stage (s.beforeHead t) := by
  obtain ⟨h, hotherwise⟩ := hs.openHead { name := "head" } rfl true
  have hopened : Stage ((s.openHead { name := "head" }).retry .inHead) := .sound r h hotherwise
  cases t with
  | character c => exact .ite (.rooted r hs) hopened
  | comment text =>
    have hput : s.putComment text = { s with store := s.store.put (.comment text) r } :=
      hs.putNext (.comment text)
    have hput' : Rooted r (s.putComment text) := hput ▸ hs.putLeaf (.comment text) rfl
    exact .rooted r hput'
  | startTag tag =>
    by_cases htag : tag.name = "head"
    · obtain ⟨h, hhead⟩ := hs.openHead tag htag (s.openHead tag).again
      exact .ite (.rooted r (hs.mergeRoot tag)) (.ite (.sound r h hhead) hopened)
    · simp only [Construction.beforeHead, if_neg htag]
      exact .ite (.rooted r (hs.mergeRoot tag)) hopened
  | endTag tag => exact .ite hopened (.rooted r hs)
  | doctype | fault | endOfFile => exact hopened

/-! ## A whole text -/

/-- One look at a token. -/
theorem Stage.step (hs : Stage s) (t : Token) :
    Stage (if s.isForeign t then s.foreign t else s.byMode t) := by
  cases hs with
  | bare hs =>
    have hforeign : s.isForeign t = false := by
      cases t <;> simp [isForeign, current?, hs.openElements]
    rw [hforeign]
    rcases hs.mode with hmode | hmode <;> simp only [byMode, hmode]
    · exact hs.initial t
    · exact hs.beforeHtml t
  | rooted r hs =>
    have hforeign : s.isForeign t = false := by
      cases t <;> simp [isForeign, current?, hs.openElements]
    rw [hforeign]
    simp only [byMode, hs.mode]
    exact hs.beforeHead t
  | sound r h hs => exact .sound r h (hs.step t)

/-- A token may be taken by the rules of one stage after the other. -/
theorem Stage.settle (t : Token) (n : Nat) (hs : Stage s) : Stage (settle t n s) := by
  induction n generalizing s with
  | zero => exact hs.irrelevant
  | succ n ih => exact .ite (ih (hs.step t).irrelevant) (hs.step t)

/-- As long as the mode is the first one, there is no root. -/
theorem Stage.bare_of_mode (hs : Stage s) (hmode : s.mode = .initial) : Bare s := by
  cases hs with
  | bare hs => exact hs
  | rooted r hs => exact absurd (hs.mode.symm.trans hmode) nofun
  | sound r h hs =>
    have hlate := hs.late
    rw [hmode] at hlate
    exact absurd hlate nofun

theorem Bare.doctype (hs : Bare s) (d : Doctype) : Bare
    { (s.create (.doctype d.name)).1.putAt (.inside Store.document) (s.create (.doctype d.name)).2 with
      isOld := d.isOld, mode := .beforeHtml } :=
  { hs.putLeaf (.doctype d.name) rfl with mode := .inr rfl }

/-- **A token leaves a document in its stage**, or takes it to a later one. -/
theorem Stage.take (hs : Stage s) (t : Token) : Stage (s.take t) := by
  have hkept : Stage { s with dropsLineFeed := false } := hs.irrelevant
  cases t with
  | fault => exact hkept
  | doctype d =>
    by_cases hmode : s.mode = .initial
    · have hdoctype := (hkept.bare_of_mode hmode).doctype d
      simp only [Construction.take, hmode]
      exact .bare hdoctype
    · simp only [Construction.take]
      rw [if_pos hmode]
      exact hkept
  | character | comment | startTag | endTag | endOfFile => exact .ite hkept (hkept.settle _ _)

theorem Stage.takeAll (hs : Stage s) (ts : List Token) : Stage (s.takeAll ts) := by
  induction ts generalizing s with
  | nil => exact hs
  | cons t ts ih => exact ih (hs.take t)

theorem Stage.readPiece (hs : Stage s) (text : List Char) : Stage (s.readPiece text).1 := by
  have hmarkup : Stage { s with reading := .markup } := hs.irrelevant
  rw [Construction.readPiece]
  split
  · exact hs.takeAll _
  · exact hmarkup.takeAll _
  · exact hmarkup.takeAll _
  · exact hs.takeAll _

/-- **Any text leaves a document in one of the stages.** -/
theorem Stage.readAll (n : Nat) (hs : Stage s) (text : List Char) : Stage (readAll n s text) := by
  induction n generalizing s text with
  | zero => exact hs
  | succ n ih => exact .ite hs (ih (hs.readPiece text) _)

/-- In the beginning there is nothing. -/
theorem stage_start : Stage {} := by
  have hempty : ∀ p, ({} : Store).childrenOf p = #[] := fun p => by cases p <;> rfl
  have hparent : ∀ c, ({} : Store).parent? c = none := fun c => by cases c <;> rfl
  have hcontents : ∀ id n held, ({} : Store).nature? id = some n → n.contents = some held →
      ({} : Store).Hosts held := by
    intro id n held hn hheld
    cases id with
    | zero => obtain rfl := Option.some.inj hn; cases hheld
    | succ => cases hn
  exact .bare
    { linked := ⟨fun p c hc => absurd (hempty p ▸ hc) (Array.not_mem_empty c), fun p => by simp [hempty p]⟩
      fragment := ⟨none, rfl⟩
      openElements := rfl
      formatting := rfl
      templateModes := rfl
      mode := .inl rfl
      tidy := ⟨fun p c hc => absurd (hc.symm.trans (hparent c)) nofun, hcontents, nofun⟩
      leaves := fun d hd => absurd (hempty _ ▸ hd) (Array.not_mem_empty d) }

/-! ## The end of the text -/

theorem Sound.settle (hs : Sound r h false s) (t : Token) (n : Nat) : Sound r h false (settle t n s) := by
  induction n generalizing s with
  | zero => exact hs.irrelevant
  | succ n ih => exact .ite (ih (hs.step t).irrelevant) (hs.step t)

/-- At the end of the text the rules hand on to those of the next mode. -/
theorem settle_endOfFile {next : Construction} (n : Nat) (hnext : s.byMode .endOfFile = next)
    (hagain : next.again = true) :
    settle .endOfFile (n + 1) s = settle .endOfFile n { next with again := false } := by
  have hforeign : s.isForeign .endOfFile = false := by rw [isForeign]
  rw [Construction.settle, hforeign, if_neg Bool.false_ne_true, hnext]
  exact if_pos hagain

theorem Rooted.settle_end (hs : Rooted r s) (n : Nat) : ∃ h,
    Sound r h false (Construction.settle .endOfFile (n + 1) s) := by
  obtain ⟨h, hhead⟩ := hs.openHead { name := "head" } rfl false
  have hstep : s.byMode .endOfFile = (s.openHead { name := "head" }).retry .inHead := by
    simp only [byMode, hs.mode]
    rfl
  rw [settle_endOfFile _ hstep rfl]
  exact ⟨h, hhead.settle _ n⟩

/-- A text that ends behind its document type gets a root and a head. -/
theorem Bare.settle_beforeHtml (hs : Bare s) (hmode : s.mode = .beforeHtml) (n : Nat) : ∃ r h,
    Sound r h false (Construction.settle .endOfFile (n + 2) s) := by
  obtain ⟨r, hroot⟩ := hs.openRoot { name := "html" } false
  have hstep : s.byMode .endOfFile = (s.openRoot { name := "html" }).retry .beforeHead := by
    simp only [byMode, hmode]
    rfl
  rw [settle_endOfFile _ hstep rfl]
  exact ⟨r, hroot.settle_end n⟩

theorem Bare.settle_end (hs : Bare s) (n : Nat) : ∃ r h,
    Sound r h false (Construction.settle .endOfFile (n + 3) s) := by
  rcases hs.mode with hmode | hmode
  · have hnext : Bare { { s with isOld := true }.retry .beforeHtml with again := false } :=
      hs.toBeforeHtml.irrelevant
    have hstep : s.byMode .endOfFile = { s with isOld := true }.retry .beforeHtml := by
      simp only [byMode, hmode]
      rfl
    rw [settle_endOfFile _ hstep rfl]
    exact hnext.settle_beforeHtml rfl n
  · exact hs.settle_beforeHtml hmode (n + 1)

/-- **The end of the text puts in what is left out**: the root, and the head in it. -/
theorem Stage.take_end (hs : Stage s) : ∃ r h, Sound r h false (s.take .endOfFile) := by
  have hkept : Stage { s with dropsLineFeed := false } := hs.irrelevant
  have hfuel : 8 * (s.openElements.length + 4) = (8 * s.openElements.length + 29) + 3 := by omega
  have htake : s.take .endOfFile = Construction.settle .endOfFile
      ((8 * s.openElements.length + 29) + 3) { s with dropsLineFeed := false } := by
    rw [← hfuel]
    simp [Construction.take]
  rw [htake]
  cases hkept with
  | bare hs => exact hs.settle_end _
  | rooted r hs => exact ⟨r, hs.settle_end _⟩
  | sound r h hs => exact ⟨r, h, hs.settle _ _⟩

end Construction

/-! ## The finished document -/

/-- The store that the document of a text is taken from. -/
def built (text : String) : Store :=
  let cs := lineFeeds (withoutMark text.toList)
  ((Construction.readAll (2 * cs.length + 1) {} cs).take .endOfFile).store

/-- The document of a text is what its store holds in the end. -/
theorem parse_eq (text : String) : parse text = (built text).nodes := rfl

/-- **In the finished store the head stands in the root and the root in the document**, both of them in front, and
only what may have children has any. -/
theorem tidy_built (text : String) : ∃ r h,
    Store.Framed r h (built text) ∧ (built text).Tidy (Store.Pillar r h) := by
  obtain ⟨r, h, hs⟩ := (Construction.stage_start.readAll
    (2 * (lineFeeds (withoutMark text.toList)).length + 1) (lineFeeds (withoutMark text.toList))).take_end
  exact ⟨r, h, hs.framed, hs.tidy⟩

/-- **In the finished store a child names its parent, and stands among its children once.** -/
theorem linked_built (text : String) : (built text).Linked := by
  obtain ⟨r, h, hframed, -⟩ := tidy_built text
  exact hframed.linked

end Vitrine.Html
