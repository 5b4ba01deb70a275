import Vitrine.Html.Written
import Vitrine.Proofs.Html.Edit
import Vitrine.Proofs.Html.Skeleton.Parsed

/-!
# The shape of a document (section 4.6)

Whatever its text is, a document begins with its root, and the root with the head: nothing but comments and
document types stands in front of them. And the elements that are always empty have no children, so that all
nodes of a document can be written.

So `append_to_head` finds a head in whatever `parse` gives, and `serialize` leaves out no child of an element.

* `leads_parse`: what a document begins with.
* `Leads.place_cases`: where an element can stand, seen from the one that leads.
* `isFirst_head`: which place is that of the first head.
* `Leads.edited`: what leads still does so after edits.
* `exists_head`: every document has a head.
* `writable_parse`: every node of a document can be written.
-/

namespace Vitrine.Html

namespace Node

variable {tag : String} {children ns : List Node} {n : Node} {k : Nat}

/-- What is no element. -/
def isLeaf : Node → Bool
  | .element _ _ _ _ => false
  | _ => true

/-- An element that is always empty holds nothing. -/
def Writable : Node → Prop
  | .element name _ children _ => name.isHtml emptyTags = true → children = []
  | _ => True

/-- An element has one name. -/
theorem isTag_eq_false {a b : String} (hab : Text.lowerAscii a.toList ≠ Text.lowerAscii b.toList)
    (h : n.isTag a = true) : n.isTag b = false := by
  cases n with
  | element name attributes children contents =>
    have hname : Text.lowerAscii name.tag.toList = Text.lowerAscii a.toList := beq_iff_eq.mp h
    exact beq_eq_false_iff_ne.mpr fun heq => hab (hname.symm.trans heq)
  | text | comment | doctype => cases h

theorem isLeaf_of_isTag {tag : String} (h : n.isTag tag = true) : n.isLeaf = false := by
  cases n with
  | element => rfl
  | text | comment | doctype => cases h

theorem mem_subtrees_flatMap {α : Type} {f : α → List Node} {l : List α} {m : Node} :
    m ∈ subtrees (l.flatMap f) ↔ ∃ a ∈ l, m ∈ subtrees (f a) := by
  induction l with
  | nil => simp [subtrees]
  | cons a l ih => simp [subtrees_append, ih]

/-! ## What leads -/

/-- Of some nodes the `k`-th is the first that is no leaf. It is an HTML element called `tag` with `children`. -/
inductive Leads (tag : String) (children : List Node) : List Node → Nat → Prop
  | first (attributes : List Attribute) (contents ns : List Node) :
    Leads tag children (.element ⟨.html, tag⟩ attributes children contents :: ns) 0
  | behind {n : Node} {ns : List Node} {k : Nat} (hleaf : n.isLeaf = true) (h : Leads tag children ns k) :
    Leads tag children (n :: ns) (k + 1)

theorem leads_append {front : List Node} (hfront : ∀ n ∈ front, n.isLeaf = true) (h : Leads tag children ns k) :
    Leads tag children (front ++ ns) (k + front.length) := by
  induction front with
  | nil => exact h
  | cons n front ih =>
    rw [List.forall_mem_cons] at hfront
    exact .behind hfront.1 (ih hfront.2)

theorem Leads.nodeAt?_self (h : Leads tag children ns k) :
    ∃ attributes contents, nodeAt? ns [k] = some (.element ⟨.html, tag⟩ attributes children contents) := by
  induction h with
  | first attributes contents => exact ⟨attributes, contents, rfl⟩
  | behind _ _ ih => exact ih

theorem Leads.nodeAt?_inside (h : Leads tag children ns k) {j : Nat} {place : Place} :
    nodeAt? ns (k :: j :: place) = nodeAt? children (j :: place) := by
  induction h with
  | first => rfl
  | behind _ _ ih => exact ih

theorem nodeAt?_leaf {n : Node} (hleaf : n.isLeaf = true) {place : Place} {m : Node}
    (hm : nodeAt? (n :: ns) (0 :: place) = some m) : m = n := by
  rw [nodeAt?_first] at hm
  split at hm
  · exact (Option.some.inj hm).symm
  · cases n with
    | element => cases hleaf
    | text | comment | doctype => cases place <;> cases hm

/-- **An element stands at the place that leads, inside of it, or behind it.** -/
theorem Leads.place_cases (h : Leads tag children ns k) {place : Place} {n : Node} (hn : nodeAt? ns place = some n)
    (helement : n.isLeaf = false) :
    (place = [k] ∧ n.isTag tag = true) ∨ (∃ inner, place = k :: inner ∧ nodeAt? children inner = some n) ∨
      ∃ j inner, place = j :: inner ∧ k < j := by
  induction h generalizing place with
  | first attributes contents ns =>
    match place with
    | [] => cases hn
    | [0] =>
      obtain rfl := Option.some.inj hn
      exact .inl ⟨rfl, beq_self_eq_true _⟩
    | 0 :: j :: inner => exact .inr (.inl ⟨j :: inner, rfl, hn⟩)
    | (j + 1) :: inner => exact .inr (.inr ⟨j + 1, inner, rfl, Nat.succ_pos j⟩)
  | behind hleaf _ ih =>
    match place with
    | [] => cases hn
    | 0 :: inner =>
      obtain rfl := nodeAt?_leaf hleaf hn
      rw [hleaf] at helement
      cases helement
    | (j + 1) :: inner =>
      rcases @ih (j :: inner) hn with ⟨hplace, htag⟩ | ⟨inner, hplace, hinner⟩ | ⟨_, _, hplace, hlt⟩
      · obtain ⟨rfl, rfl⟩ := List.cons.inj hplace
        exact .inl ⟨rfl, htag⟩
      · obtain ⟨rfl, rfl⟩ := List.cons.inj hplace
        exact .inr (.inl ⟨_, rfl, hinner⟩)
      · obtain ⟨rfl, rfl⟩ := List.cons.inj hplace
        exact .inr (.inr ⟨_, _, rfl, Nat.succ_lt_succ hlt⟩)

/-! ### The root and the head -/

section Head

variable {inRoot inHead : List Node} {i j : Nat} {place : Place} {n : Node}

/-- An element that is no root stands in the head, behind it in the root, or behind the root, or is the head. -/
theorem Leads.around (hroot : Leads "html" inRoot ns i) (hhead : Leads "head" inHead inRoot j)
    (hn : nodeAt? ns place = some n) (helement : n.isLeaf = false) (hhtml : n.isTag "html" = false) :
    (place = [i, j] ∧ n.isTag "head" = true) ∨
      (∃ k inner, place = i :: j :: k :: inner ∧ nodeAt? inHead (k :: inner) = some n) ∨
      (∃ k inner, place = i :: k :: inner ∧ j < k) ∨ ∃ k inner, place = k :: inner ∧ i < k := by
  rcases hroot.place_cases hn helement with ⟨-, htag⟩ | ⟨rest, rfl, hrest⟩ | hbehind
  · rw [hhtml] at htag
    cases htag
  · rcases hhead.place_cases hrest helement with ⟨rfl, htag⟩ | ⟨inner, rfl, hinner⟩ | ⟨k, inner, rfl, hlt⟩
    · exact .inl ⟨rfl, htag⟩
    · cases inner with
      | nil => cases hinner
      | cons k inner => exact .inr (.inl ⟨k, inner, rfl, hinner⟩)
    · exact .inr (.inr (.inl ⟨k, inner, rfl, hlt⟩))
  · exact .inr (.inr (.inr hbehind))

/-- **The first head is the one that leads.** -/
theorem isFirst_head (hroot : Leads "html" inRoot ns i) (hhead : Leads "head" inHead inRoot j) :
    IsFirst (·.isTag "head" = true) ns [i, j] := by
  obtain ⟨attributes, contents, hnode⟩ := hhead.nodeAt?_self
  refine ⟨⟨_, hroot.nodeAt?_inside.trans hnode, beq_self_eq_true _⟩, fun other n hn htag => ?_⟩
  rcases hroot.around hhead hn (isLeaf_of_isTag htag) (isTag_eq_false (by decide) htag) with
    ⟨rfl, -⟩ | ⟨k, inner, rfl, -⟩ | ⟨k, inner, rfl, hlt⟩ | ⟨k, inner, rfl, hlt⟩
  · exact List.lt_irrefl _
  · simp
  · simp [List.cons_lt_cons_iff]
    omega
  · simp [List.cons_lt_cons_iff]
    omega

end Head

/-! ### Edits -/

/-- The node stays, whether it gets a child or not. -/
def Edit.Stays : Edit → Prop
  | .replace _ => False
  | _ => True

/-- The child that a node gets. -/
def Edit.added : Edit → List Node
  | .grow child => [child]
  | .keep | .replace _ => []

variable {edit : Place → Edit}

/-- An element that stays keeps its name, its attributes and its contents. -/
theorem edited_element (hstays : (edit []).Stays) (name : ElementName) (attributes : List Attribute)
    (children contents : List Node) : edited edit (.element name attributes children contents) =
      [.element name attributes (editedAll edit children ++ (edit []).added) contents] := by
  rw [edited]
  cases hedit : edit [] with
  | keep => rw [Edit.added, List.append_nil]
  | grow child => rfl
  | replace => rw [hedit] at hstays; exact hstays.elim

theorem edited_leaf (hstays : (edit []).Stays) {n : Node} (hleaf : n.isLeaf = true) : edited edit n = [n] := by
  cases n with
  | element => cases hleaf
  | text | comment | doctype =>
    simp only [edited]
    cases hedit : edit [] with
    | keep | grow => rfl
    | replace => rw [hedit] at hstays; exact hstays.elim

/-- **What leads still does so after edits** that replace neither it nor what stands in front of it. -/
theorem Leads.edited (h : Leads tag children ns k) (edit : Place → Edit) (hstays : ∀ j ≤ k, (edit [j]).Stays) :
    Leads tag (editedAll (fun place => edit (k :: place)) children ++ (edit [k]).added) (editedAll edit ns) k := by
  induction h generalizing edit with
  | first attributes contents ns =>
    rw [editedAll, edited_element (hstays 0 (Nat.le_refl 0))]
    exact .first _ _ _
  | behind hleaf _ ih =>
    rw [editedAll, edited_leaf (hstays 0 (Nat.zero_le _)) hleaf]
    exact .behind hleaf (ih (fun place => edit place.behind) fun j hj => hstays (j + 1) (Nat.succ_le_succ hj))

/-! ### What is put in place of a node -/

/-- The place `k` siblings further on. -/
def Place.further (k : Nat) : Place → Place
  | [] => []
  | [i] => [i + k]
  | i :: j :: place => i :: Place.further k (j :: place)

theorem Place.further_behind (k : Nat) (place : Place) : place.behind.further k = (place.further k).behind := by
  match place with
  | [] => rfl
  | [i] => exact congrArg (fun n => [n]) (Nat.succ_add i k)
  | i :: j :: place => rfl

/-- Moving a place to the right changes its first number. -/
theorem Place.further_cons (k i : Nat) (place : Place) :
    ∃ j inner, Place.further k (i :: place) = j :: inner ∧ i ≤ j := by
  cases place with
  | nil => exact ⟨i + k, [], rfl, Nat.le_add_right i k⟩
  | cons j place => exact ⟨i, _, rfl, Nat.le_refl i⟩

/-- What is put behind a forest moves no place of it. -/
theorem nodeAt?_append {place : Place} {n : Node} (h : nodeAt? ns place = some n) (more : List Node) :
    nodeAt? (ns ++ more) place = some n := by
  cases place with
  | nil => cases h
  | cons k place =>
    obtain ⟨m, hm, h⟩ := Option.bind_eq_some_iff.mp h
    obtain ⟨hlt, -⟩ := List.getElem?_eq_some_iff.mp hm
    exact Option.bind_eq_some_iff.mpr ⟨m, (List.getElem?_append_left hlt).trans hm, h⟩

theorem nodeAt?_singleton (ns : List Node) (k : Nat) : nodeAt? ns [k] = ns[k]? := by
  cases h : ns[k]? <;> simp [nodeAt?, h]

/-- A child stands behind the place of its parent. -/
theorem nodeAt?_child {place : Place} {n : Node} (h : nodeAt? ns place = some n) (k : Nat) :
    nodeAt? ns (place ++ [k]) = n.children[k]? := by
  induction place generalizing ns with
  | nil => cases h
  | cons j inner ih =>
    obtain ⟨m, hm, hn⟩ := Option.bind_eq_some_iff.mp h
    have hinner : nodeAt? ns (j :: (inner ++ [k])) = nodeAt? m.children (inner ++ [k]) := by
      simp [nodeAt?, hm]
    rw [List.cons_append, hinner]
    cases inner with
    | nil =>
      obtain rfl := Option.some.inj hn
      exact nodeAt?_singleton _ k
    | cons => exact ih hn

/-- What becomes of a node that stays is one node. -/
theorem edited_single (hstays : (edit []).Stays) (n : Node) : ∃ m, edited edit n = [m] := by
  cases hleaf : n.isLeaf with
  | true => exact ⟨n, edited_leaf hstays hleaf⟩
  | false =>
    cases n with
    | element name attributes children contents =>
      exact ⟨_, edited_element hstays name attributes children contents⟩
    | text | comment | doctype => cases hleaf

theorem edited_replace {new : List Node} (h : edit [] = .replace new) (n : Node) : edited edit n = new := by
  cases n <;> simp [edited, h]

/-- **What is put in place of a node stands from its place on**, if nothing else is replaced. -/
theorem nodeAt?_replaced {new : List Node} {place : Place} {n m : Node} {k : Nat} (hn : nodeAt? ns place = some n)
    (hreplace : edit place = .replace new) (hstays : ∀ other ≠ place, (edit other).Stays) (hm : new[k]? = some m) :
    nodeAt? (editedAll edit ns) (place.further k) = some m := by
  -- The induction is on the numbers of the place, and in each of them on the number.
  induction place generalizing ns edit with
  | nil => cases hn
  | cons i inner ih =>
    induction i generalizing ns edit with
    | zero =>
      cases ns with
      | nil => cases hn
      | cons n' ns =>
        rw [editedAll]
        cases inner with
        | nil =>
          rw [edited_replace hreplace]
          have hnew : nodeAt? new (Place.further k [0]) = some m := by
            rw [Place.further, Nat.zero_add, nodeAt?_singleton, hm]
          exact nodeAt?_append hnew _
        | cons j inner =>
          cases n' with
          | text | comment | doctype => cases hn
          | element name attributes children contents =>
            have hinner := @ih children (fun place => edit (0 :: place)) hn hreplace
              fun other hother => hstays _ fun heq => hother (List.cons.inj heq).2
            obtain ⟨j', inner', hfurther, -⟩ := Place.further_cons k j inner
            rw [edited_element (hstays [0] nofun), Place.further, hfurther]
            rw [hfurther] at hinner
            exact nodeAt?_append hinner _
    | succ i ihi =>
      cases ns with
      | nil => cases hn
      | cons n' ns =>
        obtain ⟨n'', hsingle⟩ : ∃ m, edited (fun place => edit (0 :: place)) n' = [m] :=
          edited_single (hstays [0] nofun) n'
        rw [editedAll, hsingle, show (i + 1) :: inner = Place.behind (i :: inner) from rfl, Place.further_behind]
        refine (nodeAt?_behind n'' _ _).trans (@ihi ns (fun place => edit place.behind) hn hreplace ?_)
        exact fun other hother => hstays _ fun heq => hother (behind_injective heq)

end Node

namespace Store

variable {σ : Store} {A : NodeId → NodeId → Prop} {r h id p c : NodeId}

/-! ## From a store to its tree -/

/-- An element of a store is written out with the trees of its children. -/
theorem nodesAt_element {name : ElementName} (n : Nat) (hid : σ.IsElement id name) :
    ∃ attributes contents, σ.nodesAt (n + 1) id =
      [.element name attributes ((σ.childrenOf id).toList.flatMap (σ.nodesAt n)) contents] := by
  obtain ⟨_, hnature⟩ := hid
  obtain ⟨⟨content, parent, children, held⟩, hslot, hnode⟩ := Option.map_eq_some_iff.mp hnature
  have hkind : content.kind = .element name [] := congrArg Nature.kind hnode
  cases content with
  | element name' attributes =>
    obtain rfl : name' = name := (Content.element.inj hkind).1
    simp [nodesAt, childrenOf, hslot]
  | fragment | text | comment | doctype => cases hkind

/-- Of the contents of a template the children alone are written out. -/
theorem nodesAt_fragment (n : Nat) (hid : ∃ contents, σ.nature? id = some ⟨.fragment, contents⟩) :
    σ.nodesAt (n + 1) id = (σ.childrenOf id).toList.flatMap (σ.nodesAt n) := by
  obtain ⟨_, hnature⟩ := hid
  obtain ⟨⟨content, parent, children, held⟩, hslot, hnode⟩ := Option.map_eq_some_iff.mp hnature
  have hkind : content.kind = .fragment := congrArg Nature.kind hnode
  cases content with
  | fragment => simp [nodesAt, childrenOf, hslot]
  | element | text | comment | doctype => cases hkind

/-- A leaf of a store is a leaf of the tree. -/
theorem isLeaf_nodesAt (hid : σ.IsLeaf id) (n : Nat) : ∀ m ∈ σ.nodesAt n id, m.isLeaf = true := by
  obtain ⟨_, hnature, hleaf⟩ := hid
  obtain ⟨⟨content, parent, children, held⟩, hslot, rfl⟩ := Option.map_eq_some_iff.mp hnature
  cases n with
  | zero => exact List.forall_mem_nil _
  | succ n =>
    rw [nodesAt, hslot]
    cases content with
    | fragment | element => cases hleaf
    | text | comment | doctype => exact List.forall_mem_singleton.mpr rfl

/-- A child that leads in the store leads in the tree. -/
theorem Heads.leads {tag : String} (hheads : σ.Heads (σ.childrenOf p) c) (hc : σ.IsElement c ⟨.html, tag⟩)
    (n : Nat) : ∃ k, Node.Leads tag ((σ.childrenOf c).toList.flatMap (σ.nodesAt n))
      ((σ.childrenOf p).toList.flatMap (σ.nodesAt (n + 1))) k := by
  obtain ⟨front, behind, hchildren, hleaf⟩ := hheads
  obtain ⟨attributes, contents, hnode⟩ := nodesAt_element n hc
  have hfront : ∀ m ∈ front.flatMap (σ.nodesAt (n + 1)), m.isLeaf = true := fun m hm => by
    obtain ⟨d, hd, hm⟩ := List.mem_flatMap.mp hm
    exact isLeaf_nodesAt (hleaf d hd) _ m hm
  rw [hchildren, List.flatMap_append, List.flatMap_cons, hnode]
  exact ⟨_, Node.leads_append hfront (.first attributes contents _)⟩

/-- Only what may have children has any. -/
theorem Tidy.childrenOf_eq_empty (hσ : σ.Tidy A) (hlinked : σ.Linked) (hid : ¬ σ.Hosts id) :
    σ.childrenOf id = #[] := by
  refine Array.eq_empty_iff_forall_not_mem.mpr fun c hc => ?_
  exact hid (hσ.hosted id c (hlinked.parent id c hc)).1

end Store

/-- In a tidy store the elements that are always empty have no children, so all can be written. -/
theorem Store.writable_nodesAt {σ : Store} {A : NodeId → NodeId → Prop} (hσ : σ.Tidy A) (hlinked : σ.Linked)
    (n : Nat) (id : NodeId) : ∀ m ∈ Node.subtrees (σ.nodesAt n id), m.Writable := by
  induction n generalizing id with
  | zero => exact fun m hm => absurd hm List.not_mem_nil
  | succ n ih =>
    rw [nodesAt]
    cases hslot : σ.slots[id]? with
    | none => exact fun m hm => absurd hm List.not_mem_nil
    | some node =>
      obtain ⟨content, parent, children, held⟩ := node
      have hchildren : ∀ m ∈ Node.subtrees (children.toList.flatMap (σ.nodesAt n)), m.Writable := fun m hm => by
        obtain ⟨d, -, hm⟩ := Node.mem_subtrees_flatMap.mp hm
        exact ih d m hm
      cases content with
      | fragment => exact hchildren
      | element name attributes =>
        intro m hm
        rw [Node.subtrees, Node.subtrees, List.append_nil, Node.subtree, List.mem_cons] at hm
        rcases hm with rfl | hm
        · intro hempty
          have hnone : σ.childrenOf id = #[] := by
            refine hσ.childrenOf_eq_empty hlinked fun ⟨_, hnature, hholds⟩ => ?_
            obtain rfl := Option.some.inj (hnature.symm.trans (congrArg (Option.map StoredNode.nature) hslot))
            simp [StoredNode.nature, Content.kind, Content.mayHold, hempty] at hholds
          have hthis : children = #[] := by simpa [childrenOf, hslot] using hnone
          simp [hthis]
        · exact hchildren m hm
      | text | comment | doctype => exact List.forall_mem_singleton.mpr trivial

/-! ## The finished document -/

/-- **A document begins with its root, and the root with the head.** -/
theorem leads_parse (text : String) : ∃ i j inRoot inHead,
    Node.Leads "html" inRoot (parse text) i ∧ Node.Leads "head" inHead inRoot j := by
  obtain ⟨r, h, hframed, htidy⟩ := tidy_built text
  -- Document, root and head are three nodes, so there is fuel for three levels.
  obtain ⟨n, hn⟩ : ∃ n, (built text).slots.size = n + 2 := by
    have hroot : 1 < (built text).slots.size :=
      Nat.lt_of_le_of_lt (Nat.pos_of_ne_zero (hframed.ne_document hframed.root)) hframed.root.lt
    exact ⟨(built text).slots.size - 2, by omega⟩
  obtain ⟨i, hi⟩ := (htidy.heads _ _ (.inl ⟨rfl, rfl⟩)).leads hframed.root (n + 1)
  obtain ⟨j, hj⟩ := (htidy.heads _ _ (.inr ⟨rfl, rfl⟩)).leads hframed.head n
  refine ⟨i, j, _, _, ?_, hj⟩
  rw [parse_eq, Store.nodes, hn, Store.nodesAt_fragment _ hframed.fragment]
  exact hi

/-- **Every document has a head.** -/
theorem exists_head (text : String) : ∃ m ∈ Node.subtrees (parse text), m.isTag "head" = true := by
  obtain ⟨i, j, inRoot, inHead, hroot, hhead⟩ := leads_parse text
  obtain ⟨attributes, contents, hnode⟩ := hhead.nodeAt?_self
  exact ⟨_, Node.mem_subtrees_of_nodeAt? (hroot.nodeAt?_inside.trans hnode), beq_self_eq_true _⟩

theorem exists_placeOfHead (text : String) : ∃ place,
    Node.placeOfFirstIn? (Node.isTag "head") (parse text) = some place := by
  obtain ⟨m, hm, htag⟩ := exists_head text
  refine Option.ne_none_iff_exists'.mp fun hnone => ?_
  rw [(Node.placeOfFirstIn?_eq_none_iff _).mp hnone m hm] at htag
  cases htag

/-- **Every node of a document can be written.** -/
theorem writable_parse (text : String) : ∀ m ∈ Node.subtrees (parse text), m.Writable := by
  obtain ⟨r, h, hframed, htidy⟩ := tidy_built text
  exact Store.writable_nodesAt htidy hframed.linked _ _

end Vitrine.Html
