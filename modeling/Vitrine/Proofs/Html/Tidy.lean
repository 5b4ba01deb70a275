import Vitrine.Html.Written
import Vitrine.Proofs.Html.Linked

/-!
# Tidy stores (section 4.6)

Not every node may have children: texts, comments and document types have none, and neither have the elements
that are always empty. In a store that is `Tidy` a node that names a parent stands among the children of that
one, and the parent may have children. Besides, certain children lead: in front of them in their parent stand
leaves alone, nodes that are no elements. Every operation of a store keeps this, if nodes are put where
children may stand, and never in front of a leaf or of a child that leads.

`serialize` writes elements that are always empty without an end tag and without children; in a tidy store they
have none.

* `Tidy.append`, `Tidy.insertBefore`: a node that has no parent yet is put somewhere.
* `Tidy.detach`, `Tidy.moveChildren`: nodes leave their parents, but none that leads.
* `Tidy.appendCharacter`, `Tidy.insertCharacterBefore`: texts grow, or there is a new one.
-/

namespace Vitrine.Html

/-- What may have children: a fragment, or an element that is not always empty. -/
def Content.mayHold : Content → Bool
  | .fragment => true
  | .element name _ => !name.isHtml emptyTags
  | _ => false

/-- What is neither an element nor a fragment. -/
def Content.isLeaf : Content → Bool
  | .fragment | .element _ _ => false
  | _ => true

namespace Store

variable {σ σ' : Store} {A : NodeId → NodeId → Prop} {id parent child sibling p c : NodeId}
variable {name : ElementName}

/-- A node that may have children. -/
def Hosts (σ : Store) (id : NodeId) : Prop := ∃ n, σ.nature? id = some n ∧ n.kind.mayHold = true

/-- A node that is neither an element nor a fragment. -/
def IsLeaf (σ : Store) (id : NodeId) : Prop := ∃ n, σ.nature? id = some n ∧ n.kind.isLeaf = true

/-- `c` stands among some nodes, and in front of it there are leaves alone. -/
def Heads (σ : Store) (nodes : Array NodeId) (c : NodeId) : Prop :=
  ∃ front behind, nodes.toList = front ++ c :: behind ∧ ∀ d ∈ front, σ.IsLeaf d

/-- Children name parents that may have them, what templates keep may have children, and the children that
`A` holds of lead. -/
structure Tidy (A : NodeId → NodeId → Prop) (σ : Store) : Prop where
  hosted : ∀ p c, σ.parent? c = some p → σ.Hosts p ∧ c ∈ σ.childrenOf p
  contents : ∀ id n held, σ.nature? id = some n → n.contents = some held → σ.Hosts held
  heads : ∀ p c, A p c → σ.Heads (σ.childrenOf p) c

/-! ## Kinds of nodes -/

theorem Hosts.lt (h : σ.Hosts id) : id < σ.slots.size := lt_of_nature? h.choose_spec.1

/-- An element may have children unless it is always empty. -/
theorem IsElement.hosts (h : σ.IsElement id name) (hname : name.isHtml emptyTags = false) : σ.Hosts id := by
  obtain ⟨contents, h⟩ := h
  exact ⟨_, h, by simp [Content.mayHold, hname]⟩

theorem IsElement.not_isLeaf (h : σ.IsElement id name) : ¬ σ.IsLeaf id := by
  rintro ⟨n, hn, hleaf⟩
  obtain ⟨contents, h⟩ := h
  obtain rfl := Option.some.inj (h.symm.trans hn)
  exact Bool.false_ne_true hleaf

/-- Natures of nodes stay what they are. -/
def Extends (σ σ' : Store) : Prop := ∀ id n, σ.nature? id = some n → σ'.nature? id = some n

/-- A node that may have children may have them ever after. -/
theorem Hosts.extend (h : σ.Hosts id) (hext : Extends σ σ') : σ'.Hosts id :=
  h.imp fun _ hn => ⟨hext _ _ hn.1, hn.2⟩

theorem IsLeaf.extend (h : σ.IsLeaf id) (hext : Extends σ σ') : σ'.IsLeaf id :=
  h.imp fun _ hn => ⟨hext _ _ hn.1, hn.2⟩

/-- The contents of a template may have children as the template does. -/
theorem Tidy.hosts_inside (h : Tidy A σ) (hid : σ.Hosts id) : σ.Hosts (σ.inside id) := by
  obtain ⟨n, hn, hhold⟩ := hid
  rw [inside_eq, hn]
  cases hheld : n.contents with
  | none => simpa [hheld] using ⟨n, hn, hhold⟩
  | some held => simpa [hheld] using h.contents id n held hn hheld

/-! ## What is put behind, before and away -/

section Heads

variable {nodes : Array NodeId}

theorem Heads.extend (h : σ.Heads nodes c) (hext : Extends σ σ') : σ'.Heads nodes c := by
  obtain ⟨front, behind, hnodes, hleaf⟩ := h
  exact ⟨front, behind, hnodes, fun d hd => (hleaf d hd).extend hext⟩

theorem Heads.append (h : σ.Heads nodes c) (more : Array NodeId) : σ.Heads (nodes ++ more) c := by
  obtain ⟨front, behind, hnodes, hleaf⟩ := h
  refine ⟨front, behind ++ more.toList, ?_, hleaf⟩
  rw [Array.toList_append, hnodes, List.append_assoc, List.cons_append]

theorem Heads.filter (h : σ.Heads nodes c) (hne : c ≠ child) : σ.Heads (nodes.filter (· ≠ child)) c := by
  obtain ⟨front, behind, hnodes, hleaf⟩ := h
  refine ⟨front.filter (· ≠ child), behind.filter (· ≠ child), ?_, fun d hd => hleaf d (List.mem_of_mem_filter hd)⟩
  rw [Array.toList_filter, hnodes, List.filter_append, List.filter_cons_of_pos (by simpa using hne)]

/-- What is put in front of a node stands between that one and those before it. -/
theorem exists_insertIdx_eq {l : List NodeId} (h : sibling ∈ l) (x : NodeId) :
    ∃ front behind, l = front ++ sibling :: behind ∧
      l.insertIdx ((l.findIdx? (· = sibling)).getD 0) x = front ++ x :: sibling :: behind := by
  induction l with
  | nil => exact absurd h List.not_mem_nil
  | cons d l ih =>
    by_cases hd : d = sibling
    · subst hd
      exact ⟨[], l, rfl, by simp [List.findIdx?_cons]⟩
    · have hmem : sibling ∈ l := (List.mem_cons.mp h).resolve_left (Ne.symm hd)
      obtain ⟨front, behind, hl, hinsert⟩ := ih hmem
      obtain ⟨k, hk⟩ : ∃ k, l.findIdx? (· = sibling) = some k :=
        Option.isSome_iff_exists.mp (by simpa using hmem)
      rw [hk, Option.getD_some] at hinsert
      refine ⟨d :: front, behind, by rw [hl, List.cons_append], ?_⟩
      simp [List.findIdx?_cons, hd, hk, hinsert]

/-- The place in front of a node is counted alike in an array and in its list. -/
theorem toList_insertIdx_findIdx? (nodes : Array NodeId) (sibling x : NodeId) :
    (nodes.insertIdxIfInBounds ((nodes.findIdx? (· = sibling)).getD 0) x).toList =
      nodes.toList.insertIdx ((nodes.toList.findIdx? (· = sibling)).getD 0) x := by
  obtain ⟨l⟩ := nodes
  rw [toList_insertIdxIfInBounds, List.findIdx?_toArray]

/-- In front of a node that is no leaf, and is not the one that leads, nothing gets before the one that
leads. -/
theorem Heads.insertIdx (h : σ.Heads nodes c) (hmem : sibling ∈ nodes) (hleaf : ¬ σ.IsLeaf sibling)
    (hne : sibling ≠ c) (x : NodeId) :
    σ.Heads (nodes.insertIdxIfInBounds ((nodes.findIdx? (· = sibling)).getD 0) x) c := by
  obtain ⟨front, behind, hnodes, hfront⟩ := h
  obtain ⟨before, after, hsplit, hinsert⟩ := exists_insertIdx_eq (Array.mem_toList_iff.mpr hmem) x
  rw [← toList_insertIdx_findIdx?] at hinsert
  -- The node stands behind the one that leads.
  rcases List.append_eq_append_iff.mp (hnodes.symm.trans hsplit) with ⟨between, rfl, hbetween⟩ | ⟨rest, rfl, hrest⟩
  · cases between with
    | nil => exact absurd (List.cons.inj hbetween).1.symm hne
    | cons d between =>
      obtain ⟨rfl, -⟩ := List.cons.inj hbetween
      refine ⟨front, between ++ x :: sibling :: after, ?_, hfront⟩
      rw [hinsert, List.append_assoc, List.cons_append]
  · cases rest with
    | nil => exact absurd (List.cons.inj hrest).1 hne
    | cons d rest =>
      obtain ⟨rfl, -⟩ := List.cons.inj hrest
      exact absurd (hfront sibling (List.mem_append_right _ List.mem_cons_self)) hleaf

/-- What is inserted is added, and nothing is lost. -/
theorem mem_insertIdx (hmem : sibling ∈ nodes) (x : NodeId) {d : NodeId} :
    d ∈ nodes.insertIdxIfInBounds ((nodes.findIdx? (· = sibling)).getD 0) x ↔ d = x ∨ d ∈ nodes := by
  obtain ⟨before, after, hsplit, hinsert⟩ := exists_insertIdx_eq (Array.mem_toList_iff.mpr hmem) x
  rw [← Array.mem_toList_iff, ← Array.mem_toList_iff, toList_insertIdx_findIdx?, hinsert, hsplit]
  simp only [List.mem_append, List.mem_cons]
  exact or_left_comm

end Heads

/-! ## Operations that keep the links -/

/-- A store with the same links, in which natures stay. -/
theorem Tidy.frame (h : Tidy A σ) (hext : Extends σ σ') (hparent : ∀ j, σ'.parent? j = σ.parent? j)
    (hchildren : ∀ j, σ'.childrenOf j = σ.childrenOf j)
    (hcontents : ∀ id n held, σ'.nature? id = some n → n.contents = some held → σ'.Hosts held) :
    Tidy A σ' where
  hosted p c hc := by
    rw [hparent] at hc
    rw [hchildren]
    exact ⟨(h.hosted p c hc).1.extend hext, (h.hosted p c hc).2⟩
  contents := hcontents
  heads p c hA := hchildren p ▸ (h.heads p c hA).extend hext

/-- Texts and attributes grow without a change of what leads. -/
theorem Tidy.update {f : StoredNode → StoredNode} (h : Tidy A σ) (hnature : ∀ n, (f n).nature = n.nature)
    (hparent : ∀ n, (f n).parent = n.parent) (hchildren : ∀ n, (f n).children = n.children) :
    Tidy A (σ.update id f) := by
  have hsame : ∀ j, (σ.update id f).nature? j = σ.nature? j := nature?_update hnature
  have hext : Extends σ (σ.update id f) := fun j n hn => (hsame j).trans hn
  refine h.frame hext (parent?_update hparent) (childrenOf_update hchildren) fun j n held hn hheld => ?_
  exact (h.contents j n held ((hsame j).symm.trans hn) hheld).extend hext

/-- What a new node keeps is a new fragment. -/
theorem hosts_of_create (content : Content) {n : Nature} {held : NodeId} (hid : σ.slots.size ≤ id)
    (hn : (σ.create content).1.nature? id = some n) (hheld : n.contents = some held) :
    (σ.create content).1.Hosts held := by
  have plain (content : Content) (hslots : (σ.create content).1.slots = σ.slots.push { content })
      (hn : (σ.create content).1.nature? id = some n) : False := by
    rw [nature?, hslots, Array.getElem?_push] at hn
    split at hn
    · obtain rfl := Option.some.inj hn
      cases hheld
    · rw [Array.getElem?_eq_none hid] at hn
      cases hn
  cases content with
  | element name attributes =>
    cases htemplate : name.isHtml ["template"] with
    | false => exact (plain (.element name attributes) (by simp [Store.create, htemplate]) hn).elim
    | true =>
      have hslots : (σ.create (.element name attributes)).1.slots =
          (σ.slots.push { content := .element name attributes, contents := some (σ.slots.size + 1) }).push
            { content := .fragment } := by simp [Store.create, htemplate]
      rw [nature?, hslots, Array.getElem?_push, Array.getElem?_push] at hn
      split at hn
      · obtain rfl := Option.some.inj hn
        cases hheld
      · split at hn
        · obtain rfl := Option.some.inj hn
          obtain rfl := Option.some.inj hheld
          refine ⟨⟨.fragment, none⟩, ?_, rfl⟩
          rw [nature?, hslots, Array.getElem?_push, if_pos (Array.size_push _).symm]
          rfl
        · rw [Array.getElem?_eq_none hid] at hn
          cases hn
  | fragment | text | comment | doctype => exact (plain _ rfl hn).elim

theorem extends_create (content : Content) : Extends σ (σ.create content).1 :=
  (keeps_create (A := fun _ _ => True) content).nature

/-- A new node stands nowhere, so nothing leads less than before. -/
theorem Tidy.create (h : Tidy A σ) (content : Content) : Tidy A (σ.create content).1 := by
  refine h.frame (extends_create content) (parent?_create content) (childrenOf_create content) ?_
  intro id n held hn hheld
  rcases Nat.lt_or_ge id σ.slots.size with hid | hid
  · rw [nature?, slots_create_of_lt content hid] at hn
    exact (h.contents id n held hn hheld).extend (extends_create content)
  · exact hosts_of_create content hid hn hheld

theorem nature?_of_relink {g : Array NodeId → Array NodeId} {x : Option NodeId} :
    Extends σ (σ.relink p g c x) := fun _ _ hn => nature?_relink.trans hn

/-- A node without a parent is put among the children of `p`. -/
theorem Tidy.attach {g : Array NodeId → Array NodeId} (h : Tidy A σ) (hlt : c < σ.slots.size)
    (hp : σ.Hosts p) (hg : ∀ d, d ∈ g (σ.childrenOf p) ↔ d = c ∨ d ∈ σ.childrenOf p)
    (hheads : ∀ d, A p d → σ.Heads (g (σ.childrenOf p)) d) : Tidy A (σ.relink p g c (some p)) where
  hosted j d hd := by
    rw [parent?_relink hlt] at hd
    rw [childrenOf_relink]
    split at hd
    · rename_i hcd
      obtain rfl := hcd
      obtain rfl := Option.some.inj hd
      rw [if_pos ⟨rfl, hp.lt⟩]
      exact ⟨hp.extend nature?_of_relink, (hg c).mpr (.inl rfl)⟩
    · obtain ⟨hj, hmem⟩ := h.hosted j d hd
      refine ⟨hj.extend nature?_of_relink, ?_⟩
      split
      · rename_i hpj
        obtain ⟨rfl, -⟩ := hpj
        exact (hg d).mpr (.inr hmem)
      · exact hmem
  contents id n held hn hheld :=
    (h.contents id n held (nature?_relink.symm.trans hn) hheld).extend nature?_of_relink
  heads j d hA := by
    rw [childrenOf_relink]
    split
    · rename_i hpj
      obtain ⟨rfl, -⟩ := hpj
      exact (hheads d hA).extend nature?_of_relink
    · exact (h.heads j d hA).extend nature?_of_relink

/-- A node may be put behind the children of one that may have children. -/
theorem Tidy.append (h : Tidy A σ) (hlt : child < σ.slots.size) (hparent : σ.Hosts parent) :
    Tidy A (σ.append parent child) := by
  refine h.attach (g := (·.push child)) hlt hparent (fun d => ?_) fun d hA => ?_
  · rw [Array.mem_push]
    exact or_comm
  · rw [← Array.append_singleton]
    exact (h.heads parent d hA).append #[child]

/-- Where a node may be put in front of. -/
structure Opens (σ : Store) (A : NodeId → NodeId → Prop) (sibling otherwise : NodeId) : Prop where
  element : ∃ name, σ.IsElement sibling name
  free : ∀ p c, A p c → sibling ≠ c
  otherwise : σ.Hosts otherwise

/-- A node may be put in front of another one that neither is a leaf nor leads. -/
theorem Tidy.insertBefore {otherwise : NodeId} (h : Tidy A σ) (hlt : child < σ.slots.size)
    (hopens : σ.Opens A sibling otherwise) : Tidy A (σ.insertBefore sibling otherwise child) := by
  rw [Store.insertBefore]
  split
  · exact h.append hlt hopens.otherwise
  · rename_i p hp
    obtain ⟨hhosts, hmem⟩ := h.hosted p sibling hp
    obtain ⟨name, hname⟩ := hopens.element
    exact h.attach (g := (·.insertIdxIfInBounds (σ.indexOf p sibling) child)) hlt hhosts
      (fun d => mem_insertIdx hmem child)
      fun d hA => (h.heads p d hA).insertIdx hmem hname.not_isLeaf (hopens.free p d hA) child

/-- A node that does not lead may be taken out. -/
theorem Tidy.detach (h : Tidy A σ) {c : NodeId} (hfree : ∀ p d, A p d → d ≠ c) : Tidy A (σ.detach c) := by
  cases hc : σ.parent? c with
  | none => rwa [Store.detach, hc]
  | some p =>
    rw [detach_eq hc]
    refine ⟨fun j d hd => ?_, fun id n held hn hheld => ?_, fun j d hA => ?_⟩
    · rw [parent?_relink (lt_of_parent? hc)] at hd
      split at hd
      · cases hd
      · rename_i hcd
        obtain ⟨hj, hmem⟩ := h.hosted j d hd
        refine ⟨hj.extend nature?_of_relink, ?_⟩
        rw [childrenOf_relink]
        split
        · exact Array.mem_filter.mpr ⟨hmem, by simpa using Ne.symm hcd⟩
        · exact hmem
    · exact (h.contents id n held (nature?_relink.symm.trans hn) hheld).extend nature?_of_relink
    · rw [childrenOf_relink]
      split
      · exact ((h.heads j d hA).filter (hfree j d hA)).extend nature?_of_relink
      · exact (h.heads j d hA).extend nature?_of_relink

theorem nature?_moveChildren (source target : NodeId) (j : NodeId) :
    (σ.moveChildren source target).nature? j = σ.nature? j := by
  rw [moveChildren_eq, nature?_reparent,
    nature?_update (f := fun n => { n with children := n.children ++ σ.childrenOf source }) fun _ => rfl,
    nature?_update (f := fun n => { n with children := #[] }) fun _ => rfl]

/-- The children of a node move to one that may have children, if none of them leads. -/
theorem Tidy.moveChildren {source target : NodeId} (h : Tidy A σ) (hlinked : σ.Linked)
    (hsource : ∀ d, ¬ A source d) (htarget : σ.Hosts target) : Tidy A (σ.moveChildren source target) := by
  have hext : Extends σ (σ.moveChildren source target) := fun j n hn =>
    (nature?_moveChildren source target j).trans hn
  refine ⟨fun j d hd => ?_, fun id n held hn hheld => ?_, fun j d hA => ?_⟩
  · rw [parent?_moveChildren hlinked] at hd
    rw [childrenOf_moveChildren]
    split at hd
    · rename_i hmoved
      obtain rfl := Option.some.inj hd
      rw [if_pos ⟨rfl, htarget.lt⟩]
      exact ⟨htarget.extend hext, Array.mem_append_right _ hmoved⟩
    · rename_i hmoved
      obtain ⟨hj, hmem⟩ := h.hosted j d hd
      have hne : source ≠ j := fun he => hmoved (he ▸ hmem)
      refine ⟨hj.extend hext, ?_⟩
      rw [if_neg hne]
      split
      · exact Array.mem_append_left _ hmem
      · exact hmem
  · exact (h.contents id n held ((nature?_moveChildren source target id).symm.trans hn) hheld).extend hext
  · have hne : source ≠ j := fun he => hsource d (he ▸ hA)
    rw [childrenOf_moveChildren, if_neg hne]
    split
    · exact ((h.heads j d hA).append _).extend hext
    · exact (h.heads j d hA).extend hext

/-! ## Nodes with leaves alone -/

/-- All children are leaves. -/
def OnlyLeaves (σ : Store) (p : NodeId) : Prop := ∀ d ∈ σ.childrenOf p, σ.IsLeaf d

theorem childrenOf_append (j : NodeId) : (σ.append p c).childrenOf j =
    if p = j ∧ p < σ.slots.size then (σ.childrenOf j).push c else σ.childrenOf j :=
  childrenOf_relink (g := (·.push c))

theorem extends_append : Extends σ (σ.append p c) := nature?_of_relink (g := (·.push c))

/-- The store with a new node as the last child of `p`. -/
def put (σ : Store) (content : Content) (p : NodeId) : Store :=
  (σ.create content).1.append p (σ.create content).2

theorem extends_put (content : Content) : Extends σ (σ.put content p) := fun id n hn =>
  extends_append id n (extends_create content id n hn)

/-- A node that is put is the last child of its parent, and all else is as it was. -/
theorem childrenOf_put (content : Content) (j : NodeId) (hp : p < σ.slots.size) :
    (σ.put content p).childrenOf j =
      if p = j then (σ.childrenOf j).push (σ.create content).2 else σ.childrenOf j := by
  have hlt : p < (σ.create content).1.slots.size := (keeps_create (A := fun _ _ => True) content).lt hp
  rw [put, childrenOf_append, childrenOf_create]
  simp only [hlt, and_true]

/-- A node may be put behind all children of one that may have children. -/
theorem Tidy.put (h : Tidy A σ) (content : Content) (hp : σ.Hosts p) : Tidy A (σ.put content p) :=
  (h.create content).append (lt_create content) (hp.extend (extends_create content))

/-- Behind leaves one more leaf may be put. -/
theorem OnlyLeaves.put (h : σ.OnlyLeaves p) {content : Content} (hleaf : content.kind.isLeaf = true)
    (hp : p < σ.slots.size) : (σ.put content p).OnlyLeaves p := by
  intro d hd
  rw [childrenOf_put content p hp, if_pos rfl] at hd
  rcases Array.mem_push.mp hd with hd | rfl
  · exact (h d hd).extend (extends_put content)
  · obtain ⟨contents, hnew, -⟩ := @nature?_create_new σ content
    exact ⟨_, extends_append _ _ hnew, hleaf⟩

/-- A child that is put behind leaves leads. -/
theorem OnlyLeaves.heads_put (h : σ.OnlyLeaves p) (content : Content) (hp : p < σ.slots.size) :
    (σ.put content p).Heads ((σ.put content p).childrenOf p) (σ.create content).2 := by
  refine ⟨(σ.childrenOf p).toList, [], ?_, fun d hd => ?_⟩
  · rw [childrenOf_put content p hp, if_pos rfl, Array.toList_push]
  · exact (h d (Array.mem_toList_iff.mp hd)).extend (extends_put content)

/-- A new node has no children. -/
theorem onlyLeaves_put_new (content : Content) (hp : p < σ.slots.size) :
    (σ.put content p).OnlyLeaves (σ.create content).2 := by
  intro d hd
  have hne : p ≠ (σ.create content).2 := by
    rw [create_snd]
    exact Nat.ne_of_lt hp
  rw [childrenOf_put content _ hp, if_neg hne, create_snd, childrenOf,
    Array.getElem?_eq_none (Nat.le_refl _)] at hd
  exact absurd hd (Array.not_mem_empty d)

/-! ## Texts and attributes -/

theorem Tidy.extendText (h : Tidy A σ) (c : Char) : Tidy A (σ.extendText id c) :=
  h.update (fun ⟨content, _, _, _⟩ => by cases content <;> rfl)
    (fun ⟨content, _, _, _⟩ => by cases content <;> rfl)
    fun ⟨content, _, _, _⟩ => by cases content <;> rfl

theorem OnlyLeaves.addAttributes (h : σ.OnlyLeaves p) (new : List Attribute) :
    (σ.addAttributes id new).OnlyLeaves p := by
  have hchildren : ∀ j, (σ.addAttributes id new).childrenOf j = σ.childrenOf j :=
    childrenOf_update fun ⟨content, _, _, _⟩ => by cases content <;> rfl
  intro d hd
  rw [hchildren] at hd
  exact (h d hd).extend (keeps_addAttributes (A := fun _ _ => True) new).nature

theorem Tidy.addAttributes (h : Tidy A σ) (new : List Attribute) : Tidy A (σ.addAttributes id new) :=
  h.update (fun ⟨content, _, _, _⟩ => by cases content <;> rfl)
    (fun ⟨content, _, _, _⟩ => by cases content <;> rfl)
    fun ⟨content, _, _, _⟩ => by cases content <;> rfl

/-- A character is put into a node that may have children, as a text or at the end of one. -/
theorem Tidy.appendCharacter (h : Tidy A σ) (c : Char) (hparent : σ.Hosts parent) :
    Tidy A (σ.appendCharacter parent c) := by
  obtain ⟨id, htext⟩ | hnew := appendCharacter_cases c σ parent
  · exact htext ▸ h.extendText c
  · exact hnew ▸ (h.create _).append (lt_create _) (hparent.extend (extends_create _))

/-- A place between nodes stays one as the store grows. -/
theorem Opens.extend {otherwise : NodeId} (h : σ.Opens A sibling otherwise) (hext : Extends σ σ') :
    σ'.Opens A sibling otherwise where
  element := h.element.imp fun _ hname => hname.imp fun _ hn => hext _ _ hn
  free := h.free
  otherwise := h.otherwise.extend hext

/-- A character is put in front of a node, as a text or at the end of one. -/
theorem Tidy.insertCharacterBefore {otherwise : NodeId} (h : Tidy A σ) (c : Char)
    (hopens : σ.Opens A sibling otherwise) : Tidy A (σ.insertCharacterBefore sibling otherwise c) := by
  obtain hend | ⟨id, htext⟩ | hnew := insertCharacterBefore_cases c σ sibling otherwise
  · exact hend ▸ h.appendCharacter c hopens.otherwise
  · exact htext ▸ h.extendText c
  · exact hnew ▸ (h.create _).insertBefore (lt_create _) (hopens.extend (extends_create _))

end Store

end Vitrine.Html
