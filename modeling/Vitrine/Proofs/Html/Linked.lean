import Mathlib.Data.List.Nodup
import Mathlib.Data.List.Perm.Basic
import Vitrine.Html.Store

/-!
# Links between the nodes of a store (section 4.6)

In a store that is `Linked`, a node that stands among the children of another one names that one as its
parent, and stands there once; so a node stands in one place at most, and can be found from its parent again.
Every operation of a store keeps this; a node that is put somewhere must exist, and have no parent.

`replace_injection_point` finds the injection point again from its parent. That it always does, whatever `parse`
of the `DocumentBuilder` was given, comes from these links.

What a node is never changes, except that texts and lists of attributes grow. `Keeps` says so, and says which
children stay children: a pair that is to be kept is only lost when the child is taken out, or when its
parent gives its children away.
-/

namespace Vitrine.Html

/-- What a node is, without what may still grow. -/
def Content.kind : Content → Content
  | .element name _ => .element name []
  | .text _ => .text ""
  | c => c

/-- What of a node never changes. -/
structure Nature where
  kind : Content
  contents : Option NodeId

/-- The nature of a node: what its content is, and where its children go if that is another node. -/
def StoredNode.nature (n : StoredNode) : Nature := ⟨n.content.kind, n.contents⟩

namespace Store

variable {σ σ' σ'' : Store} {id parent child : NodeId} {name : ElementName}

/-- The nature of a node of a store, if the store has the node. -/
def nature? (σ : Store) (id : NodeId) : Option Nature := (σ.slots[id]?).map StoredNode.nature

/-- Every node that stands among the children of another one names it as its parent and stands there
once. -/
structure Linked (σ : Store) : Prop where
  parent : ∀ p c, c ∈ σ.childrenOf p → σ.parent? c = some p
  once : ∀ p, (σ.childrenOf p).toList.Nodup

/-! ## Nodes of a store -/

/-- A node that the store does not have has no children. -/
theorem mem_childrenOf_iff : child ∈ σ.childrenOf parent ↔
    ∃ n, σ.slots[parent]? = some n ∧ child ∈ n.children := by
  rw [childrenOf]
  cases σ.slots[parent]? <;> simp

theorem lt_of_nature? {n : Nature} (h : σ.nature? id = some n) : id < σ.slots.size := by
  obtain ⟨m, hm, -⟩ := Option.map_eq_some_iff.mp h
  exact (Array.getElem?_eq_some_iff.mp hm).1

/-- An element of the store. -/
def IsElement (σ : Store) (id : NodeId) (name : ElementName) : Prop :=
  ∃ contents, σ.nature? id = some ⟨.element name [], contents⟩

theorem IsElement.lt (h : σ.IsElement id name) : id < σ.slots.size := lt_of_nature? h.choose_spec

theorem IsElement.unique {name' : ElementName} (h : σ.IsElement id name) (h' : σ.IsElement id name') :
    name = name' := by
  obtain ⟨_, h⟩ := h
  obtain ⟨_, h'⟩ := h'
  exact (by simpa using h.symm.trans h' : name = name' ∧ _).1

/-- Children of a template go to its contents, and those of other nodes to the nodes themselves. -/
theorem inside_eq : σ.inside id = ((σ.nature? id).bind Nature.contents).getD id := by
  rw [inside, nature?]
  cases σ.slots[id]? <;> rfl

/-! ## Changing one node -/

section Update

variable {f : StoredNode → StoredNode}

theorem slots_update (j : NodeId) :
    (σ.update id f).slots[j]? = if id = j then (σ.slots[j]?).map f else σ.slots[j]? :=
  Array.getElem?_modify

theorem size_update : (σ.update id f).slots.size = σ.slots.size := Array.size_modify

/-- An update that leaves what a node is leaves it for all nodes. -/
theorem nature?_update (hf : ∀ n, (f n).nature = n.nature) (j : NodeId) :
    (σ.update id f).nature? j = σ.nature? j := by
  rw [nature?, slots_update]
  split
  · rw [Option.map_map]
    exact congrArg (Option.map · _) (funext hf)
  · rfl

/-- An update that leaves the parent of a node leaves all parents. -/
theorem parent?_update (hf : ∀ n, (f n).parent = n.parent) (j : NodeId) :
    (σ.update id f).parent? j = σ.parent? j := by
  rw [parent?, slots_update]
  split
  · rw [Option.bind_map]
    exact congrArg (Option.bind _) (funext hf)
  · rfl

/-- An update that leaves the children of a node leaves all children. -/
theorem childrenOf_update (hf : ∀ n, (f n).children = n.children) (j : NodeId) :
    (σ.update id f).childrenOf j = σ.childrenOf j := by
  rw [childrenOf, slots_update]
  split
  · rw [Option.map_map]
    exact congrArg (fun g => (Option.map g _).getD #[]) (funext hf)
  · rfl

/-- Giving a node another parent. -/
theorem parent?_update_parent (x : Option NodeId) (h : id < σ.slots.size) (j : NodeId) :
    (σ.update id fun n => { n with parent := x }).parent? j = if id = j then x else σ.parent? j := by
  rw [parent?, slots_update]
  split
  · subst j
    rw [Array.getElem?_eq_getElem h]
    rfl
  · rfl

/-- Giving a node other children. -/
theorem childrenOf_update_children (g : Array NodeId → Array NodeId) (j : NodeId) :
    (σ.update id fun n => { n with children := g n.children }).childrenOf j =
      if id = j ∧ id < σ.slots.size then g (σ.childrenOf j) else σ.childrenOf j := by
  rw [childrenOf, slots_update]
  by_cases hid : id = j
  · subst j
    by_cases h : id < σ.slots.size <;> simp [childrenOf, h]
  · rw [if_neg hid, if_neg fun h => hid h.1]
    rfl

/-- Texts and attributes may change without a look at the links. -/
theorem Linked.update (h : σ.Linked) (hparent : ∀ n, (f n).parent = n.parent)
    (hchildren : ∀ n, (f n).children = n.children) : (σ.update id f).Linked :=
  ⟨fun p c hc => by rw [parent?_update hparent]; exact h.parent p c (childrenOf_update hchildren p ▸ hc),
    fun p => by rw [childrenOf_update hchildren]; exact h.once p⟩

end Update

/-! ## What operations keep -/

/-- What nodes are is the same in `σ'` as in `σ`, and the children that `A` holds of stay children. -/
structure Keeps (A : NodeId → NodeId → Prop) (σ σ' : Store) : Prop where
  nature : ∀ id n, σ.nature? id = some n → σ'.nature? id = some n
  children : ∀ p c, A p c → c ∈ σ.childrenOf p → c ∈ σ'.childrenOf p

variable {A : NodeId → NodeId → Prop}

theorem Keeps.refl (A : NodeId → NodeId → Prop) (σ : Store) : Keeps A σ σ :=
  ⟨fun _ _ => id, fun _ _ _ => id⟩

/-- What two operations keep, they keep one behind the other. -/
theorem Keeps.trans (h : Keeps A σ σ') (h' : Keeps A σ' σ'') : Keeps A σ σ'' :=
  ⟨fun id n hn => h'.nature id n (h.nature id n hn),
    fun p c hA hc => h'.children p c hA (h.children p c hA hc)⟩

theorem Keeps.isElement (h : Keeps A σ σ') (he : σ.IsElement id name) : σ'.IsElement id name :=
  he.imp fun _ hn => h.nature _ _ hn

theorem Keeps.lt (h : Keeps A σ σ') (hlt : id < σ.slots.size) : id < σ'.slots.size :=
  lt_of_nature? (h.nature id σ.slots[id].nature (by rw [nature?, Array.getElem?_eq_getElem hlt]; rfl))

/-! ## Creating -/

/-- The new nodes of `create` have neither parent nor children, and the first of them is what was asked
for. -/
theorem create_slots (σ : Store) (content : Content) : ∃ contents, ∃ rest : List StoredNode,
    (σ.create content).1.slots = σ.slots ++ (⟨content, none, #[], contents⟩ :: rest).toArray ∧
    (∀ n ∈ rest, n.parent = none ∧ n.children = #[]) ∧
    ((∀ attributes, content ≠ .element ⟨.html, "template"⟩ attributes) → contents = none) := by
  cases content with
  | element name attributes =>
    cases htemplate : name.isHtml ["template"] with
    | true =>
      refine ⟨some (σ.slots.size + 1), [⟨.fragment, none, #[], none⟩], Array.ext' ?_, by simp, fun h => ?_⟩
      · simp [create, htemplate]
      have hname : name = ⟨.html, "template"⟩ := by
        cases name
        simpa [ElementName.isHtml] using htemplate
      exact absurd (hname ▸ rfl) (h attributes)
    | false => exact ⟨none, [], by simp [create, htemplate], by simp, fun _ => rfl⟩
  | fragment | text | comment | doctype =>
    exact ⟨none, [], by simp [create], by simp, fun _ => rfl⟩

section Create

variable (content : Content)

theorem create_snd (σ : Store) : (σ.create content).2 = σ.slots.size := by
  simp only [create]
  split
  · split <;> rfl
  · rfl

/-- Creating changes no slot that is there. -/
theorem slots_create_of_lt (h : id < σ.slots.size) :
    (σ.create content).1.slots[id]? = σ.slots[id]? := by
  obtain ⟨_, _, hslots, -⟩ := create_slots σ content
  rw [hslots, Array.getElem?_append_left h]

/-- A new node has neither a parent nor children, and neither have the contents of a new template. -/
theorem slots_create_of_le (h : σ.slots.size ≤ id) : ∀ n, (σ.create content).1.slots[id]? = some n →
    n.parent = none ∧ n.children = #[] := by
  obtain ⟨_, rest, hslots, hrest, -⟩ := create_slots σ content
  intro n hn
  rw [hslots, Array.getElem?_append_right h, List.getElem?_toArray] at hn
  rcases List.mem_cons.mp (List.mem_of_getElem? hn) with rfl | hn
  · exact ⟨rfl, rfl⟩
  · exact hrest n hn

/-- A new node is linked to nothing, so all links are as they were. -/
@[simp] theorem parent?_create (id : NodeId) : (σ.create content).1.parent? id = σ.parent? id := by
  rcases Nat.lt_or_ge id σ.slots.size with h | h
  · rw [parent?, slots_create_of_lt content h]
    rfl
  · rw [parent?, parent?, Array.getElem?_eq_none h]
    cases hn : (σ.create content).1.slots[id]? with
    | none => rfl
    | some n => exact (slots_create_of_le content h n hn).1

@[simp] theorem childrenOf_create (id : NodeId) :
    (σ.create content).1.childrenOf id = σ.childrenOf id := by
  rcases Nat.lt_or_ge id σ.slots.size with h | h
  · rw [childrenOf, slots_create_of_lt content h]
    rfl
  · rw [childrenOf, childrenOf, Array.getElem?_eq_none h]
    cases hn : (σ.create content).1.slots[id]? with
    | none => rfl
    | some n => exact (slots_create_of_le content h n hn).2

theorem lt_create : (σ.create content).2 < (σ.create content).1.slots.size := by
  obtain ⟨_, _, hslots, -⟩ := create_slots σ content
  rw [create_snd, hslots]
  simp

theorem parent?_create_new : (σ.create content).1.parent? (σ.create content).2 = none := by
  rw [parent?_create, create_snd, parent?, Array.getElem?_eq_none (Nat.le_refl _)]
  rfl

/-- Only a template has contents besides its children. -/
theorem nature?_create_new : ∃ contents,
    (σ.create content).1.nature? (σ.create content).2 = some ⟨content.kind, contents⟩ ∧
    ((∀ attributes, content ≠ .element ⟨.html, "template"⟩ attributes) → contents = none) := by
  obtain ⟨contents, _, hslots, -, hplain⟩ := create_slots σ content
  refine ⟨contents, ?_, hplain⟩
  rw [nature?, create_snd, hslots, Array.getElem?_append_right (Nat.le_refl _)]
  simp [StoredNode.nature]

theorem Linked.create (h : σ.Linked) : (σ.create content).1.Linked :=
  ⟨fun p c hc => by rw [parent?_create]; exact h.parent p c (childrenOf_create content p ▸ hc),
    fun p => by rw [childrenOf_create]; exact h.once p⟩

theorem keeps_create : Keeps A σ (σ.create content).1 where
  nature id n hn := by rw [nature?, slots_create_of_lt content (lt_of_nature? hn)]; exact hn
  children p c _ hc := by rwa [childrenOf_create]

/-- A new node is none of the store before. -/
theorem create_ne {n : Nature} (h : σ.nature? id = some n) : (σ.create content).2 ≠ id := by
  rw [create_snd]
  exact (Nat.ne_of_lt (lt_of_nature? h)).symm

end Create

/-! ## Taking out and putting in -/

/-- A node without a parent is no child. -/
theorem Linked.not_mem (h : σ.Linked) (hc : σ.parent? child = none) (p : NodeId) :
    child ∉ σ.childrenOf p := fun hmem => by
  rw [h.parent p child hmem] at hc
  exact absurd hc nofun

theorem lt_of_parent? (h : σ.parent? child = some parent) : child < σ.slots.size := by
  obtain ⟨n, hn, -⟩ := Option.bind_eq_some_iff.mp h
  exact (Array.getElem?_eq_some_iff.mp hn).1

/-- A change of the children of one node and of the parent of one child. -/
def relink (σ : Store) (p : NodeId) (g : Array NodeId → Array NodeId) (c : NodeId) (x : Option NodeId) :
    Store :=
  (σ.update p fun n => { n with children := g n.children }).update c fun n => { n with parent := x }

section Relink

variable {g : Array NodeId → Array NodeId} {x : Option NodeId} {p c j : NodeId}

/-- Linking anew changes the children of one node. -/
theorem childrenOf_relink : (σ.relink p g c x).childrenOf j =
    if p = j ∧ p < σ.slots.size then g (σ.childrenOf j) else σ.childrenOf j := by
  rw [relink, childrenOf_update (f := fun n => { n with parent := x }) fun _ => rfl,
    childrenOf_update_children]

/-- Linking anew changes the parent of one node. -/
theorem parent?_relink (hc : c < σ.slots.size) :
    (σ.relink p g c x).parent? j = if c = j then x else σ.parent? j := by
  rw [relink, parent?_update_parent x (by rwa [size_update]),
    parent?_update (f := fun n => { n with children := g n.children }) fun _ => rfl]

/-- Linking anew leaves what the nodes are. -/
theorem nature?_relink : (σ.relink p g c x).nature? j = σ.nature? j := by
  rw [relink, nature?_update (f := fun n => { n with parent := x }) fun _ => rfl,
    nature?_update (f := fun n => { n with children := g n.children }) fun _ => rfl]

/-- Each node is a child once if it is so among the children that were changed. -/
theorem once_relink (h : σ.Linked) (hg : (g (σ.childrenOf p)).toList.Nodup) :
    ((σ.relink p g c x).childrenOf j).toList.Nodup := by
  rw [childrenOf_relink]
  split
  · rename_i hj
    exact hj.1 ▸ hg
  · exact h.once j

/-- A detached node becomes a child of `p`, which keeps its other children. -/
theorem Linked.attach (h : σ.Linked) (hc : σ.parent? c = none) (hlt : c < σ.slots.size)
    (hmem : ∀ d ∈ g (σ.childrenOf p), d = c ∨ d ∈ σ.childrenOf p)
    (hg : (g (σ.childrenOf p)).toList.Nodup) : (σ.relink p g c (some p)).Linked := by
  refine ⟨fun j d hd => ?_, fun j => once_relink h hg⟩
  have hold : ∀ k, d ∈ σ.childrenOf k → c ≠ d := fun k hk heq => h.not_mem hc k (heq ▸ hk)
  rw [childrenOf_relink] at hd
  rw [parent?_relink hlt]
  split at hd
  · obtain ⟨rfl, -⟩ := ‹p = j ∧ _›
    rcases hmem d hd with rfl | hd
    · rw [if_pos rfl]
    · rw [if_neg (hold p hd), h.parent p d hd]
  · rw [if_neg (hold j hd), h.parent j d hd]

/-- A pair is kept if the change of the children keeps it. -/
theorem keeps_relink (hg : ∀ d, A p d → d ∈ σ.childrenOf p → d ∈ g (σ.childrenOf p)) :
    Keeps A σ (σ.relink p g c x) where
  nature id n hn := by rwa [nature?_relink]
  children j d hA hd := by
    rw [childrenOf_relink]
    split
    · obtain ⟨rfl, -⟩ := ‹p = j ∧ _›
      exact hg d hA hd
    · exact hd

end Relink

/-! ### `detach` -/

/-- A child is taken out by removing it from its parent's children, and its parent from it. -/
theorem detach_eq (h : σ.parent? child = some parent) :
    σ.detach child = σ.relink parent (Array.filter (· ≠ child)) child none := by
  rw [detach, h]
  rfl

/-- Taking a node out keeps the links; where it has no parent there is nothing to do. -/
theorem Linked.detach (h : σ.Linked) (c : NodeId) : (σ.detach c).Linked := by
  cases hc : σ.parent? c with
  | none => rwa [Store.detach, hc]
  | some p =>
    rw [detach_eq hc]
    refine ⟨fun j d hd => ?_, fun j => once_relink h ?_⟩
    · have hne : d ∈ σ.childrenOf j ∧ c ≠ d := by
        rw [childrenOf_relink] at hd
        split at hd
        · obtain ⟨hd, hne⟩ := Array.mem_filter.mp hd
          exact ⟨hd, fun heq => by simp [heq] at hne⟩
        · rename_i hj
          refine ⟨hd, fun heq => hj ?_⟩
          obtain ⟨n, hn, -⟩ := mem_childrenOf_iff.mp hd
          obtain rfl : j = p := Option.some.inj ((h.parent j d hd).symm.trans (heq ▸ hc))
          exact ⟨rfl, (Array.getElem?_eq_some_iff.mp hn).1⟩
      rw [parent?_relink (lt_of_parent? hc), if_neg hne.2, h.parent j d hne.1]
    · rw [Array.toList_filter]
      exact (h.once p).filter _

/-- A node that was taken out has no parent. -/
theorem parent?_detach (c : NodeId) : (σ.detach c).parent? c = none := by
  cases hc : σ.parent? c with
  | none => rwa [Store.detach, hc]
  | some p => rw [detach_eq hc, parent?_relink (lt_of_parent? hc), if_pos rfl]

/-- Pairs of which the node that is taken out is the child are lost, and no others. -/
theorem keeps_detach {c : NodeId} (h : ∀ p d, A p d → d ≠ c) : Keeps A σ (σ.detach c) := by
  cases hc : σ.parent? c with
  | none =>
    rw [Store.detach, hc]
    exact .refl A σ
  | some p =>
    rw [detach_eq hc]
    exact keeps_relink fun d hA hd => Array.mem_filter.mpr ⟨hd, by simpa using h p d hA⟩

/-! ### `append` and `insertBefore` -/

/-- A node may be put behind the children of any other, if it has no parent yet. -/
theorem Linked.append (h : σ.Linked) (hc : σ.parent? child = none) (hlt : child < σ.slots.size) :
    (σ.append parent child).Linked := by
  refine h.attach (g := (·.push child)) hc hlt (fun d hd => (Array.mem_push.mp hd).symm) ?_
  rw [Array.toList_push, ← List.concat_eq_append]
  exact (h.once parent).concat fun hmem => h.not_mem hc parent (Array.mem_toList_iff.mp hmem)

theorem keeps_append : Keeps A σ (σ.append parent child) :=
  keeps_relink (g := (·.push child)) fun _ _ hd => Array.mem_push_of_mem _ hd

theorem mem_append (h : parent < σ.slots.size) : child ∈ (σ.append parent child).childrenOf parent := by
  change child ∈ (σ.relink parent (·.push child) child (some parent)).childrenOf parent
  rw [childrenOf_relink, if_pos ⟨rfl, h⟩]
  exact Array.mem_push_self

theorem toList_insertIdxIfInBounds (nodes : Array NodeId) (i : Nat) (x : NodeId) :
    (nodes.insertIdxIfInBounds i x).toList = nodes.toList.insertIdx i x := by
  obtain ⟨l⟩ := nodes
  simp

/-- A new member may be inserted anywhere. -/
theorem nodup_insertIdx {l : List NodeId} (h : l.Nodup) (hnew : child ∉ l) (i : Nat) :
    (l.insertIdx i child).Nodup := by
  rcases Nat.lt_or_ge l.length i with hi | hi
  · rwa [List.insertIdx_of_length_lt hi]
  · rw [(List.perm_insertIdx child l hi).nodup_iff]
    exact List.nodup_cons.mpr ⟨hnew, h⟩

/-- A node may be put in front of another one, or behind all children of a third if that one has no parent. -/
theorem Linked.insertBefore {sibling otherwise : NodeId} (h : σ.Linked) (hc : σ.parent? child = none)
    (hlt : child < σ.slots.size) : (σ.insertBefore sibling otherwise child).Linked := by
  rw [Store.insertBefore]
  split
  · exact h.append hc hlt
  · rename_i p _
    have hnew : child ∉ (σ.childrenOf p).toList := fun hmem =>
      h.not_mem hc p (Array.mem_toList_iff.mp hmem)
    refine h.attach (g := (·.insertIdxIfInBounds (σ.indexOf p sibling) child)) hc hlt (fun d hd => ?_) ?_
    · rw [← Array.mem_toList_iff, toList_insertIdxIfInBounds] at hd
      exact (List.eq_or_mem_of_mem_insertIdx hd).imp_right Array.mem_toList_iff.mp
    · rw [toList_insertIdxIfInBounds]
      exact nodup_insertIdx (h.once p) hnew _

theorem keeps_insertBefore {sibling otherwise : NodeId} :
    Keeps A σ (σ.insertBefore sibling otherwise child) := by
  rw [Store.insertBefore]
  split
  · exact keeps_append
  · rename_i p _
    refine keeps_relink (g := (·.insertIdxIfInBounds (σ.indexOf p sibling) child)) fun d _ hd => ?_
    rw [← Array.mem_toList_iff, toList_insertIdxIfInBounds]
    exact (List.sublist_insertIdx _ _ _).mem (Array.mem_toList_iff.mpr hd)

/-! ## Characters -/

section Characters

variable (c : Char)

/-- A change of one node that is neither to its links nor to what it is. -/
theorem keeps_update {f : StoredNode → StoredNode} (hnature : ∀ n, (f n).nature = n.nature)
    (hchildren : ∀ n, (f n).children = n.children) : Keeps A σ (σ.update id f) where
  nature j n hn := by rwa [nature?_update hnature]
  children p d _ hd := by rwa [childrenOf_update hchildren]

/-- A text grows without a change of links. -/
theorem Linked.extendText (h : σ.Linked) : (σ.extendText id c).Linked :=
  h.update (fun ⟨content, _, _, _⟩ => by cases content <;> rfl)
    fun ⟨content, _, _, _⟩ => by cases content <;> rfl

theorem keeps_extendText : Keeps A σ (σ.extendText id c) :=
  keeps_update (fun ⟨content, _, _, _⟩ => by cases content <;> rfl)
    fun ⟨content, _, _, _⟩ => by cases content <;> rfl

/-- A character is put to a text that is there, or into a new one. -/
theorem appendCharacter_cases (σ : Store) (parent : NodeId) :
    let created := σ.create (.text (String.singleton c))
    (∃ id, σ.appendCharacter parent c = σ.extendText id c) ∨
      σ.appendCharacter parent c = created.1.append parent created.2 := by
  rw [Store.appendCharacter]
  split
  case h_1 last _ =>
    split
    · exact .inl ⟨last, rfl⟩
    · exact .inr rfl
  case h_2 => exact .inr rfl

/-- In front of a node a character either extends the text there, or is a new text; with no parent to put it in,
it goes behind the children of the other node. -/
theorem insertCharacterBefore_cases (σ : Store) (sibling otherwise : NodeId) :
    let created := σ.create (.text (String.singleton c))
    σ.insertCharacterBefore sibling otherwise c = σ.appendCharacter otherwise c ∨
      (∃ id, σ.insertCharacterBefore sibling otherwise c = σ.extendText id c) ∨
      σ.insertCharacterBefore sibling otherwise c = created.1.insertBefore sibling otherwise created.2 := by
  rw [Store.insertCharacterBefore]
  split
  case h_1 => exact .inl rfl
  case h_2 =>
    dsimp only
    split
    case h_1 text _ => exact .inr (.inl ⟨text, rfl⟩)
    case h_2 => exact .inr (.inr rfl)

/-- A character keeps the links, whether it extends a text or is a new one. -/
theorem Linked.appendCharacter (h : σ.Linked) : (σ.appendCharacter parent c).Linked := by
  obtain ⟨id, htext⟩ | hnew := appendCharacter_cases c σ parent
  · exact htext ▸ h.extendText c
  · exact hnew ▸ (h.create _).append (parent?_create_new _) (lt_create _)

theorem keeps_appendCharacter : Keeps A σ (σ.appendCharacter parent c) := by
  obtain ⟨id, htext⟩ | hnew := appendCharacter_cases c σ parent
  · exact htext ▸ keeps_extendText c
  · exact hnew ▸ (keeps_create _).trans keeps_append

theorem Linked.insertCharacterBefore {sibling otherwise : NodeId} (h : σ.Linked) :
    (σ.insertCharacterBefore sibling otherwise c).Linked := by
  obtain hend | ⟨id, htext⟩ | hnew := insertCharacterBefore_cases c σ sibling otherwise
  · exact hend ▸ h.appendCharacter c
  · exact htext ▸ h.extendText c
  · exact hnew ▸ (h.create _).insertBefore (parent?_create_new _) (lt_create _)

theorem keeps_insertCharacterBefore {sibling otherwise : NodeId} :
    Keeps A σ (σ.insertCharacterBefore sibling otherwise c) := by
  obtain hend | ⟨id, htext⟩ | hnew := insertCharacterBefore_cases c σ sibling otherwise
  · exact hend ▸ keeps_appendCharacter c
  · exact htext ▸ keeps_extendText c
  · exact hnew ▸ (keeps_create _).trans keeps_insertBefore

end Characters

/-! ## Attributes -/

section Attributes

variable (new : List Attribute)

/-- Attributes are added without a change of links. -/
theorem Linked.addAttributes (h : σ.Linked) : (σ.addAttributes id new).Linked :=
  h.update (fun ⟨content, _, _, _⟩ => by cases content <;> rfl)
    fun ⟨content, _, _, _⟩ => by cases content <;> rfl

theorem keeps_addAttributes : Keeps A σ (σ.addAttributes id new) :=
  keeps_update (fun ⟨content, _, _, _⟩ => by cases content <;> rfl)
    fun ⟨content, _, _, _⟩ => by cases content <;> rfl

end Attributes

/-! ## Moving children -/

/-- Some nodes get the same parent. -/
def reparent (σ : Store) (target : NodeId) (moved : List NodeId) : Store :=
  moved.foldl (fun σ id => σ.update id fun n => { n with parent := some target }) σ

/-- New parents leave what the nodes are. -/
theorem nature?_reparent (target : NodeId) (moved : List NodeId) (j : NodeId) :
    (σ.reparent target moved).nature? j = σ.nature? j := by
  induction moved generalizing σ with
  | nil => rfl
  | cons d moved ih => exact ih.trans (nature?_update (f := fun n => { n with parent := some target }) (fun _ => rfl) j)

/-- Naming new parents leaves the children of all nodes. -/
theorem childrenOf_reparent (target : NodeId) (moved : List NodeId) (j : NodeId) :
    (σ.reparent target moved).childrenOf j = σ.childrenOf j := by
  induction moved generalizing σ with
  | nil => rfl
  | cons d moved ih => exact ih.trans (childrenOf_update (f := fun n => { n with parent := some target }) (fun _ => rfl) j)

/-- The nodes that moved name the new parent, and the others keep theirs. -/
theorem parent?_reparent (target : NodeId) (moved : List NodeId)
    (hmoved : ∀ d ∈ moved, d < σ.slots.size) (j : NodeId) :
    (σ.reparent target moved).parent? j = if j ∈ moved then some target else σ.parent? j := by
  induction moved generalizing σ with
  | nil => rfl
  | cons d moved ih =>
    rw [List.forall_mem_cons] at hmoved
    refine (ih (by simpa only [size_update] using hmoved.2)).trans ?_
    rw [parent?_update_parent _ hmoved.1]
    by_cases hd : d = j
    · simp [hd]
    · simp [hd, Ne.symm hd]

/-- Children move in three steps: one node gives them away, one takes them, and they learn of it. -/
theorem moveChildren_eq (source target : NodeId) : σ.moveChildren source target =
    ((σ.update source fun n => { n with children := #[] }).update target
      fun n => { n with children := n.children ++ σ.childrenOf source }).reparent target
        (σ.childrenOf source).toList := by
  rw [moveChildren, reparent, Array.foldl_toList]

/-- The children that move stand behind those that were there. -/
theorem childrenOf_moveChildren (source target j : NodeId) : (σ.moveChildren source target).childrenOf j =
    if target = j ∧ target < σ.slots.size then
      (if source = j then #[] else σ.childrenOf j) ++ σ.childrenOf source
    else if source = j then #[] else σ.childrenOf j := by
  have hemptied : (σ.update source fun n => { n with children := #[] }).childrenOf j =
      if source = j then #[] else σ.childrenOf j := by
    rw [childrenOf_update_children fun _ => #[]]
    by_cases hj : source = j <;> by_cases hlt : source < σ.slots.size <;> simp_all [childrenOf]
  rw [moveChildren_eq, childrenOf_reparent, childrenOf_update_children (· ++ σ.childrenOf source),
    size_update, hemptied]

/-- Exactly the children that moved have a new parent. -/
theorem parent?_moveChildren (h : σ.Linked) (source target j : NodeId) :
    (σ.moveChildren source target).parent? j =
      if j ∈ σ.childrenOf source then some target else σ.parent? j := by
  have hmoved : ∀ d ∈ (σ.childrenOf source).toList, d < σ.slots.size := fun d hd =>
    lt_of_parent? (h.parent source d (Array.mem_toList_iff.mp hd))
  rw [moveChildren_eq, parent?_reparent _ _ (by simpa only [size_update] using hmoved),
    parent?_update (f := fun n => { n with children := n.children ++ σ.childrenOf source }) fun _ => rfl,
    parent?_update (f := fun n => { n with children := #[] }) fun _ => rfl]
  simp only [Array.mem_toList_iff]

/-- Moving all children of a node keeps the links, even if it is to the node itself. -/
theorem Linked.moveChildren (h : σ.Linked) (source target : NodeId) :
    (σ.moveChildren source target).Linked := by
  refine ⟨fun p d hd => ?_, fun p => ?_⟩
  · -- The child was one of `p` before, or it is one of those that are moved to `p`.
    have hd : source ≠ p ∧ d ∈ σ.childrenOf p ∨ target = p ∧ d ∈ σ.childrenOf source := by
      rw [childrenOf_moveChildren] at hd
      split_ifs at hd <;> simp_all
    rw [parent?_moveChildren h]
    split
    · rename_i hmoved
      rcases hd with ⟨hp, hd⟩ | ⟨rfl, -⟩
      · exact absurd (Option.some.inj ((h.parent source d hmoved).symm.trans (h.parent p d hd))) hp
      · rfl
    · rename_i hmoved
      rcases hd with ⟨-, hd⟩ | ⟨-, hd⟩
      · exact h.parent p d hd
      · exact absurd hd hmoved
  · have hrest : (if source = p then #[] else σ.childrenOf p).toList.Nodup := by
      split
      · exact List.nodup_nil
      · exact h.once p
    rw [childrenOf_moveChildren]
    split
    · rw [Array.toList_append]
      refine hrest.append (h.once source) fun d hd hmoved => ?_
      split at hd
      · exact absurd hd List.not_mem_nil
      · rename_i hp
        rw [Array.mem_toList_iff] at hd hmoved
        exact hp (Option.some.inj ((h.parent source d hmoved).symm.trans (h.parent p d hd)))
    · exact hrest

/-- Pairs of which the node that gives its children away is the parent are lost, and no others. -/
theorem keeps_moveChildren {source target : NodeId} (hA : ∀ d, ¬ A source d) :
    Keeps A σ (σ.moveChildren source target) where
  nature j n hn := by
    rwa [moveChildren_eq, nature?_reparent,
      nature?_update (f := fun n => { n with children := n.children ++ σ.childrenOf source }) fun _ => rfl,
      nature?_update (f := fun n => { n with children := #[] }) fun _ => rfl]
  children p d hAd hd := by
    have hp : source ≠ p := by
      rintro rfl
      exact hA d hAd
    rw [childrenOf_moveChildren, if_neg hp]
    split
    · exact Array.mem_append_left _ hd
    · exact hd

end Store

end Vitrine.Html
