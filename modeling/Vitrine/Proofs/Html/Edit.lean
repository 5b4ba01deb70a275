import Mathlib.Data.List.Basic
import Vitrine.Proofs.Html.Place

/-!
# Edits of a document at some places (section 4.6)

Places are ordered as numbers of chapters are: a place comes before those inside it, and otherwise the first
number that differs decides. That is document order.

`replace_injection_point` is the edit of one place, and `append_to_head` that of another; `synthesize_document`
makes both.

An edit says for every place what becomes of the node there. `editedAll` carries out the edits of all places
at once, so it tells of the whole document what becomes of it: a node whose place is edited by `keep`, and
around which none is replaced, keeps what it is, and keeps its place among what its siblings become.

* `isFirst_of_placeOfFirstIn?`: a search finds the first place in document order.
* `replaceAtIn?_eq_editedAll`: replacing is the edit of one place.
* `forall_editedAll`: what all nodes are, they are after edits that preserve it.
* `addToFirstIn?_editedAll`: adding a child to the first element with a tag is the edit of one place, which
  is that of the first such element before the other edits, if those put nothing with the tag there and take
  nothing with the tag away.
-/

namespace Vitrine.Html.Node

variable {p : Node → Bool}

/-! ## The node at a place -/

/-- The node that stands at a place in several trees. -/
def nodeAt? : List Node → Place → Option Node
  | _, [] => none
  | ns, k :: place =>
    (ns[k]?).bind fun n => if place.isEmpty then some n else nodeAt? n.children place

theorem nodeAt?_first (n : Node) (ns : List Node) (place : Place) :
    nodeAt? (n :: ns) (0 :: place) = if place.isEmpty then some n else nodeAt? n.children place := rfl

theorem nodeAt?_behind (n : Node) (ns : List Node) (place : Place) :
    nodeAt? (n :: ns) place.behind = nodeAt? ns place := by
  cases place <;> rfl

theorem mem_subtree_of_mem_children {n m : Node} (h : m ∈ subtrees n.children) : m ∈ n.subtree := by
  cases n with
  | element => exact List.mem_cons_of_mem _ h
  | text | comment | doctype => exact absurd h List.not_mem_nil

theorem subtree_subset_subtrees {n : Node} {ns : List Node} (h : n ∈ ns) : n.subtree ⊆ subtrees ns := by
  induction ns with
  | nil => exact absurd h List.not_mem_nil
  | cons n' ns ih =>
    rcases List.mem_cons.mp h with rfl | h
    · exact List.subset_append_left _ _
    · exact List.subset_append_of_subset_right _ (ih h)

/-- What stands at some place is in the document. -/
theorem mem_subtrees_of_nodeAt? {ns : List Node} {place : Place} {n : Node}
    (h : nodeAt? ns place = some n) : n ∈ subtrees ns := by
  induction place generalizing ns with
  | nil => exact absurd h nofun
  | cons k place ih =>
    obtain ⟨m, hm, h⟩ := Option.bind_eq_some_iff.mp h
    refine subtree_subset_subtrees (List.mem_of_getElem? hm) ?_
    split at h
    · obtain rfl := Option.some.inj h
      exact self_mem_subtree m
    · exact mem_subtree_of_mem_children (ih h)

/-! ## The first place -/

/-- Of the places where something stands that `P` holds of, `place` is the first in document order. -/
structure IsFirst (P : Node → Prop) (ns : List Node) (place : Place) : Prop where
  holds : ∃ n, nodeAt? ns place = some n ∧ P n
  least : ∀ other n, nodeAt? ns other = some n → P n → ¬ other < place

theorem IsFirst.congr {P Q : Node → Prop} {ns : List Node} {place : Place} (h : IsFirst P ns place)
    (hPQ : ∀ n, P n ↔ Q n) : IsFirst Q ns place :=
  funext (fun n => propext (hPQ n)) ▸ h

theorem IsFirst.unique {P : Node → Prop} {a b : Place} (ha : IsFirst P ns a) (hb : IsFirst P ns b) : a = b := by
  obtain ⟨n, hn, hPn⟩ := ha.holds
  obtain ⟨m, hm, hPm⟩ := hb.holds
  exact List.le_antisymm (List.not_lt.mp (ha.least b m hm hPm)) (List.not_lt.mp (hb.least a n hn hPn))

/-- The first place in the first tree is the first place of all. -/
theorem isFirst_first {n : Node} {ns : List Node} {place : Place}
    (hplace : if place.isEmpty then p n = true else p n = false ∧ IsFirst (p · = true) n.children place) :
    IsFirst (p · = true) (n :: ns) (0 :: place) := by
  cases place with
  | nil =>
    refine ⟨⟨n, rfl, hplace⟩, fun other m _ _ hlt => ?_⟩
    cases other with
    | nil => contradiction
    | cons k other =>
      rcases List.cons_lt_cons_iff.mp hlt with h | ⟨-, h⟩
      · exact absurd h (Nat.not_lt_zero k)
      · exact absurd h (List.not_lt_nil other)
  | cons j place =>
    obtain ⟨hn, hholds, hleast⟩ := hplace
    refine ⟨hholds, fun other m hm hpm hlt => ?_⟩
    cases other with
    | nil => exact absurd hm nofun
    | cons k other =>
      rcases List.cons_lt_cons_iff.mp hlt with h | ⟨rfl, h⟩
      · exact absurd h (Nat.not_lt_zero k)
      · rw [nodeAt?_first] at hm
        split at hm
        · obtain rfl := Option.some.inj hm
          rw [hn] at hpm
          exact absurd hpm nofun
        · exact hleast other m hm hpm h

/-- If the first tree holds nothing that is searched, the first place is one behind it. -/
theorem isFirst_behind {n : Node} {ns : List Node} {place : Place}
    (hn : ∀ m ∈ n.subtree, p m = false) (h : IsFirst (p · = true) ns place) :
    IsFirst (p · = true) (n :: ns) place.behind := by
  obtain ⟨⟨m, hm, hpm⟩, hleast⟩ := h
  refine ⟨⟨m, by rw [nodeAt?_behind, hm], hpm⟩, fun other m hm hpm hlt => ?_⟩
  cases other with
  | nil => exact absurd hm nofun
  | cons k other =>
    cases k with
    | zero =>
      rw [nodeAt?_first] at hm
      split at hm
      · obtain rfl := Option.some.inj hm
        rw [hn _ (self_mem_subtree n)] at hpm
        exact absurd hpm nofun
      · rw [hn _ (mem_subtree_of_mem_children (mem_subtrees_of_nodeAt? hm))] at hpm
        exact absurd hpm nofun
    | succ k =>
      refine hleast (k :: other) m hm hpm ?_
      cases place with
      | nil => contradiction
      | cons j place => simpa [Place.behind, List.cons_lt_cons_iff] using hlt

mutual

/-- A search within one tree finds the tree itself or the first place among its children. -/
theorem placeOfFirst?_spec : ∀ (n : Node) {place : Place}, placeOfFirst? p n = some place →
    if place.isEmpty then p n = true else p n = false ∧ IsFirst (p · = true) n.children place
  | .element name attributes children contents, place, h => by
    rw [placeOfFirst?] at h
    split at h
    · rename_i hself
      obtain rfl := Option.some.inj h
      exact hself
    · rename_i hself
      have hfirst := isFirst_of_placeOfFirstIn? children h
      cases place with
      | nil => exact absurd hfirst.holds nofun
      | cons k place => exact ⟨Bool.not_eq_true _ ▸ hself, hfirst⟩
  | .text t, place, h => by
    obtain ⟨hself, rfl⟩ : p (.text t) = true ∧ [] = place := by simpa [placeOfFirst?] using h
    exact hself
  | .comment t, place, h => by
    obtain ⟨hself, rfl⟩ : p (.comment t) = true ∧ [] = place := by simpa [placeOfFirst?] using h
    exact hself
  | .doctype t, place, h => by
    obtain ⟨hself, rfl⟩ : p (.doctype t) = true ∧ [] = place := by simpa [placeOfFirst?] using h
    exact hself

/-- **A search finds the first place** in document order. -/
theorem isFirst_of_placeOfFirstIn? : ∀ (ns : List Node) {place : Place},
    placeOfFirstIn? p ns = some place → IsFirst (p · = true) ns place
  | [], _, h => absurd h nofun
  | n :: ns, place, h => by
    rw [placeOfFirstIn?] at h
    split at h
    · rename_i inner hn
      obtain rfl := Option.some.inj h
      exact isFirst_first (placeOfFirst?_spec n hn)
    · rename_i hn
      obtain ⟨inner, hns, rfl⟩ := Option.map_eq_some_iff.mp h
      exact isFirst_behind ((placeOfFirst?_eq_none_iff n).mp hn) (isFirst_of_placeOfFirstIn? ns hns)

end

/-! ## Edits -/

/-- What becomes of a node. -/
inductive Edit where
  | keep
  /-- Other nodes take its place. -/
  | replace (new : List Node)
  /-- It gets one more child, behind those it has. -/
  | grow (child : Node)

mutual

/-- What a node becomes; the places in it are seen from the node. -/
def edited (edit : Place → Edit) : Node → List Node
  | .element name attributes children contents =>
    match edit [] with
    | .keep => [.element name attributes (editedAll edit children) contents]
    | .replace new => new
    | .grow child => [.element name attributes (editedAll edit children ++ [child]) contents]
  | n =>
    match edit [] with
    | .replace new => new
    | _ => [n]

/-- What several trees become. -/
def editedAll (edit : Place → Edit) : List Node → List Node
  | [] => []
  | n :: ns => edited (fun place => edit (0 :: place)) n ++ editedAll (fun place => edit place.behind) ns

end

/-- No place is edited. -/
def noEdit : Place → Edit := fun _ => .keep

mutual

theorem edited_noEdit : ∀ n : Node, edited noEdit n = [n]
  | .element name attributes children contents => by
    rw [edited, noEdit, editedAll_noEdit children]
  | .text _ | .comment _ | .doctype _ => rfl

/-- Without edits a document stays as it is. -/
theorem editedAll_noEdit : ∀ ns : List Node, editedAll noEdit ns = ns
  | [] => rfl
  | n :: ns => by
    have hn := edited_noEdit n
    have hns := editedAll_noEdit ns
    rw [editedAll, show (fun place => noEdit (0 :: place)) = noEdit from rfl,
      show (fun place => noEdit (Place.behind place)) = noEdit from rfl, hn, hns]
    rfl

end

/-! ### Edits of one place more -/

section Update

variable (edit : Place → Edit) (place : Place) (x : Edit)

/-- Places behind the first tree are told apart as those of the others are. -/
theorem behind_injective : Function.Injective Place.behind := by
  intro a b h
  cases a <;> cases b <;> simp_all [Place.behind]

/-- An edit of one place within the first tree is one for its children. -/
theorem update_first : (fun other => Function.update edit (0 :: place) x (0 :: other)) =
    Function.update (fun other => edit (0 :: other)) place x :=
  Function.update_comp_eq_of_injective' edit List.cons_injective place x

/-- An edit of one place behind the first tree is one for the others. -/
theorem update_behind : (fun other => Function.update edit place.behind x (Place.behind other)) =
    Function.update (fun other => edit (Place.behind other)) place x :=
  Function.update_comp_eq_of_injective' edit behind_injective place x

theorem behind_ne_first (other : Place) : Place.behind other ≠ 0 :: place := by
  cases other <;> simp [Place.behind]

theorem update_first_behind : (fun other => Function.update edit (0 :: place) x (Place.behind other)) =
    fun other => edit (Place.behind other) :=
  funext fun other => Function.update_of_ne (behind_ne_first place other) x edit

theorem update_behind_first : (fun other => Function.update edit place.behind x (0 :: other)) =
    fun other => edit (0 :: other) :=
  funext fun other => Function.update_of_ne (behind_ne_first other place).symm x edit

/-- No tree of several stands at the empty place. -/
theorem editedAll_update_nil (ns : List Node) :
    editedAll (Function.update edit [] x) ns = editedAll edit ns := by
  induction ns generalizing edit with
  | nil => rfl
  | cons n ns ih =>
    rw [editedAll, editedAll, ← update_behind_first edit [] x,
      show (fun other => Function.update edit [] x (Place.behind other)) =
        Function.update (fun other => edit (Place.behind other)) [] x from update_behind edit [] x, ih]
    rfl

end Update

mutual

/-- Replacing within one tree is the edit of one place. -/
theorem replaceAt?_eq_edited {new : List Node} : ∀ (n : Node) {place : Place} {ms : List Node},
    replaceAt? new n place = some ms → ms = edited (Function.update noEdit place (.replace new)) n
  | n, [], ms, h => by
    obtain rfl := Option.some.inj ((replaceAt?_nil new n).symm.trans h)
    cases n <;> simp [edited]
  | .element name attributes children contents, k :: place, ms, h => by
    obtain ⟨children', hchildren, rfl⟩ := Option.map_eq_some_iff.mp h
    rw [edited, ← replaceAtIn?_eq_editedAll children hchildren]
    rfl
  | .text _, _ :: _, _, h | .comment _, _ :: _, _, h | .doctype _, _ :: _, _, h => absurd h nofun

/-- **Replacing is the edit of one place.** -/
theorem replaceAtIn?_eq_editedAll {new : List Node} : ∀ (ns : List Node) {place : Place}
    {ms : List Node}, replaceAtIn? new ns place = some ms →
    ms = editedAll (Function.update noEdit place (.replace new)) ns
  | [], _, _, h | _ :: _, [], _, h => absurd h nofun
  | n :: ns, 0 :: place, ms, h => by
    obtain ⟨ms, hms, rfl⟩ := Option.map_eq_some_iff.mp h
    rw [editedAll, update_first, update_first_behind]
    congr 1
    · exact replaceAt?_eq_edited n hms
    · exact (editedAll_noEdit ns).symm
  | n :: ns, (k + 1) :: place, ms, h => by
    obtain ⟨ms, hms, rfl⟩ := Option.map_eq_some_iff.mp h
    have hn : edited (fun place => noEdit (0 :: place)) n = [n] := edited_noEdit n
    rw [show (k + 1) :: place = Place.behind (k :: place) from rfl, editedAll, update_behind_first,
      update_behind, hn]
    exact congrArg (n :: ·) (replaceAtIn?_eq_editedAll ns hms)

end

/-! ### What edits preserve -/

/-- Wherever a node stands, `P` holds of its place and of the node. -/
def Everywhere (P : Place → Node → Prop) (ns : List Node) : Prop :=
  ∀ place n, nodeAt? ns place = some n → P place n

theorem Everywhere.first {P : Place → Node → Prop} {n : Node} {ns : List Node} (h : Everywhere P (n :: ns)) :
    P [0] n ∧ Everywhere (fun place => P (0 :: place)) n.children := by
  refine ⟨h [0] n rfl, fun place m hm => ?_⟩
  cases place with
  | nil => exact absurd hm nofun
  | cons k place => exact h (0 :: k :: place) m hm

theorem Everywhere.behind {P : Place → Node → Prop} {n : Node} {ns : List Node} (h : Everywhere P (n :: ns)) :
    Everywhere (fun place => P place.behind) ns :=
  fun place m hm => h place.behind m (by rw [nodeAt?_behind, hm])

/-- The same node with other children, if it can have any. -/
def withChildren : Node → List Node → Node
  | .element name attributes _ contents, children => .element name attributes children contents
  | n, _ => n

/-- After an edit of `n` all that is there is `P`, if it was before. -/
def Edit.Preserves (P : Node → Prop) (n : Node) : Edit → Prop
  | .keep => True
  | .replace new => ∀ m ∈ subtrees new, P m
  | .grow child => (∀ children, P (n.withChildren children)) ∧ ∀ m ∈ child.subtree, P m

section Preserved

variable {P : Node → Prop}

mutual

/-- What all nodes of a tree are, they are after edits that preserve it. -/
theorem forall_edited (hP : ∀ n edit, P n → P (n.withChildren (editedAll edit n.children))) :
    ∀ (n : Node) {edit : Place → Edit}, (edit []).Preserves P n →
      Everywhere (fun place m => (edit place).Preserves P m) n.children → (∀ m ∈ n.subtree, P m) →
      ∀ m ∈ subtrees (edited edit n), P m
  | .element name attributes children contents, edit, hself, hchildren, hn => by
    rw [subtree, List.forall_mem_cons] at hn
    have hedited := forall_editedAll hP children hchildren hn.2
    rw [edited]
    cases hedit : edit [] with
    | keep =>
      rw [subtrees, subtrees, List.append_nil, subtree, List.forall_mem_cons]
      exact ⟨hP _ edit hn.1, hedited⟩
    | replace new =>
      rw [hedit] at hself
      exact hself
    | grow child =>
      rw [hedit] at hself
      obtain ⟨hgrown, hchild⟩ := hself
      simp only [subtrees, List.append_nil, subtree, subtrees_append, List.forall_mem_cons, List.forall_mem_append]
      exact ⟨hgrown _, hedited, hchild⟩
  | .text _, edit, hself, _, hn | .comment _, edit, hself, _, hn | .doctype _, edit, hself, _, hn => by
    simp only [edited]
    cases hedit : edit [] with
    | replace new =>
      rw [hedit] at hself
      exact hself
    | keep | grow => simpa [subtrees] using hn

/-- **What all nodes of a document are, they are after edits that preserve it**, if a node still is when its children
are edited. -/
theorem forall_editedAll (hP : ∀ n edit, P n → P (n.withChildren (editedAll edit n.children))) :
    ∀ (ns : List Node) {edit : Place → Edit}, Everywhere (fun place m => (edit place).Preserves P m) ns →
      (∀ m ∈ subtrees ns, P m) → ∀ m ∈ subtrees (editedAll edit ns), P m
  | [], _, _, _ => List.forall_mem_nil _
  | n :: ns, edit, hedit, hns => by
    rw [subtrees, List.forall_mem_append] at hns
    rw [editedAll, subtrees_append, List.forall_mem_append]
    exact ⟨forall_edited hP n hedit.first.1 hedit.first.2 hns.1, forall_editedAll hP ns hedit.behind hns.2⟩

end

end Preserved

/-! ### Edits that spare some nodes -/

/-- An edit of `n` that neither takes away nor puts there what `p` holds of. -/
def Edit.Spares (p : Node → Bool) (n : Node) : Edit → Prop
  | .keep => True
  | .replace new => (∀ m ∈ n.subtree, p m = false) ∧ ∀ m ∈ subtrees new, p m = false
  | .grow _ => False

/-- No edit takes away or puts anywhere what `p` holds of. -/
def Sparing (p : Node → Bool) (edit : Place → Edit) (ns : List Node) : Prop :=
  ∀ place n, nodeAt? ns place = some n → (edit place).Spares p n

variable {edit : Place → Edit}

theorem Sparing.first {n : Node} {ns : List Node} (h : Sparing p edit (n :: ns)) :
    (edit [0]).Spares p n ∧ Sparing p (fun place => edit (0 :: place)) n.children :=
  Everywhere.first h

/-- Edits that spare some nodes spare them behind the first tree. -/
theorem Sparing.behind {n : Node} {ns : List Node} (h : Sparing p edit (n :: ns)) :
    Sparing p (fun place => edit place.behind) ns :=
  Everywhere.behind h

section Growing

variable {tag : String} {child : Node}

theorem isTag_withChildren (n : Node) (edit : Place → Edit) (h : n.isTag tag = false) :
    (n.withChildren (editedAll edit n.children)).isTag tag = false := by
  cases n <;> exact h

/-- An edit that spares what `p` holds of brings nothing of the kind in. -/
theorem Edit.Spares.preserves {n : Node} {e : Edit} (h : e.Spares p n) : e.Preserves (p · = false) n := by
  cases e with
  | keep => trivial
  | replace new => exact h.2
  | grow child => exact h.elim

/-- Edits that put nothing with a tag there leave a tree without the tag. -/
theorem isTag_edited (n : Node) {edit : Place → Edit} (hself : (edit []).Spares (isTag tag) n)
    (hchildren : Sparing (isTag tag) edit n.children) (hn : ∀ m ∈ n.subtree, m.isTag tag = false) :
    ∀ m ∈ subtrees (edited edit n), m.isTag tag = false :=
  forall_edited isTag_withChildren n hself.preserves (fun place m hm => (hchildren place m hm).preserves) hn

/-- The search for the first element goes past trees that hold none. -/
theorem addToFirstIn?_append {ms : List Node} (ns : List Node) (h : ∀ m ∈ subtrees ms, p m = false) :
    addToFirstIn? p child (ms ++ ns) = (addToFirstIn? p child ns).map (ms ++ ·) := by
  induction ms with
  | nil => simp
  | cons m ms ih =>
    rw [subtrees, List.forall_mem_append] at h
    rw [List.cons_append, addToFirstIn?, addToFirst?_eq_none m h.1, ih h.2, Option.map_map]
    rfl

mutual

/-- Adding a child to the first element of a tree is one edit more. -/
theorem addToFirst?_edited : ∀ (n : Node) {edit : Place → Edit} {place : Place},
    (edit []).Spares (isTag tag) n → Sparing (isTag tag) edit n.children →
    placeOfFirst? (isTag tag) n = some place →
    ∃ m, edited (Function.update edit place (.grow child)) n = [m] ∧
      ∀ ns, addToFirstIn? (isTag tag) child (edited edit n ++ ns) = some (m :: ns)
  | .element name attributes children contents, edit, place, hself, hchildren, h => by
    have hkeep : edit [] = .keep := by
      cases hedit : edit [] with
      | keep => rfl
      | replace new =>
        rw [hedit] at hself
        rw [(placeOfFirst?_eq_none_iff _).mpr hself.1] at h
        exact absurd h nofun
      | grow => rw [hedit] at hself; exact hself.elim
    rw [placeOfFirst?] at h
    split at h
    · rename_i hp
      obtain rfl := Option.some.inj h
      refine ⟨.element name attributes (editedAll edit children ++ [child]) contents, ?_, fun ns => ?_⟩
      · rw [edited, Function.update_self, editedAll_update_nil]
      · have hp' : isTag tag (.element name attributes (editedAll edit children) contents) = true := hp
        rw [edited, hkeep, List.singleton_append, addToFirstIn?, addToFirst?, if_pos hp']
    · rename_i hp
      have hplace : place ≠ [] := by
        rintro rfl
        exact absurd (isFirst_of_placeOfFirstIn? children h).holds nofun
      have hgrown := addToFirstIn?_editedAll children hchildren h
      have hp' : ¬ isTag tag (.element name attributes (editedAll edit children) contents) = true := hp
      refine ⟨.element name attributes (editedAll (Function.update edit place (.grow child)) children)
        contents, ?_, fun ns => ?_⟩
      · rw [edited, Function.update_of_ne hplace.symm, hkeep]
      · rw [edited, hkeep, List.singleton_append, addToFirstIn?, addToFirst?, if_neg hp', hgrown]
        rfl
  | .text _, _, _, _, _, h | .comment _, _, _, _, _, h | .doctype _, _, _, _, _, h =>
    absurd h (by simp [placeOfFirst?, isTag])

/-- **Adding a child to the first element with a tag is the edit of its place**, whatever other edits were
made before that spare the elements with the tag. -/
theorem addToFirstIn?_editedAll : ∀ (ns : List Node) {edit : Place → Edit} {place : Place},
    Sparing (isTag tag) edit ns → placeOfFirstIn? (isTag tag) ns = some place →
    addToFirstIn? (isTag tag) child (editedAll edit ns) =
      some (editedAll (Function.update edit place (.grow child)) ns)
  | [], _, _, _, h => absurd h nofun
  | n :: ns, edit, place, hedit, h => by
    rw [placeOfFirstIn?] at h
    split at h
    · rename_i inner hn
      obtain rfl := Option.some.inj h
      obtain ⟨m, hm, hadd⟩ := addToFirst?_edited n hedit.first.1 hedit.first.2 hn
      rw [editedAll, hadd, editedAll, update_first, update_first_behind, hm]
      rfl
    · rename_i hn
      obtain ⟨inner, hns, rfl⟩ := Option.map_eq_some_iff.mp h
      have hnone := isTag_edited n hedit.first.1 hedit.first.2 ((placeOfFirst?_eq_none_iff n).mp hn)
      rw [editedAll, addToFirstIn?_append _ hnone, addToFirstIn?_editedAll ns hedit.behind hns, editedAll,
        update_behind_first, update_behind]
      rfl

end

end Growing

end Vitrine.Html.Node
