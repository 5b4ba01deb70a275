import Vitrine.Html.Node

/-!
# Places in documents (section 4.6)

A place that was found is a place where something stands: whatever is put there takes its room, and all
of it is in the document afterwards.

These are the steps of the `DocumentBuilder`: `find_first` searches, `replace_injection_point` puts nodes at
what was found, and `append_to_head` adds one more.

* `placeOfFirstIn?_eq_none_iff`: a search fails exactly if nothing in the document is what is searched.
* `replaceAtIn?_of_found`: replacing at a place that was found succeeds, and what is put there is then in
  the document.
* `mem_subtrees_addToFirstIn?`: adding a child to some node leaves every tree in the document that the
  node is no part of.
* `child_mem_addToFirstIn?`: a child that is added to an element is in the document.
-/

namespace Vitrine.Html.Node

variable {p : Node → Bool} {x child : Node}

/-! ## Finding -/

mutual

/-- A search within a tree fails exactly if nothing in it is what is searched. -/
theorem placeOfFirst?_eq_none_iff :
    ∀ n : Node, placeOfFirst? p n = none ↔ ∀ m ∈ n.subtree, p m = false
  | .element name attributes children contents => by
    simp only [placeOfFirst?, subtree, List.mem_cons, forall_eq_or_imp]
    cases hp : p (.element name attributes children contents) with
    | true => simp
    | false => simpa using placeOfFirstIn?_eq_none_iff children
  | .text t => by cases hp : p (.text t) <;> simp [placeOfFirst?, subtree, hp]
  | .comment t => by cases hp : p (.comment t) <;> simp [placeOfFirst?, subtree, hp]
  | .doctype t => by cases hp : p (.doctype t) <;> simp [placeOfFirst?, subtree, hp]

/-- A search fails exactly if nothing in the document is what is searched. -/
theorem placeOfFirstIn?_eq_none_iff :
    ∀ ns : List Node, placeOfFirstIn? p ns = none ↔ ∀ m ∈ subtrees ns, p m = false
  | [] => by simp [placeOfFirstIn?, subtrees]
  | n :: ns => by
    have hn := placeOfFirst?_eq_none_iff n
    have hns := placeOfFirstIn?_eq_none_iff ns
    simp only [placeOfFirstIn?, subtrees, List.mem_append, or_imp, forall_and, ← hn, ← hns]
    cases placeOfFirst? p n <;> simp

end

/-! ## Replacing -/

section Replacing

variable (new : List Node)

theorem subtrees_append (ms ns : List Node) : subtrees (ms ++ ns) = subtrees ms ++ subtrees ns := by
  induction ms with
  | nil => rfl
  | cons m ms ih => rw [List.cons_append, subtrees, subtrees, ih, List.append_assoc]

theorem replaceAt?_nil (n : Node) : replaceAt? new n [] = some new := by
  cases n <;> rfl

theorem replaceAtIn?_behind (n : Node) (ns : List Node) (place : Place) :
    replaceAtIn? new (n :: ns) place.behind = (replaceAtIn? new ns place).map (n :: ·) := by
  cases place with
  | nil => cases ns <;> rfl
  | cons k place => rfl

mutual

/-- Replacing within a tree at a place that was found puts all of the new nodes there. -/
theorem replaceAt?_of_found : ∀ (n : Node) {place : Place}, placeOfFirst? p n = some place →
    ∃ ms, replaceAt? new n place = some ms ∧ ∀ m ∈ subtrees new, m ∈ subtrees ms
  | .element name attributes children contents, place, h => by
    simp only [placeOfFirst?] at h
    split at h
    · obtain rfl := Option.some.inj h
      exact ⟨new, replaceAt?_nil new _, fun m hm => hm⟩
    · obtain ⟨ms, hms, hnew⟩ := replaceAtIn?_of_found children h
      -- A place among the children is never the empty one.
      cases place with
      | nil => cases children <;> exact absurd hms nofun
      | cons k place =>
        refine ⟨[.element name attributes ms contents], by rw [replaceAt?, hms]; rfl, fun m hm => ?_⟩
        rw [subtrees, subtrees, List.append_nil, subtree]
        exact List.mem_cons_of_mem _ (hnew m hm)
  | .text t, place, h => by
    obtain ⟨-, rfl⟩ : p (.text t) = true ∧ [] = place := by simpa [placeOfFirst?] using h
    exact ⟨new, replaceAt?_nil new _, fun m hm => hm⟩
  | .comment t, place, h => by
    obtain ⟨-, rfl⟩ : p (.comment t) = true ∧ [] = place := by simpa [placeOfFirst?] using h
    exact ⟨new, replaceAt?_nil new _, fun m hm => hm⟩
  | .doctype t, place, h => by
    obtain ⟨-, rfl⟩ : p (.doctype t) = true ∧ [] = place := by simpa [placeOfFirst?] using h
    exact ⟨new, replaceAt?_nil new _, fun m hm => hm⟩

/-- **Where something was found, it can be replaced.** -/
theorem replaceAtIn?_of_found : ∀ (ns : List Node) {place : Place},
    placeOfFirstIn? p ns = some place →
    ∃ ms, replaceAtIn? new ns place = some ms ∧ ∀ m ∈ subtrees new, m ∈ subtrees ms
  | [], _, h => absurd h nofun
  | n :: ns, place, h => by
    simp only [placeOfFirstIn?] at h
    split at h
    · rename_i inner hn
      obtain rfl := Option.some.inj h
      obtain ⟨ms, hms, hnew⟩ := replaceAt?_of_found n hn
      refine ⟨ms ++ ns, by rw [replaceAtIn?, hms]; rfl, fun m hm => ?_⟩
      rw [subtrees_append]
      exact List.mem_append_left _ (hnew m hm)
    · obtain ⟨inner, hns, rfl⟩ := Option.map_eq_some_iff.mp h
      obtain ⟨ms, hms, hnew⟩ := replaceAtIn?_of_found ns hns
      refine ⟨n :: ms, by rw [replaceAtIn?_behind, hms]; rfl, fun m hm => ?_⟩
      rw [subtrees]
      exact List.mem_append_right _ (hnew m hm)

end

end Replacing

/-! ## Adding -/

theorem self_mem_subtree (n : Node) : n ∈ n.subtree := by
  cases n <;> exact List.mem_cons_self

mutual

/-- If there is no such element in a tree, nothing is added to it. -/
theorem addToFirst?_eq_none : ∀ n : Node, (∀ m ∈ n.subtree, p m = false) →
    addToFirst? p child n = none
  | .element name attributes children contents, h => by
    rw [subtree, List.forall_mem_cons] at h
    rw [addToFirst?, h.1, addToFirstIn?_eq_none children h.2]
    rfl
  | .text _, _ => rfl
  | .comment _, _ => rfl
  | .doctype _, _ => rfl

/-- If there is no such element, nothing is added. -/
theorem addToFirstIn?_eq_none : ∀ ns : List Node, (∀ m ∈ subtrees ns, p m = false) →
    addToFirstIn? p child ns = none
  | [], _ => rfl
  | n :: ns, h => by
    rw [subtrees, List.forall_mem_append] at h
    rw [addToFirstIn?, addToFirst?_eq_none n h.1, addToFirstIn?_eq_none ns h.2]
    rfl

end

mutual

/-- Adding a child within a tree leaves every tree in it that holds no such element. -/
theorem mem_subtree_addToFirst? : ∀ (n : Node) {n' : Node}, addToFirst? p child n = some n' →
    x ∈ n.subtree → (∀ m ∈ x.subtree, p m = false) → x ∈ n'.subtree
  | .element name attributes children contents, n', h, hx, hp => by
    rw [subtree, List.mem_cons] at hx
    rw [addToFirst?] at h
    split at h
    · rename_i hself
      obtain rfl := Option.some.inj h
      rcases hx with rfl | hx
      · exact absurd (hp _ (self_mem_subtree _)) (by rw [hself]; nofun)
      · rw [subtree, subtrees_append]
        exact List.mem_cons_of_mem _ (List.mem_append_left _ hx)
    · obtain ⟨children', hchildren, rfl⟩ := Option.map_eq_some_iff.mp h
      rcases hx with rfl | hx
      · rw [subtree, List.forall_mem_cons] at hp
        rw [addToFirstIn?_eq_none children hp.2] at hchildren
        exact absurd hchildren nofun
      · rw [subtree]
        exact List.mem_cons_of_mem _ (mem_subtrees_addToFirstIn? children hchildren hx hp)
  | .text _, _, h, _, _ => absurd h nofun
  | .comment _, _, h, _, _ => absurd h nofun
  | .doctype _, _, h, _, _ => absurd h nofun

/-- A tree that is no ancestor of the node that gets the child stays as it is. -/
theorem mem_subtrees_addToFirstIn? : ∀ (ns : List Node) {ns' : List Node},
    addToFirstIn? p child ns = some ns' →
    x ∈ subtrees ns → (∀ m ∈ x.subtree, p m = false) → x ∈ subtrees ns'
  | [], _, h, _, _ => absurd h nofun
  | n :: ns, ns', h, hx, hp => by
    rw [subtrees, List.mem_append] at hx
    rw [addToFirstIn?] at h
    split at h
    · rename_i n' hn
      obtain rfl := Option.some.inj h
      rw [subtrees, List.mem_append]
      exact hx.imp_left fun hx => mem_subtree_addToFirst? n hn hx hp
    · obtain ⟨ns', hns, rfl⟩ := Option.map_eq_some_iff.mp h
      rw [subtrees, List.mem_append]
      exact hx.imp_right fun hx => mem_subtrees_addToFirstIn? ns hns hx hp

end

mutual

/-- A child that is added within a tree is in it. -/
theorem child_mem_addToFirst? : ∀ (n : Node) {n' : Node}, addToFirst? p child n = some n' →
    child ∈ n'.subtree
  | .element name attributes children contents, n', h => by
    rw [addToFirst?] at h
    split at h
    · obtain rfl := Option.some.inj h
      rw [subtree, subtrees_append, subtrees, subtrees, List.append_nil]
      exact List.mem_cons_of_mem _ (List.mem_append_right _ (self_mem_subtree child))
    · obtain ⟨children', hchildren, rfl⟩ := Option.map_eq_some_iff.mp h
      rw [subtree]
      exact List.mem_cons_of_mem _ (child_mem_addToFirstIn? children hchildren)
  | .text _, _, h => absurd h nofun
  | .comment _, _, h => absurd h nofun
  | .doctype _, _, h => absurd h nofun

/-- A child that was added is in the document. -/
theorem child_mem_addToFirstIn? : ∀ (ns : List Node) {ns' : List Node},
    addToFirstIn? p child ns = some ns' → child ∈ subtrees ns'
  | [], _, h => absurd h nofun
  | n :: ns, ns', h => by
    rw [addToFirstIn?] at h
    split at h
    · rename_i n' hn
      obtain rfl := Option.some.inj h
      exact List.mem_append_left _ (child_mem_addToFirst? n hn)
    · obtain ⟨ns', hns, rfl⟩ := Option.map_eq_some_iff.mp h
      exact List.mem_append_right _ (child_mem_addToFirstIn? ns hns)

end

end Vitrine.Html.Node
