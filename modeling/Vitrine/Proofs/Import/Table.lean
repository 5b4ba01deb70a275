import Mathlib.Data.List.Basic
import Mathlib.Data.List.Nodup
import Vitrine.Resource.Registry

/-!
# What an import table holds (section 4.5)

A table keeps its keys in the order in which they are first put. So a table into which different new keys
are put holds what it held, and then these keys in their order.

The table is the `ImportMap`: `with_externals` starts it, `insert_internal` puts a file, and `get`, `contains`
and `iter` read it.

The keys of files start with a slash and tell the root-relative path; no package from outside has such a
key. So nothing that is put for a file takes the place of something else (`entries_tableOf`).

Paths that are not root-relative may share a key; then the last one has it. So the key of a file leads to
its address exactly if no file behind it has the key (`get?_putFiles_cons_iff`). The files alone decide which keys
there are, and to which of the addresses each leads (`get?_putFiles_zip`, `keys_putFiles_zip`).
-/

namespace Vitrine.Import

/-! ## Putting new keys -/

theorem Entries.put_of_notMem {key address : String} {entries : Entries} (h : key ∉ entries.keys) :
    entries.put key address = entries ++ [(key, address)] := by
  induction entries with
  | nil => rfl
  | cons e rest ih =>
    obtain ⟨k, a⟩ := e
    have hk : k ≠ key := fun he => h (he ▸ List.mem_cons_self)
    rw [put, if_neg hk, ih fun hm => h (List.mem_cons_of_mem k hm), List.cons_append]

/-- A key that is there keeps its place. -/
theorem Entries.put_of_eq {key address old : String} {entries before behind : Entries}
    (h : entries = before ++ (key, old) :: behind) (hnodup : entries.keys.Nodup) :
    entries.put key address = before ++ (key, address) :: behind := by
  subst h
  induction before with
  | nil => rw [List.nil_append, put, if_pos rfl, List.nil_append]
  | cons e before ih =>
    obtain ⟨k, a⟩ := e
    obtain ⟨hk, hrest⟩ := List.nodup_cons.mp (show (k :: keys (before ++ (key, old) :: behind)).Nodup from hnodup)
    have hne : k ≠ key := fun heq => hk (by simp [keys, heq])
    rw [List.cons_append, put, if_neg hne, ih hrest, List.cons_append]

theorem Entries.keys_append (es fs : Entries) : keys (es ++ fs) = es.keys ++ fs.keys :=
  List.map_append

/-- New keys are put at the end, in their order. -/
theorem Table.entries_putAll (t : Table) (es : Entries) (h : (t.entries ++ es).keys.Nodup) :
    (es.foldl (fun t e => t.put e.1 e.2) t).entries = t.entries ++ es := by
  induction es generalizing t with
  | nil => exact (List.append_nil _).symm
  | cons e es ih =>
    have hput : (t.put e.1 e.2).entries = t.entries ++ [e] := by
      refine Entries.put_of_notMem fun hm => ?_
      rw [Entries.keys_append] at h
      exact List.disjoint_of_nodup_append h hm List.mem_cons_self
    have happend : t.entries ++ e :: es = (t.put e.1 e.2).entries ++ es := by
      rw [hput, List.append_assoc, List.singleton_append]
    rw [happend] at h ⊢
    exact ih _ h

theorem Table.eq_of_entries {t u : Table} (h : t.entries = u.entries) : t = u := by
  cases t
  cases u
  cases h
  rfl

/-- The entries of a table make the same table. -/
theorem Table.ofList_entries (t : Table) : ofList t.entries = t :=
  eq_of_entries (entries_putAll {} t.entries t.nodup_keys)

theorem entries_withExternals : Table.withExternals.entries = externals := by
  have h : (Entries.keys externals).Nodup := by decide
  exact Table.entries_putAll {} externals h

/-! ## Looking up -/

theorem Entries.get?_cons (k' a : String) (rest : Entries) (k : String) :
    get? ((k', a) :: rest) k = if k' = k then some a else rest.get? k := by
  unfold get?
  rw [List.find?_cons]
  by_cases hk : k' = k
  · rw [if_pos hk, beq_iff_eq.mpr hk]
    rfl
  · rw [if_neg hk, beq_eq_false_iff_ne.mpr hk]

/-- Putting a key changes what is found under it, and nothing else. -/
theorem Entries.get?_put (entries : Entries) (key address k : String) :
    (entries.put key address).get? k = if key = k then some address else entries.get? k := by
  induction entries with
  | nil => exact get?_cons key address [] k
  | cons e rest ih =>
    obtain ⟨k', a⟩ := e
    rw [put]
    by_cases hkey : k' = key
    · subst hkey
      rw [if_pos rfl, get?_cons, get?_cons]
      split <;> rfl
    · rw [if_neg hkey, get?_cons, get?_cons, ih]
      by_cases hk : k' = k
      · subst hk
        rw [if_pos rfl, if_pos rfl, if_neg (Ne.symm hkey)]
      · rw [if_neg hk, if_neg hk]

theorem Table.get?_put (t : Table) (key address k : String) :
    (t.put key address).get? k = if key = k then some address else t.get? k :=
  Entries.get?_put t.entries key address k

/-! ## Putting files -/

/-- Puts files with their addresses, one after the other. -/
def Table.putFiles (t : Table) (files : List (String × String)) : Table :=
  files.foldl (fun t f => t.putFile f.1 f.2) t

/-- Putting files with other keys leaves a key where it leads. -/
theorem Table.get?_putFiles {key : String} (t : Table) (files : List (String × String))
    (h : ∀ f ∈ files, internalKey f.1 ≠ key) : (t.putFiles files).get? key = t.get? key := by
  induction files generalizing t with
  | nil => rfl
  | cons f files ih =>
    rw [List.forall_mem_cons] at h
    rw [putFiles, List.foldl_cons]
    exact (ih _ h.2).trans ((get?_put t _ _ _).trans (if_neg h.1))

/-- A key that files have leads to the address of one of them. -/
theorem Table.exists_get?_putFiles {key : String} (t : Table) {files : List (String × String)}
    (h : ∃ f ∈ files, internalKey f.1 = key) :
    ∃ f ∈ files, internalKey f.1 = key ∧ (t.putFiles files).get? key = some f.2 := by
  induction files generalizing t with
  | nil =>
    obtain ⟨f, hf, -⟩ := h
    exact absurd hf List.not_mem_nil
  | cons f files ih =>
    by_cases hbehind : ∃ g ∈ files, internalKey g.1 = key
    · obtain ⟨g, hg, hkey, hget⟩ := ih (t.putFile f.1 f.2) hbehind
      exact ⟨g, List.mem_cons_of_mem f hg, hkey, hget⟩
    · have hother : ∀ g ∈ files, internalKey g.1 ≠ key := fun g hg hkey => hbehind ⟨g, hg, hkey⟩
      obtain ⟨g, hg, hkey⟩ := h
      obtain rfl := (List.mem_cons.mp hg).resolve_right fun hg => hother g hg hkey
      refine ⟨g, hg, hkey, (get?_putFiles (t.putFile g.1 g.2) files hother).trans ?_⟩
      exact (get?_put t _ _ _).trans (if_pos hkey)

/-- **The key of a file leads to its address** exactly if no file behind it has the same key, when those files
have other addresses. -/
theorem Table.get?_putFiles_cons_iff {path address : String} (t : Table) {files : List (String × String)}
    (hnew : ∀ f ∈ files, f.2 ≠ address) :
    (t.putFiles ((path, address) :: files)).get? (internalKey path) = some address ↔
      ∀ f ∈ files, internalKey f.1 ≠ internalKey path := by
  constructor
  · intro hget f hf hkey
    obtain ⟨g, hg, -, hother⟩ := exists_get?_putFiles (t.putFile path address) ⟨f, hf, hkey⟩
    exact hnew g hg (Option.some.inj (hother.symm.trans hget))
  · intro hother
    exact (get?_putFiles (t.putFile path address) files hother).trans
      ((get?_put t _ _ _).trans (if_pos rfl))

/-- **Where a key leads does not depend on the addresses**: either no path has the key, or there is a
position in the paths such that it leads to the address in that position. -/
theorem Table.get?_putFiles_zip (paths : List String) (key : String) :
    (∀ (t : Table) (addresses : List String),
      (t.putFiles (paths.zip addresses)).get? key = t.get? key) ∨
    ∃ k, ∀ (t : Table) (addresses : List String), addresses.length = paths.length →
      k < addresses.length ∧ (t.putFiles (paths.zip addresses)).get? key = addresses[k]? := by
  induction paths with
  | nil => exact Or.inl fun t addresses => rfl
  | cons path paths ih =>
    rcases ih with hnone | ⟨k, hk⟩
    · by_cases hkey : internalKey path = key
      · refine Or.inr ⟨0, fun t addresses hlength => ?_⟩
        obtain ⟨a, rest, rfl⟩ := List.exists_cons_of_length_eq_add_one hlength
        refine ⟨Nat.zero_lt_succ _, (hnone (t.putFile path a) rest).trans ?_⟩
        exact (get?_put t _ a key).trans (if_pos hkey)
      · refine Or.inl fun t addresses => ?_
        cases addresses with
        | nil => rfl
        | cons a rest =>
          exact (hnone (t.putFile path a) rest).trans ((get?_put t _ a key).trans (if_neg hkey))
    · refine Or.inr ⟨k + 1, fun t addresses hlength => ?_⟩
      obtain ⟨a, rest, rfl⟩ := List.exists_cons_of_length_eq_add_one hlength
      obtain ⟨hlt, hget⟩ := hk (t.putFile path a) rest (Nat.succ.inj hlength)
      exact ⟨Nat.succ_lt_succ hlt, hget⟩

/-- A key is put in the same place whatever its address is. -/
theorem Entries.keys_put_congr {es fs : Entries} (h : es.keys = fs.keys) (key a b : String) :
    (es.put key a).keys = (fs.put key b).keys := by
  induction es generalizing fs with
  | nil =>
    cases fs with
    | nil => rfl
    | cons f fs => exact absurd h nofun
  | cons e es ih =>
    cases fs with
    | nil => exact absurd h nofun
    | cons f fs =>
      obtain ⟨k, a'⟩ := e
      obtain ⟨k', b'⟩ := f
      obtain ⟨hk, hrest⟩ := List.cons.inj h
      obtain rfl : k = k' := hk
      rw [put, put]
      by_cases hkey : k = key
      · rw [if_pos hkey, if_pos hkey]
        exact congrArg (k :: ·) hrest
      · rw [if_neg hkey, if_neg hkey]
        exact congrArg (k :: ·) (ih hrest)

/-- Nor do the keys depend on the addresses. -/
theorem Table.keys_putFiles_zip {t u : Table} (h : t.entries.keys = u.entries.keys) (paths : List String)
    {as bs : List String} (hlength : as.length = bs.length) :
    (t.putFiles (paths.zip as)).entries.keys = (u.putFiles (paths.zip bs)).entries.keys := by
  induction paths generalizing t u as bs with
  | nil => exact h
  | cons path paths ih =>
    cases as with
    | nil =>
      obtain rfl := List.length_eq_zero_iff.mp hlength.symm
      exact h
    | cons a as =>
      obtain ⟨b, bs, rfl⟩ := List.exists_cons_of_length_eq_add_one hlength.symm
      exact ih (Entries.keys_put_congr h _ a b) (Nat.succ.inj hlength)

/-! ## Keys of files -/

/-- The key of a root-relative path is the path behind a slash. -/
theorem internalKey_of_isRootRelative {path : String} (h : Path.IsRootRelative path) :
    internalKey path = "/" ++ path := by
  rw [internalKey, Path.rootRelative_of_isRootRelative h]

theorem slash_append_inj {a b : String} : "/" ++ a = "/" ++ b ↔ a = b := by
  rw [← String.toList_inj, String.toList_append, String.toList_append, List.append_right_inj,
    String.toList_inj]

/-- No package from outside has a key that starts with a slash. -/
theorem slash_notMem_externals (path : String) : "/" ++ path ∉ Entries.keys externals := by
  intro h
  have hhead : ∀ k ∈ Entries.keys externals, k.toList.head? ≠ some '/' := by decide
  refine hhead _ h ?_
  rw [String.toList_append]
  rfl

end Vitrine.Import

/-! ## The table of bound modules -/

namespace Vitrine.Resource

open Import (externals)

/-- **A table holds the packages from outside, and then each bound module under its path.** -/
theorem entries_tableOf {bound : List Bound} (hroot : ∀ b ∈ bound, Path.IsRootRelative b.path)
    (hpaths : (bound.map Bound.path).Nodup) :
    (tableOf bound).entries = externals ++ bound.map fun b => ("/" ++ b.path, b.address) := by
  have hkey : bound.map (fun b => (Import.internalKey b.path, b.address)) =
      bound.map fun b => ("/" ++ b.path, b.address) :=
    List.map_congr_left fun b hb => by rw [Import.internalKey_of_isRootRelative (hroot b hb)]
  have hput : tableOf bound = (bound.map fun b => (Import.internalKey b.path, b.address)).foldl
      (fun t e => t.put e.1 e.2) Import.Table.withExternals := by
    rw [List.foldl_map]
    rfl
  rw [hput, hkey, Import.Table.entries_putAll, Import.entries_withExternals]
  rw [Import.entries_withExternals, Import.Entries.keys_append]
  refine List.nodup_append.mpr ⟨by decide, ?_, ?_⟩
  · rw [Import.Entries.keys, List.map_map]
    have hslash : Function.Injective fun p : String => "/" ++ p :=
      fun _ _ => Import.slash_append_inj.mp
    have h := hpaths.map hslash
    rwa [List.map_map] at h
  · rintro k hk l hl rfl
    rw [Import.Entries.keys, List.map_map] at hl
    obtain ⟨b, -, rfl⟩ := List.mem_map.mp hl
    exact Import.slash_notMem_externals b.path hk

end Vitrine.Resource
