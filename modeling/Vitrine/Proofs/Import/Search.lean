import Vitrine.Proofs.Import.OwnPath

/-!
# The search for a file (section 4.4)

A specifier writes a path, and the file that is meant is searched: under the path itself, with an extension
behind it, and as an index in the directory of that name. The search is settled by the first of these keys
that the project holds (`FirstHeld`). What it gives is a path again, from the root, and to search for that
path gives it back.

The search is `resolve_project_specifier`: `join_path`, then the extensions in their order, then the index
files.

* `resolve?_eq_none_iff`: a specifier writes no path exactly if it starts in none of three ways.
* `chosen_spec`: the search gives the first key that is held, or the written path if none is.
* `resolve_stable`: what a specifier from the root leads to, leads to itself, from everywhere.
* `specifier_leads`: all of this for every importer, specifier and project.
-/

namespace Vitrine.Import

open Vitrine.Path (IsName Lasting MadeOf)

variable {snapshot : Snapshot} {importer specifier path key : String}

/-! ## The written path -/

/-- The path that a specifier writes, if it writes one. -/
def joined (importer specifier : String) : String :=
  Path.join (if startsWith "/" specifier then "" else Path.directory (Path.rootRelative importer)) specifier

/-- Two specifiers with different first characters do not start alike. -/
theorem not_startsWith_slash {dots : List Char} (h : ('.' :: dots).isPrefixOf specifier.toList = true) :
    startsWith "/" specifier = false := by
  rw [startsWith]
  cases hlist : specifier.toList with
  | nil => rfl
  | cons c cs =>
    rw [hlist, List.isPrefixOf_iff_prefix, List.cons_prefix_cons] at h
    obtain ⟨rfl, -⟩ := h
    rfl

theorem writtenPath?_eq (importer specifier : String) : writtenPath? importer specifier =
    if startsWith "./" specifier || startsWith "../" specifier || startsWith "/" specifier then
      some (joined importer specifier)
    else none := by
  rw [writtenPath?, joined]
  by_cases hdots : (startsWith "./" specifier || startsWith "../" specifier) = true
  · have hslash : startsWith "/" specifier = false :=
      (Bool.or_eq_true_iff.mp hdots).elim not_startsWith_slash not_startsWith_slash
    rw [if_pos hdots, if_pos (by rw [hdots, Bool.true_or]), hslash, if_neg Bool.false_ne_true]
  · rw [if_neg hdots, Bool.eq_false_iff.mpr hdots, Bool.false_or]
    split
    · rfl
    · rfl

/-- A specifier leads nowhere exactly if it starts in none of the three ways. -/
theorem resolve?_eq_none_iff : resolve? importer specifier snapshot = none ↔
    ∀ start ∈ ["./", "../", "/"], startsWith start specifier = false := by
  rw [resolve?, Option.map_eq_none_iff, writtenPath?_eq]
  simp only [ite_eq_right_iff, reduceCtorEq, imp_false, Bool.not_eq_true, Bool.or_eq_false_iff,
    List.forall_mem_cons, List.not_mem_nil, false_imp_iff, implies_true, and_true, and_assoc]

theorem resolve?_eq_some (h : resolve? importer specifier snapshot = some key) :
    key = chosen snapshot (joined importer specifier) := by
  obtain ⟨path, hpath, rfl⟩ := Option.map_eq_some_iff.mp h
  rw [writtenPath?_eq, Option.ite_none_right_eq_some] at hpath
  rw [Option.some.inj hpath.2]

/-! ## The search -/

/-- The keys that a written path may stand for, the likeliest first. -/
def spellings (path : String) : List String := [
  path, path ++ ".tsx", path ++ ".ts", path ++ ".jsx", path ++ ".js", path ++ ".mjs", path ++ ".css",
  withoutSlash path ++ "/index.tsx", withoutSlash path ++ "/index.ts", withoutSlash path ++ "/index.jsx",
  withoutSlash path ++ "/index.js", withoutSlash path ++ "/index.mjs", withoutSlash path ++ "/index.css"]

/-- The first key of a list that a project holds. -/
inductive FirstHeld (snapshot : Snapshot) : List String → String → Prop
  | here {key rest} (hheld : snapshot.contains key = true) : FirstHeld snapshot (key :: rest) key
  | later {other rest key} (hother : snapshot.contains other = false)
      (hrest : FirstHeld snapshot rest key) : FirstHeld snapshot (other :: rest) key

theorem candidates_eq (path : String) : candidates path = spellings path := by
  have happend : ∀ a b c : String, a ++ b ++ c = a ++ (b ++ c) := fun _ _ _ => String.append_assoc
  simp only [candidates, spellings, impliedExtensions, List.map_cons, List.map_nil, List.cons_append,
    List.nil_append, happend]
  rfl

/-- The first key that is held is the one that is found. -/
theorem firstHeld_iff {keys : List String} :
    FirstHeld snapshot keys key ↔ keys.find? snapshot.contains = some key := by
  constructor
  · intro h
    induction h with
    | here hheld => exact List.find?_cons_of_pos hheld
    | later hother _ ih => rw [List.find?_cons_of_neg (by rw [hother]; exact Bool.false_ne_true), ih]
  · intro h
    induction keys with
    | nil => exact absurd h nofun
    | cons k keys ih =>
      by_cases hheld : snapshot.contains k = true
      · rw [List.find?_cons_of_pos hheld] at h
        obtain rfl := Option.some.inj h
        exact .here hheld
      · rw [List.find?_cons_of_neg hheld] at h
        exact .later (Bool.not_eq_true _ ▸ hheld) (ih h)

/-- **The search gives the first key that is held**, and the written path if there is none. -/
theorem chosen_spec (snapshot : Snapshot) (path : String) :
    FirstHeld snapshot (spellings path) (chosen snapshot path) ∨
      (∀ k ∈ spellings path, snapshot.contains k = false) ∧ chosen snapshot path = path := by
  rw [chosen, candidates_eq, firstHeld_iff]
  cases hfound : (spellings path).find? snapshot.contains with
  | some k => exact Or.inl rfl
  | none =>
    rw [List.find?_eq_none] at hfound
    exact Or.inr ⟨fun k hk => Bool.not_eq_true _ ▸ hfound k hk, rfl⟩

theorem FirstHeld.contains {keys : List String} (h : FirstHeld snapshot keys key) :
    snapshot.contains key = true :=
  List.find?_some (firstHeld_iff.mp h)

/-- The written path is given if it is held, or if nothing is. -/
theorem chosen_eq_self_iff : chosen snapshot path = path ↔
    snapshot.contains path = true ∨ ∀ k ∈ spellings path, snapshot.contains k = false := by
  constructor
  · intro heq
    rcases chosen_spec snapshot path with hfirst | ⟨hnone, -⟩
    · exact Or.inl (heq ▸ hfirst.contains)
    · exact Or.inr hnone
  · rintro (hheld | hnone)
    · have hfirst : (candidates path).find? snapshot.contains = some path := List.find?_cons_of_pos hheld
      rw [chosen, hfirst, Option.getD_some]
    · rcases chosen_spec snapshot path with hfirst | ⟨-, heq⟩
      · have hmem := List.mem_of_find?_eq_some (firstHeld_iff.mp hfirst)
        exact absurd hfirst.contains (by rw [hnone _ hmem]; exact Bool.false_ne_true)
      · exact heq

/-- **To search for what a search gave gives it back.** -/
theorem chosen_chosen (snapshot : Snapshot) (path : String) :
    chosen snapshot (chosen snapshot path) = chosen snapshot path := by
  rcases chosen_spec snapshot path with hfirst | ⟨-, heq⟩
  · exact chosen_eq_self_iff.mpr (Or.inl hfirst.contains)
  · rw [heq, heq]

/-! ## What is given -/

theorem madeOf_resolve (h : resolve? importer specifier snapshot = some key) : MadeOf (· ≠ []) key := by
  rw [resolve?_eq_some h]
  exact madeOf_chosen snapshot (Path.madeOf_join _ _) Path.lasting_ne_nil

/-- A key that is held is the key of the file that is found. -/
theorem file_of_contains (h : IsKey key) (hheld : snapshot.contains key = true) :
    ∃ f ∈ snapshot.files, snapshot.get? key = some f.2 ∧ internalKey f.1 = key := by
  obtain ⟨content, hcontent⟩ := Option.isSome_iff_exists.mp hheld
  refine ⟨_, Snapshot.get?_eq_some_iff.mp hcontent, hcontent, ?_⟩
  obtain ⟨p, hp, rfl⟩ := h
  rw [internalKey, Path.rootRelative_rootRelative, Path.rootRelative_slash hp]

theorem exists_slash_of_startsWith (h : startsWith "/" specifier = true) : ∃ p, specifier = "/" ++ p := by
  rw [startsWith, List.isPrefixOf_iff_prefix] at h
  obtain ⟨rest, hrest⟩ := h
  exact ⟨String.ofList rest, by rw [← String.toList_inj, Path.toList_slash, String.toList_ofList, ← hrest]; rfl⟩

/-- An absolute path leads to itself, and so does the root. -/
theorem join_self (h : Path.IsAbsolute key) : Path.join "" key = key := by
  obtain ⟨p, rfl, rfl | hnames⟩ := Path.madeOf_iff.mp (Path.isAbsolute_iff_madeOf.mp h)
  · decide
  · exact Path.join_of_names hnames

/-- **What a specifier from the root leads to is collapsed, and leads to itself** from everywhere. -/
theorem resolve_stable (hslash : startsWith "/" specifier = true)
    (h : resolve? importer specifier snapshot = some key) :
    Path.IsAbsolute key ∧ ∀ other, resolve? other key snapshot = some key := by
  obtain ⟨p, rfl⟩ := exists_slash_of_startsWith hslash
  have habsolute : Path.IsAbsolute key := isAbsolute_resolve h
  refine ⟨habsolute, fun other => ?_⟩
  have hself : chosen snapshot key = key := by
    rw [resolve?_eq_some h, chosen_chosen]
  obtain ⟨q, hq, -⟩ := Path.madeOf_iff.mp (Path.isAbsolute_iff_madeOf.mp habsolute)
  rw [hq, resolve?, writtenPath?_slash, Option.map_some, ← hq, join_self habsolute, hself]

/-- **Where a specifier leads**, for every importer, specifier and project. It is a package exactly if it
starts in none of the three ways. Otherwise it leads to a key with one slash in front and no empty piece: to
the first spelling of the written path that the project holds, and to the path as written exactly if the
project holds that, or no spelling of it. A key that the project holds is the one of the stored file. From the
root no dots are left in the key, and the key leads to itself. -/
theorem specifier_leads (importer specifier : String) (snapshot : Snapshot) :
    (resolve? importer specifier snapshot = none ↔
      ∀ start ∈ ["./", "../", "/"], startsWith start specifier = false) ∧
    ∀ key, resolve? importer specifier snapshot = some key → ∃ path,
      path = Path.join (if startsWith "/" specifier then "" else Path.directory (Path.rootRelative importer))
        specifier ∧
      (∃ p, key = "/" ++ p ∧ (p = "" ∨ ∀ piece ∈ Path.pieces p.toList, piece ≠ [])) ∧
      (FirstHeld snapshot (spellings path) key ∨
        (∀ k ∈ spellings path, snapshot.contains k = false) ∧ key = path) ∧
      (key = path ↔
        snapshot.contains path = true ∨ ∀ k ∈ spellings path, snapshot.contains k = false) ∧
      (snapshot.contains key = true →
        ∃ f ∈ snapshot.files, snapshot.get? key = some f.2 ∧ internalKey f.1 = key) ∧
      (startsWith "/" specifier = true →
        (∀ piece ∈ Path.pieces key.toList, piece ∉ [['.'], ['.', '.']]) ∧
          ∀ other, resolve? other key snapshot = some key) := by
  refine ⟨resolve?_eq_none_iff, fun key hkey => ⟨joined importer specifier, rfl, ?_, ?_, ?_, ?_, ?_⟩⟩
  · exact Path.madeOf_iff.mp (madeOf_resolve hkey)
  · rw [resolve?_eq_some hkey]
    exact chosen_spec snapshot _
  · rw [resolve?_eq_some hkey]
    exact chosen_eq_self_iff
  · exact file_of_contains (isKey_of_resolve? hkey)
  · intro hslash
    obtain ⟨habsolute, hstable⟩ := resolve_stable hslash hkey
    refine ⟨fun piece hpiece => ?_, hstable⟩
    obtain ⟨p, rfl, hnames⟩ := Path.madeOf_iff.mp (Path.isAbsolute_iff_madeOf.mp habsolute)
    rw [Path.toList_slash, Path.pieces, if_pos rfl, List.mem_cons] at hpiece
    rcases hpiece with rfl | hpiece
    · decide
    · rcases hnames with rfl | hnames
      · obtain rfl : piece = [] := by simpa [Path.pieces] using hpiece
        decide
      · exact fun hdots => hnames piece hpiece (List.mem_cons_of_mem _ hdots)

/-- A file whose name is an extension alone. -/
def hidden : Snapshot := .ofList [("/.css", ""), ("lib/index.ts", "")]

theorem specifier_leads_hidden :
    resolve? "pages/index.tsx" "/lib/.." hidden = some "/.css" ∧ FirstHeld hidden (spellings "/") "/.css" ∧
      ∀ other, resolve? other "/.css" hidden = some "/.css" := by
  have hkey : resolve? "pages/index.tsx" "/lib/.." hidden = some "/.css" := by decide +kernel
  obtain ⟨-, hleads⟩ := specifier_leads "pages/index.tsx" "/lib/.." hidden
  obtain ⟨path, hpath, -, hfirst, -, -, hroot⟩ := hleads "/.css" hkey
  have hroot_path : path = "/" := by rw [hpath]; decide
  have hother : ¬ ("/.css" : String) = "/" := by decide
  rw [hroot_path] at hfirst
  exact ⟨hkey, hfirst.resolve_right fun hself => hother hself.2, (hroot (by decide)).2⟩

end Vitrine.Import
