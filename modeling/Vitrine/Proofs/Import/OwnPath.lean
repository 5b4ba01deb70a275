import Vitrine.Proofs.Import.Coverage
import Vitrine.Proofs.Project.Files
import Vitrine.Proofs.Project.Joined
import Vitrine.Proofs.Project.Modules

/-!
# Importing a file by its own path (sections 4.4 and 4.5)

A file is in the import table under its path behind a slash. A specifier is collapsed before it is looked up
(empty pieces, dots and two dots do not stay), and the paths of files are not. So a file is found under its
own path exactly if nothing in it collapses.

`internal_specifier` makes the key of a file, and `resolve_project_specifier` looks for it by way of
`join_path`, which collapses.

* `isAbsolute_resolve`: whatever a specifier from the root leads to has names only between its slashes.
* `resolve_own_path_iff`: the path of a file leads to the file exactly if its pieces are names.
* `own_path_missed`: a file at `./App.tsx` is in the table, and its path leads elsewhere.
-/

namespace Vitrine.Import

open Vitrine.Path (IsName IsAbsolute Lasting MadeOf)

variable {settings : Settings} {snapshot : Snapshot} {importer key p : String}

/-! ## Specifiers from the root -/

theorem writtenPath?_slash (importer p : String) :
    writtenPath? importer ("/" ++ p) = some (Path.join "" ("/" ++ p)) := by
  have hdot : ∀ dots : List Char, ('.' :: dots).isPrefixOf ('/' :: p.toList) = false := fun _ => rfl
  have hslash : "/".toList.isPrefixOf ('/' :: p.toList) = true := rfl
  simp only [writtenPath?, startsWith, Path.toList_slash, hslash]
  rw [show "./".toList = '.' :: ['/'] from rfl, show "../".toList = '.' :: ['.', '/'] from rfl, hdot, hdot]
  rfl

section

variable {kind : List Char → Prop}

/-- A file in the directory that a path from the root names. -/
theorem madeOf_inside {name : String} (h : MadeOf kind key) (hkind : Lasting kind) (hname : IsName name.toList)
    (hslash : '/' ∉ name.toList) : MadeOf kind (withoutSlash key ++ "/" ++ name) := by
  obtain ⟨ss, hss, he⟩ := h
  refine ⟨ss ++ [name.toList], fun s hs => ?_, ?_⟩
  · rcases List.mem_append.mp hs with hs | hs
    · exact hss s hs
    · obtain rfl := List.mem_singleton.mp hs
      exact ⟨hkind.name hname, hslash⟩
  · rw [String.append_assoc, String.toList_append, Path.toList_slash, withoutSlash, String.toList_ofList, he]
    by_cases hnil : ss = []
    · rw [hnil]
      rfl
    · -- The last piece ends in another character, so no slash is dropped.
      obtain ⟨start, c, hends, hc⟩ := Path.ofSegments_eq_concat hkind.empty hss hnil
      have hkept : Text.dropTailWhile (· == '/') (Path.ofSegments ss) = Path.ofSegments ss := by
        rw [hends]
        exact List.rdropWhile_concat_neg _ start c (by simpa using hc)
      rw [hkept, Path.ofSegments, Path.ofSegments, Path.unpieces_concat hnil, List.cons_append]

/-- The extensions make names, in the name of a file and behind `index`. -/
theorem isName_extensions : ∀ ext ∈ impliedExtensions,
    (IsName ("." ++ ext).toList ∧ 2 ≤ ("." ++ ext).toList.length ∧ '/' ∉ ("." ++ ext).toList) ∧
      IsName ("index." ++ ext).toList ∧ '/' ∉ ("index." ++ ext).toList := by
  decide

/-- Whatever a path may stand for is made of pieces of the same kind. -/
theorem madeOf_of_mem_candidates {candidate : String} (h : MadeOf kind key) (hkind : Lasting kind)
    (hc : candidate ∈ candidates key) : MadeOf kind candidate := by
  rw [candidates, List.mem_append, List.mem_cons] at hc
  rcases hc with (rfl | hc) | hc
  · exact h
  · obtain ⟨ext, hext, rfl⟩ := List.mem_map.mp hc
    obtain ⟨⟨hname, hlength, hslash⟩, -⟩ := isName_extensions ext hext
    rw [String.append_assoc]
    exact h.append hkind hname hlength hslash
  · obtain ⟨ext, hext, rfl⟩ := List.mem_map.mp hc
    obtain ⟨-, hname, hslash⟩ := isName_extensions ext hext
    have hindex : "/index." = "/" ++ "index." := by decide
    rw [hindex, ← String.append_assoc, String.append_assoc]
    exact madeOf_inside h hkind hname hslash

theorem madeOf_chosen (snapshot : Snapshot) (h : MadeOf kind key) (hkind : Lasting kind) :
    MadeOf kind (chosen snapshot key) := by
  rw [chosen]
  cases hfound : (candidates key).find? snapshot.contains with
  | none => exact h
  | some candidate => exact madeOf_of_mem_candidates h hkind (List.mem_of_find?_eq_some hfound)

end

/-- **A specifier from the root leads to an absolute path.** -/
theorem isAbsolute_resolve (h : resolve? importer ("/" ++ p) snapshot = some key) : IsAbsolute key := by
  rw [resolve?, writtenPath?_slash, Option.map_some, Option.some.injEq] at h
  exact h ▸ madeOf_chosen snapshot (Path.isAbsolute_join _) Path.lasting_isName

/-! ## Own paths -/

/-- A specifier that is written as the path of a file leads to it. -/
theorem resolve_of_names (h : ∀ piece ∈ Path.pieces p.toList, IsName piece)
    (hcontains : snapshot.contains ("/" ++ p) = true) (importer : String) :
    resolve? importer ("/" ++ p) snapshot = some ("/" ++ p) := by
  have hfirst : (candidates ("/" ++ p)).find? snapshot.contains = some ("/" ++ p) :=
    List.find?_cons_of_pos hcontains
  rw [resolve?, writtenPath?_slash, Path.join_of_names h, Option.map_some, chosen, hfirst, Option.getD_some]

/-- The path of a file that becomes a module is not empty. -/
theorem ne_empty_of_mem_loadable {f : String × String} (h : f ∈ snapshot.loadable settings) : f.1 ≠ "" := by
  intro hempty
  have hkind := (Snapshot.mem_loadable.mp h).2
  rw [hempty] at hkind
  exact absurd hkind nofun

/-- **The path of a file leads to the key of the file exactly if each of its pieces is a name**, for every
file that becomes a module and from every importer; and if not, then no other path from the root does. -/
theorem resolve_own_path_iff (hbuilt : snapshot.Built) {f : String × String}
    (hf : f ∈ snapshot.loadable settings) (importer : String) :
    internalKey f.1 = "/" ++ f.1 ∧
      (resolve? importer ("/" ++ f.1) snapshot = some (internalKey f.1) ↔
        ∀ piece ∈ Path.pieces f.1.toList, IsName piece) ∧
      ((∃ q, resolve? importer ("/" ++ q) snapshot = some (internalKey f.1)) ↔
        ∀ piece ∈ Path.pieces f.1.toList, IsName piece) := by
  have hfile : f ∈ snapshot.files := (Snapshot.mem_loadable.mp hf).1
  have hroot := hbuilt.rootRelative f hfile
  have hkey := internalKey_of_isRootRelative hroot
  have hnames {q : String} (hresolve : resolve? importer ("/" ++ q) snapshot = some ("/" ++ f.1)) :
      ∀ piece ∈ Path.pieces f.1.toList, IsName piece :=
    (Path.isAbsolute_slash_iff (ne_empty_of_mem_loadable hf)).mp (isAbsolute_resolve hresolve)
  have hown (h : ∀ piece ∈ Path.pieces f.1.toList, IsName piece) :
      resolve? importer ("/" ++ f.1) snapshot = some ("/" ++ f.1) :=
    resolve_of_names h ((contains_slash_iff hroot).mpr ⟨f, hfile, rfl⟩) importer
  rw [hkey]
  exact ⟨rfl, ⟨hnames, hown⟩, fun ⟨_, hresolve⟩ => hnames hresolve, fun h => ⟨f.1, hown h⟩⟩

/-- Two files, of which one is written with a dot in front. -/
def dotted : Snapshot := .ofList [("./App.tsx", ""), ("/lib/a.b.ts", "")]

/-- A file in a directory is found from everywhere. -/
theorem own_path_found :
    dotted.Built ∧ ("lib/a.b.ts", "") ∈ dotted.loadable {} ∧
      resolve? "pages/index.tsx" "/lib/a.b.ts" dotted = some "/lib/a.b.ts" := by
  have hfile : ("lib/a.b.ts", "") ∈ dotted.loadable {} := by decide +kernel
  have hbuilt : dotted.Built := Snapshot.built_ofList _
  obtain ⟨hkey, hiff, -⟩ := resolve_own_path_iff hbuilt hfile "pages/index.tsx"
  refine ⟨hbuilt, hfile, ?_⟩
  rw [hkey] at hiff
  exact hiff.mpr (by decide)

/-- A file with a dot in front becomes a module, and its path leads to a file that is not there. -/
theorem own_path_missed :
    dotted.Built ∧ ("./App.tsx", "") ∈ dotted.loadable {} ∧ internalKey "./App.tsx" = "/./App.tsx" ∧
      resolve? "index.tsx" "/./App.tsx" dotted = some "/App.tsx" ∧ dotted.contains "/App.tsx" = false :=
  ⟨Snapshot.built_ofList _, by decide +kernel⟩

end Vitrine.Import
