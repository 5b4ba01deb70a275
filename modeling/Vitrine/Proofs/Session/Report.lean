import Vitrine.Proofs.Import.Emitted
import Vitrine.Proofs.Session.ImportTable

/-!
# What a rendering reports of imports (section 4.5)

Linking reports the specifiers that will find no module, and it does so before there is an import table. A
rendering of the application collects these reports.

The report is `unresolved_imports` of what `render` gives, out of the `unresolved` of each module.

* `unresolved_exact`: each module reports those of its specifiers, linked, that the table of the project
  does not cover, and the rendering reports what its modules do, each key once.
* `entry_reported_iff`: the specifier of the first module is linked for no script. So the table has it, or
  the report has it, only if it is a key that the table covers or one that a script of the project imports.
  `entry_unreported` is a project for which neither holds.
-/

namespace Vitrine

open Resource (bindEach Registry Host)
open Script (Reading)

variable {settings : Settings} {snapshot : Snapshot} {modules : List Module} {path source key : String}

/-! ## Scripts that compile -/

/-- A script that compiles was read, and reports what linking finds of its specifiers. -/
theorem Module.ofScript_ok {m : Module} (h : ofScript settings snapshot path source = .ok m) :
    ∃ reading, Reading.ofText (dialectOf path) source.toList = .ok reading ∧
      m.unresolved = Import.unresolved settings snapshot path reading.program.specifiers := by
  obtain ⟨reading, -, -, hread, -, -, -, hunresolved⟩ := ofScript_compiled h
  exact ⟨reading, hread, hunresolved⟩

namespace Snapshot

/-- A script of a project that compiles has a module. -/
theorem module_of_script (compiled : snapshot.modules settings = .ok modules)
    (hm : (path, source) ∈ snapshot.files) (hkind : FileKind.ofPath settings path = .script) :
    ∃ m ∈ modules, m.path = path ∧ Module.ofScript settings snapshot path source = .ok m := by
  have hload : (path, source) ∈ snapshot.loadable settings := mem_loadable.mpr ⟨hm, Or.inl hkind⟩
  obtain ⟨m, hmem, hok, hpath⟩ := exists_of_mem_left (modules_ok compiled) hload
  exact ⟨m, hmem, hpath, (Module.ofFile_script hkind).symm.trans hok⟩

/-- A module that reports something is that of a script. -/
theorem script_of_module (compiled : snapshot.modules settings = .ok modules) {m : Module}
    (hm : m ∈ modules) (hkey : key ∈ m.unresolved) :
    ∃ path source, (path, source) ∈ snapshot.files ∧ FileKind.ofPath settings path = .script ∧
      Module.ofScript settings snapshot path source = .ok m := by
  obtain ⟨f, hf, hok, -⟩ := exists_of_mem_left (modules_ok compiled).flip hm
  obtain ⟨hfile, hkind | hkind⟩ := mem_loadable.mp hf
  · exact ⟨f.1, f.2, hfile, hkind, (Module.ofFile_script hkind).symm.trans hok⟩
  · rw [Module.ofFile_stylesheet hkind] at hok
    obtain rfl := Except.ok.inj hok
    exact absurd hkey List.not_mem_nil

/-- Some script of the project has a specifier that leads to the key. -/
def Imports (snapshot : Snapshot) (settings : Settings) (key : String) : Prop :=
  ∃ path source reading, (path, source) ∈ snapshot.files ∧ FileKind.ofPath settings path = .script ∧
    Reading.ofText (Module.dialectOf path) source.toList = .ok reading ∧
    ∃ q ∈ reading.program.specifiers, Import.target path q.value.toText snapshot = key

end Snapshot

namespace Session

variable {s : Session} {selected : String}

/-! ## The table of a project -/

/-- **The table of a project covers what there is to cover**, whichever addresses it leads to. -/
theorem table_contains_iff (hbuilt : snapshot.Built) (compiled : snapshot.modules settings = .ok modules)
    (registry : Registry) (host : Host) :
    (bindEach registry host (unbound modules)).table.contains key = true ↔
      Import.Covered settings snapshot key := by
  let t : Session := { settings, registry, host }
  have hlength : modules.length = ((t.placed modules).map Resource.Bound.address).length := by
    rw [List.length_map, ← List.length_map (f := Resource.Bound.path), placed_path, List.length_map]
  have hpaths := congrArg (List.map ("/" ++ ·)) (Snapshot.modules_ok_paths compiled)
  rw [List.map_map, List.map_map] at hpaths
  have hkeys : Import.Entries.keys (List.zipWith (fun (m : Module) a => ("/" ++ m.path, a)) modules
      ((t.placed modules).map Resource.Bound.address)) =
      (snapshot.loadable settings).map fun f => "/" ++ f.1 := by
    rw [← List.zipWith_map_left (f := fun m : Module => "/" ++ m.path) (g := Prod.mk)]
    exact (List.map_fst_zip (by rw [List.length_map]; exact hlength.le)).trans hpaths
  show (t.binding modules).table.contains key = true ↔ _
  rw [Import.Table.contains_iff, table_entries (s := t) hbuilt compiled t, Import.Entries.keys_append,
    List.mem_append, ← Import.isExternal_iff, Import.Covered, hkeys, List.mem_map]
  simp only [eq_comm]

/-! ## Each key once -/

/-- Adding what is not there yet adds the first of each. -/
theorem addNew_eq (known texts : List String) :
    addNew known texts = known ++ (texts.filter (!known.contains ·)).eraseDups := by
  induction texts generalizing known with
  | nil => exact (List.append_nil known).symm
  | cons t texts ih =>
    rw [addNew, ih]
    by_cases ht : known.contains t = true
    · rw [if_pos ht, List.filter_cons_of_neg (by rw [ht]; nofun)]
    · rw [if_neg ht, List.filter_cons_of_pos (by simpa using ht), List.eraseDups_cons, List.filter_filter,
        List.append_assoc, List.singleton_append]
      congr 3
      refine List.filter_congr fun u _ => ?_
      rw [List.contains_eq_mem, List.contains_eq_mem]
      by_cases hu : u = t <;> simp [hu]

theorem unresolvedOf_eq (modules : List Module) :
    unresolvedOf modules = (modules.flatMap (·.unresolved)).eraseDups := by
  rw [unresolvedOf, addNew_eq, List.nil_append]
  congr 1
  exact List.filter_eq_self.mpr fun _ _ => rfl

/-! ## Reports -/

/-- **Every specifier is covered or reported.** In a project that compiles, every script is read and has a
module, and the module reports what the specifiers of the script lead to, less the keys of the import
table, in the order in which they come and each once. The modules are in the order of the bytes of their
paths, and an application that is made reports what they do, one after the other and each key once. -/
theorem unresolved_exact (hbuilt : snapshot.Built) (compiled : snapshot.modules settings = .ok modules)
    (registry : Registry) (host : Host) :
    (∀ path source, (path, source) ∈ snapshot.files → FileKind.ofPath settings path = .script →
      ∃ reading m, Reading.ofText (Module.dialectOf path) source.toList = .ok reading ∧
        m ∈ modules ∧ m.path = path ∧
        m.unresolved =
          ((reading.program.specifiers.map fun q => Import.target path q.value.toText snapshot).filter
            fun key => !(bindEach registry host (unbound modules)).table.contains key).eraseDups) ∧
    (modules.map (·.path)).Pairwise (fun p q => Snapshot.utf8 p < Snapshot.utf8 q) ∧
    (∀ (s : Session) (selected : String), s.settings = settings →
      (s.render snapshot selected).1.mode = .application →
      (s.render snapshot selected).1.failure? = none →
      (s.render snapshot selected).1.unresolved = (modules.flatMap (·.unresolved)).eraseDups) := by
  refine ⟨fun path source hm hkind => ?_, Snapshot.modules_ok_ordered compiled,
    fun s selected hsettings hmode hmade => ?_⟩
  · obtain ⟨m, hmem, hpath, hok⟩ := Snapshot.module_of_script compiled hm hkind
    obtain ⟨reading, hread, hunresolved⟩ := Module.ofScript_ok hok
    refine ⟨reading, m, hread, hmem, hpath, hunresolved.trans ?_⟩
    exact Import.unresolved_eq settings snapshot path _ fun key =>
      table_contains_iff hbuilt compiled registry host
  · obtain ⟨markup, modules', -, compiled', -, hunresolved, -⟩ := render_made hmode hmade
    rw [hsettings] at compiled'
    obtain rfl := Except.ok.inj (compiled.symm.trans compiled')
    rw [hunresolved, unresolvedOf_eq]

/-- A project whose first module is missing, and imported by another one. -/
def importing : Snapshot := .ofList [
  ("index.html", "<script type=module src=/index.tsx></script>"),
  ("a.ts", "import'./index.tsx';import'x';import'/index.tsx'")]

/-- The module of the script of this project. -/
def importingModule : Module :=
  { path := "a.ts", kind := .script
    code := "import \"/index.tsx\";\nimport \"x\";\nimport \"/index.tsx\";\n"
    unresolved := ["/index.tsx", "x"] }

theorem built_importing : importing.Built := Snapshot.built_ofList _

theorem modules_importing : importing.modules {} = .ok [importingModule] := by decide +kernel

/-- The script has three specifiers, and two of them lead to one key. -/
theorem unresolved_exact_importing :
    ∃ reading, Reading.ofText (Module.dialectOf "a.ts")
        "import'./index.tsx';import'x';import'/index.tsx'".toList = .ok reading ∧
      ["/index.tsx", "x"] =
        ((reading.program.specifiers.map fun q =>
          Import.target "a.ts" q.value.toText importing).filter
            fun key => !(bindEach {} { number := 0 } (unbound [importingModule])).table.contains
              key).eraseDups := by
  obtain ⟨hscripts, -⟩ := unresolved_exact built_importing modules_importing {} { number := 0 }
  obtain ⟨reading, m, hread, hm, -, hunresolved⟩ :=
    hscripts "a.ts" "import'./index.tsx';import'x';import'/index.tsx'" (by decide +kernel)
      (by decide +kernel)
  obtain rfl := List.mem_singleton.mp hm
  exact ⟨reading, hread, hunresolved⟩

/-! ## The first module -/

/-- A project reports what its scripts import and what is not covered. -/
theorem mem_unresolvedOf_iff (compiled : snapshot.modules settings = .ok modules) :
    key ∈ unresolvedOf modules ↔
      snapshot.Imports settings key ∧ ¬ Import.Covered settings snapshot key := by
  rw [unresolvedOf_eq, List.mem_eraseDups, List.mem_flatMap]
  constructor
  · rintro ⟨m, hm, hkey⟩
    obtain ⟨path, source, hfile, hkind, hok⟩ := Snapshot.script_of_module compiled hm hkey
    obtain ⟨reading, hread, hunresolved⟩ := Module.ofScript_ok hok
    rw [hunresolved, Import.mem_unresolved_iff] at hkey
    obtain ⟨⟨q, hq, htarget⟩, hno⟩ := hkey
    exact ⟨⟨path, source, reading, hfile, hkind, hread, q, hq, htarget⟩, hno⟩
  · rintro ⟨⟨path, source, reading, hfile, hkind, hread, q, hq, htarget⟩, hno⟩
    obtain ⟨m, hm, -, hok⟩ := Snapshot.module_of_script compiled hfile hkind
    obtain ⟨reading', hread', hunresolved⟩ := Module.ofScript_ok hok
    obtain rfl := Except.ok.inj (hread.symm.trans hread')
    refine ⟨m, hm, ?_⟩
    rw [hunresolved, Import.mem_unresolved_iff]
    exact ⟨⟨q, hq, htarget⟩, hno⟩

/-- **When the import of the loader is covered or reported.** The document of an application that is made
comes from a tree with an import table and with the loader, which imports the first module by its
specifier. The table covers this specifier, or the rendering reports it, exactly if it is a package from
outside, or a slash and the path of a file that becomes a module, or the key that some specifier in a
script of the project leads to. -/
theorem entry_reported_iff (hbuilt : snapshot.Built)
    (hmode : (s.render snapshot selected).1.mode = .application)
    (hmade : (s.render snapshot selected).1.failure? = none) :
    ∃ (table : Import.Table) (markup token : String) (nodes : List Html.Node),
      snapshot.get? s.settings.entryMarkupPath = some markup ∧
      Page.tree s.settings table token (Html.parse markup) = .ok nodes ∧
      (s.render snapshot selected).1.document = Html.Node.writtenAll false nodes ∧
      Page.tableNode table ∈ Html.Node.subtrees nodes ∧
      Page.loaderNode s.settings.entryScript ∈ Html.Node.subtrees nodes ∧
      (table.contains s.settings.entryScript = true ∨
          s.settings.entryScript ∈ (s.render snapshot selected).1.unresolved ↔
        Import.Covered s.settings snapshot s.settings.entryScript ∨
          snapshot.Imports s.settings s.settings.entryScript) := by
  cases s.render_outcome snapshot selected with
  | aside mode => exact absurd hmode mode
  | @failed failure _ _ _ failed => exact absurd (failed.symm.trans hmade) (Option.some_ne_none failure)
  | @made markup modules _ entry compiled document _ unresolved =>
    obtain ⟨-, nodes, htree, hdocument, htable⟩ := Page.application_ok document
    have hcovers : (s.opened.binding modules).table.contains s.settings.entryScript = true ↔
        Import.Covered s.settings snapshot s.settings.entryScript :=
      table_contains_iff hbuilt compiled s.opened.registry s.opened.host
    refine ⟨_, markup, _, nodes, entry, htree, hdocument, htable, Page.loaderNode_mem_tree htree, ?_⟩
    rw [hcovers, unresolved, mem_unresolvedOf_iff compiled]
    by_cases hcovered : Import.Covered s.settings snapshot s.settings.entryScript
    · exact ⟨fun _ => Or.inl hcovered, fun _ => Or.inl hcovered⟩
    · exact or_congr_right (and_iff_left hcovered)

/-- The first module of this project is missing, but it is reported because a script imports it. -/
theorem entry_reported_importing :
    ∃ (table : Import.Table) (nodes : List Html.Node),
      Page.tableNode table ∈ Html.Node.subtrees nodes ∧
      Page.loaderNode "/index.tsx" ∈ Html.Node.subtrees nodes ∧
      ((new {} 0).render importing "a.ts").1.document = Html.Node.writtenAll false nodes ∧
      (table.contains "/index.tsx" = true ∨
        "/index.tsx" ∈ ((new {} 0).render importing "a.ts").1.unresolved) := by
  have hmode : ((new {} 0).render importing "a.ts").1.mode = .application :=
    (render_mode _ _ _).trans (by decide +kernel)
  have hmade : ((new {} 0).render importing "a.ts").1.failure? = none := by decide +kernel
  have himported : importing.Imports {} "/index.tsx" :=
    ((mem_unresolvedOf_iff modules_importing).mp (by decide)).1
  obtain ⟨table, _, _, nodes, -, -, hdocument, htable, hloader, hreported⟩ :=
    entry_reported_iff built_importing hmode hmade
  exact ⟨table, nodes, htable, hloader, hdocument, hreported.mpr (Or.inr himported)⟩

/-- **A first module that is missing is not reported** if no script imports it: the small project is shown,
its loader imports `/index.tsx`, the table does not have that key, and nothing is reported. -/
theorem entry_unreported :
    ((new {} 0).render .small "a.css").1.mode = .application ∧
      ((new {} 0).render .small "a.css").1.failure? = none ∧
      ((new {} 0).render .small "a.css").1.unresolved = [] ∧
      ∃ table token markup, Snapshot.small.get? "index.html" = some markup ∧
        Page.application {} table token markup = .ok ((new {} 0).render .small "a.css").1.document ∧
        table.contains "/index.tsx" = false := by
  have hmode : ((new {} 0).render .small "a.css").1.mode = .application := by decide +kernel
  have hmade : ((new {} 0).render .small "a.css").1.failure? = none := by decide +kernel
  have hheld : ((new {} 0).render .small "a.css").2.registry.held = ["blob:preview/0/0"] := by
    decide +kernel
  have hmodules : Snapshot.small.modules {} = .ok [Module.ofStylesheet "a.css" "p \x7b\x7d"] := by
    decide +kernel
  obtain ⟨markup, modules, entry, compiled, document, hunresolved, -⟩ := render_made hmode hmade
  obtain rfl := Except.ok.inj (hmodules.symm.trans compiled)
  rw [hheld] at document
  exact ⟨hmode, hmade, hunresolved, _, _, markup, entry, document, by decide +kernel⟩

end Session

end Vitrine
