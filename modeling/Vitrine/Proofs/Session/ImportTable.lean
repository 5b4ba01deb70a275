import Vitrine.Proofs.Import.Table
import Vitrine.Proofs.Page.Application
import Vitrine.Proofs.Page.TableText
import Vitrine.Proofs.Project.Files
import Vitrine.Proofs.Session.Pass

/-!
# The import table of an application (section 4.5)

When an application is made, three things are done for each loadable file: it is compiled, its code is
kept under a new address, and the address is put into the import table. They stay in step: the table has
one entry for each file, in the order of the paths, and it leads to the code of that file; and this is what the
script in the document says, when its text is read (`import_table_complete`).

The loop is that of `resolve_modules`, over what `compile_project` gives; `to_json` and `synthesize_document`
carry the table to the page.
-/

namespace Vitrine.Session

open Resource (Bound)

variable {s : Session} {snapshot : Snapshot} {selected : String} {modules : List Module}

/-! ## Bound modules -/

/-- The modules with their addresses. -/
def placed (s : Session) (modules : List Module) : List Bound := (s.binding modules).bound

theorem placed_forget (s : Session) (modules : List Module) :
    (s.placed modules).map Bound.forget = unbound modules := Resource.bindEach_forget _ _ _

theorem placed_path (s : Session) (modules : List Module) :
    (s.placed modules).map Bound.path = modules.map (·.path) := s.binding_path modules

theorem placed_code (s : Session) (modules : List Module) :
    (s.placed modules).map Bound.code = modules.map (·.code) := by
  have h := congrArg (List.map Resource.Unbound.code) (s.placed_forget modules)
  rwa [unbound, List.map_map, List.map_map] at h

/-- Each module is kept under its address. -/
theorem placed_stored (s : Session) (modules : List Module) :
    List.Forall₂ (fun (m : Module) a =>
        (s.bound modules).host.get? a = some ⟨Resource.scriptMime, m.code⟩)
      modules ((s.placed modules).map Bound.address) := by
  have h : List.Forall₂ (fun code a =>
      (s.bound modules).host.get? a = some ⟨Resource.scriptMime, code⟩)
      (modules.map (·.code)) ((s.placed modules).map Bound.address) := by
    rw [← placed_code, List.forall₂_map_left_iff, List.forall₂_map_right_iff, List.forall₂_same]
    exact Resource.bindEach_stored _ _ _
  rwa [List.forall₂_map_left_iff] at h

/-- The table of the modules of a built project. -/
theorem table_entries (hbuilt : snapshot.Built) (compiled : snapshot.modules s.settings = .ok modules)
    (t : Session) :
    (t.binding modules).table.entries = Import.externals ++
      List.zipWith (fun m a => ("/" ++ m.path, a)) modules ((t.placed modules).map Bound.address) := by
  have hpaths : (t.placed modules).map Bound.path = (snapshot.loadable s.settings).map (·.1) := by
    rw [placed_path, Snapshot.modules_ok_paths compiled]
  have hroot : ∀ b ∈ t.placed modules, Path.IsRootRelative b.path := by
    intro b hb
    have hm : b.path ∈ (snapshot.loadable s.settings).map (·.1) :=
      hpaths ▸ List.mem_map_of_mem hb
    obtain ⟨f, hf, he⟩ := List.mem_map.mp hm
    rw [← he]
    exact hbuilt.rootRelative f (Snapshot.mem_loadable.mp hf).1
  have hnodup : ((t.placed modules).map Bound.path).Nodup := by
    rw [hpaths]
    exact (snapshot.loadable_ordered s.settings).paths_nodup
  have hzip : List.zipWith (fun (m : Module) a => ("/" ++ m.path, a)) modules
      ((t.placed modules).map Bound.address) =
      (t.placed modules).map fun b => ("/" ++ b.path, b.address) := by
    rw [← List.zipWith_map_left (f := fun m : Module => m.path) (g := fun p a => ("/" ++ p, a)),
      ← placed_path, List.zipWith_map, List.zipWith_self]
  rw [hzip]
  exact Resource.entries_tableOf hroot hnodup

/-! ## The rendering -/

/-- **The import table of an application that was made.** The project compiles to one module for each
loadable file, in the order of the bytes of the paths. The modules have different addresses, and the host
keeps the code of each of them under its address. The document is written from a tree that holds a table
as a script of type `importmap`, and the entries of that table are the packages from outside and then, for each
module, its path behind a slash with its address: these and no others. The text of the script is read back as
these entries, in their order. -/
theorem import_table_complete (hs : s.Reachable) (hbuilt : snapshot.Built) (selected : String)
    (hmode : (s.render snapshot selected).1.mode = .application)
    (hmade : (s.render snapshot selected).1.failure? = none) :
    ∃ (modules : List Module) (addresses : List String) (table : Import.Table)
      (markup token : String) (nodes : List Html.Node),
      snapshot.modules s.settings = .ok modules ∧
      modules.map (·.path) = (snapshot.loadable s.settings).map (·.1) ∧
      (modules.map (·.path)).Pairwise (fun p q => Snapshot.utf8 p < Snapshot.utf8 q) ∧
      addresses.Nodup ∧
      List.Forall₂ (fun (m : Module) a =>
          (s.render snapshot selected).2.host.get? a = some ⟨"text/javascript", m.code⟩)
        modules addresses ∧
      table.entries = Import.externals ++
        List.zipWith (fun m a => ("/" ++ m.path, a)) modules addresses ∧
      snapshot.get? s.settings.entryMarkupPath = some markup ∧
      Page.tree s.settings table token (Html.parse markup) = .ok nodes ∧
      Page.tableNode table ∈ Html.Node.subtrees nodes ∧
      Page.tableNode table = Page.script [("type", "importmap")] (Page.tableScript table) ∧
      Json.readAll Import.Table.record.read (Page.tableScript table) =
        .ok [("imports", .entries table.entries)] ∧
      (s.render snapshot selected).1.document = Html.Node.writtenAll false nodes := by
  cases s.render_outcome snapshot selected with
  | aside mode => exact absurd hmode mode
  | @failed failure _ _ _ failed => exact absurd (failed.symm.trans hmade) (Option.some_ne_none failure)
  | @made markup modules _ entry compiled document _ _ _ host =>
    obtain ⟨-, nodes, htree, hdocument, htable⟩ := Page.application_ok document
    have hnodup : ((s.opened.placed modules).map Bound.address).Nodup := by
      have h : (s.opened.bound modules).registry.held.Nodup := (hs.holds.opened.bound modules).nodup
      rwa [bound_held] at h
    refine ⟨modules, (s.opened.placed modules).map Bound.address, _, markup, _, nodes, compiled,
      Snapshot.modules_ok_paths compiled, Snapshot.modules_ok_ordered compiled, hnodup, ?_,
      table_entries hbuilt compiled s.opened, entry, htree, htable, rfl, Page.readAll_tableScript _, hdocument⟩
    rw [host]
    exact s.opened.placed_stored modules

/-- The table of a small project, and what the text of its script is read as. -/
theorem import_table_complete_small :
    ∃ (code a : String) (table : Import.Table) (nodes : List Html.Node),
      table.entries = Import.externals ++ [("/a.css", a)] ∧
      ((Session.new {} 0).render .small "a.css").2.host.get? a = some ⟨"text/javascript", code⟩ ∧
      Page.tableNode table ∈ Html.Node.subtrees nodes ∧
      Json.readAll Import.Table.record.read (Page.tableScript table) =
        .ok [("imports", .entries (Import.externals ++ [("/a.css", a)]))] ∧
      ((Session.new {} 0).render .small "a.css").1.document = Html.Node.writtenAll false nodes := by
  have hbuilt : Snapshot.small.Built := Snapshot.built_ofList _
  have hmode : ((Session.new {} 0).render .small "a.css").1.mode = .application := by decide +kernel
  have hmade : ((Session.new {} 0).render .small "a.css").1.failure? = none := by decide +kernel
  obtain ⟨modules, addresses, table, markup, token, nodes, -, paths, -, -, stored, entries, -, -,
    placed, -, read, document⟩ := import_table_complete (.new {} 0) hbuilt "a.css" hmode hmade
  have hfiles : (Snapshot.small.loadable (Session.new {} 0).settings).map (·.1) = ["a.css"] := by
    decide +kernel
  rw [hfiles] at paths
  obtain ⟨m, rfl, hpath⟩ := List.map_eq_singleton_iff.mp paths
  cases stored with
  | @cons _ a _ rest kept none =>
    cases none
    rw [List.zipWith_cons_cons, hpath] at entries
    exact ⟨m.code, a, table, nodes, entries, kept, placed, read.trans (by rw [entries]; rfl), document⟩

end Vitrine.Session
