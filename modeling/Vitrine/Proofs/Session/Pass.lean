import Vitrine.Proofs.Import.Table
import Vitrine.Proofs.Project.Modules
import Vitrine.Proofs.Resource.Holding
import Vitrine.Session

/-!
# What a pass does (sections 4.7 and 7)

A pass begins with nothing in use (`Session.opened`). If the selection shows the application, its making
ends in one of four ways (`Ending`): the entry document is missing, a script is broken, the page cannot be
made once every module has its address, or the page is made. Everything that is known of a rendering
follows from its mode and its ending:

A pass is one `render` of a `PreviewSession`; `render_application` makes the application, in the order of the
ways that it can fail.

* `render_outcome`: a rendering without the application fails at nothing and leaves no address in use; an
  ending with a failure shows its diagnostic and leaves no address in use; an ending with a page shows it
  and leaves the addresses of its modules in use.
* `Reachable.holds`: whatever is done with a session, the addresses that it holds are those under which
  its host keeps something.
* `render_size`: how many addresses are in use after a rendering.
* `render_made`: a page that is made depends on the session through these addresses only.
-/

namespace Vitrine.Session

open Resource (Binding Unbound bindEach)

variable {s : Session} {snapshot : Snapshot} {selected key : String}

/-! ## The beginning of a pass -/

/-- The session when a pass begins: nothing in use, and one pass more. -/
def opened (s : Session) : Session := { s.close with pass := s.pass + 1 }

@[simp] theorem close_settings (s : Session) : s.close.settings = s.settings := rfl

@[simp] theorem close_registry (s : Session) : s.close.registry = {} := rfl

@[simp] theorem close_host (s : Session) : s.close.host = (s.registry.revokeAll s.host).2.2 := rfl

@[simp] theorem close_channel (s : Session) : s.close.channel = s.channel := rfl

@[simp] theorem opened_settings (s : Session) : s.opened.settings = s.settings := rfl

@[simp] theorem opened_registry (s : Session) : s.opened.registry = {} := rfl

@[simp] theorem opened_host (s : Session) : s.opened.host = s.close.host := rfl

/-- The addresses that the session holds are those under which its host keeps something. -/
def Holds (s : Session) : Prop := Resource.Holds s.registry s.host

/-- A new session has nothing in use, and its host keeps nothing. -/
theorem holds_new (settings : Settings) (n : Nat) : (new settings n).Holds := Resource.Holds.new n

/-- A session that is closed has revoked what it held. -/
theorem Holds.close (hs : s.Holds) : s.close.Holds := Resource.Holds.revokeAll hs

theorem Holds.opened (hs : s.Holds) : s.opened.Holds := hs.close

/-- **A closed session keeps nothing.** -/
theorem Holds.close_live (hs : s.Holds) : s.close.host.live = [] := by
  rw [close_host, Resource.Holds.revokeAll_host hs]

/-! ## The application -/

/-- The modules as they are bound. -/
def unbound (modules : List Module) : List Unbound := modules.map fun m => ⟨m.path, m.kind, m.code⟩

/-- What binding the modules gives. -/
def binding (s : Session) (modules : List Module) : Binding :=
  bindEach s.registry s.host (unbound modules)

/-- The session with every module bound. -/
def bound (s : Session) (modules : List Module) : Session :=
  { s with registry := (s.binding modules).registry, host := (s.binding modules).host }

/-- Each module is bound under its path, in the order of the modules. -/
theorem binding_path (s : Session) (modules : List Module) :
    (s.binding modules).bound.map Resource.Bound.path = modules.map (·.path) := by
  have h := congrArg (List.map Unbound.path)
    (Resource.bindEach_forget s.registry s.host (unbound modules))
  rwa [unbound, List.map_map, List.map_map] at h

/-- The page of the modules, or why there is none. -/
def page (s : Session) (key markup : String) (modules : List Module) : Except Failure String :=
  Page.application s.settings (s.binding modules).table
    (passToken (s.binding modules).registry key) markup

/-- The addresses of the modules are held as they are given out. -/
theorem Holds.bound (hs : s.Holds) (modules : List Module) : (s.bound modules).Holds :=
  Resource.Holds.bindEach hs _

/-- **How the making of the application ends.** -/
inductive Ending (s : Session) (snapshot : Snapshot) (key : String) :
    Except Failure (String × List String) → Session → Prop
  | missing (entry : snapshot.get? s.settings.entryMarkupPath = none) :
      Ending s snapshot key (.error (.missingEntryDocument s.settings.entryMarkupPath)) s
  | broken {markup : String} {failure : Failure}
      (entry : snapshot.get? s.settings.entryMarkupPath = some markup)
      (compiled : snapshot.modules s.settings = .error failure) :
      Ending s snapshot key (.error failure) s
  | unplaced {markup : String} {modules : List Module} {failure : Failure}
      (entry : snapshot.get? s.settings.entryMarkupPath = some markup)
      (compiled : snapshot.modules s.settings = .ok modules)
      (made : s.page key markup modules = .error failure) :
      Ending s snapshot key (.error failure) (s.bound modules)
  | made {markup : String} {modules : List Module} {document : String}
      (entry : snapshot.get? s.settings.entryMarkupPath = some markup)
      (compiled : snapshot.modules s.settings = .ok modules)
      (made : s.page key markup modules = .ok document) :
      Ending s snapshot key (.ok (document, unresolvedOf modules)) (s.bound modules)

/-- The making of the application ends in one of the four ways, in the order in which the steps are tried. -/
theorem application_ending (s : Session) (snapshot : Snapshot) (key : String) :
    Ending s snapshot key (s.application snapshot key).1 (s.application snapshot key).2 := by
  unfold application
  cases hentry : snapshot.get? s.settings.entryMarkupPath with
  | none => exact .missing hentry
  | some markup =>
    cases hcompiled : snapshot.modules s.settings with
    | error failure => exact .broken hentry hcompiled
    | ok modules =>
      show Ending s snapshot key ((s.page key markup modules).map (·, unresolvedOf modules))
        (s.bound modules)
      cases hmade : s.page key markup modules with
      | error failure => exact .unplaced hentry hcompiled hmade
      | ok document => exact .made hentry hcompiled hmade

/-! ## The rendering -/

/-- **What a pass yields, and what it leaves behind.** -/
inductive Outcome (s : Session) (snapshot : Snapshot) (selected : String) (r : Rendering)
    (after : Session) : Prop
  | aside (mode : r.mode ≠ .application) (failure : r.failure? = none) (unresolved : r.unresolved = [])
      (registry : after.registry = {}) (host : after.host = s.close.host)
  | failed {failure : Failure} {t : Session} (mode : r.mode = .application)
      (ending : Ending s.opened snapshot (snapshot.selectionKey selected) (.error failure) t)
      (failed : r.failure? = some failure) (document : r.document = Page.diagnostic failure)
      (unresolved : r.unresolved = []) (registry : after.registry = {})
      (host : after.host = t.close.host)
  | made {markup : String} {modules : List Module} (mode : r.mode = .application)
      (entry : snapshot.get? s.settings.entryMarkupPath = some markup)
      (compiled : snapshot.modules s.settings = .ok modules)
      (document : s.opened.page (snapshot.selectionKey selected) markup modules = .ok r.document)
      (failure : r.failure? = none) (unresolved : r.unresolved = unresolvedOf modules)
      (registry : after.registry = (s.opened.bound modules).registry)
      (host : after.host = (s.opened.bound modules).host)

/-- The rendering in terms of the document for its mode. -/
theorem render_eq (s : Session) (snapshot : Snapshot) (selected : String) :
    s.render snapshot selected =
      let key := snapshot.selectionKey selected
      let mode := Mode.ofSelection s.settings snapshot selected
      let made := s.opened.documentOf snapshot selected key mode
      ({ pass := made.2.pass, mode, document := made.1.1, failure? := made.1.2.1
         unresolved := made.1.2.2, frame := .ofPass made.2.pass key made.1.1 },
        { made.2 with channel := .begin (passToken made.2.registry key) }) := rfl

/-- The mode depends on the selection, the settings and the files. -/
theorem render_mode (s : Session) (snapshot : Snapshot) (selected : String) :
    (s.render snapshot selected).1.mode = Mode.ofSelection s.settings snapshot selected := by
  rw [render_eq]

/-- **A rendering shows no application, fails, or makes one.** The three cases say what each shows, and what it
leaves in use. -/
theorem render_outcome (s : Session) (snapshot : Snapshot) (selected : String) :
    Outcome s snapshot selected (s.render snapshot selected).1 (s.render snapshot selected).2 := by
  rw [render_eq]
  cases hmode : Mode.ofSelection s.settings snapshot selected with
  | placeholder => exact .aside nofun rfl rfl rfl rfl
  | documentation => exact .aside nofun rfl rfl rfl rfl
  | page => exact .aside nofun rfl rfl rfl rfl
  | application =>
    have he := s.opened.application_ending snapshot (snapshot.selectionKey selected)
    rcases ha : s.opened.application snapshot (snapshot.selectionKey selected) with ⟨result, t⟩
    rw [ha] at he
    simp only [documentOf, ha]
    cases result with
    | error failure => exact .failed rfl he rfl rfl rfl rfl rfl
    | ok made =>
      cases he with
      | made entry compiled page => exact .made rfl entry compiled page rfl rfl rfl rfl

/-! ## What a pass keeps -/

theorem Ending.settings_eq {result : Except Failure (String × List String)} {t : Session}
    (he : Ending s snapshot key result t) : t.settings = s.settings := by
  cases he <;> rfl

/-- However the making ends, what is held is what the host keeps. -/
theorem Ending.holds {result : Except Failure (String × List String)} {t : Session}
    (he : Ending s snapshot key result t) (hs : s.Holds) : t.Holds := by
  cases he with
  | missing => exact hs
  | broken => exact hs
  | unplaced => exact hs.bound _
  | made => exact hs.bound _

theorem documentOf_settings (s : Session) (snapshot : Snapshot) (selected key : String) (mode : Mode) :
    (s.documentOf snapshot selected key mode).2.settings = s.settings := by
  cases mode with
  | placeholder => rfl
  | documentation => rfl
  | page => rfl
  | application =>
    have he := (s.application_ending snapshot key).settings_eq
    simp only [documentOf]
    split
    · rename_i ha
      rwa [ha] at he
    · rename_i ha
      rw [ha] at he
      exact he

theorem render_settings (s : Session) (snapshot : Snapshot) (selected : String) :
    (s.render snapshot selected).2.settings = s.settings := by
  rw [render_eq]
  exact s.opened.documentOf_settings snapshot selected _ _

/-- After a rendering what is held is what the host keeps. -/
theorem Holds.render (hs : s.Holds) (snapshot : Snapshot) (selected : String) :
    (s.render snapshot selected).2.Holds := by
  cases s.render_outcome snapshot selected with
  | aside _ _ _ registry host =>
    rw [Session.Holds, registry, host]
    exact hs.close
  | failed _ ending _ _ _ registry host =>
    rw [Session.Holds, registry, host]
    exact (ending.holds hs.opened).close
  | @made _ modules _ _ _ _ _ _ registry host =>
    rw [Session.Holds, registry, host]
    exact hs.opened.bound modules

/-- A message is a matter of the channel: it revokes nothing. -/
@[simp] theorem receive_registry (s : Session) (message : Json.Value) :
    (s.receive message).2.registry = s.registry := by
  unfold Session.receive
  split <;> rfl

@[simp] theorem receive_host (s : Session) (message : Json.Value) :
    (s.receive message).2.host = s.host := by
  unfold Session.receive
  split <;> rfl

theorem Holds.receive (hs : s.Holds) (message : Json.Value) : (s.receive message).2.Holds := by
  rw [Session.Holds, receive_registry, receive_host]
  exact hs

/-! ## How many addresses are in use -/

/-- The addresses of the modules, in their order, are what a pass holds. -/
theorem bound_held (s : Session) (modules : List Module) :
    (s.opened.bound modules).registry.held =
      (s.opened.binding modules).bound.map Resource.Bound.address :=
  Resource.bindEach_held _ _ _

/-- As many addresses are held as there are modules. -/
theorem bound_size (s : Session) (modules : List Module) :
    (s.opened.bound modules).registry.size = modules.length := by
  have hforget := congrArg List.length
    (Resource.bindEach_forget s.opened.registry s.opened.host (unbound modules))
  rw [List.length_map, unbound, List.length_map] at hforget
  rw [Resource.Registry.size, bound_held, List.length_map]
  exact hforget

/-- **Every loadable file has an address after an application that was made, and nothing has one after
any other rendering.** -/
theorem render_size (s : Session) (snapshot : Snapshot) (selected : String) :
    (s.render snapshot selected).2.registry.size =
      if (s.render snapshot selected).1.mode = .application ∧
          (s.render snapshot selected).1.failure? = none
      then (snapshot.loadable s.settings).length else 0 := by
  cases s.render_outcome snapshot selected with
  | aside mode _ _ registry _ =>
    rw [if_neg fun h => mode h.1, registry]
    rfl
  | @failed failure _ _ _ failed _ _ registry _ =>
    rw [if_neg fun h => Option.some_ne_none failure (failed.symm.trans h.2), registry]
    rfl
  | @made _ modules mode _ compiled _ failure _ registry _ =>
    rw [if_pos ⟨mode, failure⟩, registry, bound_size]
    exact (Snapshot.modules_ok compiled).length_eq.symm

/-! ## Applications that are made -/

/-- The import table of modules under some addresses. -/
def tableAt (modules : List Module) (addresses : List String) : Import.Table :=
  Import.Table.withExternals.putFiles ((modules.map (·.path)).zip addresses)

/-- The table is filled as the modules are bound, and is that of their paths and addresses. -/
theorem bound_table (s : Session) (modules : List Module) :
    (s.opened.binding modules).table = tableAt modules (s.opened.bound modules).registry.held := by
  rw [bound_held, tableAt, ← binding_path s.opened, List.zip_map', Import.Table.putFiles, List.foldl_map]
  rfl

/-- **A page that is made is the page of its modules under the addresses that are in use after it.** -/
theorem render_made (hmode : (s.render snapshot selected).1.mode = .application)
    (hmade : (s.render snapshot selected).1.failure? = none) :
    ∃ markup modules, snapshot.get? s.settings.entryMarkupPath = some markup ∧
      snapshot.modules s.settings = .ok modules ∧
      Page.application s.settings (tableAt modules (s.render snapshot selected).2.registry.held)
          (passToken (s.render snapshot selected).2.registry (snapshot.selectionKey selected)) markup =
        .ok (s.render snapshot selected).1.document ∧
      (s.render snapshot selected).1.unresolved = unresolvedOf modules ∧
      (s.render snapshot selected).2.registry.held.length = modules.length := by
  cases s.render_outcome snapshot selected with
  | aside mode => exact absurd hmode mode
  | @failed failure _ _ _ failed => exact absurd (failed.symm.trans hmade) (Option.some_ne_none failure)
  | @made markup modules _ entry compiled document _ unresolved registry _ =>
    refine ⟨markup, modules, entry, compiled, ?_, unresolved, ?_⟩
    · rw [registry, ← bound_table]
      exact document
    · rw [registry]
      exact s.bound_size modules

/-! ## Reachable sessions -/

/-- One thing that is done with a session. -/
inductive Next (s : Session) : Session → Prop
  | render (snapshot : Snapshot) (selected : String) : Next s (s.render snapshot selected).2
  | receive (message : Json.Value) : Next s (s.receive message).2
  | close : Next s s.close

/-- **A session that was opened, and what came of it.** -/
inductive Reachable : Session → Prop
  | new (settings : Settings) (number : Nat) : Reachable (Session.new settings number)
  | next {s t : Session} (hs : Reachable s) (ht : s.Next t) : Reachable t

/-- Whatever is done with a session, what is held is what its host keeps. -/
theorem Holds.next {t : Session} (hs : s.Holds) (ht : s.Next t) : t.Holds := by
  cases ht with
  | render snapshot selected => exact hs.render snapshot selected
  | receive message => exact hs.receive message
  | close => exact hs.close

/-- **A reachable session holds its host.** -/
theorem Reachable.holds (hs : s.Reachable) : s.Holds := by
  induction hs with
  | new settings number => exact holds_new settings number
  | next _ ht ih => exact ih.next ht

end Vitrine.Session
