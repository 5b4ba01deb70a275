import Vitrine.Proofs.Import.Table
import Vitrine.Proofs.Page.Injection
import Vitrine.Proofs.Project.Edited
import Vitrine.Proofs.Session.ImportTable
import Vitrine.Proofs.Session.Run

/-!
# The token of a pass (section 4.8)

A pass is known by its token: the first address that it leaves in use, or the key of its frame if it
leaves none. The document of the pass carries the token, and so do the events that come from it.

The token is that of `pass_token`; `render_application` hands it to `error_capture_script`, and `render` hands
it to `begin_pass`. The two agree because nothing is allocated or revoked in between.

* `document_token_current`: the document and the channel have the same token, so no event of the document
  is stale before the next rendering. It is the address of the module with the least path, if there are
  modules; whether the import table leads from this path to it depends on the other paths.
  `least_path_shadowed` is a project in which it leads elsewhere.
* `tokens_eq_iff`: of two passes of a session, the later one has the token of the earlier one exactly if
  neither left an address in use and their frames have the same key.
* `superseded_stale_iff`: so an event of an earlier pass is stale, with that one exception.
  `recurring_input_shown` is the exception: a project without modules, shown for the second time.
-/

namespace Vitrine

/-! ## Keys are no addresses -/

theorem Digest.slash_notMem_hexDigits (n x : Nat) : '/' ∉ hexDigits n x := by
  have hdigit : ∀ d < 16, '/' ≠ if d < 10 then Char.ofNat (48 + d) else Char.ofNat (87 + d) := by decide
  induction n with
  | zero => exact List.not_mem_nil
  | succ n ih =>
    rw [hexDigits, List.mem_cons, not_or]
    exact ⟨hdigit _ (Nat.mod_lt _ (by decide)), ih⟩

/-- A digest is written without slashes. -/
theorem Digest.slash_notMem_hexDigest (message : List UInt8) : '/' ∉ (hexDigest message).toList := by
  unfold hexDigest
  rw [String.toList_ofList, List.mem_flatMap]
  rintro ⟨w, -, hw⟩
  exact slash_notMem_hexDigits 8 w.toNat hw

/-- An address has slashes in it, so it is no key of a frame. -/
theorem Resource.Host.HasIssued.ne_selectionKey {h : Host} {a : String} (ha : h.HasIssued a)
    (snapshot : Snapshot) (selected : String) : a ≠ snapshot.selectionKey selected := by
  obtain ⟨n, -, rfl⟩ := ha
  intro he
  have hslash : '/' ∈ (address h.number n).toList := by
    rw [toList_address]
    simp
  rw [he] at hslash
  exact Digest.slash_notMem_hexDigest _ hslash

/-! ## Keys of files -/

namespace Snapshot

variable {snapshot : Snapshot} {settings : Settings} {path : String}

/-- No other file that becomes a module has the key of the path. -/
def OwnsKey (snapshot : Snapshot) (settings : Settings) (path : String) : Prop :=
  ∀ f ∈ snapshot.loadable settings, Import.internalKey f.1 = Import.internalKey path → f.1 = path

/-- In a built snapshot every file has a key of its own. -/
theorem Built.internalKey_eq (hbuilt : snapshot.Built)
    (hpath : path ∈ (snapshot.loadable settings).map (·.1)) : Import.internalKey path = "/" ++ path := by
  obtain ⟨f, hf, rfl⟩ := List.mem_map.mp hpath
  exact Import.internalKey_of_isRootRelative (hbuilt.rootRelative f (mem_loadable.mp hf).1)

theorem Built.ownsKey (hbuilt : snapshot.Built) (hpath : path ∈ (snapshot.loadable settings).map (·.1)) :
    snapshot.OwnsKey settings path := by
  intro f hf hkey
  rw [hbuilt.internalKey_eq hpath, hbuilt.internalKey_eq (List.mem_map_of_mem hf)] at hkey
  exact Import.slash_append_inj.mp hkey

end Snapshot

namespace Session

variable {s after : Session} {snapshot : Snapshot} {selected : String} {r : Rendering}

/-! ## The token of a pass -/

theorem passToken_nil {registry : Resource.Registry} (key : String) (h : registry.held = []) :
    passToken registry key = key := by
  rw [passToken, h]
  rfl

theorem passToken_cons {registry : Resource.Registry} {a : String} {rest : List String} (key : String)
    (h : registry.held = a :: rest) : passToken registry key = a := by
  rw [passToken, h]
  rfl

theorem frame_key_eq (hrender : s.render snapshot selected = (r, after)) :
    r.frame.key = snapshot.selectionKey selected := by
  obtain ⟨rfl, -⟩ := Prod.ext_iff.mp hrender
  rw [render_eq]
  rfl

/-- The channel is told the token of the pass. -/
theorem token_eq (hrender : s.render snapshot selected = (r, after)) :
    after.channel.token = passToken after.registry r.frame.key := by
  rw [frame_key_eq hrender]
  obtain ⟨-, rfl⟩ := Prod.ext_iff.mp hrender
  rw [render_channel]
  rfl

/-- The token of a pass is the key of its frame, or an address that was new in this pass. -/
theorem token_cases (hrender : s.render snapshot selected = (r, after)) :
    (after.registry.held = [] ∧ after.channel.token = r.frame.key) ∨
    (after.registry.held ≠ [] ∧ after.host.HasIssued after.channel.token ∧
      ¬ s.host.HasIssued after.channel.token) := by
  have htoken := token_eq hrender
  cases hheld : after.registry.held with
  | nil =>
    rw [passToken_nil _ hheld] at htoken
    exact Or.inl ⟨rfl, htoken⟩
  | cons a rest =>
    rw [passToken_cons _ hheld] at htoken
    obtain ⟨-, rfl⟩ := Prod.ext_iff.mp hrender
    rw [htoken]
    exact Or.inr ⟨List.cons_ne_nil a rest, render_held_new (hheld ▸ List.mem_cons_self)⟩

/-- If no file becomes a module, no address is in use after a rendering. -/
theorem held_eq_nil (hnone : snapshot.loadable s.settings = [])
    (hrender : s.render snapshot selected = (r, after)) : after.registry.held = [] := by
  have hsize := s.render_size snapshot selected
  rw [hnone, hrender] at hsize
  exact List.length_eq_zero_iff.mp (hsize.trans (ite_self 0))

/-- No address is in use twice after a rendering. -/
theorem held_nodup (hs : s.Reachable) (hrender : s.render snapshot selected = (r, after)) :
    after.registry.held.Nodup := by
  obtain ⟨-, rfl⟩ := Prod.ext_iff.mp hrender
  exact (hs.holds.render snapshot selected).nodup

/-- After an application that was made the host keeps the code of each module under the address of its place. -/
theorem stored_of_render (hrender : s.render snapshot selected = (r, after)) (hmode : r.mode = .application)
    (hmade : r.failure? = none) {modules : List Module} (compiled : snapshot.modules s.settings = .ok modules) :
    List.Forall₂ (fun (m : Module) a => after.host.get? a = some ⟨"text/javascript", m.code⟩) modules
      after.registry.held := by
  obtain ⟨rfl, rfl⟩ := Prod.ext_iff.mp hrender
  cases s.render_outcome snapshot selected with
  | aside mode => exact absurd hmode mode
  | @failed failure _ _ _ failed => exact absurd (failed.symm.trans hmade) (Option.some_ne_none failure)
  | made _ _ compiled' _ _ _ registry host =>
    obtain rfl := Except.ok.inj (compiled.symm.trans compiled')
    rw [registry, host, bound_held]
    exact s.opened.placed_stored modules

/-! ## The token of a document -/

/-- The key of the first module leads to the first address exactly if no other module has the key. -/
theorem get?_tableAt_head_iff {settings : Settings} {m : Module} {rest : List Module}
    (compiled : snapshot.modules settings = .ok (m :: rest)) {a : String} {addresses : List String}
    (hnew : a ∉ addresses) (hlength : addresses.length = rest.length) :
    (tableAt (m :: rest) (a :: addresses)).get? (Import.internalKey m.path) = some a ↔
      snapshot.OwnsKey settings m.path := by
  have hpaths := Snapshot.modules_ok_paths compiled
  have hother : ∀ f ∈ (rest.map (·.path)).zip addresses, f.2 ≠ a := fun f hf he =>
    hnew (he ▸ (List.of_mem_zip hf).2)
  refine (Import.Table.get?_putFiles_cons_iff _ hother).trans ⟨fun h f hf hkey => ?_, fun howns f hf hkey => ?_⟩
  · have hmem : f.1 ∈ (m :: rest).map (·.path) := hpaths ▸ List.mem_map_of_mem hf
    refine (List.mem_cons.mp hmem).resolve_right fun hbehind => ?_
    obtain ⟨i, hi, hpath⟩ := List.mem_iff_getElem.mp hbehind
    have hi' : i < addresses.length := by simpa [hlength] using hi
    refine h _ (List.mem_iff_getElem.mpr ⟨i, by simpa [hlength] using hi, List.getElem_zip⟩) ?_
    rw [hpath, hkey]
  · obtain ⟨n, hn, hpath⟩ := List.mem_map.mp (List.of_mem_zip hf).1
    obtain ⟨hloadable, hne⟩ := (Snapshot.leastLoadable_head compiled).2 n hn
    obtain ⟨g, hg, hfile⟩ := List.mem_map.mp hloadable
    exact hne (hfile ▸ howns g hg (by rw [hfile, hpath, hkey]))

/-- The tree of an application that was made: it has the token of the channel. -/
theorem tree_of_render (hrender : s.render snapshot selected = (r, after)) (hmode : r.mode = .application)
    (hmade : r.failure? = none) :
    ∃ markup modules nodes,
      snapshot.get? s.settings.entryMarkupPath = some markup ∧
      snapshot.modules s.settings = .ok modules ∧
      modules.length = (snapshot.loadable s.settings).length ∧
      after.registry.held.length = modules.length ∧
      Page.tree s.settings (tableAt modules after.registry.held) after.channel.token
        (Html.parse markup) = .ok nodes ∧
      r.document = Html.Node.writtenAll false nodes ∧
      Page.tableNode (tableAt modules after.registry.held) ∈ Html.Node.subtrees nodes := by
  have htoken := token_eq hrender
  rw [frame_key_eq hrender] at htoken
  obtain ⟨rfl, rfl⟩ := Prod.ext_iff.mp hrender
  obtain ⟨markup, modules, entry, compiled, document, -, hlength⟩ := render_made hmode hmade
  obtain ⟨-, nodes, htree, hdocument, htable⟩ := Page.application_ok document
  rw [← htoken] at htree
  exact ⟨markup, modules, nodes, entry, compiled, (Snapshot.modules_ok compiled).length_eq.symm, hlength,
    htree, hdocument, htable⟩

/-- **The document and the channel of an application that was made have the same token.** The page is made
with the token of the channel, in the import table for the modules and, if errors are to be reported, in the
capture script. If there are no modules, the token is the key of the frame. If there are, it is the address of the
one that has the path with the least bytes: the first address in use, under which the host keeps the code of this
module. The table leads from the key of this path to the token exactly if no other module has the key, and so
it does in every built project. No event with this token is stale, whatever is done until the next rendering. -/
theorem document_token_current (hs : s.Reachable) (hrender : s.render snapshot selected = (r, after))
    (hmode : r.mode = .application) (hmade : r.failure? = none) :
    (∃ markup modules nodes,
      snapshot.get? s.settings.entryMarkupPath = some markup ∧
      snapshot.modules s.settings = .ok modules ∧
      Page.tree s.settings (tableAt modules after.registry.held) after.channel.token
        (Html.parse markup) = .ok nodes ∧
      r.document = Html.Node.writtenAll false nodes ∧
      Page.tableNode (tableAt modules after.registry.held) ∈ Html.Node.subtrees nodes ∧
      (s.settings.instrument = true → Page.captureNode after.channel.token ∈ Html.Node.subtrees nodes) ∧
      (snapshot.loadable s.settings = [] → after.channel.token = r.frame.key) ∧
      (snapshot.loadable s.settings ≠ [] →
        ∃ m rest addresses,
          modules = m :: rest ∧ after.registry.held = after.channel.token :: addresses ∧
          snapshot.LeastLoadable s.settings m.path ∧
          after.host.get? after.channel.token = some ⟨"text/javascript", m.code⟩ ∧
          ((tableAt modules after.registry.held).get? (Import.internalKey m.path) = some after.channel.token ↔
            snapshot.OwnsKey s.settings m.path) ∧
          (snapshot.Built →
            (tableAt modules after.registry.held).get? ("/" ++ m.path) = some after.channel.token))) ∧
    ∀ acts : List Act, (∀ act ∈ acts, ¬ act.IsRender) →
      ∀ message e, Event.ofMessage? message = some e → e.pass = after.channel.token →
        ∃ d, ((after.run acts).receive message).1 = some d ∧ d ≠ .stale := by
  have htoken := token_eq hrender
  constructor
  · obtain ⟨markup, modules, nodes, entry, compiled, hcount, hlength, htree, hdocument, htable⟩ :=
      tree_of_render hrender hmode hmade
    refine ⟨markup, modules, nodes, entry, compiled, htree, hdocument, htable,
      fun hinstrument => Page.captureNode_mem_tree hinstrument htree, fun hnone => ?_, fun hsome => ?_⟩
    · rw [htoken, passToken_nil _ (held_eq_nil hnone hrender)]
    · rw [← List.length_pos_iff, ← hcount] at hsome
      obtain ⟨m, rest, rfl⟩ := List.exists_cons_of_length_pos hsome
      obtain ⟨a, addresses, hheld⟩ := List.exists_cons_of_length_eq_add_one hlength
      have hleast := (Snapshot.leastLoadable_head compiled).1
      have hnew : a ∉ addresses := (List.nodup_cons.mp (hheld ▸ held_nodup hs hrender)).1
      have hkey := get?_tableAt_head_iff compiled hnew (by simpa [hheld] using hlength)
      have hstored := stored_of_render hrender hmode hmade compiled
      rw [hheld] at hstored
      rw [htoken, passToken_cons _ hheld, hheld]
      refine ⟨m, rest, addresses, rfl, rfl, hleast, (List.forall₂_cons.mp hstored).1, hkey, fun hbuilt => ?_⟩
      rw [← hbuilt.internalKey_eq hleast.1]
      exact hkey.mpr (hbuilt.ownsKey hleast.1)
  · intro acts hacts message e hevent hpass
    refine ⟨_, congrArg Prod.fst (receive_of_some _ hevent), fun hstale => ?_⟩
    refine Channel.receive_eq_stale_iff.mp hstale ?_
    rw [run_token hacts, hpass]

/-- In a small project the token is the address of the stylesheet. -/
theorem document_token_current_small :
    ∃ r after table nodes d, (new {} 0).render .small "a.css" = (r, after) ∧
      Import.Table.get? table "/a.css" = some "blob:preview/0/0" ∧
      Page.tableNode table ∈ Html.Node.subtrees nodes ∧
      Page.captureNode "blob:preview/0/0" ∈ Html.Node.subtrees nodes ∧
      r.document = Html.Node.writtenAll false nodes ∧
      (after.close.receive report.toMessage).1 = some d ∧ d ≠ .stale := by
  have hfiles : (Snapshot.small.loadable (new {} 0).settings).map (·.1) = ["a.css"] := by decide +kernel
  have hsome : Snapshot.small.loadable (new {} 0).settings ≠ [] := by
    intro hnil
    rw [hnil] at hfiles
    exact absurd hfiles nofun
  have hreport : Event.ofMessage? report.toMessage = some report := Event.ofMessage?_toMessage rfl
  have hclose : ∀ act ∈ [Act.close], ¬ act.IsRender :=
    List.forall_mem_singleton.mpr Act.not_isRender_close
  have hpass : ((new {} 0).render .small "a.css").1.mode = .application ∧
      ((new {} 0).render .small "a.css").1.failure? = none ∧
      ((new {} 0).render .small "a.css").2.channel.token = "blob:preview/0/0" := by
    decide +kernel
  rcases hrender : (new {} 0).render .small "a.css" with ⟨r, after⟩
  rw [hrender] at hpass
  obtain ⟨hmode, hmade, htoken⟩ := hpass
  obtain ⟨⟨markup, modules, nodes, -, -, -, document, placed, captured, -, hfirst⟩, hevents⟩ :=
    document_token_current (.new {} 0) hrender hmode hmade
  obtain ⟨m, rest, addresses, -, -, ⟨hmem, -⟩, -, -, hkey⟩ := hfirst hsome
  obtain ⟨d, hd, hcurrent⟩ := hevents [.close] hclose report.toMessage report hreport htoken.symm
  have hentry := hkey (Snapshot.built_ofList _)
  rw [hfiles] at hmem
  rw [List.mem_singleton.mp hmem, htoken] at hentry
  exact ⟨r, after, _, nodes, d, rfl, hentry, placed, htoken ▸ captured rfl, document, hd, hcurrent⟩

/-- A project that is decoded from a text: two of its paths differ in a slash in front. -/
def shadowing : Snapshot := .edited
  [.decode "\x7b\"/a.js\":\"\",\"a.js\":\"\",\"index.html\":\"<script type=module src=/index.tsx>\"\x7d"]

/-- **The table may lead elsewhere from the least path.** Of two paths with one key the second has the entry, and
the token is the address of the first. -/
theorem least_path_shadowed :
    ∃ r after table nodes, (new {} 0).render shadowing "a.js" = (r, after) ∧
      r.mode = .application ∧ r.failure? = none ∧
      r.document = Html.Node.writtenAll false nodes ∧
      Page.tableNode table ∈ Html.Node.subtrees nodes ∧
      Page.captureNode after.channel.token ∈ Html.Node.subtrees nodes ∧
      shadowing.LeastLoadable {} "/a.js" ∧ Import.internalKey "/a.js" = "/a.js" ∧
      after.channel.token = "blob:preview/0/0" ∧ table.get? "/a.js" = some "blob:preview/0/1" := by
  have hfiles : (shadowing.loadable {}).map (·.1) = ["/a.js", "a.js"] := by decide +kernel
  have hkeys : (Import.internalKey "/a.js", Import.internalKey "a.js") = ("/a.js", "/a.js") := by decide +kernel
  have hleast : shadowing.LeastLoadable {} "/a.js" := by
    refine ⟨hfiles ▸ List.mem_cons_self, fun q hq => ?_⟩
    rw [hfiles, List.mem_pair] at hq
    refine hq.imp_right fun he => ?_
    rw [he]
    decide +kernel
  have hpass : ((new {} 0).render shadowing "a.js").1.mode = .application ∧
      ((new {} 0).render shadowing "a.js").1.failure? = none ∧
      ((new {} 0).render shadowing "a.js").2.channel.token = "blob:preview/0/0" ∧
      ((new {} 0).render shadowing "a.js").2.registry.held = ["blob:preview/0/0", "blob:preview/0/1"] := by
    decide +kernel
  rcases hrender : (new {} 0).render shadowing "a.js" with ⟨r, after⟩
  rw [hrender] at hpass
  obtain ⟨hmode, hmade, htoken, hheld⟩ := hpass
  obtain ⟨markup, modules, nodes, -, compiled, -, -, htree, document, placed⟩ :=
    tree_of_render hrender hmode hmade
  have hpaths : modules.map (·.path) = ["/a.js", "a.js"] := (Snapshot.modules_ok_paths compiled).trans hfiles
  refine ⟨r, after, _, nodes, rfl, hmode, hmade, document, placed, Page.captureNode_mem_tree rfl htree,
    hleast, (Prod.ext_iff.mp hkeys).1, htoken, ?_⟩
  -- Both entries are put under one key, the one of the second path behind the one of the first.
  rw [tableAt, hpaths, hheld]
  decide +kernel

/-! ## Tokens of different passes -/

/-- No address is the key of a frame. -/
theorem frame_key_ne (hrender : s.render snapshot selected = (r, after)) {h : Resource.Host} {a : String}
    (ha : h.HasIssued a) : a ≠ r.frame.key := by
  rw [frame_key_eq hrender]
  exact ha.ne_selectionKey snapshot selected

variable {later : Session} {r' : Rendering} {snapshot' : Snapshot} {selected' : String} {acts : List Act}

/-- **Two passes of a session have the same token exactly if neither left an address in use and their frames
have the same key.** -/
theorem tokens_eq_iff (hfirst : s.render snapshot selected = (r, after))
    (hlater : (after.run acts).render snapshot' selected' = (r', later)) :
    after.channel.token = later.channel.token ↔
      after.registry.held = [] ∧ later.registry.held = [] ∧ r.frame.key = r'.frame.key := by
  rcases token_cases hfirst with ⟨hheld, htoken⟩ | ⟨hheld, hissued, -⟩
  · rcases token_cases hlater with ⟨hheld', htoken'⟩ | ⟨hheld', hissued', -⟩
    · rw [htoken, htoken']
      exact ⟨fun h => ⟨hheld, hheld', h⟩, fun h => h.2.2⟩
    · refine ⟨fun h => ?_, fun h => absurd h.2.1 hheld'⟩
      exact absurd (h.symm.trans htoken) (frame_key_ne hfirst hissued')
  · refine ⟨fun h => ?_, fun h => absurd h.1 hheld⟩
    rcases token_cases hlater with ⟨hheld', htoken'⟩ | ⟨hheld', -, hnew⟩
    · exact absurd (h.trans htoken') (frame_key_ne hlater hissued)
    · -- What the first pass gave out, the later one cannot give out again.
      exact absurd (run_hasIssued acts (h ▸ hissued)) hnew

/-- **An event of an earlier pass is stale, and changes nothing**, unless neither the earlier nor the later
pass left an address in use and both had the same frame key. Then nothing tells the two passes apart, and
the event counts as one of the later pass. -/
theorem superseded_stale_iff (hfirst : s.render snapshot selected = (r, after))
    (hlater : (after.run acts).render snapshot' selected' = (r', later)) {rest : List Act}
    (hrest : ∀ act ∈ rest, ¬ act.IsRender) {message : Json.Value} {e : Event}
    (hevent : Event.ofMessage? message = some e) (hpass : e.pass = after.channel.token) :
    (((later.run rest).receive message).1 = some .stale ↔
      after.registry.held ≠ [] ∨ later.registry.held ≠ [] ∨ r.frame.key ≠ r'.frame.key) ∧
    (((later.run rest).receive message).1 = some .stale →
      ((later.run rest).receive message).2 = later.run rest) := by
  refine ⟨?_, receive_of_stale⟩
  rw [receive_eq_stale_iff hevent, run_token hrest, hpass, ne_eq, tokens_eq_iff hfirst hlater]
  simp only [not_and_or, ne_eq]

/-- In a small project that is rendered twice, the report of the first pass is stale after the second. -/
theorem superseded_stale_small :
    ∃ r s₁ r' s₂, (new {} 0).render .small "a.css" = (r, s₁) ∧
      s₁.close.render .small "a.css" = (r', s₂) ∧
      s₂.close.receive report.toMessage = (some .stale, s₂.close) := by
  have hfirst : ((new {} 0).render .small "a.css").2.channel.token = "blob:preview/0/0" ∧
      ((new {} 0).render .small "a.css").2.registry.held ≠ [] := by
    decide +kernel
  rcases h₁ : (new {} 0).render .small "a.css" with ⟨r, s₁⟩
  rw [h₁] at hfirst
  rcases h₂ : (s₁.run [.close]).render .small "a.css" with ⟨r', s₂⟩
  have hclose : ∀ act ∈ [Act.close], ¬ act.IsRender :=
    List.forall_mem_singleton.mpr Act.not_isRender_close
  obtain ⟨hstale, hunchanged⟩ := superseded_stale_iff h₁ h₂ hclose
    (Event.ofMessage?_toMessage (e := report) rfl) hfirst.1.symm
  have hdelivery := hstale.mpr (Or.inl hfirst.2)
  exact ⟨r, s₁, r', s₂, rfl, h₂, Prod.ext hdelivery (hunchanged hdelivery)⟩

/-! ## The exception -/

/-- A project without modules has the same token whenever the same file is selected. -/
theorem token_recurs (hnone : snapshot.loadable s.settings = [])
    (hfirst : s.render snapshot selected = (r, after))
    (hlater : (after.run acts).render snapshot selected = (r', later)) :
    after.channel.token = later.channel.token := by
  have hsettings : (after.run acts).settings = s.settings := by
    obtain ⟨-, rfl⟩ := Prod.ext_iff.mp hfirst
    rw [run_settings, render_settings]
  refine (tokens_eq_iff hfirst hlater).mpr ⟨held_eq_nil hnone hfirst, ?_, ?_⟩
  · exact held_eq_nil (hsettings ▸ hnone) hlater
  · rw [frame_key_eq hfirst, frame_key_eq hlater]

/-- A rendering shows no event yet. -/
theorem current?_of_render (hrender : s.render snapshot selected = (r, after)) :
    after.channel.current? = none := by
  obtain ⟨-, rfl⟩ := Prod.ext_iff.mp hrender
  rw [render_channel]
  rfl

/-- The first event with the token is shown. -/
theorem receive_first {message : Json.Value} {e : Event} (hevent : Event.ofMessage? message = some e)
    (hcurrent : s.channel.current? = none) (hpass : e.pass = s.channel.token) :
    s.receive message = (some .shown, { s with channel := ⟨s.channel.token, some e⟩ }) := by
  have hreceive : s.channel.receive e = (.shown, ⟨s.channel.token, some e⟩) := by
    unfold Channel.receive
    rw [if_neg (by simpa using hpass), if_neg (by rw [hcurrent]; nofun)]
  rw [receive_of_some s hevent, hreceive]

/-- A project that holds an entry document and nothing else. -/
def bare : Snapshot := .ofList [("index.html", "<script type=module src=/a>")]

def bareSettings : Settings := { entryScript := "/a" }

/-- Two selections of this project have different keys. -/
theorem bare_keys_ne : bare.selectionKey "" ≠ bare.selectionKey "index.html" := by
  have hfingerprint : bare.fingerprint =
      "385a57fe05b2f8cd7356f0b825647cfe0c393de77dbaa93c5afb7e4fd1acb647" := by
    decide +kernel
  unfold Snapshot.selectionKey Snapshot.selectionBytes
  rw [hfingerprint]
  decide +kernel

/-- A project without modules is shown, then nothing, then the project again: an event of the first pass
is shown after the third, though the frame key has changed twice. -/
theorem recurring_input_shown :
    ∃ r₁ s₁ r₂ s₂ r₃ s₃ message e,
      (new bareSettings 0).render bare "index.html" = (r₁, s₁) ∧
      s₁.render bare "" = (r₂, s₂) ∧
      s₂.render bare "index.html" = (r₃, s₃) ∧
      r₁.mode = .application ∧ r₁.failure? = none ∧ r₂.frame.key ≠ r₁.frame.key ∧
      Event.ofMessage? message = some e ∧ e.pass = s₁.channel.token ∧
      s₃.channel.current? = none ∧
      s₃.receive message = (some .shown, { s₃ with channel := ⟨s₃.channel.token, some e⟩ }) := by
  have hnone : bare.loadable (new bareSettings 0).settings = [] := by decide +kernel
  have hpass : ((new bareSettings 0).render bare "index.html").1.mode = .application ∧
      ((new bareSettings 0).render bare "index.html").1.failure? = none := by
    decide +kernel
  generalize new bareSettings 0 = s at *
  rcases h₁ : s.render bare "index.html" with ⟨r₁, s₁⟩
  rw [h₁] at hpass
  rcases h₂ : s₁.render bare "" with ⟨r₂, s₂⟩
  rcases h₃ : s₂.render bare "index.html" with ⟨r₃, s₃⟩
  have hlater : (s₁.run [.render bare ""]).render bare "index.html" = (r₃, s₃) := by
    show (s₁.render bare "").2.render bare "index.html" = _
    rw [h₂, h₃]
  have hcurrent := current?_of_render h₃
  have hevent : Event.ofMessage? { report with pass := s₁.channel.token }.toMessage =
      some { report with pass := s₁.channel.token } := Event.ofMessage?_toMessage rfl
  refine ⟨r₁, s₁, r₂, s₂, r₃, s₃, _, _, rfl, h₂, h₃, hpass.1, hpass.2, ?_, hevent, rfl, hcurrent, ?_⟩
  · rw [frame_key_eq h₁, frame_key_eq h₂]
    exact bare_keys_ne
  · exact receive_first hevent hcurrent (token_recurs hnone h₁ hlater)

end Session

end Vitrine
