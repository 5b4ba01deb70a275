import Vitrine.Module
import Vitrine.Proofs.Json.Literal
import Vitrine.Proofs.Text.AtOnce

/-!
# Texts in generated code (section 4.4)

Two kinds of text of a project go into code as literals: the text and the id of a stylesheet into its module,
and the keys of files into the scripts that name them. Whatever characters they have, the literals are read as
the texts, and nothing in them ends a literal or a line.

`wrap_stylesheet` makes the module of a stylesheet, and `normalize_specifiers` writes the keys.

* `Import.Links`: a replacement that writes the key which a specifier stands for.
* `Import.linked_eq_atOnce`: linking makes these replacements and changes nothing else.
* `Module.literals_denote`: the literals of stylesheets and of linked scripts.
-/

namespace Vitrine

/-! ## Linked specifiers -/

namespace Import

variable {snapshot : Snapshot} {importer key : String} {q : Script.Quote} {r : Text.Replacement}

/-- The replacement puts a literal of the key that the specifier stands for in the place of the specifier. -/
structure Links (snapshot : Snapshot) (importer : String) (q : Script.Quote) (r : Text.Replacement) :
    Prop where
  start : r.start = q.pos
  stop : r.stop = q.stop
  key : ∃ key, resolve? importer q.value.toText snapshot = some key ∧
    Json.IsLiteral (String.ofList r.text) key

/-- A package stands for itself, so what is written differently is a key of the project. -/
theorem resolve?_of_target_ne {specifier : String} (h : target importer specifier snapshot ≠ specifier) :
    resolve? importer specifier snapshot = some (target importer specifier snapshot) := by
  rw [target] at h ⊢
  cases hkey : resolve? importer specifier snapshot with
  | none => exact absurd (by rw [hkey]; rfl) h
  | some key => rfl

theorem links_replacement (h : replacement? snapshot importer q = some r) : Links snapshot importer q r := by
  simp only [replacement?] at h
  split at h
  · exact absurd h nofun
  · rename_i hne
    obtain rfl := Option.some.inj h
    refine ⟨rfl, rfl, _, resolve?_of_target_ne hne, ?_⟩
    dsimp only
    rw [String.ofList_toList]
    exact Json.isLiteral_quoted _

/-- Whose key is written differently is replaced. -/
theorem exists_replacement (hkey : resolve? importer q.value.toText snapshot = some key)
    (hne : key ≠ q.value.toText) : ∃ r, replacement? snapshot importer q = some r := by
  have htarget : target importer q.value.toText snapshot = key := by rw [target, hkey]; rfl
  simp only [replacement?, htarget, if_neg hne]
  exact ⟨_, rfl⟩

/-- **Linking replaces each specifier at its own place** and keeps all other characters, if no two specifiers
overlap. -/
theorem linked_eq_atOnce {found : List Script.Quote} {source : List Char}
    (hdisjoint : found.Pairwise fun q q' => q.stop ≤ q'.pos ∨ q'.stop ≤ q.pos)
    (hin : ∀ q ∈ found, q.pos < q.stop ∧ q.stop ≤ source.length) :
    linked snapshot importer found source =
      Text.atOnce Text.Replacement.text (found.filterMap (replacement? snapshot importer)) source := by
  refine Text.splice_eq_atOnce (List.pairwise_filterMap.mpr ?_) fun r hr => ?_
  · refine hdisjoint.imp fun {q q'} hq r hr r' hr' => ?_
    have hlinks := links_replacement hr
    have hlinks' := links_replacement hr'
    rwa [Text.Replacement.Disjoint, hlinks.start, hlinks.stop, hlinks'.start, hlinks'.stop]
  · obtain ⟨q, hq, hr⟩ := List.mem_filterMap.mp hr
    have hlinks := links_replacement hr
    rw [hlinks.start, hlinks.stop]
    exact hin q hq

end Import

namespace Module

/-- **Literals in generated code are read as the texts they stand for**, and end neither early nor on another
line. The module of a stylesheet begins with two lines that give names to a literal of its text and to one of
the id of its element, and goes on as that of every other stylesheet. What linking writes into a script are
literals of keys: each stands for a specifier, and each specifier whose key is written differently has one. -/
theorem literals_denote : ∃ behind : String, ∀ path : String,
    (∀ css, ∃ text id, Json.IsLiteral text css ∧ Json.IsLiteral id (styleId path) ∧
      (ofStylesheet path css).code =
        "const css = " ++ text ++ ";\n" ++ ("const styleTagId = " ++ id ++ ";\n") ++ behind) ∧
    ∀ snapshot found source, ∃ rs, Import.linked snapshot path found source = Text.splice rs source ∧
      (∀ r ∈ rs, ∃ q ∈ found, Import.Links snapshot path q r) ∧
      ∀ q ∈ found, ∀ key, Import.resolve? path q.value.toText snapshot = some key →
        key ≠ q.value.toText → ∃ r ∈ rs, Import.Links snapshot path q r := by
  refine ⟨unlines styleLines, fun path => ⟨fun css => ?_, fun snapshot found source => ?_⟩⟩
  · refine ⟨Json.quoted css, Json.quoted (styleId path), Json.isLiteral_quoted css,
      Json.isLiteral_quoted _, ?_⟩
    simp only [ofStylesheet, unlines, List.cons_append, List.nil_append, List.map_cons, String.join_cons,
      String.append_assoc]
    rfl
  · refine ⟨found.filterMap (Import.replacement? snapshot path), rfl, fun r hr => ?_,
      fun q hq key hkey hne => ?_⟩
    · obtain ⟨q, hq, hr⟩ := List.mem_filterMap.mp hr
      exact ⟨q, hq, Import.links_replacement hr⟩
    · obtain ⟨r, hr⟩ := Import.exists_replacement hkey hne
      exact ⟨r, List.mem_filterMap.mpr ⟨q, hq, hr⟩, Import.links_replacement hr⟩

end Module

end Vitrine
