import Mathlib.Data.List.DropRight
import Vitrine.Proofs.Page.Injection
import Vitrine.Settings.Read

/-!
# Which exact tags are found (sections 4.6 and 9.3)

Settings that are accepted name the first module by any text that begins with a slash, and the tag of an entry
document may name it by just this text. But of the text in the tag blanks at both ends do not count, and of the
text in the settings they do. A text that ends in a blank is therefore found in no document at all; every other
one is found in each document with the exact tag.

`validate` accepts the settings, and the test for an injection point in `parse` of the `DocumentBuilder` trims
one side only.

* `Settings.head?_entryScript`: what acceptance says of the text in the settings.
* `exact_tag_found_iff`: for which accepted settings an exact tag makes a page.
* `exact_tag_missed`: settings and a document with the exact tag that make none.
-/

namespace Vitrine

/-! ## Trimmed texts -/

namespace Text

variable {s : List Char}

theorem dropWhile_eq_iff {p : Char → Bool} : s.dropWhile p = s ↔ s.head?.any p = false := by
  cases s <;> simp [List.dropWhile_eq_self_iff]

theorem dropTailWhile_eq_iff {p : Char → Bool} : dropTailWhile p s = s ↔ s.getLast?.any p = false := by
  rw [dropTailWhile, List.reverse_eq_iff, dropWhile_eq_iff, List.head?_reverse]

/-- What is trimmed does not end in a blank. -/
theorem getLast?_trimBlank (s : List Char) : (trimBlank s).getLast?.any isBlank = false := by
  rw [← dropTailWhile_eq_iff]
  exact List.rdropWhile_idempotent isBlank (s.dropWhile isBlank)

/-- A text that neither begins nor ends with a blank is left alone. -/
theorem trimBlank_eq (hfirst : s.head?.any isBlank = false) (hlast : s.getLast?.any isBlank = false) :
    trimBlank s = s := by
  rw [trimBlank, dropWhile_eq_iff.mpr hfirst, dropTailWhile_eq_iff.mpr hlast]

end Text

/-! ## Accepted settings -/

theorem Settings.defect?_of_ofText {json : String} {settings : Settings} (h : Settings.ofText json = .ok settings) :
    settings.defect? = none := by
  rw [Settings.ofText] at h
  split at h
  · rw [Settings.checked] at h
    split at h
    · cases h
    · obtain rfl := Except.ok.inj h
      assumption
  · cases h

/-- Settings that are accepted name the first module from the root. -/
theorem Settings.head?_entryScript {json : String} {settings : Settings} (h : Settings.ofText json = .ok settings) :
    settings.entryScript.toList.head? = some '/' := by
  have haccepted := Settings.defect?_of_ofText h
  rw [Settings.defect?] at haccepted
  split at haccepted
  · cases haccepted
  · split at haccepted
    · cases haccepted
    · rename_i hslash
      simpa using hslash

namespace Page

open Html (Node)

variable {settings : Settings} {table : Import.Table} {token markup json : String}

/-- A script element of type `module` that names the first module by the very text of the settings, and holds
nothing. Of several attributes of one name, the first counts. -/
structure IsExactTag (entryScript : String) (n : Node) : Prop where
  script : n.isTag "script" = true
  type : n.value? "type" = some "module"
  src : n.value? "src" = some entryScript
  children : n.children.isEmpty = true

instance (entryScript : String) (n : Node) : Decidable (IsExactTag entryScript n) :=
  decidable_of_iff (n.isTag "script" = true ∧ n.value? "type" = some "module" ∧ n.value? "src" = some entryScript ∧
      n.children.isEmpty = true)
    ⟨fun ⟨hscript, htype, hsrc, hchildren⟩ => ⟨hscript, htype, hsrc, hchildren⟩,
      fun h => ⟨h.script, h.type, h.src, h.children⟩⟩

/-- The text ends in a blank. -/
def EndsInBlank (text : String) : Prop := text.toList.getLast?.any Text.isBlank = true

instance (text : String) : Decidable (EndsInBlank text) := inferInstanceAs (Decidable (_ = _))

/-- A text that ends in a blank is found in no document. -/
theorem EndsInBlank.not_hasInjectionPoint (h : EndsInBlank settings.entryScript) (document : List Node) :
    ¬ HasInjectionPoint settings document := by
  rintro ⟨n, -, hn⟩
  obtain ⟨src, -, hsrc⟩ := (isInjectionPoint_iff.mp hn).source
  have hlast := Text.getLast?_trimBlank src.toList
  rw [EndsInBlank, ← hsrc, String.toList_ofList, hlast] at h
  exact Bool.false_ne_true h

/-- Any other text that begins with a slash is found where it is written exactly. -/
theorem IsExactTag.namesFirstModule {entryScript : String} {n : Node} (h : IsExactTag entryScript n)
    (hslash : entryScript.toList.head? = some '/') (hlast : ¬ EndsInBlank entryScript) :
    NamesFirstModule entryScript n where
  script := h.script
  module := ⟨"module", h.type, by decide⟩
  source := by
    have hfirst : entryScript.toList.head?.any Text.isBlank = false := by rw [hslash]; rfl
    exact ⟨entryScript, h.src, by rw [Text.trimBlank_eq hfirst (Bool.not_eq_true _ ▸ hlast), String.ofList_toList]⟩
  blank := by
    rw [List.isEmpty_iff.mp h.children]
    exact List.forall_mem_nil _

/-- **An exact tag makes a page unless the text of the settings ends in a blank**, and then no tag does. -/
theorem exact_tag_found_iff (table : Import.Table) (token : String) (haccepted : Settings.ofText json = .ok settings)
    (hexact : ∃ n ∈ Node.subtrees (Html.parse markup), IsExactTag settings.entryScript n) :
    (∃ page, application settings table token markup = .ok page) ↔ ¬ EndsInBlank settings.entryScript := by
  have hfound : (∃ page, application settings table token markup = .ok page) ↔
      HasInjectionPoint settings (Html.parse markup) := by
    constructor
    · rintro ⟨page, hpage⟩
      exact (application_ok hpage).1
    · intro hpoint
      cases hpage : application settings table token markup with
      | ok page => exact ⟨page, rfl⟩
      | error failure => exact absurd hpoint (application_error_iff.mp hpage).1
  rw [hfound]
  constructor
  · exact fun hpoint hblank => hblank.not_hasInjectionPoint _ hpoint
  · intro hlast
    obtain ⟨n, hn, hexact⟩ := hexact
    exact ⟨n, hn, isInjectionPoint_iff.mpr
      (hexact.namesFirstModule (Settings.head?_entryScript haccepted) hlast)⟩

/-- The tag of the settings by default. -/
theorem exact_tag_found_default :
    Settings.ofText "\x7b\x7d" = .ok {} ∧
      ∃ page, application {} {} "pass-1" "<script type=\"module\" src=\"/index.tsx\"></script>" = .ok page := by
  have haccepted : Settings.ofText "\x7b\x7d" = .ok {} := by decide +kernel
  have hexact : ∃ n ∈ Node.subtrees (Html.parse "<script type=\"module\" src=\"/index.tsx\"></script>"),
      IsExactTag "/index.tsx" n := by decide +kernel
  exact ⟨haccepted, (exact_tag_found_iff {} "pass-1" haccepted hexact).mpr (by decide)⟩

/-- Settings whose text ends in a blank are accepted, and their exact tag is not found. -/
theorem exact_tag_missed :
    let settings : Settings := { entryScript := "/index.tsx " }
    let markup := "<script type=\"module\" src=\"/index.tsx \"></script>"
    Settings.ofText "\x7b\"entryScript\":\"/index.tsx \"\x7d" = .ok settings ∧
      (∃ n ∈ Node.subtrees (Html.parse markup), IsExactTag settings.entryScript n) ∧
      application settings {} "pass-1" markup = .error (.missingInjectionPoint "index.html" "/index.tsx ") := by
  refine ⟨by decide +kernel, by decide +kernel, ?_⟩
  have hblank : EndsInBlank "/index.tsx " := by decide
  exact application_error_iff.mpr ⟨hblank.not_hasInjectionPoint _, by decide +kernel⟩

end Page

end Vitrine
