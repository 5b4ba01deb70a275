import Vitrine.Import.Specifier
import Vitrine.Import.Table
import Vitrine.Json.Quoted
import Vitrine.Script.Specifiers
import Vitrine.Text.Replace

/-!
# Linking specifiers to files (section 4.4)

Before a script is compiled, each specifier of a project file is replaced by the key of that file.
Those that will not load are reported: packages that are not pinned, and keys of files that are
missing or become no modules.

Linking is `normalize_specifiers`.
-/

namespace Vitrine.Import

/-- Whether what a specifier stands for will be in the import table. -/
def willLoad (settings : Settings) (snapshot : Snapshot) (importer specifier : String) : Bool :=
  match resolve? importer specifier snapshot with
  | some key => snapshot.contains key && (FileKind.ofPath settings key).isLoadable
  | none => isExternal specifier

/-- The replacement that a specifier needs, if its key is written differently. -/
def replacement? (snapshot : Snapshot) (importer : String) (q : Script.Quote) :
    Option Text.Replacement :=
  let specifier := q.value.toText
  let key := target importer specifier snapshot
  if key = specifier then none else some ⟨q.pos, q.stop, (Json.quoted key).toList⟩

/-- The text with every specifier replaced that needs it. -/
def linked (snapshot : Snapshot) (importer : String) (found : List Script.Quote)
    (source : List Char) : List Char :=
  Text.splice (found.filterMap (replacement? snapshot importer)) source

/-- What will not load, each once, in the order of its first occurrence. -/
def unresolved (settings : Settings) (snapshot : Snapshot) (importer : String)
    (found : List Script.Quote) : List String :=
  let missing := (found.map (·.value.toText)).filter (!willLoad settings snapshot importer ·)
  (missing.map (target importer · snapshot)).eraseDups

end Vitrine.Import
