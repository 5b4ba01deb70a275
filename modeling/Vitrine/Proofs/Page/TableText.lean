import Vitrine.Import.Read
import Vitrine.Proofs.Import.Table
import Vitrine.Proofs.Json.Entries
import Vitrine.Proofs.Page.Scripts

/-!
# The text of the import table (sections 4.5 and 4.6)

The import table goes into the page as the text of a script, with each `</` written `<\/`. As `</` stands in the
literals of the table only, this is a replacement in each literal by itself (`tableScript_toList`), and each
literal still denotes what it did.

The text is what `to_json` writes, with the rewriting that `synthesize_document` does.

* `table_embedded`: so the text is read back as the table, with its entries in their order, and nothing in it
  ends the script; and a file that is put keeps the place of its key, or comes last.
-/

namespace Vitrine.Page

open Json (Denotes entryText)

/-! ## Guarded literals -/

/-- Writes each `</` as it may stand in a script. -/
def guarded (text : List Char) : List Char := Text.substituteFrom ['<', '/'] ['<', '\\', '/'] 0 text

theorem denotes_scriptLiteral (s : String) : Denotes (scriptLiteral s).toList s :=
  ⟨_, scriptLiteral_toList s, (Json.spells_escape s.toList).guarded⟩

/-- What stands outside of literals is kept. -/
theorem guarded_clear {text : List Char} (h : '<' ∉ text) (rest : List Char) :
    guarded (text ++ rest) = text ++ guarded rest :=
  Text.substituteFrom_clear h rest

/-- A literal is guarded by itself, as it ends in a quote. -/
theorem guarded_quoted (s : String) (rest : List Char) :
    guarded ((Json.quoted s).toList ++ rest) = (scriptLiteral s).toList ++ guarded rest := by
  rw [guarded, Text.substituteFrom_append (List.cons_ne_nil _ _), scriptLiteral, scriptSafe_toList, guarded]
  intro front behind heq hfront hbehind hends _
  have hlast : '"' ∈ ['<', '/'] := by
    obtain ⟨start, c, rfl⟩ := (List.eq_nil_or_concat' front).resolve_left hfront
    rw [Json.quoted, String.toList_ofList, ← List.cons_append] at hends
    obtain ⟨hc, -⟩ : c = '"' ∧ start <:+ '"' :: Json.escape s.toList := by
      simpa using List.suffix_concat_iff.mp hends
    rw [heq, ← hc]
    simp
  exact absurd hlast (by decide)

/-- The literal of a text before it is guarded. -/
def plainLiteral (s : String) : List Char := (Json.quoted s).toList

/-- The literal of a text in a script. -/
def guardedLiteral (s : String) : List Char := (scriptLiteral s).toList

theorem guarded_entry (e : String × String) (rest : List Char) :
    guarded (entryText plainLiteral e ++ rest) = entryText guardedLiteral e ++ guarded rest := by
  have hcolon : ':' :: plainLiteral e.2 ++ rest = [':'] ++ (plainLiteral e.2 ++ rest) := by
    rw [List.cons_append, List.singleton_append]
  rw [entryText, entryText, List.append_assoc, hcolon, plainLiteral, guarded_quoted, guarded_clear (by decide),
    plainLiteral, guarded_quoted, guardedLiteral, guardedLiteral, List.append_assoc, List.singleton_append,
    List.cons_append]

theorem guarded_entries (es : List (String × String)) (rest : List Char) :
    guarded (List.intercalate [','] (es.map (entryText plainLiteral)) ++ '\x7d' :: rest) =
      List.intercalate [','] (es.map (entryText guardedLiteral)) ++ '\x7d' :: guarded rest := by
  have hend : guarded ('\x7d' :: rest) = '\x7d' :: guarded rest :=
    show guarded (['\x7d'] ++ rest) = _ from guarded_clear (by decide) rest
  induction es with
  | nil => exact hend
  | cons e es ih =>
    cases es with
    | nil =>
      rw [List.map_singleton, List.map_singleton, List.intercalate_singleton, List.intercalate_singleton,
        guarded_entry, hend]
    | cons e' es =>
      rw [List.map_cons, List.map_cons, List.map_cons, List.map_cons, List.intercalate_cons_cons,
        List.intercalate_cons_cons, List.append_assoc, List.append_assoc, guarded_entry, List.append_assoc,
        guarded_clear (by decide), ← List.map_cons, ih, List.map_cons, List.append_assoc]

/-! ## The table -/

/-- **The text of a table in a script**: each literal is guarded by itself. -/
theorem tableScript_toList (table : Import.Table) :
    (tableScript table).toList = '\x7b' :: (guardedLiteral "imports" ++ ':' ::
      ('\x7b' :: (List.intercalate [','] (table.entries.map (entryText guardedLiteral)) ++
        ['\x7d', '\x7d']))) := by
  have hfront : "\x7b\"imports\":".toList = '\x7b' :: (guardedLiteral "imports" ++ [':']) := by decide
  have hclear : '<' ∉ "\x7b\"imports\":".toList ++ ['\x7b'] := by decide
  have hlast : guarded ['\x7d'] = ['\x7d'] := by decide
  have hentry : (fun e : String × String => (Json.quoted e.1).toList ++ ':' :: (Json.quoted e.2).toList) =
      entryText plainLiteral := rfl
  have hentries := guarded_entries table.entries ['\x7d']
  rw [tableScript, scriptSafe_toList, json_toList, hentry, List.append_cons, ← guarded, guarded_clear hclear,
    hentries, hlast, hfront]
  simp only [List.cons_append, List.append_assoc, List.nil_append]

theorem not_slash_tableScript (table : Import.Table) : ¬ ['<', '/'] <:+: (tableScript table).toList := by
  rw [tableScript]
  exact not_slash_scriptSafe table.json

/-- The text of a table is an object with the entries of the table. -/
theorem readAll_tableScript (table : Import.Table) :
    Json.readAll Import.Table.record.read (tableScript table) = .ok [("imports", .entries table.entries)] :=
  Json.readAll_record denotes_scriptLiteral rfl (tableScript_toList table)

/-- **The import table is embedded without loss**, for every table. Its text in the page holds no `</`, and is
read as an object whose only field has the entries of the table in their order, and so as the table. A file
that is put changes the address of its key at its place if the key is there, and else comes last; all other
entries stay. -/
theorem table_embedded (table : Import.Table) (path address : String) :
    ¬ ['<', '/'] <:+: (tableScript table).toList ∧
    Json.readAll Import.Table.record.read (tableScript table) = .ok [("imports", .entries table.entries)] ∧
    Import.Table.ofText (tableScript table) = .ok table ∧
    (∀ before old behind, table.entries = before ++ (Import.internalKey path, old) :: behind →
      (table.putFile path address).entries = before ++ (Import.internalKey path, address) :: behind) ∧
    (Import.internalKey path ∉ table.entries.keys →
      (table.putFile path address).entries = table.entries ++ [(Import.internalKey path, address)]) := by
  refine ⟨not_slash_tableScript table, readAll_tableScript table, ?_, ?_, ?_⟩
  · rw [Import.Table.ofText, readAll_tableScript]
    exact congrArg Except.ok table.ofList_entries
  · intro before old behind heq
    exact Import.Entries.put_of_eq heq table.nodup_keys
  · exact Import.Entries.put_of_notMem

end Vitrine.Page
