import Vitrine.Import.Table
import Vitrine.Json.Reader

/-!
# Import tables from a text

The text of an import table is an object with one field, which holds the addresses by specifier.
-/

namespace Vitrine.Import.Table

/-- How an import table is written. -/
def record : Json.Record where
  name := "ImportMap"
  fields := [("imports", .entries)]
  isOpen := false

/-- The table that a text holds. Of entries with the same key the first gives the place and the last the
address. -/
def ofText (text : String) : Except Json.Misread Table :=
  (Json.readAll record.read text).map fun fields => ofList ((fields.entries? "imports").getD [])

end Vitrine.Import.Table
