import Vitrine.Json.Quoted
import Vitrine.Script.Node

/-!
# Module specifiers of a script

The string literals that name other modules: the sources of imports and exports, also of those that
only concern types, and the arguments of `import` calls that are plain literals.
-/

namespace Vitrine.Script

/-- The half of a pair written out behind a replacement character, so that the text stays a
sequence of characters. -/
def loneMark (n : Nat) : List Char :=
  Char.ofNat 0xFFFD :: [n / 4096, n / 256, n / 16, n].map fun d => Json.hexDigit (d % 16)

/-- A string value as a text: unpaired surrogates are written out, and so are replacement characters
beside them. -/
def Text.toText (t : Text) : String :=
  if t.any isSurrogate then
    String.ofList (t.flatMap fun n =>
      if isSurrogate n || n = 0xFFFD then loneMark n else [Char.ofNat n])
  else String.ofList (t.map Char.ofNat)

namespace Node

/-- The specifiers at a node itself. -/
def ownSpecifiers : Node → List Quote
  | stmt (.importFrom _ _ _ _ source _) => [source]
  | stmt (.exportAll _ _ _ source _) => [source]
  | stmt (.exportNames _ _ _ source _) => source.toList
  | expr (.importCall _ _ (.literal pos (.string value raw) stop) _ _) => [⟨pos, stop, value, raw⟩]
  | _ => []

end Node

/-- All specifiers, in the order of the text. -/
def Program.specifiers (p : Program) : List Quote :=
  p.stmts.flatMap fun s => (Node.stmt s).collect Node.ownSpecifiers

end Vitrine.Script
