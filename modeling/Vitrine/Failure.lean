/-!
# Why a preview fails (section 7)

The ways in which a preview can fail, a code for each that programs can rely on, and a text for
people.

These are the cases of `PreviewError`, with its `code`.
-/

namespace Vitrine

inductive Failure where
  | missingEntryDocument (path : String)
  | missingInjectionPoint (entry script : String)
  | brokenScript (path message : String)
  | invalidSettings (message : String)
  | unserializable (message : String)
  deriving DecidableEq

namespace Failure

def code : Failure → String
  | missingEntryDocument _ => "MISSING_ENTRY_DOCUMENT"
  | missingInjectionPoint .. => "MISSING_INJECTION_POINT"
  | brokenScript .. => "TRANSPILE_FAILURE"
  | invalidSettings _ => "INVALID_CONFIG"
  | unserializable _ => "SERIALIZE"

def message : Failure → String
  | missingEntryDocument path => "entry document '" ++ path ++ "' not found"
  | missingInjectionPoint entry script =>
    "entry document '" ++ entry ++ "' has no <script type=\"module\" src=\"" ++ script ++ "\"> tag"
  | brokenScript path message => path ++ ": " ++ message
  | invalidSettings message => "invalid preview config: " ++ message
  | unserializable message => "serialization failed: " ++ message

end Failure

end Vitrine
