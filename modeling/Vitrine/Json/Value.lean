import Vitrine.Json.Reader

/-!
# Values

Messages between programs arrive as values that somebody else has read. Data are taken from them by the
same rules as from texts, but the problems have no place. The fields of an object are met in the order
of their keys, not in the order in which they were written.
-/

namespace Vitrine.Json

/-- A value. The keys of an object ascend. -/
inductive Value where
  | null
  | boolean (b : Bool)
  | number (n : Number)
  | text (s : String)
  | list (items : List Value)
  | object (fields : List (String × Value))
  deriving Inhabited

namespace Value

/-- What messages say that the value is. -/
def found : Value → Found
  | null => .null
  | boolean b => .boolean b
  | number n => n.found
  | text s => .text s
  | list _ => .list
  | object _ => .object

/-- The problem that the value stands where `expected` is asked for. -/
def mismatch (v : Value) (expected : String) : Problem := .wrongType v.found expected

def readText : Value → Except Problem String
  | text s => .ok s
  | v => .error (v.mismatch "a string")

def readItems : Value → Except Problem (List Value)
  | list items => .ok items
  | v => .error (v.mismatch "a sequence")

/-- One of some known words, as a text or as the only key of an object that gives nothing for it. -/
def readWord (known : List String) : Value → Except Problem String
  | text s => if known.contains s then .ok s else .error (.unknownVariant s known)
  | object [(key, given)] =>
    if known.contains key then
      match given with
      | null => .ok key
      | v => .error (v.mismatch "unit")
    else .error (.unknownVariant key known)
  | object _ => .error (.wrongValue .object "map with a single key")
  | v => .error (v.mismatch "string or map")

end Value

/-! ## Records of texts -/

/-- A field of a record of texts: one of the `known` words if there are any, and else any text. A
field with a `default` may be missing. -/
structure TextField where
  name : String
  known : List String := []
  default? : Option String := none

namespace TextField

def read (f : TextField) (v : Value) : Except Problem String :=
  if f.known.isEmpty then v.readText else v.readWord f.known

end TextField

/-- A record of texts: what messages call it, and its fields in order. -/
structure TextRecord where
  name : String
  fields : List TextField

namespace TextRecord

/-- The texts of a record that is written as the list of its fields. -/
def listed (r : TextRecord) (length : Nat) : List TextField → List Value →
    Except Problem (List (String × String))
  | [], [] => .ok []
  | [], _ => .error (.wrongLength length "fewer elements in array")
  | f :: fields, [] =>
    match f.default? with
    | some default => (listed r length fields []).map ((f.name, default) :: ·)
    | none => .error (.wrongLength length (wholeLength r.name r.fields.length))
  | f :: fields, v :: vs => do
    let s ← f.read v
    return (f.name, s) :: (← listed r length fields vs)

/-- The texts under the keys that are fields. -/
def given (r : TextRecord) (object : List (String × Value)) :
    Except Problem (List (String × String)) :=
  (object.filterMap fun (key, v) => (r.fields.find? (·.name == key)).map (·, v)).mapM
    fun (f, v) => (f.read v).map (f.name, ·)

/-- The text of every field. -/
def read (r : TextRecord) : Value → Except Problem (List (String × String))
  | .list items => r.listed items.length r.fields items
  | .object fields => do
    let given ← r.given fields
    r.fields.mapM fun f =>
      match given.lookup f.name <|> f.default? with
      | some s => .ok (f.name, s)
      | none => .error (.missingField f.name)
  | v => .error (v.mismatch ("struct " ++ r.name))

end TextRecord

end Vitrine.Json
