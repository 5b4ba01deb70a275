import Vitrine.Json.Skip

/-!
# Reading data of a given form

A text is read as the form asks for, and the first thing that does not fit is reported with its place.
The data of this library are records of simple fields, so forms are simple too. A record may be written
as an object, with fields in any order and others between them, or as the list of its fields.
-/

namespace Vitrine.Json

/-- What messages say about a record whose list of fields is too short. -/
def wholeLength (name : String) (fields : Nat) : String :=
  "struct " ++ name ++ " with "
    ++ (if fields = 1 then "1 element" else Decimal.natural fields ++ " elements")

/-- What a field holds. -/
inductive Form where
  | text
  | boolean
  /-- A number of sixty-four bits without sign. -/
  | natural
  | texts
  /-- An object of texts. -/
  | entries
  deriving DecidableEq, Repr, Inhabited

inductive Datum where
  | text (s : String)
  | boolean (b : Bool)
  | natural (n : Nat)
  | texts (items : List String)
  | entries (items : List (String × String))
  deriving Inhabited

/-! ## Values of one form -/

/-- The problem that another value stands where `expected` is asked for. -/
def mismatch (c : Cursor) (expected : String) : Misread :=
  let behind (found : Found) : Except Misread Cursor → Misread
    | .ok c => c.failAt (.wrongType found expected)
    | .error e => e
  let ofNumber : Except Misread (Number × Cursor) → Misread
    | .ok (n, c) => c.failAt (.wrongType n.found expected)
    | .error e => e
  match c.peek? with
  | some 'n' => behind .null (c.word "null".toList)
  | some 't' => behind (.boolean true) (c.word "true".toList)
  | some 'f' => behind (.boolean false) (c.word "false".toList)
  | some '-' => ofNumber (number c.next true)
  | some '"' =>
    match string c.next with
    | .ok (s, c) => c.failAt (.wrongType (.text s) expected)
    | .error e => e
  | some '[' => c.failAt (.wrongType .list expected)
  | some '\x7b' => c.failAt (.wrongType .object expected)
  | _ => if c.atDigit then ofNumber (number c false) else c.failNext .expectedValue

/-- The cursor at a value. -/
def toValue (c : Cursor) : Except Misread Cursor :=
  let c := c.skipSpace
  if c.rest.isEmpty then .error (c.failNext .unfinishedValue) else .ok c

def readText (c : Cursor) : Except Misread (String × Cursor) := do
  let c ← toValue c
  match c.peek? with
  | some '"' => string c.next
  | _ => throw (mismatch c "a string")

def readBoolean (c : Cursor) : Except Misread (Bool × Cursor) := do
  let c ← toValue c
  match c.peek? with
  | some 't' => return (true, ← c.word "true".toList)
  | some 'f' => return (false, ← c.word "false".toList)
  | _ => throw (mismatch c "a boolean")

def readNatural (c : Cursor) : Except Misread (Nat × Cursor) := do
  let c ← toValue c
  let expected := "u64"
  let negative := c.peek? = some '-'
  if !negative && !c.atDigit then throw (mismatch c expected)
  let (n, c) ← number (if negative then c.next else c) negative
  match n with
  | .integer (.ofNat n) => return (n, c)
  | .integer n => throw (c.failAt (.wrongValue (.integer n) expected))
  | .float x => throw (c.failAt (.wrongType (.float x) expected))

/-! ## Lists and objects -/

/-- The cursor at the next item of a list, or `none` at its end. -/
def nextItem (first : Bool) (c : Cursor) : Except Misread (Option Cursor) :=
  let c := c.skipSpace
  match c.peek? with
  | none => .error (c.failNext .unfinishedList)
  | some ']' => .ok none
  | some ch =>
    if first then .ok (some c)
    else if ch = ',' then
      let c := c.next.skipSpace
      match c.peek? with
      | none => .error (c.failNext .unfinishedValue)
      | some ']' => .error (c.failNext .trailingComma)
      | some _ => .ok (some c)
    else .error (c.failNext .expectedListEnd)

/-- The next key of an object, or `none` at its end. -/
def nextKey (first : Bool) (c : Cursor) : Except Misread (Option (String × Cursor)) := do
  let c := c.skipSpace
  match c.peek? with
  | none => throw (c.failNext .unfinishedObject)
  | some '\x7d' => return none
  | some ch =>
    if first then
      if ch = '"' then return some (← string c.next) else throw (c.failNext .keyNotText)
    else if ch = ',' then
      let c := c.next.skipSpace
      match c.peek? with
      | none => throw (c.failNext .unfinishedValue)
      | some '"' => return some (← string c.next)
      | some '\x7d' => throw (c.failNext .trailingComma)
      | some _ => throw (c.failNext .keyNotText)
    else throw (c.failNext .expectedObjectEnd)

/-- Behind the colon of a field. -/
def colon (c : Cursor) : Except Misread Cursor :=
  let c := c.skipSpace
  match c.peek? with
  | none => .error (c.failNext .unfinishedObject)
  | some ':' => .ok c.next
  | some _ => .error (c.failNext .expectedColon)

/-- Behind the bracket that ends a list. -/
def endList (c : Cursor) : Except Misread Cursor :=
  let c := c.skipSpace
  match c.peek? with
  | none => .error (c.failNext .unfinishedList)
  | some ']' => .ok c.next
  | some ',' =>
    let c := c.next.skipSpace
    if c.peek? = some ']' then .error (c.failNext .trailingComma)
    else .error (c.failNext .trailingCharacters)
  | some _ => .error (c.failNext .trailingCharacters)

/-- Texts up to the end of a list, which is not read, the last one first. -/
def textItems : Nat → List String → Cursor → Except Misread (List String × Cursor)
  | 0, read, c => .ok (read, c)
  | n + 1, read, c => do
    match ← nextItem read.isEmpty c with
    | none => return (read, c)
    | some c =>
      let (s, c) ← readText c
      textItems n (s :: read) c

def readTexts (c : Cursor) : Except Misread (List String × Cursor) := do
  let c ← toValue c
  match c.peek? with
  | some '[' =>
    let (read, c) ← textItems (c.rest.length + 1) [] c.next
    return (read.reverse, ← endList c)
  | _ => throw (mismatch c "a sequence")

/-- Entries up to the end of an object, which is read too, the last one first. -/
def entryItems : Nat → List (String × String) → Cursor →
    Except Misread (List (String × String) × Cursor)
  | 0, read, c => .ok (read, c)
  | n + 1, read, c => do
    match ← nextKey read.isEmpty c with
    | none => return (read, c.skipSpace.next)
    | some (key, c) =>
      let (value, c) ← readText (← colon c)
      entryItems n ((key, value) :: read) c

def readEntries (c : Cursor) : Except Misread (List (String × String) × Cursor) := do
  let c ← toValue c
  match c.peek? with
  | some '\x7b' =>
    let (read, c) ← entryItems (c.rest.length + 1) [] c.next
    return (read.reverse, c)
  | _ => throw (mismatch c "a map")

def readDatum (form : Form) (c : Cursor) : Except Misread (Datum × Cursor) :=
  match form with
  | .text => (readText c).map fun (s, c) => (.text s, c)
  | .boolean => (readBoolean c).map fun (b, c) => (.boolean b, c)
  | .natural => (readNatural c).map fun (n, c) => (.natural n, c)
  | .texts => (readTexts c).map fun (items, c) => (.texts items, c)
  | .entries => (readEntries c).map fun (items, c) => (.entries items, c)

/-! ## Records -/

/-- A record: what messages call it, its fields in order, and whether fields may be missing. -/
structure Record where
  name : String
  fields : List (String × Form)
  isOpen : Bool

/-- The fields that were found. -/
abbrev Fields := List (String × Datum)

namespace Record

/-- What messages call the record. -/
def expected (r : Record) : String := "struct " ++ r.name

/-- The fields of a record that is written as a list. -/
def listed (r : Record) : List (String × Form) → Fields → Cursor →
    Except Misread (Fields × Cursor)
  | [], read, c => do return (read, ← endList c)
  | (name, form) :: rest, read, c => do
    match ← nextItem read.isEmpty c with
    | none =>
      let behind := c.skipSpace.next
      if r.isOpen then return (read, behind)
      else
        throw (behind.failAt (.wrongLength read.length (wholeLength r.name r.fields.length)))
    | some c =>
      let (d, c) ← readDatum form c
      listed r rest ((name, d) :: read) c

/-- The first field that a closed record misses. -/
def missing? (r : Record) (read : Fields) : Option String :=
  if r.isOpen then none
  else (r.fields.find? fun f => (read.lookup f.1).isNone).map (·.1)

/-- The fields of a record that is written as an object. -/
def named (r : Record) : Nat → Bool → Fields → Cursor → Except Misread (Fields × Cursor)
  | 0, _, read, c => .ok (read, c)
  | n + 1, first, read, c => do
    match ← nextKey first c with
    | none =>
      let behind := c.skipSpace.next
      match r.missing? read with
      | some name => throw (behind.failAt (.missingField name))
      | none => return (read, behind)
    | some (key, c) =>
      match r.fields.lookup key with
      | none => named r n false read (← skipValue (← colon c))
      | some form =>
        if (read.lookup key).isSome then
          let behind := c.skipSpace
          let behind := if behind.peek? = some '\x7d' then behind.next else behind
          throw (behind.failAt (.repeatedField key))
        else
          let (d, c) ← readDatum form (← colon c)
          named r n false ((key, d) :: read) c

/-- Reads a record. -/
def read (r : Record) (c : Cursor) : Except Misread (Fields × Cursor) := do
  let c ← toValue c
  match c.peek? with
  | some '[' => r.listed r.fields [] c.next
  | some '\x7b' => r.named (c.rest.length + 1) true [] c.next
  | _ => throw (mismatch c r.expected)

end Record

/-! ## Whole texts -/

/-- What a reader gives for a text that holds nothing else. -/
def readAll {α : Type} (reader : Cursor → Except Misread (α × Cursor)) (s : String) :
    Except Misread α := do
  let (a, c) ← reader (Cursor.ofText s)
  let c := c.skipSpace
  if c.rest.isEmpty then return a else throw (c.failNext .trailingCharacters)

namespace Fields

def text? (fields : Fields) (name : String) : Option String :=
  match fields.lookup name with
  | some (.text s) => some s
  | _ => none

def boolean? (fields : Fields) (name : String) : Option Bool :=
  match fields.lookup name with
  | some (.boolean b) => some b
  | _ => none

def natural? (fields : Fields) (name : String) : Option Nat :=
  match fields.lookup name with
  | some (.natural n) => some n
  | _ => none

def texts? (fields : Fields) (name : String) : Option (List String) :=
  match fields.lookup name with
  | some (.texts items) => some items
  | _ => none

def entries? (fields : Fields) (name : String) : Option (List (String × String)) :=
  match fields.lookup name with
  | some (.entries items) => some items
  | _ => none

end Fields

end Vitrine.Json
