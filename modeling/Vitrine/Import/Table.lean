import Vitrine.Import.Specifier
import Vitrine.Json.Quoted

/-!
# Import tables (section 4.5)

An import table says where each specifier is loaded from. It keeps its keys in the order in which they
were first put, each of them once: putting a key again changes its address and leaves it in its place.

The packages from outside, which a project may import by their bare names, stand first, each at a pinned
address.

A table is an `ImportMap`: `withExternals` is `with_externals`, `putFile` is `insert_internal`,
`internalKey` is `internal_specifier`, and `json` is `to_json`.
-/

namespace Vitrine.Import

/-- Bare names with their addresses, in the order of every import table. -/
def externals : List (String × String) := [
  ("react", "https://esm.sh/react@18.3.1"),
  ("react-dom/client", "https://esm.sh/react-dom@18.3.1/client"),
  ("react/jsx-runtime", "https://esm.sh/react@18.3.1/jsx-runtime"),
  ("@google/genai", "https://esm.sh/@google/genai"),
  ("marked", "https://esm.sh/marked@12.0.2")]

def isExternal (specifier : String) : Bool := externals.any (·.1 == specifier)

/-- Specifiers with their addresses. -/
abbrev Entries := List (String × String)

namespace Entries

def keys (entries : Entries) : List String := entries.map (·.1)

/-- Sets the address of a key, at its place if the key is there and at the end if not. -/
def put (key address : String) : Entries → Entries
  | [] => [(key, address)]
  | (k, a) :: rest => if k = key then (k, address) :: rest else (k, a) :: put key address rest

def get? (entries : Entries) (key : String) : Option String :=
  (entries.find? (·.1 == key)).map (·.2)

theorem mem_keys_put {key address k : String} {entries : Entries} :
    k ∈ (entries.put key address).keys ↔ k = key ∨ k ∈ entries.keys := by
  induction entries with
  | nil => simp [put, keys]
  | cons e rest ih =>
    obtain ⟨k', a⟩ := e
    by_cases h : k' = key
    · subst h; simp [put, keys]
    · simp only [put, h, if_false, keys, List.map_cons, List.mem_cons] at ih ⊢
      rw [ih, or_left_comm]

theorem nodup_keys_put {entries : Entries} (h : entries.keys.Nodup) (key address : String) :
    (entries.put key address).keys.Nodup := by
  induction entries with
  | nil => simp [put, keys]
  | cons e rest ih =>
    obtain ⟨k', a⟩ := e
    obtain ⟨hk, hr⟩ := List.nodup_cons.1 (show (k' :: Entries.keys rest).Nodup from h)
    by_cases hkey : k' = key
    · simpa [put, hkey, keys] using h
    · simp only [put, hkey, if_false]
      refine List.nodup_cons.2 ⟨fun hm => ?_, ih hr⟩
      rcases mem_keys_put.1 hm with h' | h'
      · exact hkey h'
      · exact hk h'

end Entries

structure Table where
  entries : Entries := []
  nodup_keys : entries.keys.Nodup := by exact List.nodup_nil

namespace Table

instance : Inhabited Table := ⟨{}⟩

/-- Sets the address of a key. -/
def put (t : Table) (key address : String) : Table :=
  ⟨t.entries.put key address, Entries.nodup_keys_put t.nodup_keys key address⟩

def ofList (entries : List (String × String)) : Table :=
  entries.foldl (fun t e => t.put e.1 e.2) {}

/-- The packages from outside. -/
def withExternals : Table := ofList externals

/-- Sets where the module of a file of the project is loaded from. -/
def putFile (t : Table) (path address : String) : Table := t.put (internalKey path) address

def get? (t : Table) (key : String) : Option String := t.entries.get? key

def contains (t : Table) (key : String) : Bool := (t.get? key).isSome

def size (t : Table) : Nat := t.entries.length

/-- The table as browsers read it. -/
def json (t : Table) : String :=
  "\x7b\"imports\":\x7b"
    ++ String.intercalate "," (t.entries.map fun e => Json.quoted e.1 ++ ":" ++ Json.quoted e.2)
    ++ "\x7d\x7d"

end Table

end Vitrine.Import
