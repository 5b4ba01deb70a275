import Vitrine.Decimal.Notation
import Vitrine.Import.Table
import Vitrine.Project.Kind

/-!
# Resource hosts and registries (sections 4.5 and 4.7)

A host keeps contents under addresses that it makes up, until they are revoked. It numbers what it
keeps, and the number is part of the address, as is the number of the host; so hosts with different
numbers never give out the same address, and no host gives one out twice.

A registry remembers the addresses that are in use, so that all of them can be revoked at once.

Every module of a pass is kept at the host under an address of its own, and the import table of the
pass leads from the key of the module to that address. The packages from outside come first.

A host is a `MemoryResourceHost` with `create` and `revoke`, a registry a `HandleRegistry` with
`allocate` and `revoke_all`, and `bindEach` the loop of `resolve_modules`.
-/

namespace Vitrine.Resource

/-! ## Hosts -/

/-- What is kept under an address. -/
structure Stored where
  mime : String
  content : String
  deriving DecidableEq

/-- The `serial`-th address of a host. -/
def address (host serial : Nat) : String :=
  "blob:preview/" ++ Decimal.natural host ++ "/" ++ Decimal.natural serial

/-- A host: its number, how many addresses it has given out, and what it keeps. -/
structure Host where
  number : Nat
  issued : Nat := 0
  live : List (String × Stored) := []
  deriving Inhabited

namespace Host

/-- The address that is given out next. -/
def nextAddress (h : Host) : String := address h.number h.issued

/-- Keeps a content under the next address. -/
def create (h : Host) (content mime : String) : String × Host :=
  (h.nextAddress,
    { h with issued := h.issued + 1, live := (h.nextAddress, ⟨mime, content⟩) :: h.live })

def get? (h : Host) (address : String) : Option Stored := h.live.lookup address

/-- Whether something is kept under an address. -/
def isLive (h : Host) (address : String) : Bool := (h.get? address).isSome

/-- Forgets what is kept under an address; tells whether there was anything. -/
def revoke (h : Host) (address : String) : Bool × Host :=
  (h.isLive address, { h with live := h.live.filter (·.1 != address) })

def liveCount (h : Host) : Nat := h.live.length

end Host

/-! ## Registries -/

/-- The addresses in use, in the order in which they were given out. -/
structure Registry where
  held : List String := []
  deriving Inhabited

namespace Registry

/-- Keeps a content at a host and remembers its address. -/
def allocate (r : Registry) (h : Host) (content mime : String) : String × Registry × Host :=
  let (address, h) := h.create content mime
  (address, ⟨r.held ++ [address]⟩, h)

/-- Revokes addresses at a host; with the number of those under which something was kept. -/
def revokeEach (h : Host) : List String → Nat × Host
  | [] => (0, h)
  | address :: rest =>
    let (wasLive, h) := h.revoke address
    let (count, h) := revokeEach h rest
    (if wasLive then count + 1 else count, h)

/-- Revokes and forgets every address. -/
def revokeAll (r : Registry) (h : Host) : Nat × Registry × Host :=
  let (count, h) := revokeEach h r.held
  (count, {}, h)

def size (r : Registry) : Nat := r.held.length

end Registry

/-! ## Binding modules to addresses -/

/-- The type of everything that is imported. -/
def scriptMime : String := "text/javascript"

/-- A module that is to be bound. -/
structure Unbound where
  path : String
  kind : FileKind
  code : String

/-- A module with its address. -/
structure Bound where
  path : String
  kind : FileKind
  code : String
  address : String

/-- Modules with their addresses, and what became of the registry and the host. -/
structure Binding where
  bound : List Bound
  registry : Registry
  host : Host

/-- Gives an address to each module. -/
def bindEach (r : Registry) (h : Host) : List Unbound → Binding
  | [] => ⟨[], r, h⟩
  | m :: rest =>
    let (address, r, h) := r.allocate h m.code scriptMime
    let later := bindEach r h rest
    { later with bound := ⟨m.path, m.kind, m.code, address⟩ :: later.bound }

/-- The import table of bound modules. -/
def tableOf (bound : List Bound) : Import.Table :=
  bound.foldl (fun t m => t.putFile m.path m.address) Import.Table.withExternals

def Binding.table (b : Binding) : Import.Table := tableOf b.bound

end Vitrine.Resource
