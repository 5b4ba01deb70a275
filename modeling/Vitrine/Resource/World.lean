import Vitrine.Resource.Registry

/-!
# Hosts and registries side by side

A world holds any number of hosts and registries. A new host gets the next number, so no two hosts of a
world ever give out the same address. Hosts and registries are known by their places; an operation at a
place where there is none has no result.
-/

namespace Vitrine.Resource

structure World where
  hosts : List Host := []
  registries : List Registry := []
  deriving Inhabited

namespace World

/-- Adds a host; with its place. -/
def addHost (w : World) : Nat × World :=
  (w.hosts.length, { w with hosts := w.hosts ++ [{ number := w.hosts.length }] })

/-- Adds a registry; with its place. -/
def addRegistry (w : World) : Nat × World :=
  (w.registries.length, { w with registries := w.registries ++ [{}] })

/-- Does something with a host. -/
def withHost {α : Type} (w : World) (h : Nat) (f : Host → α × Host) : Option (α × World) :=
  w.hosts[h]?.map fun host =>
    let (a, host) := f host
    (a, { w with hosts := w.hosts.set h host })

/-- Does something with a registry and a host. -/
def withBoth {α : Type} (w : World) (r h : Nat) (f : Registry → Host → α × Registry × Host) :
    Option (α × World) := do
  let registry ← w.registries[r]?
  let host ← w.hosts[h]?
  let (a, registry, host) := f registry host
  some (a, { hosts := w.hosts.set h host, registries := w.registries.set r registry })

def create (w : World) (h : Nat) (content mime : String) : Option (String × World) :=
  w.withHost h (·.create content mime)

def revoke (w : World) (h : Nat) (address : String) : Option (Bool × World) :=
  w.withHost h (·.revoke address)

def allocate (w : World) (r h : Nat) (content mime : String) : Option (String × World) :=
  w.withBoth r h fun registry host => registry.allocate host content mime

def revokeAll (w : World) (r h : Nat) : Option (Nat × World) :=
  w.withBoth r h fun registry host => registry.revokeAll host

/-- Binds modules to addresses. -/
def bindAll (w : World) (r h : Nat) (modules : List Unbound) : Option (List Bound × World) :=
  w.withBoth r h fun registry host =>
    let binding := bindEach registry host modules
    (binding.bound, binding.registry, binding.host)

/-- How much each host keeps. -/
def liveCounts (w : World) : List Nat := w.hosts.map Host.liveCount

end World

end Vitrine.Resource
