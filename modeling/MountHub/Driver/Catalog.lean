import MountHub.Driver.Basic
import MountHub.Keyed
import MountHub.Text.Quoted

/-! The catalog of driver types: which names may be asked for, and what is made
for each. -/
namespace MountHub

structure Catalog where
  kinds : List (String × DriverKind) := []
deriving DecidableEq

namespace Catalog

def find? (catalog : Catalog) (name : String) : Option DriverKind :=
  Keyed.find? catalog.kinds name

def contains (catalog : Catalog) (name : String) : Bool := (catalog.find? name).isSome

/-- Enters a driver type; the name stands for it from now on. -/
def register (catalog : Catalog) (name : String) (kind : DriverKind) : Catalog :=
  ⟨Keyed.put catalog.kinds name kind⟩

def builtin : Catalog := ({ : Catalog}.register "local" .folder).register "memory" .memory

def names (catalog : Catalog) : List String :=
  (Keyed.keys catalog.kinds).mergeSort fun first second => decide (first ≤ second)

def debug (catalog : Catalog) : String :=
  Text.record "DriverRegistry" [("drivers",Text.bracketed (catalog.names.map Text.quoted))]

theorem find?_register (catalog : Catalog) (name other : String) (kind : DriverKind) :
    (catalog.register name kind).find? other =
      if name = other then some kind else catalog.find? other :=
  Keyed.find?_put catalog.kinds name other kind

end Catalog
end MountHub
