import MountHub.Keyed

/-! The registry: which driver stands behind which mount path. Drivers are named
by their numbers, so one driver can be told from another that equals it. -/
namespace MountHub

structure Registry where
  entries : List (String × Nat) := []
  nodup : (Keyed.keys entries).Nodup := by simp [Keyed.keys]

namespace Registry

def empty : Registry := {}

instance : Inhabited Registry := ⟨empty⟩

def size (registry : Registry) : Nat := registry.entries.length

def keys (registry : Registry) : List String := Keyed.keys registry.entries

def load (registry : Registry) (path : String) : Option Nat := Keyed.find? registry.entries path

def delete (registry : Registry) (path : String) : Registry where
  entries := Keyed.remove registry.entries path
  nodup := Keyed.nodup_keys_remove registry.nodup path

/-- Puts a driver behind a path, in place of whatever was there. -/
def store (registry : Registry) (path : String) (driver : Nat) : Registry where
  entries := Keyed.put registry.entries path driver
  nodup := Keyed.nodup_keys_put registry.nodup path driver

/-- Visits entries in turn. The visitor carries a state along and says after each
entry whether to go on; what it does to the registry does not change the visit. -/
def visit {σ : Type} (registry : Registry) (step : σ → String → Nat → σ × Bool) (start : σ) : σ :=
  go start registry.entries
where
  go (state : σ) : List (String × Nat) → σ
    | [] => state
    | (path,driver) :: more =>
      let (state,goesOn) := step state path driver
      if goesOn then go state more else state

@[simp] theorem load_empty (path : String) : empty.load path = none := rfl

theorem load_delete (registry : Registry) (path other : String) :
    (registry.delete path).load other = if path = other then none else registry.load other :=
  Keyed.find?_remove registry.entries path other

theorem load_store (registry : Registry) (path other : String) (driver : Nat) :
    (registry.store path driver).load other =
      if path = other then some driver else registry.load other :=
  Keyed.find?_put registry.entries path other driver

theorem mem_entries_iff (registry : Registry) (path : String) (driver : Nat) :
    (path,driver) ∈ registry.entries ↔ registry.load path = some driver :=
  Keyed.mem_iff_find? registry.nodup path driver

end Registry
end MountHub
