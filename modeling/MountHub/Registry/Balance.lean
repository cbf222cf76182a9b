import MountHub.Registry.Resolve

/-! Rotation. Each balance group has a cursor under its logical path; a group
that is asked for the first time answers with its first member, and from then on
with the member after the one before. -/
namespace MountHub

structure Cursors where
  entries : List (String × Nat) := []
deriving DecidableEq, Inhabited

namespace Cursors

def empty : Cursors := {}

def find? (cursors : Cursors) (group : String) : Option Nat := Keyed.find? cursors.entries group

def put (cursors : Cursors) (group : String) (position : Nat) : Cursors :=
  ⟨Keyed.put cursors.entries group position⟩

/-- Where a group of this size stands when it is asked for once more. -/
def next (cursors : Cursors) (group : String) (size : Nat) : Nat :=
  match cursors.find? group with
  | none => 0
  | some position => (position + 1) % size

/-- The mount that serves a path this time, and the cursors afterwards. One mount
alone needs no cursor. -/
def select (cursors : Cursors) (all : List Mounted) (path : String) : Option Mounted × Cursors :=
  match Mounted.resolve all (Path.standardize path) with
  | [] => (none,cursors)
  | [only] => (some only,cursors)
  | first :: second :: more =>
    let members := first :: second :: more
    let group := first.storage.actualPath
    let position := cursors.next group members.length
    (members[position]?,cursors.put group position)

@[simp] theorem find?_empty (group : String) : empty.find? group = none := rfl

theorem find?_put (cursors : Cursors) (group other : String) (position : Nat) :
    (cursors.put group position).find? other =
      if group = other then some position else cursors.find? other :=
  Keyed.find?_put cursors.entries group other position

end Cursors
end MountHub
