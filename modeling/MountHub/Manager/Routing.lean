import MountHub.Manager.State
import MountHub.Registry.Children

/-! Finding the mount that serves a path. -/
namespace MountHub

namespace State

/-- The mounts that serve a path best, in the order of their mount paths. -/
def storagesByPath (state : State) (path : String) : List Mounted :=
  Mounted.resolve state.mounted path

/-- The folders directly below a path that deeper mounts imply. -/
def virtualChildren (state : State) (path : String) : List Entry :=
  Mounted.children state.mounted path

def mounts (state : State) : List MountSummary := Mounted.summaries state.mounted

end State

namespace Call

/-- One mount for a path, in rotation over its group. -/
def balanced (path : String) : Call (Option Mounted) := do
  let state ← get
  let (chosen,cursors) := state.cursors.select state.mounted path
  set { state with cursors }
  return chosen

end Call

/-- A path as seen from a mount: what follows the logical path of the mount. -/
def Mounted.relative (mounted : Mounted) (path : String) : String :=
  match Path.after? mounted.storage.actualPath path with
  | some rest => Path.standardize (String.ofList rest)
  | none => Path.standardize path

/-- One mount for a path, and the path as seen from it. -/
def Operation.route (path : String) : Operation (Mounted × String) := do
  let path := Path.standardize path
  match ← Call.balanced path with
  | some mounted => return (mounted,mounted.relative path)
  | none => throw (.notServed path)

end MountHub
