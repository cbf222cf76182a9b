import MountHub.Driver.Catalog
import MountHub.Manager.Routing
import MountHub.Storage.Debug

/-! Managers and their parts, written out for a reader of diagnostics. -/
namespace MountHub
open Text

def Registry.debug (registry : Registry) : String :=
  let keys := registry.keys.mergeSort fun first second => decide (first ≤ second)
  record "StorageRegistry" [("mounts",bracketed (keys.map quoted))]

def State.debug (catalog : Catalog) (state : State) : String :=
  record "StorageManager" [("drivers",catalog.debug),("registry",state.registry.debug)]

def Table.debug (name : String) : String :=
  record "SqliteStorageRepository" [("table",quoted name)]

def Driver.debug (_ : Driver) : String := "Driver \x7b .. \x7d"

def MountSummary.debugAll (summaries : List MountSummary) : String :=
  bracketed (summaries.map MountSummary.debug)

end MountHub
