import MountHub.Driver.Catalog
import MountHub.Manager.State
import MountHub.Storage.Debug

/-! Creating, changing and deleting mounts. Each operation is a row of steps over
table, driver and registry; when a step fails, the steps before it stay done. -/
namespace MountHub

namespace LogRecord

def created (live : Storage) : LogRecord :=
  ⟨.manager,.debug,"storage is created",[("storage",live.debug)]⟩

def mounted (id : StorageId) : LogRecord :=
  ⟨.manager,.info,"storage mounted",[("storage.id",toString id.raw)]⟩

def updated (oldPath : String) : LogRecord :=
  ⟨.manager,.info,"storage updated",[("old_mount_path",oldPath)]⟩

def deleted (path : String) : LogRecord :=
  ⟨.manager,.info,"storage deleted",[("mount_path",path)]⟩

end LogRecord

namespace Operation
open Call

/-- A storage as it is kept: its path in the one spelling, and the time of the change. -/
def stamped (now : UInt64) (storage : Storage) : Storage :=
  { storage with mountPath := Path.standardize storage.mountPath, modified := now }

def kindOf (catalog : Catalog) (name : String) : Operation DriverKind :=
  match catalog.find? name with
  | some kind => return kind
  | none => throw (.unsupportedDriver name)

/-- Keeps a new row, binds a new driver to it, and mounts the driver. The row comes
first, so that the driver sees its id. -/
def create (world : World) (catalog : Catalog) (storage : Storage) : Operation StorageId := do
  let storage := stamped (← surroundings world).now storage
  let number ← construct (← kindOf catalog storage.driver)
  let id ← table "failed create storage in database" (createRow world storage)
  driver "failed init storage but storage is already created"
    (initDriver world number { storage with id })
  record (.logged (.created ((← get).driver number).storage))
  mount storage.mountPath number
  record (.logged (.mounted id))
  return id

/-- Keeps a changed row and binds its driver anew. A mount whose path changes is gone
from its old path before the driver is touched. -/
def update (world : World) (storage : Storage) : Operation Unit := do
  let old ← table "failed get old storage" (getRow world storage.id)
  if old.driver ≠ storage.driver then throw (.immutableField "driver")
  let storage := stamped (← surroundings world).now storage
  table "failed update storage in database" (updateRow world storage)
  let found := (← get).registry.load old.mountPath
  if old.mountPath ≠ storage.mountPath then unmount old.mountPath
  match found with
  | none => throw (.notMounted old.mountPath)
  | some number =>
    driver "failed drop storage" (shutdownDriver world number)
    driver "failed init storage" (initDriver world number storage)
    mount storage.mountPath number
    record (.logged (.updated old.mountPath))

/-- Shuts the driver down, deletes the row, and unmounts. -/
def delete (world : World) (id : StorageId) : Operation Unit := do
  let storage ← table "failed get storage" (getRow world id)
  let number ← mountedAt storage.mountPath
  driver "failed drop storage" (shutdownDriver world number)
  table "failed delete storage in database" (deleteRow world id)
  unmount storage.mountPath
  record (.logged (.deleted storage.mountPath))

/-- Keeps the live storage of a driver, with the addition that the driver has now. -/
def save (world : World) (number : Nat) : Operation Unit := do
  let storage := ((← get).driver number).storage
  match ← additionOf world number with
  | .error reason => throw (.serialize "error while marshal addition" reason)
  | .ok addition =>
    table "failed update storage in database"
      (updateRow world { storage with addition := addition.text })

end Operation

namespace Call

/-- Saves a driver's storage as well as it goes: a failure is only logged. -/
def sync (world : World) (number : Nat) : Call Unit := do
  match ← (Operation.save world number).run with
  | .ok () => return ()
  | .error error =>
    record (.logged ⟨.manager,.error,"failed save driver storage: " ++ error.message,[]⟩)

end Call
end MountHub
