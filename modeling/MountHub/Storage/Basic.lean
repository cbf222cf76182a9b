import MountHub.Path.Balance

/-! What a mount is made of: its configuration, the summary that a listing of
mounts shows, and the entries of a folder that only exists between mounts. -/
namespace MountHub

/-- The identity that the table of storages hands out; zero before it has. -/
structure StorageId where
  raw : UInt64
deriving DecidableEq, Inhabited

namespace StorageId

def unassigned : StorageId := ⟨0⟩

def isAssigned (id : StorageId) : Bool := id.raw != 0

def order (first second : StorageId) : Ordering := compare first.raw.toNat second.raw.toNat

end StorageId

/-- The configuration of one mount, as the table keeps it and as a live driver
exposes it. -/
structure Storage where
  id : StorageId := .unassigned
  mountPath : String := ""
  index : Int32 := 0
  /-- The name of the driver type, which never changes. -/
  driver : String := ""
  /-- What the driver type itself needs to know, as text of its own. -/
  addition : String := ""
  /-- Milliseconds since the epoch at the last change of configuration. -/
  modified : UInt64 := 0
deriving DecidableEq, Inhabited

namespace Storage

def isBalance (storage : Storage) : Bool := Path.isBalance storage.mountPath

/-- The logical path of the group that the mount belongs to. -/
def actualPath (storage : Storage) : String := Path.actual storage.mountPath

/-- Listing order: by index, and by mount path where indices agree. -/
def listedBefore (first second : Storage) : Bool :=
  first.index < second.index ||
    (first.index == second.index && decide (first.mountPath ≤ second.mountPath))

end Storage

structure MountSummary where
  id : StorageId
  mountPath : String
  driver : String
  index : Int32
deriving DecidableEq

def Storage.summary (storage : Storage) : MountSummary :=
  ⟨storage.id,storage.mountPath,storage.driver,storage.index⟩

structure Entry where
  name : String
  size : UInt64
  modified : UInt64
  isFolder : Bool
deriving DecidableEq

/-- The folder that stands for deeper mounts: it has no size of its own. -/
def Entry.folder (name : String) (modified : UInt64) : Entry := ⟨name,0,modified,true⟩

end MountHub
