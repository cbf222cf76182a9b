import MountHub.Driver.Basic
import MountHub.Log.Record
import MountHub.Table.Error

/-! The world around a manager: what has been asked of it so far, and how it
answers. An answer may depend on everything asked before, so that a world can
fail at any step and mend at any other. -/
namespace MountHub

inductive TableCall where
  | create (storage : Storage)
  | update (storage : Storage)
  | delete (id : StorageId)
  | get (id : StorageId)
  | list (page size : UInt64)
deriving DecidableEq, Inhabited

/-- Why a call fails on a table that is only read. -/
def TableCall.refusedReadOnly : TableCall → Option TableError
  | .get _ | .list _ _ => none
  | _ => some (.database "attempt to write a readonly database")

inductive Event where
  | table (call : TableCall)
  | init (driver : Nat) (kind : DriverKind) (storage : Storage) (done : Except DriverError Unit)
  /-- A driver was to let go, while it was bound to a storage. -/
  | shutdown (driver : Nat) (kind : DriverKind) (storage : Storage)
      (done : Except DriverError Unit)
  | addition (driver : Nat) (kind : DriverKind) (storage : Storage)
  | logged (line : LogRecord)

structure Surroundings extends Outside where
  now : UInt64
  /-- Why a call on the table fails before it reaches the rows, if it does. -/
  refusesCall : TableCall → Option TableError

/-- The answers of the world, by what has happened, the latest event first. -/
abbrev World := List Event → Surroundings

end MountHub
