import MountHub.Driver.Error
import MountHub.Table.Error

/-! Why an operation on mounts fails. What failed below it stays reachable as its
cause, behind a few words on the step that was under way. -/
namespace MountHub

inductive StorageError where
  | notFound (what : String)
  | unsupportedDriver (name : String)
  /-- A field that is fixed when the storage is created. -/
  | immutableField (field : String)
  | persistence (step : String) (cause : TableError)
  | driverLifecycle (step : String) (cause : DriverError)
  /-- The addition of a driver cannot be written as text. -/
  | serialize (step : String) (reason : String)
  | pageOutOfRange
deriving DecidableEq, Inhabited

namespace StorageError

/-- A failure of the table during a step. A row that is not there is not found. -/
def ofTable (step : String) : TableError → StorageError
  | .notFound id => .notFound (step ++ ": storage " ++ toString id.raw)
  | .pageOutOfRange => .pageOutOfRange
  | cause => .persistence step cause

def notMounted (path : String) : StorageError :=
  .notFound ("no storage mounted at virtual path " ++ path)

def notServed (path : String) : StorageError :=
  .notFound ("no storage for path " ++ path)

def message : StorageError → String
  | .notFound what => "not found: " ++ what
  | .unsupportedDriver name => "unsupported driver: " ++ name
  | .immutableField field => field ++ " cannot be changed"
  | .persistence step cause => step ++ ": " ++ cause.message
  | .driverLifecycle step cause => step ++ ": " ++ cause.message
  | .serialize step reason => step ++ ": " ++ reason
  | .pageOutOfRange => TableError.pageOutOfRange.message

end StorageError
end MountHub
