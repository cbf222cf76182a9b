import MountHub.Storage.Basic

/-! Why the table of storages does not answer. -/
namespace MountHub

inductive TableError where
  | notFound (id : StorageId)
  | pathTaken (table : String)
  | database (reason : String)
  | io (reason : String)
  | pageOutOfRange
deriving DecidableEq, Inhabited

def TableError.message : TableError → String
  | .notFound id => "storage " ++ toString id.raw ++ " not found"
  | .pathTaken table => "sqlite error: UNIQUE constraint failed: " ++ table ++ ".mount_path"
  | .database reason => "sqlite error: " ++ reason
  | .io reason => "I/O error: " ++ reason
  | .pageOutOfRange => "attempt to multiply with overflow"

end MountHub
