import MountHub.Table.Error

/-! The table of storages: one row a storage, ids that are handed out once and
never again, and mount paths that no two rows share. Numbers of 64 bits are kept
in signed columns with the same bits. -/
namespace MountHub

structure Row where
  id : Int64
  mountPath : String
  index : Int32
  driver : String
  addition : String
  modified : Int64
deriving DecidableEq, Inhabited

namespace Row

def ofStorage (id : Int64) (storage : Storage) : Row :=
  { id
    mountPath := storage.mountPath
    index := storage.index
    driver := storage.driver
    addition := storage.addition
    modified := storage.modified.toInt64 }

def storage (row : Row) : Storage :=
  { id := ⟨row.id.toUInt64⟩
    mountPath := row.mountPath
    index := row.index
    driver := row.driver
    addition := row.addition
    modified := row.modified.toUInt64 }

@[simp] theorem storage_ofStorage (id : Int64) (storage : Storage) :
    (ofStorage id storage).storage = { storage with id := ⟨id.toUInt64⟩ } := by
  simp [ofStorage, Row.storage, UInt64.toInt64]

end Row

def StorageId.key (id : StorageId) : Int64 := id.raw.toInt64

structure Table where
  name : String
  rows : List Row := []
  lastId : Nat := 0
deriving DecidableEq, Inhabited

namespace Table

def idLimit : Nat := 0x8000000000000000

def find? (table : Table) (id : StorageId) : Option Row :=
  table.rows.find? fun row => row.id == id.key

/-- Whether a row other than the one with this id has the mount path. -/
def takenByOther (table : Table) (id : StorageId) (mountPath : String) : Bool :=
  table.rows.any fun row => row.id != id.key && row.mountPath == mountPath

/-- Adds a row under the next id; the id of the storage given is passed over. -/
def create (table : Table) (storage : Storage) : Except TableError (StorageId × Table) :=
  if table.lastId + 1 < idLimit then
    if table.rows.any fun row => row.mountPath == storage.mountPath then
      .error (.pathTaken table.name)
    else
      let id := Int64.ofNat (table.lastId + 1)
      .ok (⟨id.toUInt64⟩,
        { table with
          rows := table.rows ++ [Row.ofStorage id storage]
          lastId := table.lastId + 1 })
  else .error (.database "database or disk is full")

/-- Replaces the row with the id of the storage given. -/
def update (table : Table) (storage : Storage) : Except TableError Table :=
  if (table.find? storage.id).isNone then .error (.notFound storage.id)
  else if table.takenByOther storage.id storage.mountPath then .error (.pathTaken table.name)
  else .ok { table with
    rows := table.rows.map fun row =>
      if row.id == storage.id.key then Row.ofStorage row.id storage else row }

def delete (table : Table) (id : StorageId) : Except TableError Table :=
  if (table.find? id).isNone then .error (.notFound id)
  else .ok { table with rows := table.rows.filter fun row => row.id != id.key }

def get (table : Table) (id : StorageId) : Except TableError Storage :=
  match table.find? id with
  | some row => .ok row.storage
  | none => .error (.notFound id)

end Table
end MountHub
