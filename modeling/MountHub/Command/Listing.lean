import MountHub.Manager.Bootstrap

/-! The list of all storages. -/
namespace MountHub

/-- The rows that have been read, and what put an end to the reading before the last page,
if anything did. -/
structure Reading where
  rows : List Storage
  failure : Option StorageError := none

namespace Call

/-- The rows of pages from one page on, until a page is refused or empty or as many rows have
been read as there are. The fuel bounds the number of pages. -/
def listPages (world : World) (size : UInt64) : Nat → UInt64 → Nat → Call Reading
  | 0,_,_ => return { rows := [] }
  | fuel + 1,page,listed => do
    match ← (Operation.list world page size).run with
    | .error error => return { rows := [], failure := some error }
    | .ok (rows,total) =>
      if rows.isEmpty then return { rows }
      let listed := listed + rows.length
      if total ≤ listed then return { rows }
      let more ← listPages world size fuel (page + 1) listed
      return { more with rows := rows ++ more.rows }

/-- All rows in listing order, read a page at a time. A page has at least one place. -/
def listAll (world : World) (size : UInt64) : Call Reading := do
  let pages := (← get).table.rows.length + 1
  listPages world (max size 1) pages 1 0

end Call

def alignEnd (width : Nat) (text : String) : String :=
  String.ofList (List.replicate (width - text.length) ' ') ++ text

def alignStart (width : Nat) (text : String) : String :=
  text ++ String.ofList (List.replicate (width - text.length) ' ')

/-- The line for one storage: id, driver type, index and mount path. -/
def Storage.line (storage : Storage) : String :=
  String.intercalate "  " [
    alignEnd 6 (toString storage.id.raw),
    alignStart 8 storage.driver,
    alignEnd 4 (toString storage.index.toInt),
    storage.mountPath]

/-- A line for each row. That there are none is only said where all pages have been read. -/
def Reading.lines : Reading → List String
  | ⟨[],none⟩ => ["No storages configured."]
  | ⟨rows,_⟩ => rows.map Storage.line

end MountHub
