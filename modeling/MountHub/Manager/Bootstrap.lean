import MountHub.Manager.Lifecycle

/-! Mounting every row of the table, and letting every driver go. -/
namespace MountHub

namespace Operation
open Call

/-- Makes a driver for a storage, binds it, and mounts it at a path. -/
def mountNew (world : World) (catalog : Catalog) (path : String) (storage : Storage) :
    Operation Unit := do
  let number ← construct (← kindOf catalog storage.driver)
  driver "failed init storage" (initDriver world number storage)
  mount path number

end Operation

namespace Call

/-- Mounts one row. A failure is logged; the result says whether it went well. -/
def loadRow (world : World) (catalog : Catalog) (storage : Storage) : Call Bool := do
  match ← (Operation.mountNew world catalog storage.mountPath storage).run with
  | .ok () => return true
  | .error error =>
    record (.logged ⟨.manager,.error,"failed load storage: " ++ error.message,
      [("storage.id",toString storage.id.raw),("mount_path",storage.mountPath)]⟩)
    return false

/-- Mounts rows one after the other and counts those that went well. -/
def loadRows (world : World) (catalog : Catalog) : Nat → List Storage → Call Nat
  | mounted,[] => return mounted
  | mounted,storage :: more => do
    let well ← loadRow world catalog storage
    loadRows world catalog (if well then mounted + 1 else mounted) more

/-- Shuts down and unmounts the drivers at these paths, and counts them. A driver
that does not let go is unmounted all the same, with a warning. -/
def release (world : World) : List (String × Nat) → Call Nat
  | [] => return 0
  | (path,number) :: more => do
    match ← shutdownDriver world number with
    | .ok () => pure ()
    | .error error =>
      record (.logged
        ⟨.manager,.warn,"failed drop storage: " ++ error.message,[("mount_path",path)]⟩)
    unmount path
    return (← release world more) + 1

/-- Shuts down and unmounts every driver; the rows stay. -/
def shutdownAll (world : World) : Call Nat := do
  release world (← get).registry.entries

end Call

namespace Operation
open Call

/-- Reads pages from one page on and mounts their rows, until a page is empty or as
many rows have been read as there are. The fuel bounds the number of pages. -/
def loadPages (world : World) (catalog : Catalog) (size : UInt64) :
    Nat → UInt64 → Nat → Nat → Operation Nat
  | 0,_,_,mounted => return mounted
  | fuel + 1,page,fetched,mounted => do
    let (rows,total) ← table "failed get storages" (listRows world page size)
    if rows.isEmpty then return mounted
    let fetched := fetched + rows.length
    let mounted ← loadRows world catalog mounted rows
    if total ≤ fetched then return mounted
    loadPages world catalog size fuel (page + 1) fetched mounted

/-- Mounts every row, in listing order, a page at a time; the result counts the rows
that went well. Every page but the last brings a row, so there are no more pages
than rows. A page has at least one place. -/
def load (world : World) (catalog : Catalog) (size : UInt64) : Operation Nat := do
  let pages := (← get).table.rows.length + 1
  let mounted ← loadPages world catalog (max size 1) pages 1 0 0
  record (.logged ⟨.manager,.info,"loaded " ++ toString mounted ++ " storages",[]⟩)
  return mounted

/-- One page of the rows in listing order, and the number of all rows. -/
def list (world : World) (page size : UInt64) : Operation (List Storage × Nat) :=
  table "failed get storages" (listRows world page size)

end Operation
end MountHub
