import MountHub.Manager.Error
import MountHub.Manager.World
import MountHub.Registry.Balance
import MountHub.Table.Page

/-! The state of a manager, and the single calls that its operations are made of:
on the table, on one driver, and on the registry. -/
namespace MountHub

structure State where
  table : Table
  registry : Registry := .empty
  drivers : List Driver := []
  cursors : Cursors := .empty
  events : List Event := []
deriving Inhabited

namespace State

/-- A manager that has mounted nothing, over the rows of a table. -/
def start (table : Table) : State := { table }

/-- A new manager over the same rows. The drivers of the old one are out of reach. -/
def restart (state : State) : State :=
  { state with registry := .empty, cursors := .empty }

def driver (state : State) (number : Nat) : Driver := state.drivers[number]?.getD default

def mounted (state : State) : List Mounted :=
  state.registry.entries.map fun entry => ⟨entry.1,entry.2,(state.driver entry.2).storage⟩

end State

abbrev Call (α : Type) := StateM State α

/-- An operation. It may fail, and what it has done by then stays done. -/
abbrev Operation (α : Type) := ExceptT StorageError (StateM State) α

namespace Call

def surroundings (world : World) : Call Surroundings :=
  return world (← get).events

def record (event : Event) : Call Unit :=
  modify fun state => { state with events := event :: state.events }

/-- One call on the table, unless the world refuses it. -/
def onTable {α : Type} (world : World) (call : TableCall)
    (answer : Table → Except TableError (α × Table)) : Call (Except TableError α) := do
  let refusal := (← surroundings world).refusesCall call
  record (.table call)
  match refusal with
  | some error => return .error error
  | none =>
    match answer (← get).table with
    | .error error => return .error error
    | .ok (value,table) =>
      modify fun state => { state with table }
      return .ok value

def createRow (world : World) (storage : Storage) : Call (Except TableError StorageId) :=
  onTable world (.create storage) fun table => table.create storage

def updateRow (world : World) (storage : Storage) : Call (Except TableError Unit) :=
  onTable world (.update storage) fun table => (table.update storage).map ((),·)

def deleteRow (world : World) (id : StorageId) : Call (Except TableError Unit) :=
  onTable world (.delete id) fun table => (table.delete id).map ((),·)

def getRow (world : World) (id : StorageId) : Call (Except TableError Storage) :=
  onTable world (.get id) fun table => (table.get id).map (·,table)

def listRows (world : World) (page size : UInt64) :
    Call (Except TableError (List Storage × Nat)) :=
  onTable world (.list page size) fun table => (table.list page size).map (·,table)

/-- Makes a driver; the result is its number. -/
def construct (kind : DriverKind) : Call Nat := do
  let number := (← get).drivers.length
  modify fun state => { state with drivers := state.drivers ++ [Driver.fresh kind] }
  return number

/-- Puts a driver in place of the one with its number. -/
def putDriver (number : Nat) (driver : Driver) : Call Unit :=
  modify fun state => { state with drivers := state.drivers.set number driver }

def boundRecord? : Driver → Option LogRecord
  | .folder driver => driver.root.map fun root => ⟨.folders,.debug,"local storage ready",
      [("mount_path",driver.storage.mountPath),("root",root)]⟩
  | _ => none

def initDriver (world : World) (number : Nat) (storage : Storage) :
    Call (Except DriverError Unit) := do
  let driver := (← get).driver number
  let (done,driver) := driver.init (← surroundings world).toOutside storage
  putDriver number driver
  record (.init number driver.kind storage done)
  if done.isOk then
    match boundRecord? driver with
    | some line => record (.logged line)
    | none => pure ()
  return done

def shutdownDriver (world : World) (number : Nat) : Call (Except DriverError Unit) := do
  let driver := (← get).driver number
  let (done,driver) := driver.shutdown (← surroundings world).toOutside
  putDriver number driver
  record (.shutdown number driver.kind driver.storage done)
  return done

def additionOf (world : World) (number : Nat) : Call (Except String Json.Value) := do
  let driver := (← get).driver number
  let addition := driver.addition (← surroundings world).toOutside
  record (.addition number driver.kind driver.storage)
  return addition

def mount (path : String) (number : Nat) : Call Unit :=
  modify fun state => { state with registry := state.registry.store path number }

def unmount (path : String) : Call Unit :=
  modify fun state => { state with registry := state.registry.delete path }

end Call

namespace Operation

/-- A step on the table: its failure is the operation's. -/
def table {α : Type} (step : String) (call : Call (Except TableError α)) : Operation α := do
  match ← call with
  | .ok value => return value
  | .error cause => throw (.ofTable step cause)

/-- A step of a driver: its failure is the operation's. -/
def driver (step : String) (call : Call (Except DriverError Unit)) : Operation Unit := do
  match ← call with
  | .ok () => return ()
  | .error cause => throw (.driverLifecycle step cause)

def mountedAt (path : String) : Operation Nat := do
  match (← get).registry.load path with
  | some number => return number
  | none => throw (.notMounted path)

end Operation
end MountHub
