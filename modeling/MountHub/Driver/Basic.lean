import MountHub.Driver.Addition
import MountHub.Driver.Outside

/-! Drivers. Each is bound to one storage by `init` and lets go of what it holds
on `shutdown`. A driver whose `init` fails stays exactly as it was. -/
namespace MountHub

inductive DriverKind where
  /-- Keeps nothing but a session token. -/
  | memory
  | folder
  | external
deriving DecidableEq, Inhabited

structure MemoryDriver where
  storage : Storage := {}
  addition : MemoryAddition := {}
  active : Bool := false
deriving DecidableEq

structure FolderDriver where
  storage : Storage := {}
  addition : FolderAddition := {}
  /-- The canonical folder, present from `init` to `shutdown`. -/
  root : Option String := none
deriving DecidableEq

structure ExternalDriver where
  storage : Storage := {}
  active : Bool := false
deriving DecidableEq

namespace MemoryDriver

/-- A session that the addition names is kept; without one a new one is made. -/
def init (outside : Outside) (storage : Storage) (driver : MemoryDriver) :
    Except DriverError Unit × MemoryDriver :=
  match outside.context.check with
  | .error error => (.error error,driver)
  | .ok () =>
    match MemoryAddition.read? storage.addition with
    | .error error => (.error error,driver)
    | .ok addition =>
      let session := addition.session.getD outside.session
      (.ok (),{ storage, addition := { session := some session }, active := true })

def shutdown (driver : MemoryDriver) : MemoryDriver := { driver with active := false }

end MemoryDriver

namespace FolderDriver

def canonical (requested : String) : Folder → Except DriverError String
  | .directory canonical => .ok canonical
  | .otherFile => .error (.invalidConfig (requested ++ " is not a directory"))

/-- The addition is read before the context is looked at. -/
def init (outside : Outside) (storage : Storage) (driver : FolderDriver) :
    Except DriverError Unit × FolderDriver :=
  match FolderAddition.read? storage.addition with
  | .error error => (.error error,driver)
  | .ok addition =>
    if addition.rootFolder = "" then
      (.error (.invalidConfig "root_folder is required"),driver)
    else
      let found := (outside.context.run (outside.folder addition.rootFolder)).1
      match found >>= canonical addition.rootFolder with
      | .error error => (.error error,driver)
      | .ok root => (.ok (),{ storage, addition, root := some root })

def shutdown (driver : FolderDriver) : FolderDriver := { driver with root := none }

end FolderDriver

namespace ExternalDriver

def init (outside : Outside) (storage : Storage) (driver : ExternalDriver) :
    Except DriverError Unit × ExternalDriver :=
  match outside.refusesInit storage with
  | some error => (.error error,driver)
  | none => (.ok (),{ storage, active := true })

def shutdown (outside : Outside) (driver : ExternalDriver) :
    Except DriverError Unit × ExternalDriver :=
  match outside.refusesShutdown driver.storage with
  | some error => (.error error,driver)
  | none => (.ok (),{ driver with active := false })

end ExternalDriver

inductive Driver where
  | memory (driver : MemoryDriver)
  | folder (driver : FolderDriver)
  | external (driver : ExternalDriver)
deriving DecidableEq

namespace Driver

/-- A driver that has never been bound. -/
def fresh : DriverKind → Driver
  | .memory => .memory {}
  | .folder => .folder {}
  | .external => .external {}

instance : Inhabited Driver := ⟨fresh .memory⟩

def kind : Driver → DriverKind
  | .memory _ => .memory
  | .folder _ => .folder
  | .external _ => .external

/-- The live copy of the configuration that the driver is bound to. -/
def storage : Driver → Storage
  | .memory driver => driver.storage
  | .folder driver => driver.storage
  | .external driver => driver.storage

/-- Whether the driver is between a successful `init` and the next `shutdown`. -/
def isInitialized : Driver → Bool
  | .memory driver => driver.active
  | .folder driver => driver.root.isSome
  | .external driver => driver.active

def init (outside : Outside) (storage : Storage) : Driver → Except DriverError Unit × Driver
  | .memory driver => (driver.init outside storage).map id .memory
  | .folder driver => (driver.init outside storage).map id .folder
  | .external driver => (driver.init outside storage).map id .external

/-- Lets the driver go of what it holds; it may be bound again. -/
def shutdown (outside : Outside) : Driver → Except DriverError Unit × Driver
  | .memory driver => (.ok (),.memory driver.shutdown)
  | .folder driver => (.ok (),.folder driver.shutdown)
  | .external driver => (driver.shutdown outside).map id .external

/-- What the driver wants to be kept as its addition. -/
def addition (outside : Outside) : Driver → Except String Json.Value
  | .memory driver => .ok driver.addition.toJson
  | .folder driver => .ok driver.addition.toJson
  | .external driver => outside.addition driver.storage

@[simp] theorem kind_fresh (kind : DriverKind) : (fresh kind).kind = kind := by
  cases kind <;> rfl

@[simp] theorem storage_fresh (kind : DriverKind) : (fresh kind).storage = {} := by
  cases kind <;> rfl

@[simp] theorem kind_init (outside : Outside) (storage : Storage) (driver : Driver) :
    (driver.init outside storage).2.kind = driver.kind := by
  cases driver <;> rfl

@[simp] theorem kind_shutdown (outside : Outside) (driver : Driver) :
    (driver.shutdown outside).2.kind = driver.kind := by
  cases driver <;> rfl

end Driver
end MountHub
