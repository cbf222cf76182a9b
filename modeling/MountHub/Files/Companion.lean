import MountHub.Files.Address
import MountHub.Files.Making
import MountHub.Table.Error

/-! The files beside a database. The journal holds what a change replaces, until the change
is done. A log holds changes instead of the database itself, until the database is closed;
an index of the log stands beside it. What an earlier run left behind is looked for before
rows are read. -/
namespace MountHub.Files

def cannotOpen : TableError := .database "unable to open database file"

def cannotWrite : TableError := .database "attempt to write a readonly database"

def cannotLock : TableError := .database "database is locked"

def logData : ByteArray := ⟨#[0x37,0x7f,0x06,0x82]⟩

def indexData : ByteArray := ⟨#[0x18,0xe2,0x2d,0x00]⟩

namespace Content

/-- Whether nothing is in a file that a database looks for. A single byte counts as nothing. -/
def isNew (content : Content) : Bool := content.size ≤ 1

/-- Whether the first byte is zero, or there is none. A journal that begins so is done with. -/
def beginsWithZero : Content → Bool
  | .bytes data => data.data[0]?.all (· == 0)
  | .database _ _ => false

def database? : Content → Except TableError Database
  | .database _ found => .ok found
  | .bytes data => if data.size ≤ 1 then .ok {} else .error (.database "file is not a database")

end Content

namespace Address

/-- Whether a lock for writing can be had. Only real locks ask for a file that may be written. -/
def canReserve (address : Address) : Bool :=
  address.access ≠ .read || address.lockless ||
    address.backend = "unix-none" || address.backend = "unix-dotfile"

/-- Whether a lock is a file of its own. Then a journal is never taken for one left behind,
since it may be that of whoever holds the lock. -/
def usesLockFile (address : Address) : Bool :=
  address.backend = "unix-dotfile" && !address.lockless

def canLog (address : Address) : Bool :=
  !address.lockless && (address.backend = "unix" || address.backend = "unix-excl")

def indexInMemory (address : Address) : Bool := address.backend = "unix-excl"

end Address

namespace Tree

def nameOf (place : Place) : String := place.getLast?.getD ""

def companion (place : Place) (ending : String) : Place :=
  place.dropLast ++ [nameOf place ++ ending]

def journal (place : Place) : Place := companion place "-journal"

def log (place : Place) : Place := companion place "-wal"

def index (place : Place) : Place := companion place "-shm"

/-- What is made for as long as a database is locked, where that is how locks are kept. -/
def lock (place : Place) : Place := companion place ".lock"

/-- Whether something is at a place or behind the link there. An empty file counts as nothing. -/
def isThere (tree : Tree) (place : Place) : Bool :=
  match tree.resolve place.dropLast (nameOf place) with
  | .ok (_,.file content) => content.size ≠ 0
  | .ok _ => true
  | .error _ => false

def isDirectoryAt (tree : Tree) (place : Place) : Bool :=
  match tree.node? place with
  | some .directory => true
  | _ => false

structure Recovery where
  tree : Tree
  isLogged : Bool := false
  failure : Option TableError := none

structure Search where
  address : Address
  place : Place
  isNew : Bool := false
  isHeld : Bool := false

/-- Takes away a journal. One beside a new file belongs to an earlier database; what one
beside rows holds is not the start of a change, or the change would be undone. -/
def recoverJournal (tree : Tree) (search : Search) : Except TableError Tree :=
  let { address, place, isNew, isHeld } := search
  if !tree.isThere (journal place) || address.usesLockFile then .ok tree
  else if isNew then
    if tree.isDirectoryAt (journal place) || !address.canReserve then .ok tree
    else .ok (tree.remove (journal place))
  else if (tree.node? place).isNone then .error cannotOpen
  else match tree.node? (journal place) with
    | some (.file content) =>
      if content.beginsWithZero then .ok tree
      else if address.access = .read || isHeld then .error cannotLock
      else .ok (tree.remove (journal place))
    | _ => .error cannotOpen

/-- Makes the index of a log, unless it is there because the log is in use. -/
def makeIndex (tree : Tree) (search : Search) : Except TableError Tree :=
  if search.address.indexInMemory || search.isHeld then .ok tree
  else match tree.node? (index search.place) with
    | none | some (.file _) =>
      if search.address.readsIndex then .error cannotOpen
      else .ok (tree.overwrite (index search.place) indexData)
    | some _ => .error cannotOpen

/-- Takes away a log beside a new file; one beside rows is used. -/
def recoverLog (tree : Tree) (search : Search) : Recovery :=
  let { address, place, isNew, .. } := search
  if !tree.isThere (log place) then { tree }
  else if isNew then
    if tree.isDirectoryAt (log place) then { tree, failure := some cannotOpen }
    else { tree := tree.remove (log place) }
  else match address.canLog && (tree.node? place).isSome,tree.node? (log place) with
    | true,some (.file _) =>
      match tree.makeIndex search with
      | .ok tree => { tree, isLogged := true }
      | .error error => { tree, failure := some error }
    | _,_ => { tree, failure := some cannotOpen }

def recover (tree : Tree) (search : Search) : Recovery :=
  let { address, place, .. } := search
  if address.frozen then { tree }
  else if address.usesLockFile && (tree.node? (lock place)).isSome
  then { tree, failure := some cannotLock }
  else match tree.recoverJournal search with
    | .ok tree => tree.recoverLog search
    | .error error => { tree, failure := some error }

/-- Whether the journal of a change can be made; it is not made through a link. -/
def canMakeJournal (tree : Tree) (place : Place) : Bool :=
  (nameOf (journal place)).utf8ByteSize ≤ nameLimit &&
    match tree.node? (journal place) with
    | none | some (.file _) => true
    | some _ => false

end Tree
end MountHub.Files
