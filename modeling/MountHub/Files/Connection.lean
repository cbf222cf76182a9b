import MountHub.Files.Companion
import MountHub.Manager.World

/-! Connections to databases: where the rows are kept, and how they are changed. Several
tables may share one file, and whoever opens the same file sees the same rows. -/
namespace MountHub.Files

inductive Keeper where
  /-- The file with a mark at a place; without a mark it is a new one. -/
  | file (place : Place) (mark : Option Nat)
  | memory (name : List String)
  | nothing
deriving DecidableEq, Inhabited

structure Connection where
  address : Address
  keeper : Keeper := .nothing
  cache : Option (String × String) := none
  isLogged : Bool := false
deriving DecidableEq, Inhabited

namespace Tree

def isAt (tree : Tree) (place : Place) (mark : Option Nat) : Bool :=
  match tree.node? place with
  | some (.file content) => content.mark? = mark
  | _ => false

def database? (tree : Tree) (connection : Connection) : Option Database :=
  match connection.keeper with
  | .file place mark =>
    match tree.node? place with
    | some (.file (.database found database)) => if mark = some found then some database else none
    | _ => none
  | .memory name => tree.memories.lookup name
  | .nothing => none

/-- Whether a change can be made: without a log, the file is at its place and gets a journal. -/
def canChange (tree : Tree) (connection : Connection) : Bool :=
  match connection.keeper with
  | .file place mark => connection.isLogged || (tree.isAt place mark && tree.canMakeJournal place)
  | _ => true

/-- Writes a change to a log; or writes a journal, and takes it away when the change is done. -/
def recordChange (tree : Tree) (connection : Connection) (place : Place) : Tree :=
  if connection.isLogged then tree.overwrite (log place) logData
  else (tree.overwrite (journal place) .empty).remove (journal place)

def change (tree : Tree) (connection : Connection) (database : Database) : Connection × Tree :=
  match connection.keeper with
  | .nothing => (connection,tree)
  | .memory name => (connection,tree.putMemory name database)
  | .file place mark =>
    if tree.isAt place mark then
      let kept := mark.getD (tree.lastMark + 1)
      let tree := (tree.recordChange connection place).put place (.file (.database kept database))
      ({ connection with keeper := .file place (some kept) },
        { tree with lastMark := max tree.lastMark kept })
    else (connection,tree)

def keepTable (tree : Tree) (connection : Connection) (table : Table) : Tree :=
  match tree.database? connection with
  | some database =>
    if database.find? table.name = some table then tree
    else (tree.change connection (database.keep table)).2
  | none => tree

/-- Closes a connection, while there may be another one. Who is last to close a database
with a log takes the log away. -/
def close (tree : Tree) (connection : Connection) (other : Option Connection) : Tree :=
  let isLast := !other.any fun other => other.keeper = connection.keeper
  match connection.keeper with
  | .nothing => tree
  | .memory name => if isLast then tree.forgetMemory name else tree
  | .file place mark =>
    let isFree := isLast || !other.any Connection.isLogged
    if connection.isLogged && isFree && connection.address.access ≠ .read && tree.isAt place mark
    then
      let tree := tree.remove (log place)
      if connection.address.indexInMemory then tree else tree.remove (index place)
    else tree

end Tree

def TableCall.changes (table : Table) : TableCall → Bool
  | .create storage => (table.create storage).toOption.isSome
  | .update storage => (table.update storage).toOption.isSome
  | .delete id => (table.delete id).toOption.isSome
  | _ => false

/-- Whether a call gets as far as the files: a change through a connection for reading is
refused before. -/
def Connection.reaches (connection : Connection) (call : TableCall) : Bool :=
  !(connection.address.isReadOnly && call.refusedReadOnly.isSome)

namespace Tree

def look (tree : Tree) (connection : Connection) : Recovery :=
  match connection.keeper,connection.isLogged with
  | .file place _,false => tree.recover { address := connection.address, place }
  | _,isLogged => { tree, isLogged }

def isSpoiled (tree : Tree) (connection : Connection) : Bool :=
  match connection.keeper with
  | .file _ (some mark) => tree.spoiled.contains mark
  | _ => false

/-- Whether rows cannot even be read: because of what stands beside the file, or because
they are no longer there. -/
def isBlocked (tree : Tree) (connection : Connection) : Bool :=
  (tree.look connection).failure.isSome || tree.isSpoiled connection

/-- Why a call on an open table fails, if it cannot be answered from the rows. -/
def refusesCall (tree : Tree) (connection : Connection) (table : Table) (call : TableCall) :
    Option TableError :=
  if tree.isBlocked connection then some cannotOpen
  else if connection.address.isReadOnly then call.refusedReadOnly
  else if TableCall.changes table call && !tree.canChange connection then some cannotWrite
  else none

end Tree
end MountHub.Files
