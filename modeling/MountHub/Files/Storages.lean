import MountHub.Files.Connection
import MountHub.Table.Naming

/-! Opening the table of storages in the database that a name asks for. -/
namespace MountHub.Files

structure Opened where
  table : Table
  connection : Connection
deriving Inhabited

namespace Tree

def databaseLinkLimit : Nat := 201

def databaseStepLimit : Nat := 511

/-- The longest path of a database in bytes: names of its companion files are longer. -/
def databasePathLimit : Nat := 504

/-- The place that the path of a database leads to. Links are followed one by one, and
what is not there is stepped over; only the way through a file ends. -/
def settle (tree : Tree) (links : Nat) (here : Place) : List String → Option Place
  | [] => some here
  | name :: rest =>
    if name = "" ∨ name = "." then settle tree links here rest
    else if name = ".." then settle tree links here.dropLast rest
    else
      let place := here ++ [name]
      if databaseStepLimit < (absolute place).utf8ByteSize then none
      else match tree.node? here with
        | none => settle tree links place rest
        | some .directory =>
          if nameLimit < name.utf8ByteSize then none
          else match tree.node? place with
            | some (.link target) =>
              match links with
              | 0 => none
              | links + 1 =>
                settle tree links (if isAbsolute target then [] else here) (names target ++ rest)
            | _ => settle tree links place rest
        | some _ => none
termination_by names => (links,names.length)

/-- The place of the file that a path asks for, unless its path is too long. -/
def databasePlace? (tree : Tree) (working : Place) (path : String) : Option Place :=
  match settle tree databaseLinkLimit (if isAbsolute path then [] else working) (names path) with
  | some place =>
    if place = [] ∨ databasePathLimit < (absolute place).utf8ByteSize then none else some place
  | none => none

def changeFirst (tree : Tree) (connection : Connection) (database : Database) :
    Except TableError (Connection × Tree) :=
  if connection.address.isReadOnly then .error cannotWrite
  else if !tree.canChange connection then .error cannotOpen
  else .ok (tree.change connection database)

/-- Makes a table, unless it is there. -/
def makeTable (tree : Tree) (connection : Connection) (database : Database) (name : String) :
    Except TableError (Connection × Tree) :=
  if (database.find? name).isSome then .ok (connection,tree)
  else tree.changeFirst connection (database.keep (database.table name))

/-- Makes the index of a table, unless it is there. What stands beside the file is looked
for again. -/
def makeTableIndex (tree : Tree) (connection : Connection) (database : Database)
    (index : String) : Except TableError (Connection × Tree) :=
  if tree.isBlocked connection then .error cannotOpen
  else if database.hasIndex index then .ok (connection,tree)
  else tree.changeFirst connection (database.addIndex index)

def openTableOf (tree : Tree) (connection : Connection) (database : Database) (start : String) :
    Except TableError Opened × Tree :=
  match Naming.of start with
  | .refused | .broken => (.error (Naming.error start),tree)
  | .half name =>
    match tree.makeTable connection database name with
    | .ok (_,tree) => (.error (Naming.error start),tree)
    | .error error => (.error error,tree)
  | .whole name index =>
    let table := database.table name
    match tree.makeTable connection database name with
    | .error error => (.error error,tree)
    | .ok (connection,tree) =>
      match tree.makeTableIndex connection (database.keep table) index with
      | .ok (connection,tree) => (.ok ⟨table,connection⟩,tree)
      | .error error => (.error error,tree)

/-- The content of a file, which is made if there is none. -/
def openFile (tree : Tree) (working : Place) (address : Address) (place : Place) :
    Except TableError (Content × Tree) :=
  if address.model.any fun path => (tree.resolve working path).toOption.isNone
  then .error cannotOpen
  else match tree.node? place with
    | some (.file content) => .ok (content,tree)
    | some _ => .error cannotOpen
    | none =>
      match tree.node? place.dropLast with
      | some .directory =>
        if address.access = .create then .ok (.bytes .empty,tree.put place (.file (.bytes .empty)))
        else .error cannotOpen
      | _ => .error cannotOpen

/-- Opens a table in a file: what was left behind beside the file is looked for before the
name of the table is seen to be none. -/
def openInFile (tree : Tree) (other : Option Connection) (address : Address) (place : Place)
    (content : Content) (start : String) : Except TableError Opened × Tree :=
  if Naming.of start = .refused then (.error (Naming.error start),tree)
  else
    let keeper := Keeper.file place content.mark?
    let isHeld := other.any fun other => other.keeper = keeper && other.isLogged
    let recovery := tree.recover { address, place, isNew := content.isNew, isHeld }
    let connection : Connection :=
      { address
        keeper
        cache := address.cacheName? (absolute place)
        isLogged := recovery.isLogged }
    let result : Except TableError Opened × Tree := match recovery.failure,content.database? with
      | some error,_ | none,.error error => (.error error,recovery.tree)
      | none,.ok database => recovery.tree.openTableOf connection database start
    match result with
    | (.ok opened,tree) => (.ok opened,tree)
    | (.error error,tree) => (.error error,tree.close connection other)

def openShared (tree : Tree) (other : Connection) (start : String) :
    Except TableError Opened × Tree :=
  if Naming.of start = .refused then (.error (Naming.error start),tree)
  else if tree.isBlocked other then (.error cannotOpen,tree)
  else
    let look := tree.look other
    let connection := { other with isLogged := look.isLogged }
    look.tree.openTableOf connection ((tree.database? connection).getD {}) start

def openInMemory (tree : Tree) (address : Address) (start : String) :
    Except TableError Opened × Tree :=
  let cache := address.cacheName? address.path
  let name := address.storeName? <|> cache.map fun cache => ["cache",cache.1,cache.2]
  let keeper := match name with
    | some name => Keeper.memory name
    | none => .nothing
  let connection : Connection := { address, keeper, cache }
  tree.openTableOf connection ((tree.database? connection).getD {}) start

/-- Opens the table with this start of its name in the database that is asked for, with
the directories above it, while there may be another connection. The result is the table
and the files afterwards. -/
def openTable (tree : Tree) (other : Option Connection) (working : Place) (path start : String) :
    Except TableError Opened × Tree :=
  match tree.makeParents working path with
  | .error error => (.error (.io error.message),tree)
  | .ok tree =>
    if path.toList.contains '\x00' then (.error cannotOpen,tree)
    else match Address.read path with
    | .error reason => (.error (.database reason),tree)
    | .ok address =>
      let shared (cache : Option (String × String)) : Option Connection :=
        other.filter fun other => cache.isSome && other.cache = cache
      if address.isInMemory then
        match shared (address.cacheName? address.path) with
        | some other => tree.openShared other start
        | none => tree.openInMemory address start
      else match tree.databasePlace? working address.path with
        | none => (.error cannotOpen,tree)
        | some place =>
          match shared (address.cacheName? (absolute place)) with
          | some other => tree.openShared other start
          | none =>
            match tree.openFile working address place with
            | .error error => (.error error,tree)
            | .ok (content,tree) => tree.openInFile other address place content start

end Tree
end MountHub.Files
