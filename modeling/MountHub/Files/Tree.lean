import MountHub.Driver.Outside
import MountHub.Files.Error
import MountHub.Table.Database

/-! The files of a host: directories, links and files at places below one root,
and the way a path leads to a place. -/
namespace MountHub.Files

abbrev Place := List String

inductive Content where
  | bytes (data : ByteArray)
  /-- A database. Its mark tells it from others that took its place before or later. -/
  | database (mark : Nat) (database : Database)
deriving Inhabited

/-- The size in bytes, as far as it is known: a database holds more than one. -/
def Content.size : Content → Nat
  | .bytes data => data.size
  | .database _ _ => 2

def Content.mark? : Content → Option Nat
  | .bytes _ => none
  | .database mark _ => some mark

inductive Node where
  | directory
  | file (content : Content)
  | link (target : String)
deriving Inhabited

structure Tree where
  nodes : List (Place × Node) := []
  memories : List (List String × Database) := []
  lastMark : Nat := 0
  spoiled : List Nat := []
deriving Inhabited

namespace Tree

/-- What is at a place; the root is a directory. -/
def node? (tree : Tree) (place : Place) : Option Node :=
  if place = [] then some .directory
  else (tree.nodes.find? fun entry => entry.1 == place).map (·.2)

def put (tree : Tree) (place : Place) (node : Node) : Tree :=
  { tree with nodes := (place,node) :: tree.nodes.filter fun entry => entry.1 != place }

/-- Writes over the file at a place, or makes it. A database there is spoiled. -/
def overwrite (tree : Tree) (place : Place) (data : ByteArray) : Tree :=
  let mark := match tree.node? place with
    | some (.file content) => content.mark?
    | _ => none
  { tree.put place (.file (.bytes data)) with spoiled := mark.toList ++ tree.spoiled }

def remove (tree : Tree) (place : Place) : Tree :=
  { tree with nodes := tree.nodes.filter fun entry => entry.1 != place }

def forgetMemory (tree : Tree) (name : List String) : Tree :=
  { tree with memories := tree.memories.filter fun entry => entry.1 != name }

def putMemory (tree : Tree) (name : List String) (database : Database) : Tree :=
  { tree with memories := (name,database) :: (tree.forgetMemory name).memories }

def names (path : String) : List String := (Path.pieces path.toList).map String.ofList

def isAbsolute (path : String) : Bool := path.toList.head? == some '/'

def nameLimit : Nat := 255

def pathLimit : Nat := 4095

def linkLimit : Nat := 40

/-- Follows names from a directory. The result is the place they lead to, and what is
there; nothing may be there only if no name follows. -/
def follow (tree : Tree) (links : Nat) (here : Place) :
    List String → Except OsError (Place × Option Node)
  | [] => .ok (here,some .directory)
  | name :: rest =>
    if name = "" ∨ name = "." then follow tree links here rest
    else if name = ".." then follow tree links here.dropLast rest
    else if nameLimit < name.utf8ByteSize then .error .nameTooLong
    else
      let place := here ++ [name]
      match tree.node? place with
      | none => if rest = [] then .ok (place,none) else .error .notFound
      | some .directory => follow tree links place rest
      | some (.file content) =>
        if rest = [] then .ok (place,some (.file content)) else .error .notADirectory
      | some (.link target) =>
        match links with
        | 0 => .error .tooManyLinks
        | links + 1 =>
          follow tree links (if isAbsolute target then [] else here) (names target ++ rest)
termination_by names => (links,names.length)

def checkPath (path : String) : Except OsError Unit :=
  if path.toList.contains '\x00' then .error .nulInPath
  else if path = "" then .error .notFound
  else if pathLimit < path.utf8ByteSize then .error .nameTooLong
  else .ok ()

/-- The place a path leads to from a working directory, and what is there, if anything. -/
def locate (tree : Tree) (working : Place) (path : String) :
    Except OsError (Place × Option Node) := do
  checkPath path
  follow tree linkLimit (if isAbsolute path then [] else working) (names path)

def resolve (tree : Tree) (working : Place) (path : String) : Except OsError (Place × Node) := do
  match ← tree.locate working path with
  | (place,some node) => .ok (place,node)
  | (_,none) => .error .notFound

def isDirectory (tree : Tree) (working : Place) (path : String) : Bool :=
  match tree.resolve working path with
  | .ok (_,.directory) => true
  | _ => false

def readText (tree : Tree) (working : Place) (path : String) : Except OsError String := do
  match ← tree.resolve working path with
  | (_,.file (.bytes data)) =>
    match String.fromUTF8? data with
    | some text => .ok text
    | none => .error .invalidText
  | (_,.file (.database _ _)) => .error .invalidText
  | _ => .error .isADirectory

def absolute (place : Place) : String :=
  if place = [] then "/" else String.join (place.map fun name => "/" ++ name)

def folder (tree : Tree) (working : Place) (path : String) : Except DriverError Folder :=
  match tree.resolve working path with
  | .error error => .error (.io error.message)
  | .ok (place,.directory) => .ok (.directory (absolute place))
  | .ok _ => .ok .otherFile

end Tree
end MountHub.Files
