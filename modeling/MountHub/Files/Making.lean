import MountHub.Files.Tree

/-! Making directories and files. -/
namespace MountHub.Files.Tree

/-- The parts of a path that name something: without empty names and without dots,
but for a dot at its start. -/
def parts (path : String) : List String :=
  let kept := (names path).filter fun name => name != "" && name != "."
  if (names path).head? = some "." then "." :: kept else kept

def ofParts (absolute : Bool) (parts : List String) : String :=
  (if absolute then "/" else "") ++ String.intercalate "/" parts

def makeDirectory (tree : Tree) (working : Place) (path : String) : Except OsError Tree := do
  checkPath path
  let given := (names path).filter (· != "")
  match given.getLast? with
  | none => .error .alreadyExists
  | some last =>
    let start := if isAbsolute path then [] else working
    match ← follow tree linkLimit start given.dropLast with
    | (here,some .directory) =>
      if last = "." ∨ last = ".." then .error .alreadyExists
      else if nameLimit < last.utf8ByteSize then .error .nameTooLong
      else if (tree.node? (here ++ [last])).isSome then .error .alreadyExists
      else .ok (tree.put (here ++ [last]) .directory)
    | (_,some _) => .error .notADirectory
    | (_,none) => .error .notFound

/-- Makes a directory and those above it; what is a directory already is left alone. -/
def makeDirectories (tree : Tree) (working : Place) (absolute : Bool) (parts : List String) :
    Except OsError Tree :=
  let path := ofParts absolute parts
  match tree.makeDirectory working path with
  | .ok tree => .ok tree
  | .error .notFound =>
    match parts with
    | [] => if absolute then .error .notFound else .ok tree
    | first :: more => do
      let tree ← makeDirectories tree working absolute (first :: more).dropLast
      match tree.makeDirectory working path with
      | .ok tree => .ok tree
      | .error error => if tree.isDirectory working path then .ok tree else .error error
  | .error error => if tree.isDirectory working path then .ok tree else .error error
termination_by parts.length
decreasing_by simp

def makeParents (tree : Tree) (working : Place) (path : String) : Except OsError Tree :=
  match (parts path).dropLast with
  | [] => .ok tree
  | above => makeDirectories tree working (isAbsolute path) above

def writeFile (tree : Tree) (working : Place) (path : String) (data : ByteArray) :
    Except OsError Tree := do
  let tree ← tree.makeParents working path
  match ← tree.locate working path with
  | (_,some .directory) => .error .isADirectory
  | (place,_) => .ok (tree.put place (.file (.bytes data)))

def makeLink (tree : Tree) (working : Place) (path target : String) : Except OsError Tree := do
  let tree ← tree.makeParents working path
  match (parts path).getLast? with
  | none => .error .alreadyExists
  | some last =>
    let start := if isAbsolute path then [] else working
    match ← follow tree linkLimit start (parts path).dropLast with
    | (here,_) => .ok (tree.put (here ++ [last]) (.link target))

end MountHub.Files.Tree
