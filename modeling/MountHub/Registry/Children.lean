import MountHub.Registry.Resolve

/-! Folders that mounts imply: where mounts lie below a path, the path can be
listed, although nothing stores the folders between. -/
namespace MountHub.Mounted

def listed (all : List Mounted) : List Storage :=
  (all.map (·.storage)).mergeSort Storage.listedBefore

def summaries (all : List Mounted) : List MountSummary := (listed all).map Storage.summary

def folderStart (path : String) : String :=
  let path := Path.standardize path
  if path = "/" then path else path ++ "/"

/-- The folder that a storage implies below a start, if it lies below it: its name
is the next segment of the mount path. Members of a balance group imply none. -/
def child? (start : String) (storage : Storage) : Option Entry :=
  if storage.isBalance || storage.mountPath.utf8ByteSize ≤ start.utf8ByteSize then none
  else (Path.after? start storage.mountPath).map fun rest =>
    Entry.folder (String.ofList (rest.takeWhile (· ≠ '/'))) storage.modified

/-- The entries whose names are not among those seen, each name once, at its first place. -/
def firstOfName (seen : List String) : List Entry → List Entry
  | [] => []
  | entry :: more =>
    if entry.name ∈ seen then firstOfName seen more
    else entry :: firstOfName (entry.name :: seen) more

def children (all : List Mounted) (path : String) : List Entry :=
  firstOfName [] ((listed all).filterMap (child? (folderStart path)))

end MountHub.Mounted
