import MountHub.Registry.Basic
import MountHub.Storage.Basic

/-! Which mounts serve a path: those whose logical path reaches deepest among
the logical paths that the path lies on or below. -/
namespace MountHub

/-- An entry of the registry together with the live storage of its driver. -/
structure Mounted where
  key : String
  driver : Nat
  storage : Storage
deriving DecidableEq, Inhabited

namespace Mounted

/-- The logical path of a mount, with the top as the empty text, so that a slash
follows it in every path below it. -/
def location (mounted : Mounted) : String :=
  let actual := mounted.storage.actualPath
  if actual = "/" then "" else actual

def liesIn (location path : String) : Bool :=
  path == location || (Path.after? location path).any fun rest => rest.head? == some '/'

def serves (path : String) (mounted : Mounted) : Bool := liesIn mounted.location path

def depth (mounted : Mounted) : Nat := Path.depth mounted.location

def pathBefore (first second : Mounted) : Bool :=
  decide (first.storage.mountPath ≤ second.storage.mountPath)

/-- Comes by one mount, with the greatest depth of a serving mount so far and the
mounts found at that depth. A deeper one takes the place of them all. -/
def gather (path : String) (found : Nat × List Mounted) (mounted : Mounted) : Nat × List Mounted :=
  if !mounted.serves path || mounted.depth < found.1 then found
  else if found.1 < mounted.depth then (mounted.depth,[mounted])
  else (found.1,found.2 ++ [mounted])

/-- The mounts that serve a path best, in the order of their mount paths. All mounts
are passed once, in whatever order they come. -/
def resolve (all : List Mounted) (path : String) : List Mounted :=
  (all.foldl (gather path) (0,[])).2.mergeSort pathBefore

end Mounted
end MountHub
