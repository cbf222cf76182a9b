import MountHub.Driver.Error
import MountHub.Json.Record
import MountHub.Json.Value
import MountHub.Text.Blank

/-! Additions: what a driver type keeps in a storage beside the fields that all
storages have. A blank addition stands for the defaults. -/
namespace MountHub
open Json

structure MemoryAddition where
  session : Option String := none
deriving DecidableEq, Inhabited

structure FolderAddition where
  rootFolder : String := ""
deriving DecidableEq, Inhabited

namespace Addition

def isBlank (text : String) : Bool := text.toList.all Text.isBlank

/-- Reads an addition: the defaults for a blank one, else JSON. -/
def read? {α : Type} (defaults : α) (ofTree? : Tree → Option α) (text : String) :
    Except DriverError α :=
  if isBlank text then .ok defaults
  else match Tree.ofChars? text.toList >>= ofTree? with
    | some addition => .ok addition
    | none => .error .invalidAddition

end Addition

def MemoryAddition.session? : Tree → Option (Option String)
  | .null => some none
  | tree => tree.text?.map some

def MemoryAddition.ofTree? (tree : Tree) : Option MemoryAddition := do
  match ← tree.fields? ["session"] with
  | [session] => return { session := ← Tree.orElse none session? session }
  | _ => none

def FolderAddition.ofTree? (tree : Tree) : Option FolderAddition := do
  match ← tree.fields? ["root_folder"] with
  | [rootFolder] => return { rootFolder := ← Tree.orElse "" Tree.text? rootFolder }
  | _ => none

def MemoryAddition.read? (text : String) : Except DriverError MemoryAddition :=
  Addition.read? {} ofTree? text

def FolderAddition.read? (text : String) : Except DriverError FolderAddition :=
  Addition.read? {} ofTree? text

def MemoryAddition.toJson (addition : MemoryAddition) : Value :=
  match addition.session with
  | some session => .object [("session",.string session)]
  | none => .object []

def FolderAddition.toJson (addition : FolderAddition) : Value :=
  .object [("root_folder",.string addition.rootFolder)]

end MountHub
