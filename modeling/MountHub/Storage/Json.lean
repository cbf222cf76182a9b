import MountHub.Storage.Basic
import MountHub.Json.Record
import MountHub.Json.Value

/-! Ids, storages and listing entries as JSON. -/
namespace MountHub
open Json Json.Tree

def StorageId.ofTree? (tree : Tree) : Option StorageId := tree.word?.map StorageId.mk

def Storage.ofTree? (tree : Tree) : Option Storage := do
  match ← tree.fields? ["id","mount_path","index","driver","addition","modified"] with
  | [id,mountPath,index,driver,addition,modified] =>
    return {
      id := ← orElse .unassigned StorageId.ofTree? id
      mountPath := ← needed text? mountPath
      index := ← orElse 0 int32? index
      driver := ← needed text? driver
      addition := ← orElse "" text? addition
      modified := ← orElse 0 word? modified }
  | _ => none

def Entry.ofTree? (tree : Tree) : Option Entry := do
  match ← tree.fields? ["name","size","modified","is_folder"] with
  | [name,size,modified,isFolder] =>
    return {
      name := ← needed text? name
      size := ← needed word? size
      modified := ← needed word? modified
      isFolder := ← needed bool? isFolder }
  | _ => none

def StorageId.ofJson? (text : String) : Option StorageId := ofChars? text.toList >>= ofTree?

def Storage.ofJson? (text : String) : Option Storage := ofChars? text.toList >>= ofTree?

def Entry.ofJson? (text : String) : Option Entry := ofChars? text.toList >>= ofTree?

def Storage.toJson (storage : Storage) : Value :=
  .object [
    ("id",.number storage.id.raw.toNat),
    ("mount_path",.string storage.mountPath),
    ("index",.number storage.index.toInt),
    ("driver",.string storage.driver),
    ("addition",.string storage.addition),
    ("modified",.number storage.modified.toNat)]

end MountHub
