import MountHub.Storage.Basic
import MountHub.Text.Quoted

/-! Storages and what is made from them, written out for a reader of diagnostics. -/
namespace MountHub
open Text

def StorageId.debug (id : StorageId) : String := "StorageId(" ++ toString id.raw ++ ")"

def Storage.debug (storage : Storage) : String :=
  record "Storage" [
    ("id",storage.id.debug),
    ("mount_path",quoted storage.mountPath),
    ("index",toString storage.index.toInt),
    ("driver",quoted storage.driver),
    ("addition",quoted storage.addition),
    ("modified",toString storage.modified)]

def MountSummary.debug (summary : MountSummary) : String :=
  record "MountInfo" [
    ("id",summary.id.debug),
    ("mount_path",quoted summary.mountPath),
    ("driver",quoted summary.driver),
    ("index",toString summary.index.toInt)]

def Entry.debug (entry : Entry) : String :=
  record "VirtualObject" [
    ("name",quoted entry.name),
    ("size",toString entry.size),
    ("modified",toString entry.modified),
    ("is_folder",toString entry.isFolder)]

end MountHub
