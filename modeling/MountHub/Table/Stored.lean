import MountHub.Storage.Json
import MountHub.Table.Database

/-! Databases as text. Each table is a line with its name and the last id it handed out,
and a line for each of its rows. -/
namespace MountHub
open Json

/-- Ids are handed out once and not beyond the last; no two rows share an id or a path. -/
def Table.isSound (table : Table) : Bool :=
  decide ((table.rows.map (·.id)).Nodup) && decide ((table.rows.map (·.mountPath)).Nodup) &&
    table.rows.all fun row => 0 < row.id.toInt && row.id.toInt ≤ table.lastId

namespace Database

def header (table : Table) : Value :=
  .object [("table",.string table.name),("last",.number table.lastId)]

def tableLines (table : Table) : List Value :=
  header table :: table.rows.map fun row => row.storage.toJson

def text (database : Database) : String :=
  String.join ((database.tables.flatMap tableLines).map fun line => line.text ++ "\n")

/-- The empty table that a line begins, if it begins one. -/
def header? (tree : Tree) : Option Table := do
  match ← tree.fields? ["table","last"] with
  | [some name,some last] =>
    return { name := ← name.text?, lastId := (← last.word?).toNat }
  | _ => none

/-- Adds what a line says: a new table, or a row of the latest one. -/
def addLine (tables : List Table) (line : String) : Option (List Table) := do
  let tree ← Tree.ofChars? line.toList
  match header? tree with
  | some table => return table :: tables
  | none =>
    let storage ← Storage.ofTree? tree
    match tables with
    | table :: more =>
      return { table with rows := table.rows ++ [Row.ofStorage storage.id.key storage] } :: more
    | [] => none

def ofText? (text : String) : Option Database := do
  let lines := (text.splitOn "\n").filter (· ≠ "")
  let tables ← lines.foldlM addLine []
  if tables.all Table.isSound then some { tables := tables.reverse } else none

end Database
end MountHub
