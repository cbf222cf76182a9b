import MountHub.Toml.Document

/-! The configuration of the program. Every section and every field has a default. -/
namespace MountHub

structure DatabaseConfig where
  /-- The file of the database, if it is not the usual one. -/
  path : Option String := none
  tableStart : String := "x_"
deriving DecidableEq, Inhabited

structure LogConfig where
  filter : String := "info"
deriving DecidableEq, Inhabited

structure BootstrapConfig where
  pageSize : UInt64 := 100
deriving DecidableEq, Inhabited

structure Config where
  database : DatabaseConfig := {}
  log : LogConfig := {}
  bootstrap : BootstrapConfig := {}
deriving DecidableEq, Inhabited

namespace Config
open Toml

/-- What a section says about fields: a table names them, an array gives them in
order and may stop early or go on, and a date says nothing. -/
def given? (names : List String) : Value → Option (List (Option Value))
  | .table _ fields => some (names.map (Keyed.find? fields))
  | .array items => some (inOrder items)
  | .tables latest earlier =>
    some (inOrder ((latest :: earlier).reverse.map (.table .header)))
  | .moment => some (names.map fun _ => none)
  | _ => none
where
  inOrder (items : List Value) : List (Option Value) :=
    (items.map some ++ List.replicate names.length none).take names.length

def text? : Value → Option String
  | .text content => some content
  | _ => none

def size? : Value → Option UInt64
  | .integer value => if 0 ≤ value then some (UInt64.ofNat value.toNat) else none
  | _ => none

def orElse {α : Type} (default : α) (read : Value → Option α) : Option Value → Option α
  | some value => read value
  | none => some default

def database? (value : Value) : Option DatabaseConfig := do
  match ← given? ["path","table_prefix"] value with
  | [path,tableStart] =>
    return {
      path := ← orElse none (fun value => (text? value).map some) path
      tableStart := ← orElse "x_" text? tableStart }
  | _ => none

def log? (value : Value) : Option LogConfig := do
  match ← given? ["filter"] value with
  | [filter] => return { filter := ← orElse "info" text? filter }
  | _ => none

def bootstrap? (value : Value) : Option BootstrapConfig := do
  match ← given? ["page_size"] value with
  | [pageSize] => return { pageSize := ← orElse 100 size? pageSize }
  | _ => none

def ofToml? (text : String) : Option Config := do
  let top ← document? text
  return {
    database := ← orElse {} database? (Keyed.find? top "database")
    log := ← orElse {} log? (Keyed.find? top "log")
    bootstrap := ← orElse {} bootstrap? (Keyed.find? top "bootstrap") }

end Config
end MountHub
