import MountHub.Table.Basic

/-! Databases: tables under the names that their prefixes make. -/
namespace MountHub

structure Database where
  tables : List Table := []
  indexes : List String := []
deriving DecidableEq, Inhabited

namespace Database

/-- Characters that a name may hold: letters, digits, `_`, `$`, and all beyond ASCII. -/
def isNameChar (c : Char) : Bool :=
  c.isAlphanum || c = '_' || c = '$' || 0x80 ≤ c.toNat

/-- A name that needs no quotes does not begin with a digit or with `$`. -/
def isPlainName (name : String) : Bool :=
  name.toList.all isNameChar &&
    match name.toList with
    | c :: _ => !(c.isDigit || c = '$')
    | [] => false

def isReserved (name : String) : Bool :=
  "sqlite_".toList.isPrefixOf (name.toList.map Char.toLower)

def sameName (first second : String) : Bool :=
  first.toList.map Char.toLower == second.toList.map Char.toLower

def find? (database : Database) (name : String) : Option Table :=
  database.tables.find? fun table => sameName table.name name

def table (database : Database) (name : String) : Table := (database.find? name).getD { name }

def keep (database : Database) (table : Table) : Database :=
  { database with
    tables := table :: database.tables.filter fun other => !sameName other.name table.name }

def hasIndex (database : Database) (index : String) : Bool :=
  database.indexes.any (sameName index)

def addIndex (database : Database) (index : String) : Database :=
  { database with indexes := index :: database.indexes }

end Database
end MountHub
