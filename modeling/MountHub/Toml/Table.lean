import MountHub.Keyed

/-! Values of a TOML text, and how its tables come together from what its lines say. -/
namespace MountHub.Toml

inductive Origin where
  /-- A header of its own; the top has this origin too. -/
  | header
  | passing
  | dotted
  /-- Braces. Nothing can be added to it later. -/
  | braces
deriving DecidableEq

inductive Value where
  | text (content : String)
  | integer (value : Int)
  | float
  | bool (value : Bool)
  | moment
  | array (items : List Value)
  | table (origin : Origin) (fields : List (String × Value))
  | tables (latest : List (String × Value)) (earlier : List (List (String × Value)))

abbrev Fields := List (String × Value)

structure Table where
  origin : Origin
  fields : Fields

namespace Table

def empty (origin : Origin) : Table := ⟨origin,[]⟩

/-- Changes the table that keys lead to. Tables on the way that are missing are made
with an origin; tables that are there may be entered if their origin allows it, and of
many tables under one name it is the latest that is entered. -/
def changeAt (made : Origin) (mayEnter : Origin → Bool) (change : Table → Option Table) :
    List String → Table → Option Table
  | [],table => change table
  | key :: keys,table =>
    match Keyed.find? table.fields key with
    | none => do
      let below ← changeAt made mayEnter change keys (empty made)
      return { table with fields := Keyed.put table.fields key (.table below.origin below.fields) }
    | some (.table origin fields) => do
      if !mayEnter origin then none
      let below ← changeAt made mayEnter change keys ⟨origin,fields⟩
      return { table with fields := Keyed.put table.fields key (.table below.origin below.fields) }
    | some (.tables latest earlier) => do
      let below ← changeAt made mayEnter change keys ⟨.header,latest⟩
      return { table with fields := Keyed.put table.fields key (.tables below.fields earlier) }
    | some _ => none

def headerEnters (origin : Origin) : Bool := origin ≠ .braces

def dotsEnter (origin : Origin) : Bool := origin = .passing || origin = .dotted

def add (key : String) (value : Value) (table : Table) : Option Table :=
  match Keyed.find? table.fields key with
  | none => some { table with fields := Keyed.put table.fields key value }
  | some _ => none

/-- Adds a value under keys with dots. Where there are dots, they must have made the
table that the last key is added to. -/
def addAt (keys : List String × String) (value : Value) : Table → Option Table :=
  changeAt .dotted dotsEnter
    (fun table => if keys.1 = [] ∨ table.origin = .dotted then table.add keys.2 value else none)
    keys.1

/-- Gives a table its header. No table has two. -/
def openTable (key : String) (table : Table) : Option Table :=
  match Keyed.find? table.fields key with
  | none => some { table with fields := Keyed.put table.fields key (.table .header []) }
  | some (.table .passing fields) =>
    some { table with fields := Keyed.put table.fields key (.table .header fields) }
  | some _ => none

def openNext (key : String) (table : Table) : Option Table :=
  match Keyed.find? table.fields key with
  | none => some { table with fields := Keyed.put table.fields key (.tables [] []) }
  | some (.tables latest earlier) =>
    some { table with fields := Keyed.put table.fields key (.tables [] (latest :: earlier)) }
  | some _ => none

def ofBraces? (fields : List ((List String × String) × Value)) : Option Table :=
  fields.foldlM (fun table field => table.addAt field.1 field.2) (empty .braces)

end Table
end MountHub.Toml
