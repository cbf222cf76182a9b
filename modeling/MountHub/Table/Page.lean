import MountHub.Table.Basic

/-! Pages of the table in listing order. -/
namespace MountHub

/-- Rows are listed by index, and by id where indices agree. -/
def Row.listedBefore (first second : Row) : Bool :=
  first.index < second.index || (first.index == second.index && decide (first.id ≤ second.id))

namespace Table

def listed (table : Table) : List Row := table.rows.mergeSort Row.listedBefore

/-- The rows from an offset on, up to a limit: a negative limit is none, and a
negative offset is the start. -/
def window {α : Type} (limit offset : Int64) (rows : List α) : List α :=
  let rest := rows.drop offset.toInt.toNat
  if limit < 0 then rest else rest.take limit.toInt.toNat

/-- One page, counted from 1, and the number of all rows. Page 0 is page 1. The
offset has to be a number of 64 bits; limit and offset are then read as signed. -/
def list (table : Table) (page size : UInt64) : Except TableError (List Storage × Nat) :=
  let skipped := if page = 0 then 0 else page - 1
  if skipped.toNat * size.toNat < 0x10000000000000000 then
    let rows := window size.toInt64 (skipped * size).toInt64 table.listed
    .ok (rows.map Row.storage,table.rows.length)
  else .error .pageOutOfRange

end Table
end MountHub
