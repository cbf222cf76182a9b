import MountHub.Json.Tree

/-! Records read from trees: an object gives fields by name, an array gives
them in order. -/
namespace MountHub.Json.Tree

/-- The value of a member with this name. Two of them are an error. -/
def member? (members : List (List Char × Tree)) (name : String) : Option (Option Tree) :=
  match members.filter fun member => member.1 = name.toList with
  | [] => some none
  | [member] => some (some member.2)
  | _ => none

/-- The names of members as text; a name without one is an error. -/
def named? (members : List (Option (List Char) × Tree)) : Option (List (List Char × Tree)) :=
  members.mapM fun member => member.1.map (·,member.2)

/-- The values given to the fields with these names: members with other names
are passed over, an array may stop early but may not go on beyond the fields. -/
def fields? (names : List String) : Tree → Option (List (Option Tree))
  | .object members => do
    let members ← named? members
    names.mapM (member? members)
  | .array items =>
    if items.length ≤ names.length then
      some (items.map some ++ List.replicate (names.length - items.length) none)
    else none
  | _ => none

def text? : Tree → Option String
  | .string content => content.map String.ofList
  | _ => none

def bool? : Tree → Option Bool
  | .bool value => some value
  | _ => none

def word? : Tree → Option UInt64
  | .number (some value) =>
    if 0 ≤ value ∧ value < 0x10000000000000000 then some (UInt64.ofNat value.toNat) else none
  | _ => none

def int32? : Tree → Option Int32
  | .number (some value) =>
    if -0x80000000 ≤ value ∧ value < 0x80000000 then some (Int32.ofInt value) else none
  | _ => none

def needed {α : Type} (read : Tree → Option α) : Option Tree → Option α
  | some tree => read tree
  | none => none

def orElse {α : Type} (default : α) (read : Tree → Option α) : Option Tree → Option α
  | some tree => read tree
  | none => some default

end MountHub.Json.Tree
