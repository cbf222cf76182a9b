import MountHub.Toml.Moment
import MountHub.Toml.Number
import MountHub.Toml.Table

/-! TOML texts. A text is read as lines, and its lines make one table. -/
namespace MountHub.Toml

def depthLimit : Nat := 79

/-- The items of an array up to its closing bracket, with a comma after each but
perhaps the last. Every item spends fuel. -/
def items? (item? : List Char → Option (Value × List Char)) :
    Nat → List Char → Option (List Value × List Char)
  | 0,_ => none
  | fuel + 1,cs => do
    match ← gap? false cs with
    | ']' :: rest => return ([],rest)
    | cs =>
      let (item,rest) ← item? cs
      match ← gap? false rest with
      | ',' :: rest =>
        let (more,rest) ← items? item? fuel rest
        return (item :: more,rest)
      | ']' :: rest => return ([item],rest)
      | _ => none

def field? (value? : List Char → Option (Value × List Char)) (cs : List Char) :
    Option (((List String × String) × Value) × List Char) := do
  match ← keyPath? cs with
  | (keys,'=' :: rest) =>
    let (value,rest) ← value? (skipSpaces rest)
    return ((keys,value),rest)
  | _ => none

/-- The fields of a table in braces up to the closing one, with a comma between two.
Every field spends fuel. -/
def fields? (value? : List Char → Option (Value × List Char)) :
    Nat → List Char → Option (List ((List String × String) × Value) × List Char)
  | 0,_ => none
  | fuel + 1,cs => do
    let (field,rest) ← field? value? cs
    match skipSpaces rest with
    | ',' :: rest =>
      let (more,rest) ← fields? value? fuel rest
      return (field :: more,rest)
    | '}' :: rest => return ([field],rest)
    | _ => none

def braces? (value? : List Char → Option (Value × List Char)) (cs : List Char) :
    Option (Value × List Char) := do
  match skipSpaces cs with
  | '}' :: rest => return (.table .braces [],rest)
  | cs =>
    let (fields,rest) ← fields? value? (cs.length + 1) cs
    let table ← Table.ofBraces? fields
    return (.table .braces table.fields,rest)

/-- One value. The number says how deep it may still go. -/
def value? : Nat → List Char → Option (Value × List Char)
  | depth,'[' :: rest =>
    match depth with
    | 0 => none
    | depth + 1 =>
      (items? (value? depth) (rest.length + 1) rest).map fun found => (.array found.1,found.2)
  | depth,'{' :: rest =>
    match depth with
    | 0 => none
    | depth + 1 => braces? (value? depth) rest
  | _,'t' :: 'r' :: 'u' :: 'e' :: rest => some (.bool true,rest)
  | _,'f' :: 'a' :: 'l' :: 's' :: 'e' :: rest => some (.bool false,rest)
  | _,cs =>
    match string? cs with
    | some (content,rest) => some (.text (String.ofList content),rest)
    | none =>
      match moment? cs with
      | some rest => some (.moment,rest)
      | none =>
        (number? cs).map fun found =>
          (match found.1 with
            | some value => .integer value
            | none => .float,
          found.2)

inductive Line where
  | blank
  | table (keys : List String × String)
  | nextTable (keys : List String × String)
  | field (keys : List String × String) (value : Value)

def line? : List Char → Option (Line × List Char)
  | '[' :: '[' :: rest => do
    match ← keyPath? rest with
    | (keys,']' :: ']' :: rest) => return (.nextTable keys,rest)
    | _ => none
  | '[' :: rest => do
    match ← keyPath? rest with
    | (keys,']' :: rest) => return (.table keys,rest)
    | _ => none
  | c :: rest =>
    if c = '#' ∨ c = '\n' ∨ c = '\r' then some (.blank,c :: rest)
    else (field? (value? depthLimit) (c :: rest)).map fun found =>
      (.field found.1.1 found.1.2,found.2)
  | [] => some (.blank,[])

/-- The lines of a text. Every line spends fuel. -/
def lines? : Nat → List Char → Option (List Line)
  | 0,_ => none
  | fuel + 1,cs => do
    match skipSpaces cs with
    | [] => return []
    | cs =>
      let (line,rest) ← line? cs
      let more ← lines? fuel (← endLine? rest)
      return line :: more

/-- A document as far as it has been read: its top, and the keys of the table whose
header came last. -/
structure Reached where
  top : Table
  here : List String

def Reached.next (reached : Reached) : Line → Option Reached
  | .blank => some reached
  | .table keys => do
    let top ← reached.top.changeAt .passing Table.headerEnters (Table.openTable keys.2) keys.1
    return ⟨top,keys.1 ++ [keys.2]⟩
  | .nextTable keys => do
    let top ← reached.top.changeAt .passing Table.headerEnters (Table.openNext keys.2) keys.1
    return ⟨top,keys.1 ++ [keys.2]⟩
  | .field keys value => do
    let add := Table.addAt keys value
    let top ← reached.top.changeAt .passing Table.headerEnters add reached.here
    return { reached with top }

/-- The top table of a text. A mark of byte order in front of it is passed over. -/
def document? (text : String) : Option Fields := do
  let cs := match text.toList with
    | '\ufeff' :: rest => rest
    | cs => cs
  let lines ← lines? (cs.length + 1) cs
  let reached ← lines.foldlM Reached.next ⟨.empty .header,[]⟩
  return reached.top.fields

end MountHub.Toml
