import MountHub.Text.Digits

/-! JSON text read into a tree. Strings that name no Unicode text and numbers
that are no integers have a place in the grammar; the tree marks them, and
whoever needs their value refuses them. -/
namespace MountHub.Json
open Text (digit?)

inductive Tree where
  | null
  | bool (value : Bool)
  /-- Nothing for a number with a fraction or an exponent, and for minus zero. -/
  | number (integer : Option Int)
  | string (content : Option (List Char))
  | array (items : List Tree)
  | object (members : List (Option (List Char) × Tree))
deriving Inhabited

namespace Tree

def isSpace (c : Char) : Bool := c = ' ' || c = '\t' || c = '\n' || c = '\r'

def skipSpace (cs : List Char) : List Char := cs.dropWhile isSpace

def hexUnit? (a b c d : Char) : Option Nat := do
  return (((← digit? a) * 16 + (← digit? b)) * 16 + (← digit? c)) * 16 + (← digit? d)

def escape? : Char → Option Char
  | '"' => some '"'
  | '\\' => some '\\'
  | '/' => some '/'
  | 'b' => some '\x08'
  | 'f' => some '\x0c'
  | 'n' => some '\n'
  | 'r' => some '\r'
  | 't' => some '\t'
  | _ => none

/-- A step of a string: a character, or a 16-bit unit written as an escape. -/
inductive Step where
  | char (c : Char)
  | unit (code : Nat)

def steps : List Char → Option (List Step × List Char)
  | [] => none
  | '"' :: rest => some ([],rest)
  | '\\' :: 'u' :: a :: b :: c :: d :: rest => do
    let code ← hexUnit? a b c d
    let (more,rest) ← steps rest
    return (.unit code :: more,rest)
  | '\\' :: c :: rest => do
    let c ← escape? c
    let (more,rest) ← steps rest
    return (.char c :: more,rest)
  | c :: rest => do
    if c.toNat < 0x20 then none
    let (more,rest) ← steps rest
    return (.char c :: more,rest)

def isHighSurrogate (code : Nat) : Bool := 0xD800 ≤ code && code < 0xDC00

def isLowSurrogate (code : Nat) : Bool := 0xDC00 ≤ code && code < 0xE000

/-- The text that steps spell; half of a surrogate pair spells none. -/
def spell : List Step → Option (List Char)
  | [] => some []
  | .char c :: more => (spell more).map (c :: ·)
  | .unit high :: .unit low :: more =>
    if isHighSurrogate high && isLowSurrogate low then
      (spell more).map (Char.ofNat (0x10000 + (high - 0xD800) * 0x400 + (low - 0xDC00)) :: ·)
    else if isHighSurrogate high || isLowSurrogate high then none
    else (spell (.unit low :: more)).map (Char.ofNat high :: ·)
  | .unit code :: more =>
    if isHighSurrogate code || isLowSurrogate code then none
    else (spell more).map (Char.ofNat code :: ·)

def digits? (cs : List Char) : Option (List Char × List Char) :=
  match cs.takeWhile Char.isDigit with
  | [] => none
  | digits => some (digits,cs.dropWhile Char.isDigit)

/-- A whole part without needless zeros. -/
def whole? (cs : List Char) : Option (Nat × List Char) := do
  let (digits,rest) ← digits? cs
  if digits.head? = some '0' ∧ digits.length ≠ 1 then none
  else some (Text.number 10 digits,rest)

/-- A fraction if there is one; the flag says whether. -/
def fraction? : List Char → Option (Bool × List Char)
  | '.' :: rest => do
    let (_,rest) ← digits? rest
    return (true,rest)
  | rest => some (false,rest)

/-- An exponent if there is one; the flag says whether. -/
def exponent? : List Char → Option (Bool × List Char)
  | c :: rest =>
    if c = 'e' ∨ c = 'E' then
      let unsigned := match rest with
        | '+' :: rest => rest
        | '-' :: rest => rest
        | rest => rest
      (digits? unsigned).map fun found => (true,found.2)
    else some (false,c :: rest)
  | [] => some (false,[])

def unsigned? (negative : Bool) (cs : List Char) : Option (Option Int × List Char) := do
  let (value,rest) ← whole? cs
  let (fraction,rest) ← fraction? rest
  let (exponent,rest) ← exponent? rest
  if fraction || exponent || (negative && value == 0) then return (none,rest)
  else return (some (if negative then -(value : Int) else value),rest)

def number? : List Char → Option (Option Int × List Char)
  | '-' :: rest => unsigned? true rest
  | cs => unsigned? false cs

mutual
/-- One value, and what follows it. Every call spends fuel. -/
def value? : Nat → List Char → Option (Tree × List Char)
  | 0,_ => none
  | fuel + 1,cs =>
    match skipSpace cs with
    | 'n' :: 'u' :: 'l' :: 'l' :: rest => some (.null,rest)
    | 't' :: 'r' :: 'u' :: 'e' :: rest => some (.bool true,rest)
    | 'f' :: 'a' :: 'l' :: 's' :: 'e' :: rest => some (.bool false,rest)
    | '"' :: rest => do
      let (content,rest) ← steps rest
      return (.string (spell content),rest)
    | '[' :: rest =>
      match skipSpace rest with
      | ']' :: rest => some (.array [],rest)
      | rest => do
        let (items,rest) ← items? fuel rest
        return (.array items,rest)
    | '{' :: rest =>
      match skipSpace rest with
      | '}' :: rest => some (.object [],rest)
      | rest => do
        let (members,rest) ← members? fuel rest
        return (.object members,rest)
    | rest => do
      let (integer,rest) ← number? rest
      return (.number integer,rest)

def items? : Nat → List Char → Option (List Tree × List Char)
  | 0,_ => none
  | fuel + 1,cs => do
    let (item,rest) ← value? fuel cs
    match skipSpace rest with
    | ',' :: rest =>
      let (more,rest) ← items? fuel rest
      return (item :: more,rest)
    | ']' :: rest => return ([item],rest)
    | _ => none

def members? : Nat → List Char → Option (List (Option (List Char) × Tree) × List Char)
  | 0,_ => none
  | fuel + 1,cs => do
    match skipSpace cs with
    | '"' :: rest =>
      let (name,rest) ← steps rest
      match skipSpace rest with
      | ':' :: rest =>
        let (value,rest) ← value? fuel rest
        match skipSpace rest with
        | ',' :: rest =>
          let (more,rest) ← members? fuel rest
          return ((spell name,value) :: more,rest)
        | '}' :: rest => return ([(spell name,value)],rest)
        | _ => none
      | _ => none
    | _ => none
end

/-- The tree of a text that holds one value and blanks. A value and the list
around it spend two calls on at least one character. -/
def ofChars? (cs : List Char) : Option Tree :=
  match value? (2 * cs.length + 2) cs with
  | some (tree,rest) => if skipSpace rest = [] then some tree else none
  | none => none

end Tree
end MountHub.Json
