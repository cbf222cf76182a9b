import MountHub.Text.Digits
import MountHub.Toml.Layout

/-! Strings of a TOML text, and keys. -/
namespace MountHub.Toml

/-- How a string is quoted. Only double quotes know escapes. -/
inductive Quote where
  | double
  | single
deriving DecidableEq

def Quote.char : Quote → Char
  | .double => '"'
  | .single => '\''

def isHexDigit (c : Char) : Bool := (Text.digit? c).isSome

def codePoint? (count : Nat) (cs : List Char) : Option (Char × List Char) :=
  let digits := cs.take count
  let code := Text.number 16 digits
  if digits.length = count ∧ digits.all isHexDigit ∧ Nat.isValidChar code then
    some (Char.ofNat code,cs.drop count)
  else none

def escape? : List Char → Option (Char × List Char)
  | 'b' :: rest => some ('\x08',rest)
  | 't' :: rest => some ('\t',rest)
  | 'n' :: rest => some ('\n',rest)
  | 'f' :: rest => some ('\x0c',rest)
  | 'r' :: rest => some ('\r',rest)
  | '"' :: rest => some ('"',rest)
  | '\\' :: rest => some ('\\',rest)
  | 'u' :: rest => codePoint? 4 rest
  | 'U' :: rest => codePoint? 8 rest
  | _ => none

def unit? (quote : Quote) : List Char → Option (Char × List Char)
  | [] => none
  | c :: rest =>
    if quote = .double ∧ c = '\\' then escape? rest
    else if isPlain c ∧ c ≠ quote.char then some (c,rest)
    else none

/-- A string up to its closing quote. Every character spends fuel. -/
def oneLine? (quote : Quote) : Nat → List Char → Option (List Char × List Char)
  | 0,_ => none
  | fuel + 1,cs =>
    if cs.head? = some quote.char then some ([],cs.tail)
    else do
      let (c,rest) ← unit? quote cs
      let (more,rest) ← oneLine? quote fuel rest
      return (c :: more,rest)

def skipLines : List Char → List Char
  | '\n' :: rest => skipLines rest
  | '\r' :: '\n' :: rest => skipLines rest
  | c :: rest => if isSpace c then skipLines rest else c :: rest
  | [] => []

/-- What follows a backslash at the end of a line: it takes the end of the line and all
blanks after it out of the string. -/
def fold? : List Char → Option (List Char)
  | '\\' :: rest => (newline? (skipSpaces rest)).map skipLines
  | _ => none

/-- One piece of a string over many lines: nothing, the end of a line, or a character. -/
def piece? (quote : Quote) (cs : List Char) : Option (List Char × List Char) :=
  match if quote = .double then fold? cs else none with
  | some rest => some ([],rest)
  | none =>
    match newline? cs with
    | some rest => some (['\n'],rest)
    | none =>
      if cs.head? = some quote.char then some ([quote.char],cs.tail)
      else (unit? quote cs).map fun found => ([found.1],found.2)

/-- A string over many lines up to its three closing quotes. Up to two quotes before
those are text. Every piece spends fuel. -/
def manyLines? (quote : Quote) : Nat → List Char → Option (List Char × List Char)
  | 0,_ => none
  | fuel + 1,cs =>
    let quotes := (cs.takeWhile (· = quote.char)).length
    if 3 ≤ quotes then
      if quotes ≤ 5 then some (List.replicate (quotes - 3) quote.char,cs.drop quotes) else none
    else do
      let (start,rest) ← piece? quote cs
      let (more,rest) ← manyLines? quote fuel rest
      return (start ++ more,rest)

def manyLinesFrom? (quote : Quote) (cs : List Char) : Option (List Char × List Char) :=
  manyLines? quote (cs.length + 1) ((newline? cs).getD cs)

def oneLineFrom? (quote : Quote) (cs : List Char) : Option (List Char × List Char) :=
  oneLine? quote (cs.length + 1) cs

def string? : List Char → Option (List Char × List Char)
  | '"' :: '"' :: '"' :: rest => manyLinesFrom? .double rest
  | '\'' :: '\'' :: '\'' :: rest => manyLinesFrom? .single rest
  | '"' :: rest => oneLineFrom? .double rest
  | '\'' :: rest => oneLineFrom? .single rest
  | _ => none

def isKeyChar (c : Char) : Bool := c.isAlphanum || c = '_' || c = '-'

/-- One key: a string of one line, or letters and digits without quotes. -/
def key? : List Char → Option (List Char × List Char)
  | '"' :: rest => oneLineFrom? .double rest
  | '\'' :: rest => oneLineFrom? .single rest
  | cs =>
    match cs.takeWhile isKeyChar with
    | [] => none
    | key => some (key,cs.dropWhile isKeyChar)

/-- Keys with dots between them and blanks around each. Every key spends fuel. -/
def keys? : Nat → List Char → Option (List String × List Char)
  | 0,_ => none
  | fuel + 1,cs => do
    let (key,rest) ← key? (skipSpaces cs)
    match skipSpaces rest with
    | '.' :: rest =>
      let (more,rest) ← keys? fuel rest
      return (String.ofList key :: more,rest)
    | rest => return ([String.ofList key],rest)

def keyLimit : Nat := 80

/-- A path of keys: those that lead to a table, and the last. -/
def keyPath? (cs : List Char) : Option ((List String × String) × List Char) := do
  let (keys,rest) ← keys? (cs.length + 1) cs
  let last ← keys.getLast?
  if keys.length < keyLimit then some ((keys.dropLast,last),rest) else none

end MountHub.Toml
