/-! What stands between the values of a TOML text: blanks, ends of lines, and comments. -/
namespace MountHub.Toml

def isSpace (c : Char) : Bool := c = ' ' || c = '\t'

def skipSpaces (cs : List Char) : List Char := cs.dropWhile isSpace

/-- Whether a line may hold a character: the tab is the only control that it may. -/
def isPlain (c : Char) : Bool := c = '\t' || (0x20 ≤ c.toNat && c ≠ '\x7f')

/-- What follows the end of a line. A carriage return alone ends none. -/
def newline? : List Char → Option (List Char)
  | '\n' :: rest => some rest
  | '\r' :: '\n' :: rest => some rest
  | _ => none

def skipComment : List Char → List Char
  | '#' :: rest => rest.dropWhile isPlain
  | cs => cs

/-- What follows a line that holds nothing more but a comment. -/
def endLine? (cs : List Char) : Option (List Char) :=
  match skipComment (skipSpaces cs) with
  | [] => some []
  | rest => newline? rest

/-- What follows blanks, ends of lines and comments; the flag says whether a comment
is under way. A comment ends with its line. -/
def gap? : Bool → List Char → Option (List Char)
  | _,'\n' :: rest => gap? false rest
  | _,'\r' :: '\n' :: rest => gap? false rest
  | false,'#' :: rest => gap? true rest
  | false,c :: rest =>
    if isSpace c then gap? false rest
    else if c = '\r' then none
    else some (c :: rest)
  | false,[] => some []
  | true,c :: rest => if isPlain c then gap? true rest else none
  | true,[] => none

end MountHub.Toml
