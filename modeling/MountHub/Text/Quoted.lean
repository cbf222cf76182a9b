import MountHub.Text.Unprintable

/-! Values written out for a reader of diagnostics: quoted text, records with
named fields, and lists. -/
namespace MountHub.Text

def hexadecimal (n : Nat) : List Char := Nat.toDigits 16 n

/-- One character between quotes: the quote, the backslash and the common
controls behind a backslash, and what cannot be shown by its code point. -/
def quotedChar (c : Char) : List Char :=
  if c = '"' then ['\\','"']
  else if c = '\\' then ['\\','\\']
  else if c = '\n' then ['\\','n']
  else if c = '\r' then ['\\','r']
  else if c = '\t' then ['\\','t']
  else if c = '\x00' then ['\\','0']
  else if isUnprintable c then ['\\','u','{'] ++ hexadecimal c.toNat ++ ['}']
  else [c]

def quoted (text : String) : String :=
  String.ofList ('"' :: (text.toList.flatMap quotedChar ++ ['"']))

/-- A record: its name, and its fields between braces. -/
def record (name : String) (fields : List (String × String)) : String :=
  let shown := fields.map fun field => field.1 ++ ": " ++ field.2
  name ++ " \x7b " ++ String.intercalate ", " shown ++ " \x7d"

def bracketed (items : List String) : String :=
  "[" ++ String.intercalate ", " items ++ "]"

end MountHub.Text
