import MountHub.Table.Database
import MountHub.Table.Error
import MountHub.Text.Digits

/-! What becomes of the name of a table when the table and its index are made. The names
stand in statements without quotes, so that only some texts are names there. -/
namespace MountHub

inductive Naming where
  | refused
  | broken
  /-- The table can be made, but not its index. -/
  | half (name : String)
  | whole (name index : String)
deriving DecidableEq, Inhabited

namespace Naming

def given (start : String) : String := start ++ "storages"

def indexName (start : String) : String := "idx_" ++ given start ++ "_index"

def isMark (c : Char) : Bool := c = '\ufeff'

def isBlank (c : Char) : Bool :=
  c = ' ' || c = '\t' || c = '\n' || c = '\x0c' || c = '\r' || isMark c

/-- A vertical tab counts as a blank behind a blank, as if it were one. -/
def smooth : Bool → List Char → List Char
  | _,[] => []
  | afterBlank,c :: cs =>
    let c := if afterBlank && c = '\x0b' then ' ' else c
    c :: smooth (isBlank c && !isMark c) cs

/-- Passes over blanks and comments; a comment of the second kind has to end. -/
def skip : Option Char → List Char → Option (List Char)
  | none,'-' :: '-' :: cs => skip (some '-') cs
  | none,'/' :: '*' :: cs => skip (some '*') cs
  | none,c :: cs => if isBlank c then skip none cs else some (c :: cs)
  | some '*','*' :: '/' :: cs => skip none cs
  | some '*',_ :: cs => skip (some '*') cs
  | some '*',[] => none
  | some mark,c :: cs => if c = '\n' then skip none cs else skip (some mark) cs
  | _,[] => some []

def isStray (c : Char) : Bool :=
  (0 < c.toNat && c.toNat < 0x20) || c = '\x7f' || ['\\',']','^','\x7b','\x7d'].contains c

def closing? (c : Char) : Option Char :=
  if c = '\'' || c = '\x60' || c = '"' then some c else if c = '[' then some ']' else none

/-- What a quote holds and what follows it, if it is closed. A mark twice is the mark itself,
but for a bracket. -/
def quoted? (mark : Char) : List Char → Option (List Char × List Char)
  | [] => none
  | [c] => if c = mark then some ([],[]) else none
  | c :: next :: cs =>
    if c = mark then
      if next = mark && mark != ']' then
        (quoted? mark cs).map fun (text,rest) => (mark :: text,rest)
      else some ([],next :: cs)
    else (quoted? mark (next :: cs)).map fun (text,rest) => (c :: text,rest)

def afterNumber : List Char → List Char
  | '0' :: c :: cs =>
    if c.toLower = 'x' then cs.dropWhile fun c => (Text.digit? c).isSome
    else (c :: cs).dropWhile Char.isDigit
  | cs => cs.dropWhile Char.isDigit

/-- What stands behind a name that could be the whole one: no part of a statement, such as a
stray character or a number that runs into letters, or a part that does not belong there. -/
def junk : List Char → Naming
  | [] => .broken
  | c :: rest =>
    let isPart : Bool :=
      if c.isDigit then !(afterNumber (c :: rest)).head?.any Database.isNameChar
      else if ['$','@','#',':'].contains c then rest.head?.any Database.isNameChar
      else if c = '[' then rest.contains ']'
      else if c = '!' then rest.head? = some '='
      else !isStray c
    if isPart then .broken else .refused

/-- A name alone, unless it is kept for the database itself. -/
def alone (make : String → Naming) (name : List Char) : Naming :=
  let name := String.ofList name
  if Database.isReserved name then .broken else make name

def inside (word : String) (text : List Char) : Naming :=
  let name := text.takeWhile Database.isNameChar
  if !Database.isPlainName (String.ofList name) then .refused
  else if !(Database.sameName word "main" || Database.sameName word "temp") then .refused
  else match skip none (text.drop name.length) with
    | some [] => if Database.sameName word "main" then alone .half name else .broken
    | some rest => junk rest
    | none => .broken

/-- What follows a first word that is not the whole name: a dot behind the name of a
database, or what does not belong there. -/
def behind (word : String) : List Char → Naming
  | '.' :: rest =>
    match rest,skip none rest with
    | c :: _,some name => if c.isDigit then junk rest else inside word name
    | _,_ => .refused
  | rest => junk rest

def cut (text : List Char) : Naming :=
  if Database.isPlainName (String.ofList text) then alone .half text
  else
    let word := text.takeWhile Database.isNameChar
    match word,text.drop word.length with
    | first :: rest,next =>
      if first.isDigit || first = '$' then .refused
      else if rest.isEmpty && first.toLower = 'x' && next.head? = some '\'' then .refused
      else match skip none next with
        | some rest => behind (String.ofList word) rest
        | none => .broken
    | [],c :: rest =>
      match closing? c with
      | none => .refused
      | some mark =>
        match quoted? mark rest with
        | some (name,rest) => behind (String.ofList name) ((skip none rest).getD [])
        | none =>
          if mark = ']' then .refused
          else if mark = '"' then .broken
          else behind "" ((skip none rest).getD [])
    | [],[] => .broken

def of (start : String) : Naming :=
  let name := (smooth true (given start).toList).dropWhile isMark
  if Database.isPlainName (String.ofList name) then alone (.whole · (indexName start)) name
  else match skip none name with
    | some rest => cut rest
    | none => .refused

def error (start : String) : TableError :=
  .database ("near \"" ++ given start ++ "\": syntax error")

end Naming
end MountHub
