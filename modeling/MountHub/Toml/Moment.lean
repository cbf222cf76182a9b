import MountHub.Text.Digits

/-! Dates and times of a TOML text. They are checked against the calendar and the
clock, and nothing of them is kept. -/
namespace MountHub.Toml

def twoDigits? : List Char → Option (Nat × List Char)
  | a :: b :: rest =>
    if a.isDigit && b.isDigit then some (Text.number 10 [a,b],rest) else none
  | _ => none

def within? (least greatest : Nat) (cs : List Char) : Option (Nat × List Char) := do
  let (value,rest) ← twoDigits? cs
  if least ≤ value ∧ value ≤ greatest then some (value,rest) else none

def mark? (mark : Char) : List Char → Option (List Char)
  | c :: rest => if c = mark then some rest else none
  | [] => none

def isLeapYear (year : Nat) : Bool := year % 4 == 0 && (year % 100 != 0 || year % 400 == 0)

def daysIn (year month : Nat) : Nat :=
  if month = 2 then if isLeapYear year then 29 else 28
  else if month ∈ [4,6,9,11] then 30
  else 31

def date? (cs : List Char) : Option (List Char) := do
  let (century,rest) ← twoDigits? cs
  let (year,rest) ← twoDigits? rest
  let (month,rest) ← within? 1 12 (← mark? '-' rest)
  let (_,rest) ← within? 1 (daysIn (century * 100 + year) month) (← mark? '-' rest)
  return rest

/-- What follows a fraction of a second, or the place where there is none. -/
def skipFraction : List Char → List Char
  | '.' :: c :: rest => if c.isDigit then rest.dropWhile Char.isDigit else '.' :: c :: rest
  | cs => cs

/-- What follows a time of day. A minute may have a leap second. -/
def time? (cs : List Char) : Option (List Char) := do
  let (_,rest) ← within? 0 23 cs
  let (_,rest) ← within? 0 59 (← mark? ':' rest)
  let (_,rest) ← within? 0 60 (← mark? ':' rest)
  return skipFraction rest

/-- What follows the offset of a clock, or the place where there is none. -/
def offset? : List Char → Option (List Char)
  | c :: rest =>
    if c = 'Z' ∨ c = 'z' then some rest
    else if c = '+' ∨ c = '-' then do
      let (_,rest) ← within? 0 23 rest
      let (_,rest) ← within? 0 59 (← mark? ':' rest)
      return rest
    else some (c :: rest)
  | [] => some []

/-- What follows the time behind a date, or the place where there is none. -/
def timeOfDate? : List Char → Option (List Char)
  | c :: rest =>
    if c = 'T' ∨ c = 't' ∨ c = ' ' then
      match time? rest with
      | some rest => offset? rest
      | none => some (c :: rest)
    else some (c :: rest)
  | [] => some []

def moment? (cs : List Char) : Option (List Char) :=
  match date? cs with
  | some rest => timeOfDate? rest
  | none => time? cs

end MountHub.Toml
