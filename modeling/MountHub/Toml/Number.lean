import MountHub.Toml.Text

/-! Numbers of a TOML text. -/
namespace MountHub.Toml

/-- Digits, each but the first perhaps behind an underscore. An underscore between
anything else is an error. -/
def moreDigits? (isDigit : Char → Bool) : List Char → Option (List Char × List Char)
  | [] => some ([],[])
  | '_' :: c :: rest => do
    if !isDigit c then none
    let (more,rest) ← moreDigits? isDigit rest
    return (c :: more,rest)
  | c :: rest =>
    if isDigit c then do
      let (more,rest) ← moreDigits? isDigit rest
      return (c :: more,rest)
    else if c = '_' then none
    else some ([],c :: rest)

def digits? (isDigit : Char → Bool) : List Char → Option (List Char × List Char)
  | [] => none
  | c :: rest => do
    if !isDigit c then none
    let (more,rest) ← moreDigits? isDigit rest
    return (c :: more,rest)

/-- A whole number without needless zeros. -/
def whole? : List Char → Option (List Char × List Char)
  | '0' :: rest => some (['0'],rest)
  | cs => digits? Char.isDigit cs

def sign : List Char → Bool × List Char
  | '-' :: rest => (true,rest)
  | '+' :: rest => (false,rest)
  | cs => (false,cs)

def integer? (value : Int) : Option Int :=
  if -0x8000000000000000 ≤ value ∧ value < 0x8000000000000000 then some value else none

def based? : List Char → Option (Int × List Char)
  | '0' :: 'x' :: rest => read 16 isHexDigit rest
  | '0' :: 'o' :: rest => read 8 (fun c => '0' ≤ c && c ≤ '7') rest
  | '0' :: 'b' :: rest => read 2 (fun c => c = '0' || c = '1') rest
  | _ => none
where
  read (base : Nat) (isDigit : Char → Bool) (cs : List Char) : Option (Int × List Char) := do
    let (digits,rest) ← digits? isDigit cs
    return (← integer? (Text.number base digits),rest)

/-- The digits of a fraction, none if there is no point. -/
def fraction? : List Char → Option (List Char × List Char)
  | '.' :: rest => digits? Char.isDigit rest
  | cs => some ([],cs)

/-- An exponent, if there is one. -/
def exponent? : List Char → Option (Option Int × List Char)
  | c :: rest =>
    if c = 'e' ∨ c = 'E' then do
      let (negative,rest) := sign rest
      let (digits,rest) ← digits? Char.isDigit rest
      let size : Int := Text.number 10 digits
      return (some (if negative then -size else size),rest)
    else some (none,c :: rest)
  | [] => some (none,[])

def infinite : Nat := 1 <<< 1024 - 1 <<< 970

/-- Whether digits with a power of ten are rounded to infinity. Only numbers with 309
places before the point are near the bound. -/
def isInfinite (digits : List Char) (power : Int) : Bool :=
  let significant := digits.dropWhile (· = '0')
  let value := Text.number 10 significant
  let places := significant.length + power
  if significant = [] ∨ places < 309 then false
  else if 309 < places then true
  else if 0 ≤ power then infinite ≤ value * Nat.pow 10 power.toNat
  else infinite * Nat.pow 10 (-power).toNat ≤ value

/-- What a number is: its value for an integer, nothing for a number with a fraction
or an exponent. -/
def decimal? (negative : Bool) (cs : List Char) : Option (Option Int × List Char) := do
  let (whole,rest) ← whole? cs
  let (fraction,rest) ← fraction? rest
  let (exponent,rest) ← exponent? rest
  if fraction = [] ∧ exponent = none then
    let size : Int := Text.number 10 whole
    return (some (← integer? (if negative then -size else size)),rest)
  else if !negative && isInfinite (whole ++ fraction) (exponent.getD 0 - fraction.length) then none
  else return (none,rest)

/-- A number with or without a sign; infinity and what is no number have names. -/
def number? (cs : List Char) : Option (Option Int × List Char) :=
  match based? cs with
  | some (value,rest) => some (some value,rest)
  | none =>
    match sign cs with
    | (_,'i' :: 'n' :: 'f' :: rest) => some (none,rest)
    | (_,'n' :: 'a' :: 'n' :: rest) => some (none,rest)
    | (negative,rest) => decimal? negative rest

end MountHub.Toml
