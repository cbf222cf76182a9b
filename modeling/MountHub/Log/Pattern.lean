import MountHub.Text.Blank
import MountHub.Text.Digits
import MountHub.Text.Letters

/-! Patterns for the values of fields: regular expressions that an automaton can be
built for. A field ends at its first closing brace, so no pattern holds one. There are no
tables of the characters of all scripts at hand: no pattern asks for their digits, blanks,
letters or categories, or for their capitals. -/
namespace MountHub

inductive PatternError where
  | malformed
  | wordBoundary
deriving DecidableEq, Inhabited

def PatternError.message : PatternError → String
  | .malformed => "error building NFA"
  | .wordBoundary =>
    "unsupported regex feature for DFAs: cannot build DFAs for regexes with Unicode word " ++
      "boundaries; switch to ASCII word boundaries, or heuristically enable Unicode word " ++
      "boundaries or use a different regex engine"

namespace Pattern

structure Mode where
  /-- Whether characters of all scripts are told apart, and not only those of ASCII. -/
  unicode : Bool := true
  folded : Bool := false
  spaced : Bool := false
deriving DecidableEq, Inhabited

/-- Passes over blanks and comments; a comment ends with its line. -/
def skipSpace (inComment : Bool) : List Char → List Char
  | [] => []
  | c :: cs =>
    if inComment then skipSpace (c != '\n') cs
    else if Text.isBlank c then skipSpace false cs
    else if c = '#' then skipSpace true cs
    else c :: cs

def Mode.skip (mode : Mode) (cs : List Char) : List Char :=
  if mode.spaced then skipSpace false cs else cs

inductive Sign where
  /-- A character; `isByte` if two digits behind `x` give it. -/
  | literal (c : Char) (isByte : Bool)
  /-- A class of digits, blanks or letters, or all characters but those. -/
  | shorthand (negated : Bool)
  | anything
  | place (ofWords : Bool)
deriving DecidableEq, Inhabited

def Mode.foldsAll (mode : Mode) : Bool := mode.unicode && mode.folded

/-- Whether a sign means something in a mode. Bytes beyond ASCII are no text. -/
def Sign.fits (mode : Mode) : Sign → Bool
  | .literal c isByte => !mode.foldsAll && (mode.unicode || !isByte || c.toNat < 0x80)
  | .shorthand negated => !mode.unicode && !negated
  | .anything => mode.unicode
  | .place _ => true

def Sign.fitsClass (mode : Mode) : Sign → Bool
  | .literal c isByte => Sign.fits mode (.literal c isByte) && (mode.unicode || c.toNat < 0x80)
  | .place _ => false
  | sign => sign.fits mode

def digits? (mode : Mode) : Nat → List Char → Option (List Char × List Char)
  | 0,cs => some ([],mode.skip cs)
  | count + 1,cs =>
    match mode.skip cs with
    | c :: cs =>
      if (Text.digit? c).isSome then (digits? mode count cs).map fun read => (c :: read.1,read.2)
      else none
    | [] => none

def code? (mode : Mode) (count : Nat) (cs : List Char) : Option (Sign × List Char) := do
  let (digits,rest) ← digits? mode count cs
  let code := Text.number 16 digits
  if code.isValidChar then some (.literal (Char.ofNat code) (count == 2),rest) else none

def escaped? (mode : Mode) : List Char → Option (Sign × List Char)
  | [] => none
  | c :: cs =>
    match c with
    | 'x' => code? mode 2 cs
    | 'u' => code? mode 4 cs
    | 'U' => code? mode 8 cs
    | 'd' | 's' | 'w' => some (.shorthand false,cs)
    | 'D' | 'S' | 'W' => some (.shorthand true,cs)
    | 'A' | 'z' => some (.place false,cs)
    | 'b' | 'B' | '<' | '>' => some (.place true,cs)
    | 'a' | 'f' | 't' | 'n' | 'r' | 'v' => some (.literal c false,cs)
    | c => if c.toNat < 0x80 && !c.isAlphanum then some (.literal c false,cs) else none

def classSign? (mode : Mode) : List Char → Option (Sign × List Char)
  | [] => none
  | '\\' :: cs => escaped? mode cs
  | c :: cs => some (.literal c false,cs)

def isRange (mode : Mode) : Sign → Sign → Bool
  | .literal first a,.literal last b =>
    first ≤ last && Sign.fitsClass mode (.literal first a) && Sign.fitsClass mode (.literal last b)
  | _,_ => false

/-- A sign of a class, or a range. A hyphen before another one, or before the end of the
class, makes no range. -/
def classItem? (mode : Mode) (cs : List Char) : Option (List Char) := do
  let (first,rest) ← classSign? mode cs
  let alone := if first.fitsClass mode then some rest else none
  match mode.skip rest with
  | [] => none
  | '-' :: more =>
    match mode.skip more with
    | [] => none
    | ']' :: _ | '-' :: _ => alone
    | more =>
      let (last,rest) ← classSign? mode more
      if isRange mode first last then some rest else none
  | _ => alone

def classNames : List String :=
  ["alnum","alpha","ascii","blank","cntrl","digit","graph","lower","print","punct","space",
    "upper","word","xdigit"]

/-- A class by its name, behind the opening bracket; the result says whether it is negated. -/
def namedClass? : List Char → Option (Bool × List Char)
  | ':' :: cs =>
    let negated := cs.head? = some '^'
    let cs := if negated then cs.drop 1 else cs
    let name := cs.takeWhile (· ≠ ':')
    match cs.drop name.length with
    | ':' :: ']' :: rest =>
      if classNames.contains (String.ofList name) then some (negated,rest) else none
    | _ => none
  | _ => none

def sequenceDepth : List Nat → Nat
  | [] => 0
  | [depth] => depth
  | depths => (depths.max?.getD 0) + 1

/-- A class that is open: how deep what stands before its last operator lies, and its
items since. -/
structure OpenClass where
  before : Option Nat := none
  items : List Nat := []
deriving Inhabited

def OpenClass.add (part : OpenClass) (depth : Nat) : OpenClass :=
  { part with items := depth :: part.items }

def OpenClass.depth (part : OpenClass) : Nat :=
  match part.before with
  | some before => max before (sequenceDepth part.items) + 1
  | none => sequenceDepth part.items

def hyphens (mode : Mode) : Nat → OpenClass → List Char → OpenClass × List Char
  | fuel + 1,part,'-' :: cs => hyphens mode fuel (part.add 0) (mode.skip cs)
  | _,part,cs => (part,cs)

/-- The start of a class behind its opening bracket. A closing bracket there stands for
itself. A negated class holds characters beyond ASCII. -/
def openClass? (mode : Mode) (cs : List Char) : Option (OpenClass × List Char) :=
  let cs := mode.skip cs
  let negated := cs.head? = some '^'
  if negated && !mode.unicode then none
  else
    let cs := if negated then mode.skip (cs.drop 1) else cs
    match hyphens mode cs.length {} cs with
    | (⟨none,[]⟩,']' :: cs) => some (OpenClass.add {} 0,mode.skip cs)
    | start => some start

/-- A class up to the bracket that closes it, with the classes around it. The result is
how deep its parts lie. The fuel bounds the number of steps. -/
def class? (mode : Mode) : Nat → List OpenClass → OpenClass → List Char →
    Option (Nat × List Char)
  | 0,_,_,_ => none
  | fuel + 1,outer,part,cs =>
    match mode.skip cs with
    | [] => none
    | '[' :: cs =>
      match namedClass? cs with
      | some (negated,rest) =>
        if mode.foldsAll || (negated && !mode.unicode) then none
        else class? mode fuel outer (part.add 0) rest
      | none => do
        let (start,rest) ← openClass? mode cs
        class? mode fuel (part :: outer) start rest
    | ']' :: cs =>
      match outer with
      | [] => some (part.depth + 1,cs)
      | around :: outer => class? mode fuel outer (around.add (part.depth + 1)) cs
    | '&' :: '&' :: cs | '-' :: '-' :: cs | '~' :: '~' :: cs =>
      class? mode fuel outer { before := some part.depth } cs
    | cs => do
      let rest ← classItem? mode cs
      class? mode fuel outer (part.add 0) rest

inductive Piece where
  | part (depth : Nat)
  /-- A change of flags; nothing to repeat. -/
  | flags
deriving Inhabited

def Piece.depth : Piece → Nat
  | .part depth => depth
  | .flags => 0

/-- A group that is open: its alternatives so far, and the parts of the latest one. -/
structure OpenGroup where
  mode : Mode := {}
  branches : List Nat := []
  pieces : List Piece := []
deriving Inhabited

def OpenGroup.branchDepth (group : OpenGroup) : Nat :=
  sequenceDepth (group.pieces.map Piece.depth)

def OpenGroup.depth (group : OpenGroup) : Nat :=
  sequenceDepth (group.branchDepth :: group.branches)

def OpenGroup.add (group : OpenGroup) (piece : Piece) : OpenGroup :=
  { group with pieces := piece :: group.pieces }

structure Progress where
  mode : Mode := {}
  group : OpenGroup := {}
  outer : List OpenGroup := []
  names : List (List Char) := []
  boundary : Bool := false
deriving Inhabited

def Progress.add (progress : Progress) (piece : Piece) : Progress :=
  { progress with group := progress.group.add piece }

def Progress.enter (progress : Progress) (mode : Mode) : Progress :=
  { progress with
    mode
    group := { mode := progress.mode }
    outer := progress.group :: progress.outer }

def Progress.leave? (progress : Progress) : Option Progress :=
  match progress.outer with
  | [] => none
  | around :: outer => some { progress with
      mode := progress.group.mode
      group := around.add (.part (progress.group.depth + 1))
      outer }

def Progress.branch (progress : Progress) : Progress :=
  { progress with group := { progress.group with
      branches := progress.group.branchDepth :: progress.group.branches
      pieces := [] } }

/-- Repeats the latest part, if there is one. -/
def Progress.repeat? (progress : Progress) : Option Progress :=
  match progress.group.pieces with
  | .part depth :: pieces =>
    some { progress with group := { progress.group with pieces := .part (depth + 1) :: pieces } }
  | _ => none

/-- Adds a sign, if it means something in the mode. -/
def Progress.sign? (progress : Progress) (sign : Sign) : Option Progress :=
  if sign.fits progress.mode then
    let boundary := progress.boundary || (progress.mode.unicode && sign == .place true)
    some { progress.add (.part 0) with boundary }
  else none

/-- Flags up to a colon or a closing bracket: each at most once, and with one hyphen at
most, which is not the last sign. The letters behind the hyphen are cleared. -/
def flags? : List Char → List Char → Option (List Char × List Char)
  | seen,c :: cs =>
    if c = ':' ∨ c = ')' then if seen.head? = some '-' then none else some (seen.reverse,c :: cs)
    else if seen.contains c || !"imsURux-".toList.contains c then none
    else flags? (c :: seen) cs
  | _,[] => none

def Mode.after (mode : Mode) (flags : List Char) : Mode :=
  let cleared := (flags.dropWhile (· ≠ '-')).contains
  let value (flag : Char) (now : Bool) : Bool :=
    if cleared flag then false else now || flags.contains flag
  { unicode := value 'u' mode.unicode
    folded := value 'i' mode.folded
    spaced := value 'x' mode.spaced }

def groupName? (cs : List Char) : Option (List Char × List Char) :=
  let name := cs.takeWhile (· ≠ '>')
  let follows (c : Char) : Bool :=
    c = '_' || c = '.' || c = '[' || c = ']' || Text.isAlphanumeric c
  match name,cs.drop name.length with
  | first :: more,_ :: rest =>
    if (first = '_' || Text.isAlphabetic first) && more.all follows then some (name,rest)
    else none
  | _,_ => none

def Progress.named? (progress : Progress) (cs : List Char) : Option (Progress × List Char) := do
  let (name,rest) ← groupName? cs
  if progress.names.contains name then none
  else some ({ progress.enter progress.mode with names := name :: progress.names },rest)

/-- What follows the opening bracket of a group: its name, its flags, or nothing. Nothing
is looked for beside the text that a group stands for. -/
def Progress.group? (progress : Progress) (cs : List Char) : Option (Progress × List Char) :=
  match progress.mode.skip cs with
  | '?' :: '=' :: _ | '?' :: '!' :: _ | '?' :: '<' :: '=' :: _ | '?' :: '<' :: '!' :: _ => none
  | '?' :: 'P' :: '<' :: cs | '?' :: '<' :: cs => progress.named? cs
  | '?' :: cs => do
    let (flags,rest) ← flags? [] cs
    let mode := progress.mode.after flags
    match rest with
    | ':' :: rest => some (progress.enter mode,rest)
    | rest => if flags = [] then none else some ({ progress.add .flags with mode },rest.drop 1)
  | cs => some (progress.enter progress.mode,cs)

def depthLimit : Nat := 250

/-- Reads a pattern. The result says whether it asks for boundaries of words of all
scripts. The fuel bounds the number of steps. -/
def read? : Nat → Progress → List Char → Option Bool
  | 0,_,_ => none
  | fuel + 1,progress,cs =>
    match progress.mode.skip cs with
    | [] =>
      if progress.outer.isEmpty && progress.group.depth ≤ depthLimit then some progress.boundary
      else none
    | '(' :: cs => do
      let (progress,rest) ← progress.group? cs
      read? fuel progress rest
    | ')' :: cs => do read? fuel (← progress.leave?) cs
    | '|' :: cs => read? fuel progress.branch cs
    | '[' :: cs => do
      let (start,rest) ← openClass? progress.mode cs
      let (depth,rest) ← class? progress.mode (rest.length + 1) [] start rest
      read? fuel (progress.add (.part depth)) rest
    | '?' :: cs | '*' :: cs | '+' :: cs => do
      let progress ← progress.repeat?
      match cs with
      | '?' :: cs => read? fuel progress cs
      | cs => read? fuel progress cs
    | '{' :: _ => none
    | '\\' :: cs => do
      let (sign,rest) ← escaped? progress.mode cs
      read? fuel (← progress.sign? sign) rest
    | c :: cs =>
      let sign : Sign := match c with
        | '.' => .anything
        | '^' | '$' => .place false
        | c => .literal c false
      do read? fuel (← progress.sign? sign) cs

def check (text : List Char) : Except PatternError Unit :=
  match read? (text.length + 1) {} text with
  | some false => .ok ()
  | some true => .error .wordBoundary
  | none => .error .malformed

end Pattern
end MountHub
