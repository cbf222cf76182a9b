import MountHub.Log.Pattern
import MountHub.Text.Cut

/-! The directives of a log filter, as they are written: the start of the names that a
directive is for, a span and a field of it in brackets, and the severity up to which
lines are let through. -/
namespace MountHub

inductive FieldTest where
  | number (value : Nat)
  /-- A truth value, another number or a pattern; no number that a span holds meets it. -/
  | other (text : List Char)
deriving DecidableEq, Inhabited

/-- A field that a directive asks for, and what it asks of its value, if anything. -/
structure FieldClause where
  name : List Char
  test : Option FieldTest := none
deriving DecidableEq, Inhabited

structure Directive where
  /-- The start of the names that the directive is for; empty for all. -/
  target : List Char := []
  /-- The name of the spans that the directive is for, if it names one. -/
  span : Option (List Char) := none
  field : Option FieldClause := none
  /-- The greatest rank that is let through; zero for none. -/
  most : Nat := 5
deriving DecidableEq, Inhabited

inductive DirectiveError where
  | malformed
  | unknownLevel
  | field (error : PatternError)
  /-- Blanks in front move the cuts between the parts; a cut inside of a character ends
  the program. -/
  | splitCharacter
deriving DecidableEq, Inhabited

def DirectiveError.message : DirectiveError → String
  | .malformed => "invalid filter directive"
  | .unknownLevel =>
    "error parsing level filter: expected one of \"off\", \"error\", \"warn\", \"info\", " ++
      "\"debug\", \"trace\", or a number 0-5"
  | .field error => "invalid field filter: " ++ error.message
  | .splitCharacter => "a cut falls inside of a character"

namespace FieldTest

def passes (value : Nat) : FieldTest → Bool
  | .number wanted => wanted == value
  | .other _ => false

/-- Whether a text writes a number with a fraction or an exponent, or one of the values
that are no numbers. -/
def isDecimal (text : List Char) : Bool :=
  let unsigned := match text with
    | '+' :: rest | '-' :: rest => rest
    | text => text
  if ["inf","infinity","nan"].contains (String.ofList (unsigned.map Char.toLower)) then true
  else
    let whole := unsigned.takeWhile Char.isDigit
    let rest := unsigned.drop whole.length
    let (part,rest) := match rest with
      | '.' :: rest => (rest.takeWhile Char.isDigit,rest.dropWhile Char.isDigit)
      | rest => ([],rest)
    let scaled := match rest with
      | [] => true
      | mark :: rest =>
        let digits := match rest with
          | '+' :: rest | '-' :: rest => rest
          | rest => rest
        (mark = 'e' || mark = 'E') && !digits.isEmpty && digits.all Char.isDigit
    !(whole.isEmpty && part.isEmpty) && scaled

def word? (text : List Char) : Option Nat :=
  let digits := match text with
    | '+' :: rest => rest
    | text => text
  let value := Text.number 10 digits
  if !digits.isEmpty && digits.all Char.isDigit && value < 0x10000000000000000 then some value
  else none

def read (text : List Char) : Except PatternError FieldTest :=
  match word? text with
  | some value => .ok (.number value)
  | none =>
    if text = "true".toList ∨ text = "false".toList ∨ isDecimal text then .ok (.other text)
    else (Pattern.check text).map fun _ => .other text

end FieldTest

/-- A field, and the test behind its equals sign; a second equals sign ends the test. -/
def FieldClause.read (text : List Char) : Except PatternError FieldClause :=
  let name := text.takeWhile (· ≠ '=')
  match text.drop name.length with
  | [] => .ok { name }
  | _ :: rest => (FieldTest.read (rest.takeWhile (· ≠ '='))).map fun test => { name, test }

namespace Directive

def level? (text : List Char) : Option Nat :=
  let name := String.ofList (text.map Char.toLower)
  match ["off","error","warn","info","debug","trace"].idxOf? name with
  | some rank => some rank
  | none =>
    match FieldTest.word? text with
    | some value => if value ≤ 5 then some value else none
    | none => none

/-- The characters that a directive may begin with, but for an opening bracket. -/
def mayBegin (c : Char) : Bool :=
  c = '-' || c = ':' || c = '_' || Text.isAlphanumeric c

def cut (text : List Char) (start stop : Nat) : Except DirectiveError (List Char) :=
  match Text.between? start stop text with
  | some part => .ok part
  | none => .error .splitCharacter

/-- The rank that is written from a byte on; nothing there lets everything through. -/
def levelFrom (text : List Char) (start : Nat) : Except DirectiveError Nat := do
  match ← cut text start (Text.byteLength text) with
  | [] => .ok 5
  | level =>
    match level? level with
    | some most => .ok most
    | none => .error .unknownLevel

def readEnd (text : List Char) (directive : Directive) (start : Nat) :
    List Char → Except DirectiveError Directive
  | [] => .ok directive
  | '=' :: _ => (levelFrom text (start + 1)).map fun most => { directive with most }
  | _ => .error .malformed

def readField (text : List Char) (directive : Directive) (start : Nat) (shape : List Char) :
    Except DirectiveError Directive := do
  let clause := shape.takeWhile (· ≠ '}')
  let stop := start + Text.byteLength clause
  match shape.drop clause.length with
  | [] => .error .malformed
  | _ :: more =>
    let written ← cut text start stop
    if written = [] then .error .malformed
    let field ← (FieldClause.read written).mapError .field
    match more with
    | ']' :: more => readEnd text { directive with field } (stop + 2) more
    | _ => .error .malformed

def readSpan (text : List Char) (directive : Directive) (start : Nat) (shape : List Char) :
    Except DirectiveError Directive := do
  let name := shape.takeWhile fun c => c ≠ ']' && c ≠ '{'
  let stop := start + Text.byteLength name
  match shape.drop name.length with
  | [] => .error .malformed
  | ']' :: more => readEnd text { directive with span := ← cut text start stop } (stop + 1) more
  | _ :: more =>
    let span ← cut text start stop
    readField text { directive with span := if span = [] then none else some span } (stop + 1) more

def trimmed (text : List Char) : List Char :=
  ((text.dropWhile Text.isBlank).reverse.dropWhile Text.isBlank).reverse

/-- Reads one directive. Where its parts begin and end is found in the text without the
blanks around it; the parts are then cut from the text as it is. -/
def read (text : List Char) : Except DirectiveError Directive :=
  match trimmed text with
  | [] => .error .malformed
  | '[' :: shape => readSpan text {} 1 shape
  | first :: more =>
    if !mayBegin first then .error .malformed
    else do
      let start := (first :: more).takeWhile fun c => c ≠ '=' && c ≠ '['
      let stop := Text.byteLength start
      match (first :: more).drop start.length with
      | [] =>
        match level? text with
        | some most => .ok { most }
        | none => .ok { target := text }
      | '=' :: _ =>
        let target ← cut text 0 stop
        (levelFrom text (stop + 1)).map fun most => { target, most }
      | _ :: shape => readSpan text { target := ← cut text 0 stop } (stop + 1) shape

end Directive
end MountHub
