import MountHub.Log.Directive
import MountHub.Log.Record

/-! Which lines of the log are shown. A directive without a span and without a test lets
lines through where they come from; one with a span or a field lets lines through while
such a span is open. -/
namespace MountHub

structure LogSpan where
  source : LogSource
  name : String
  fields : List (String × Nat) := []
deriving DecidableEq, Inhabited

namespace Directive

def isForLines (directive : Directive) : Bool :=
  directive.span.isNone && (directive.field.bind FieldClause.test).isNone

def isForSpans (directive : Directive) : Bool :=
  directive.span.isSome || directive.field.isSome

def covers (directive : Directive) (source : LogSource) : Bool :=
  directive.target.isPrefixOf source.target.toList

def fieldName (directive : Directive) : String :=
  match directive.field with
  | some clause => String.ofList clause.name
  | none => ""

def fitsLine (directive : Directive) (record : LogRecord) : Bool :=
  directive.covers record.source &&
    (directive.field.isNone || record.fieldNames.contains directive.fieldName)

def fitsSpan (directive : Directive) (span : LogSpan) : Bool :=
  directive.covers span.source && directive.span.all (· == span.name.toList) &&
    (directive.field.isNone || (span.fields.map (·.1)).contains directive.fieldName)

/-- Whether a span meets the test of the directive, if there is one. -/
def passes (directive : Directive) (span : LogSpan) : Bool :=
  match directive.field.bind FieldClause.test with
  | some test => (span.fields.lookup directive.fieldName).any fun value => test.passes value
  | none => true

/-- Whether a directive is more specific than another for the same line: by the length of
its target, and then by its field. -/
def moreSpecific (first second : Directive) : Bool :=
  second.target.length < first.target.length ||
    (first.target.length == second.target.length && second.fieldName < first.fieldName)

def best? : List Directive → Option Directive
  | [] => none
  | first :: more => some (more.foldl (fun chosen next =>
      if chosen.moreSpecific next then chosen else next) first)

def asksSame (first second : Directive) : Bool :=
  first.target == second.target && first.span == second.span && first.field == second.field

def latest : List Directive → List Directive
  | [] => []
  | first :: more => if more.any first.asksSame then latest more else first :: latest more

end Directive

structure LogFilter where
  directives : List Directive
deriving DecidableEq, Inhabited

namespace LogFilter

def written (text : String) : List String := (text.splitOn ",").filter (· ≠ "")

/-- Reads a filter of which every directive is understood; without any, nothing is let
through. -/
def read (text : String) : Except DirectiveError LogFilter :=
  ((written text).mapM fun directive => Directive.read directive.toList).map LogFilter.mk

/-- Reads the directives that are understood, and lists the others with the reason. When
none is understood, errors are let through. -/
def readKnown (text : String) : LogFilter × List (String × DirectiveError) :=
  let read := (written text).map fun directive => (directive,Directive.read directive.toList)
  let known := read.filterMap fun found => found.2.toOption
  (⟨if known.isEmpty then [{ most := 1 }] else known⟩,
    read.filterMap fun found => match found.2 with
      | .ok _ => none
      | .error error => some (found.1,error))

/-- The rank above which nothing is looked at. A test needs to see every span. -/
def ceiling (filter : LogFilter) : Nat :=
  if filter.directives.any fun directive => (directive.field.bind FieldClause.test).isSome then 5
  else ((filter.directives.map Directive.most).max?).getD 0

def mostForLine (filter : LogFilter) (record : LogRecord) : Nat :=
  ((Directive.best? (filter.directives.filter fun directive =>
    directive.isForLines && directive.fitsLine record)).map Directive.most).getD 0

/-- The greatest rank let through for spans of a part of the program. Fields that single
lines are to have play no role. -/
def mostForSpans (filter : LogFilter) (source : LogSource) : Nat :=
  ((Directive.best? (filter.directives.filter fun directive =>
    directive.isForLines && directive.covers source)).map Directive.most).getD 0

/-- The greatest rank let through inside a span, if a directive looks at such spans. -/
def mostInside? (filter : LogFilter) (span : LogSpan) : Option Nat :=
  let fitting := (Directive.latest filter.directives).filter fun directive =>
    directive.isForSpans && directive.fitsSpan span
  if fitting.isEmpty then none
  else some (((fitting.filter fun directive => directive.passes span).map
    Directive.most).max?.getD 0)

/-- Whether a span is seen at all. Spans count as information. -/
def shows (filter : LogFilter) (span : LogSpan) : Bool :=
  Severity.info.rank ≤ filter.ceiling &&
    ((filter.mostInside? span).isSome || Severity.info.rank ≤ filter.mostForSpans span.source)

def allows (filter : LogFilter) (span : Option LogSpan) (record : LogRecord) : Bool :=
  record.severity.rank ≤ filter.mostForLine record ||
    span.any fun span =>
      filter.shows span && (filter.mostInside? span).any (record.severity.rank ≤ ·)

end LogFilter
end MountHub
