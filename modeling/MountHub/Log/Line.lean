import MountHub.Log.Filter

/-! Lines of the log as they are shown. A line names the part of the program that it
comes from, behind the span of work that it was written in. -/
namespace MountHub

def LogSpan.text (span : LogSpan) : String :=
  let fields := span.fields.map fun field => field.1 ++ "=" ++ toString field.2
  if fields.isEmpty then span.name ++ ": "
  else span.name ++ "\x7b" ++ String.intercalate " " fields ++ "\x7d: "

/-- The line that is shown for a record, if the filter lets it through. -/
def LogFilter.line? (filter : LogFilter) (span : Option LogSpan) (record : LogRecord) :
    Option String :=
  if filter.allows span record then
    let inside := ((span.filter filter.shows).map LogSpan.text).getD ""
    some (record.severity.name ++ " " ++ inside ++ record.source.target ++ ": " ++ record.text)
  else none

end MountHub
