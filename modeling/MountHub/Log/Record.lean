import MountHub.Text.Quoted

/-! Lines for the log, as the parts of the program write them. -/
namespace MountHub

inductive Severity where
  | error
  | warn
  | info
  | debug
  | trace
deriving DecidableEq, Inhabited

namespace Severity

def rank : Severity → Nat
  | .error => 1
  | .warn => 2
  | .info => 3
  | .debug => 4
  | .trace => 5

def name : Severity → String
  | .error => "ERROR"
  | .warn => "WARN"
  | .info => "INFO"
  | .debug => "DEBUG"
  | .trace => "TRACE"

end Severity

inductive LogSource where
  | commands
  | manager
  | folders
deriving DecidableEq, Inhabited

def LogSource.target : LogSource → String
  | .commands => "yorozu_server"
  | .manager => "yorozu_kernel::manager"
  | .folders => "yorozu_kernel::driver::backends::local"

/-- A line for the log: its message, and named values beside it. -/
structure LogRecord where
  source : LogSource
  severity : Severity
  message : String
  fields : List (String × String) := []
deriving DecidableEq, Inhabited

namespace LogRecord

/-- The names of all fields; the message is one of them. -/
def fieldNames (line : LogRecord) : List String := "message" :: line.fields.map (·.1)

/-- A character of a message. Those that could steer a terminal are shown by their code. -/
def shieldedChar (c : Char) : List Char :=
  if c = '\x07' ∨ c = '\x08' ∨ c = '\x0c' ∨ c = '\x1b' ∨ c = '\x7f' then
    ['\\','x',Nat.digitChar (c.toNat / 16),Nat.digitChar (c.toNat % 16)]
  else if 0x80 ≤ c.toNat ∧ c.toNat ≤ 0x9f then
    ['\\','u','{'] ++ Text.hexadecimal c.toNat ++ ['}']
  else [c]

def text (line : LogRecord) : String :=
  String.ofList (line.message.toList.flatMap shieldedChar) ++
    String.join (line.fields.map fun field => " " ++ field.1 ++ "=" ++ field.2)

end LogRecord
end MountHub
