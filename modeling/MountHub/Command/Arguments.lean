/-! The arguments of the command line. -/
namespace MountHub

structure Arguments where
  config : String
  command : Option String := none
deriving DecidableEq, Inhabited

inductive ArgumentError where
  /-- No value follows `--config`. -/
  | valueMissing
  | unknown (argument : String)
deriving DecidableEq, Inhabited

def ArgumentError.message : ArgumentError → String
  | .valueMissing => "--config requires a value"
  | .unknown argument => "Unknown option: " ++ argument

namespace Arguments

def isDashed (argument : String) : Bool := argument.toList.head? == some '-'

/-- Reads arguments from left to right; the result is nothing when help is asked for.
The first call for help and the first mistake end the reading. -/
def read (sofar : Arguments) : List String → Except ArgumentError (Option Arguments)
  | [] => .ok (some sofar)
  | argument :: rest =>
    if argument = "--help" ∨ argument = "-h" then .ok none
    else if argument = "--config" then
      match rest with
      | [] => .error .valueMissing
      | value :: rest => read { sofar with config := value } rest
    else if sofar.command.isNone && !isDashed argument then
      read { sofar with command := some argument } rest
    else .error (.unknown argument)

/-- Reads arguments, with a configuration file for the case that they name none. -/
def parse (usual : String) (arguments : List String) : Except ArgumentError (Option Arguments) :=
  read { config := usual } arguments

end Arguments
end MountHub
