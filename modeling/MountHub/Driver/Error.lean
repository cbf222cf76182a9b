/-! Why a driver does not bind, release or answer. -/
namespace MountHub

inductive DriverError where
  | invalidAddition
  | invalidConfig (reason : String)
  | io (reason : String)
  | cancelled
  | unavailable (reason : String)
  | other (reason : String)
deriving DecidableEq, Inhabited

def DriverError.message : DriverError → String
  | .invalidAddition => "invalid addition"
  | .invalidConfig reason => "invalid config: " ++ reason
  | .io reason => "I/O error: " ++ reason
  | .cancelled => "operation cancelled"
  | .unavailable reason => "backend unavailable: " ++ reason
  | .other reason => reason

end MountHub
