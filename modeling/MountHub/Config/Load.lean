import MountHub.Config.Basic
import MountHub.Files.Error

/-! Loading the configuration from a file. Where there is none the defaults hold. -/
namespace MountHub

inductive ConfigError where
  | unreadable (cause : Files.OsError)
  | invalid
deriving DecidableEq, Inhabited

def ConfigError.message : ConfigError → String
  | .unreadable cause => "failed to read config: " ++ cause.message
  | .invalid => "failed to parse config: invalid TOML"

namespace Config

def parse (text : String) : Except ConfigError Config :=
  match ofToml? text with
  | some config => .ok config
  | none => .error .invalid

def load : Except Files.OsError String → Except ConfigError Config
  | .ok text => parse text
  | .error .notFound => .ok {}
  | .error cause => .error (.unreadable cause)

end Config
end MountHub
