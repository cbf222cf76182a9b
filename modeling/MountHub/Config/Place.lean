import MountHub.Config.Basic

/-! Where the configuration and the database are, as long as nobody says otherwise. -/
namespace MountHub

structure Home where
  /-- The home directory, if the environment names one. -/
  home : Option String := none
  /-- The place for data, if the environment names one. -/
  data : Option String := none
  /-- The place for configurations, if the environment names one. -/
  config : Option String := none
deriving DecidableEq, Inhabited

namespace Home

/-- A path below a directory; one that starts at the root stays as it is. -/
def join (directory path : String) : String :=
  if path.toList.head? = some '/' then path
  else if directory = "" ∨ directory.toList.getLast? = some '/' then directory ++ path
  else directory ++ "/" ++ path

/-- The home directory of the account, where the environment names none. -/
def account : String := "/root"

def directory (home : Home) : String :=
  match home.home with
  | some directory => if directory = "" then account else directory
  | none => account

/-- A place that the environment names, if it starts at the root. -/
def absolute? (place : Option String) : Option String :=
  place.filter fun place => place.toList.head? == some '/'

def configFile (home : Home) : String :=
  let place := (absolute? home.config).getD (join home.directory ".config")
  join (join place "yorozu") "config.toml"

def databaseFile (home : Home) : String :=
  let place := (absolute? home.data).getD (join home.directory ".local/share")
  join (join place "yorozu") "data.db"

end Home

def DatabaseConfig.file (home : Home) (config : DatabaseConfig) : String :=
  config.path.getD home.databaseFile

end MountHub
