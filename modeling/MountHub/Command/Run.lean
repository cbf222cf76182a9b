import MountHub.Command.Arguments
import MountHub.Command.Host
import MountHub.Command.Listing
import MountHub.Command.Usage
import MountHub.Log.Line
import MountHub.Manager.Debug

/-! The commands of the program, over the calls of its host. -/
namespace MountHub.Command

def loadSpan (pageSize : UInt64) : LogSpan :=
  { source := .manager, name := "storage.load", fields := [("page_size",pageSize.toNat)] }

/-- The filter of the log, and the directives of it that are not understood: a filter
of the environment takes the place of the configured one if all of it is understood.
There is none if a directive is cut inside of a character. -/
def filterOf? (given : Option String) (configured : String) :
    Option (LogFilter × List (String × DirectiveError)) :=
  match given.map LogFilter.read with
  | some (.ok filter) => some (filter,[])
  | some (.error .splitCharacter) => none
  | _ =>
    let (filter,unknown) := LogFilter.readKnown configured
    if unknown.any (·.2 == .splitCharacter) then none else some (filter,unknown)

section
variable {m : Type → Type} [Monad m] (host : Host m)

def writeAll (lines : List Output) : m Unit := lines.forM host.write

/-- Writes a record to the log, if the filter lets it through. -/
def log (filter : LogFilter) (span : Option LogSpan) (record : LogRecord) : m Unit :=
  match filter.line? span record with
  | some line => host.write (.logged line)
  | none => pure ()

def logEvents (filter : LogFilter) (span : Option LogSpan) (before : Nat) (state : State) :
    m Unit :=
  (state.events.take (state.events.length - before)).reverse.forM fun event =>
    match event with
    | .logged record => log host filter span record
    | _ => pure ()

def refuse (launch : Launch) (message : String) : m Outcome := do
  writeAll host [.notice message,.notice (usage launch.home.configFile)]
  return .failed

def giveUp (filter : LogFilter) (message : String) : m Outcome := do
  log host filter none ⟨.commands,.error,message,[]⟩
  return .failed

/-- What is said of a database that does not open: the reason behind what was done, and
the reason of the reason. -/
def unopened (file : String) (error : TableError) : String :=
  let reason := match error with
    | .io reason => reason
    | .database reason => reason
    | error => error.message
  "failed to open storage database " ++ file ++ ": " ++ error.message ++ ": " ++ reason

/-- Writes the rows of the pages as they are read, so that those before a page that is refused
are written too. -/
def list (filter : LogFilter) (config : Config) (table : Table) : m Outcome := do
  let world ← host.world table
  let (reading,_) := (Call.listAll world config.bootstrap.pageSize).run (.start table)
  writeAll host (reading.lines.map .result)
  match reading.failure with
  | none => return .succeeded
  | some error => giveUp host filter error.message

def mountedRecord (mount : MountSummary) : LogRecord :=
  ⟨.commands,.info,"mounted",[
    ("storage.id",toString mount.id.raw),
    ("mount_path",mount.mountPath),
    ("driver",mount.driver)]⟩

def serve (filter : LogFilter) (config : Config) (table : Table) : m Outcome := do
  let own (message : String) (fields : List (String × String)) : m Unit :=
    log host filter none ⟨.commands,.info,message,fields⟩
  own "starting yorozu" [("drivers",Text.bracketed (Catalog.builtin.names.map Text.quoted))]
  let world ← host.world table
  let size := config.bootstrap.pageSize
  let (mounted,state) := (Operation.load world .builtin size).run.run (.start table)
  logEvents host filter (some (loadSpan size)) 0 state
  match mounted with
  | .error error => giveUp host filter ("failed to load storages: " ++ error.message)
  | .ok mounted =>
    state.mounts.forM fun mount => log host filter none (mountedRecord mount)
    own (toString mounted ++ " storages mounted, waiting for Ctrl-C") []
    host.untilInterrupted
    own "shutting down" []
    let (released,after) := (Call.shutdownAll world).run state
    logEvents host filter none state.events.length after
    own ("released " ++ toString released ++ " storages") []
    return .succeeded

def withTable (launch : Launch) (filter : LogFilter) (config : Config)
    (command : LogFilter → Config → Table → m Outcome) : m Outcome := do
  let file := config.database.file launch.home
  match ← host.openTable file config.database.tableStart with
  | .ok table => command filter config table
  | .error error => giveUp host filter (unopened file error)

def run (launch : Launch) : m Outcome := do
  match Arguments.parse launch.home.configFile launch.arguments with
  | .error error => refuse host launch error.message
  | .ok none =>
    host.write (.notice (usage launch.home.configFile))
    return .succeeded
  | .ok (some arguments) =>
    match Config.load (← host.readText arguments.config) with
    | .error error =>
      host.write (.notice
        ("Failed to load config " ++ arguments.config ++ ": " ++ error.message))
      return .failed
    | .ok config =>
      match filterOf? launch.filter config.log.filter with
      | none => return .broken
      | some (filter,unknown) =>
        writeAll host (unknown.map fun found =>
          .notice ("ignoring `" ++ found.1 ++ "`: " ++ found.2.message))
        match arguments.command with
        | none => withTable host launch filter config (serve host)
        | some "list" => withTable host launch filter config (list host)
        | some other => refuse host launch ("Unknown command: " ++ other)

end
end MountHub.Command
