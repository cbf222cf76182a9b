import MountHub.Command.Run
import MountHub.Driver.Session
import MountHub.Files.Storages
import MountHub.Table.Stored
import Std.Time.Format

/-! The program: the commands on this machine. The end of the input stands for the
user's interruption. -/
namespace MountHub.Machine

/-- The number of a system error; some calls give it with a minus. -/
def errorNumber (code : UInt32) : Nat :=
  if code.toNat < 0x80000000 then code.toNat else 0x100000000 - code.toNat

def osErrorOf (number : Nat) : Files.OsError :=
  match number with
  | 17 => .alreadyExists
  | 20 => .notADirectory
  | 21 => .isADirectory
  | 22 => .nulInPath
  | 36 => .nameTooLong
  | 40 => .tooManyLinks
  | _ => .notFound

def osError : IO.Error → Files.OsError
  | .inappropriateType _ code _ | .invalidArgument _ code _ | .alreadyExists _ code _
  | .resourceExhausted _ code _ | .otherError code _ => osErrorOf (errorNumber code)
  | _ => .notFound

def attempt {α : Type} (call : IO α) : IO (Except Files.OsError α) := do
  try
    return .ok (← call)
  catch error => return .error (osError error)

def readText (path : String) : IO (Except Files.OsError String) := do
  match ← attempt (IO.FS.readBinFile path) with
  | .error error => return .error error
  | .ok bytes =>
    match String.fromUTF8? bytes with
    | some text => return .ok text
    | none => return .error .invalidText

def makeParents (path : String) : IO (Except Files.OsError Unit) :=
  match (Files.Tree.parts path).dropLast with
  | [] => return .ok ()
  | above => attempt (IO.FS.createDirAll (Files.Tree.ofParts (Files.Tree.isAbsolute path) above))

def readDatabase (access : Files.Access) (path : String) : IO (Except TableError Database) := do
  match ← readText path with
  | .error error =>
    if error = .notFound ∧ access = .create then return .ok {}
    else return .error Files.cannotOpen
  | .ok text =>
    if text.utf8ByteSize ≤ 1 then return .ok {}
    match Database.ofText? text with
    | some database => return .ok database
    | none => return .error (.database "file is not a database")

/-- The table with a start of its name, and the database with it; no table is made by halves. -/
def tableOf (database : Database) (start : String) : Except TableError (Table × Database) :=
  match Naming.of start with
  | .whole name index => .ok (database.table name,(database.keep (database.table name)).addIndex index)
  | _ => .error (Naming.error start)

/-- Opens a table in a file; a file that does not hold it yet is written anew. -/
def openInFile (address : Files.Address) (start : String) : IO (Except TableError Table) := do
  match ← readDatabase address.access address.path with
  | .error error => return .error error
  | .ok database =>
    match tableOf database start with
    | .error error => return .error error
    | .ok (table,made) =>
      if (database.find? table.name).isSome then return .ok table
      if address.isReadOnly then return .error Files.cannotWrite
      match ← attempt (IO.FS.writeFile address.path made.text) with
      | .ok () => return .ok table
      | .error _ => return .error Files.cannotOpen

def openTable (path start : String) : IO (Except TableError Table) := do
  match ← makeParents path with
  | .error error => return .error (.io error.message)
  | .ok () =>
    match Files.Address.read path with
    | .error reason => return .error (.database reason)
    | .ok address =>
      if address.isInMemory ∧ address.isReadOnly then return .error Files.cannotWrite
      if address.isInMemory then return (tableOf {} start).map (·.1)
      else openInFile address start

def lookUp (path : String) : IO (Except DriverError Folder) := do
  match ← attempt (IO.FS.realPath path) with
  | .error error => return .error (.io error.message)
  | .ok found =>
    let canonical := toString found
    match ← attempt (IO.FS.realPath (canonical ++ "/.")) with
    | .ok _ => return .ok (.directory canonical)
    | .error _ => return .ok .otherFile

def lookUpAll (storages : List Storage) : IO (List (String × Except DriverError Folder)) :=
  storages.filterMapM fun storage => do
    match FolderAddition.read? storage.addition with
    | .ok addition => return some (addition.rootFolder,← lookUp addition.rootFolder)
    | .error _ => return none

def newToken : IO String := do
  return sessionToken (← IO.getRandomBytes 16).toList

def now : IO UInt64 := do
  let time ← Std.Time.Timestamp.now
  return UInt64.ofNat (time.toNanosecondsSinceUnixEpoch.val.toNat / 1000000)

/-- The world for the storages of a table: what their folders lead to is found out
beforehand, and every event has a token of its own at hand. -/
def world (table : Table) : IO World := do
  let folders ← lookUpAll (table.rows.map Row.storage)
  let tokens ← (List.replicate (4 * (table.rows.length + 1)) ()).mapM fun _ => newToken
  let time ← now
  return fun past =>
    { context := .live
      session := tokens[past.length]?.getD ""
      folder := fun path =>
        .finishes ((folders.lookup path).getD (.error (.io Files.OsError.notFound.message)))
      refusesInit := fun _ => none
      refusesShutdown := fun _ => none
      addition := fun _ => .ok .null
      now := time
      refusesCall := fun _ => none }

def timestamp : IO String := do
  let time ← Std.Time.Timestamp.now
  return (Std.Time.DateTime.ofTimestamp time Std.Time.TimeZone.ZoneRules.UTC).format
    "uuuu-MM-dd'T'HH:mm:ss.SSSSSS'Z'"

/-- Levels of four letters are written below the last four of `ERROR`. -/
def write : Output → IO Unit
  | .result line => IO.println line
  | .notice line => IO.eprintln line
  | .logged line => do
    let indent := if (line.takeWhile Char.isAlpha).toString.length < 5 then "  " else " "
    IO.eprintln ((← timestamp) ++ indent ++ line)

partial def untilInterrupted : IO Unit := do
  let line ← (← IO.getStdin).getLine
  unless line.isEmpty do untilInterrupted

def host : Host IO := { readText, openTable, world, write, untilInterrupted }

end MountHub.Machine

def main (arguments : List String) : IO UInt32 := do
  let home : MountHub.Home :=
    { home := ← IO.getEnv "HOME"
      data := ← IO.getEnv "XDG_DATA_HOME"
      config := ← IO.getEnv "XDG_CONFIG_HOME" }
  let launch : MountHub.Launch := { arguments, home, filter := ← IO.getEnv "RUST_LOG" }
  return (← MountHub.Command.run MountHub.Machine.host launch).code
