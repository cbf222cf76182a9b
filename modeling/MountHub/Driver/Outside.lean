import MountHub.Driver.Context
import MountHub.Json.Value
import MountHub.Storage.Basic

/-! What drivers ask of the world around them, as answers at one moment. -/
namespace MountHub

inductive Folder where
  /-- A directory, with its path free of links and dots. -/
  | directory (canonical : String)
  | otherFile
deriving DecidableEq, Inhabited

structure Outside where
  context : Context
  session : String
  folder : String → Context.Work Folder
  /-- Why the backend of an external driver refuses to be bound, if it does. -/
  refusesInit : Storage → Option DriverError
  /-- Why the backend of an external driver refuses to be released, if it does. -/
  refusesShutdown : Storage → Option DriverError
  /-- What an external driver wants to be kept, or why it cannot be written. -/
  addition : Storage → Except String Json.Value

end MountHub
