import MountHub.Config.Load
import MountHub.Config.Place
import MountHub.Manager.State

/-! The machine that a command runs on, as the calls that a command makes of it. -/
namespace MountHub

inductive Output where
  | result (line : String)
  | notice (line : String)
  | logged (line : String)
deriving DecidableEq, Inhabited

inductive Outcome where
  | succeeded
  | failed
  | broken
deriving DecidableEq, Inhabited

def Outcome.code : Outcome → UInt32
  | .succeeded => 0
  | .failed => 1
  | .broken => 101

structure Host (m : Type → Type) where
  readText : String → m (Except Files.OsError String)
  openTable : String → String → m (Except TableError Table)
  world : Table → m World
  write : Output → m Unit
  untilInterrupted : m Unit

structure Launch where
  arguments : List String
  home : Home := {}
  filter : Option String := none

end MountHub
