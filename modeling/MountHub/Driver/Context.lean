import MountHub.Driver.Error

/-! Cancellation. A context is cancelled when it or a context that it was made
from has been; work under a cancelled context is not begun. -/
namespace MountHub

inductive Context where
  | root (cancelled : Bool)
  | child (parent : Context) (cancelled : Bool)
deriving DecidableEq, Inhabited

namespace Context

def live : Context := .root false

def isCancelled : Context → Bool
  | .root cancelled => cancelled
  | .child parent cancelled => cancelled || parent.isCancelled

def cancel : Context → Context
  | .root _ => .root true
  | .child parent _ => .child parent true

def derive (context : Context) : Context := .child context false

def parent : Context → Context
  | .root cancelled => .root cancelled
  | .child parent _ => parent

def check (context : Context) : Except DriverError Unit :=
  if context.isCancelled then .error .cancelled else .ok ()

inductive Work (α : Type) where
  | finishes (result : Except DriverError α)
  | interrupted

def run {α : Type} (context : Context) (work : Work α) : Except DriverError α × Context :=
  if context.isCancelled then (.error .cancelled,context)
  else match work with
    | .finishes result => (result,context)
    | .interrupted => (.error .cancelled,context.cancel)

@[simp] theorem isCancelled_live : live.isCancelled = false := rfl

@[simp] theorem isCancelled_cancel (context : Context) : context.cancel.isCancelled = true := by
  cases context <;> rfl

@[simp] theorem isCancelled_derive (context : Context) :
    context.derive.isCancelled = context.isCancelled := rfl

end Context
end MountHub
