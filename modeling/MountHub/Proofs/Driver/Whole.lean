import MountHub.Proofs.Driver.Binding
import Mathlib.Data.List.Induction

/-! Built-in drivers at any moment. What a driver is once it is bound follows from the storage and
the answers of the world alone, not from what it was before, and a driver that is not bound is what
it was. So after all that can be asked of it, a driver is as made, or wholly as it was bound the
last time, or that without what it has let go. -/
namespace MountHub

namespace Driver

variable {outside : Outside} {storage : Storage} {driver bound : Driver}

/-- A driver without what it holds only while it is bound. -/
def idle : Driver → Driver
  | .memory driver => .memory { driver with active := false }
  | .folder driver => .folder { driver with root := none }
  | .external driver => .external { driver with active := false }

@[simp] theorem idle_fresh (kind : DriverKind) : (fresh kind).idle = fresh kind := by
  cases kind <;> rfl

@[simp] theorem idle_idle (driver : Driver) : driver.idle.idle = driver.idle := by
  cases driver <;> rfl

theorem init_of_cancelled (builtin : driver.kind ≠ .external)
    (cancelled : outside.context.isCancelled = true) :
    ∃ cause, driver.init outside storage = (.error cause,driver) := by
  rcases init_cases outside storage driver with refused | ⟨bound,done,_⟩
  · exact refused
  · have live := (init_eq_ok_iff.mp done).live builtin
    rw [cancelled] at live
    cases live

theorem shutdown_eq_idle (builtin : driver.kind ≠ .external) :
    driver.shutdown outside = (.ok (),driver.idle) := by
  cases driver with
  | memory driver => rfl
  | folder driver => rfl
  | external driver => exact absurd rfl builtin

/-- What can be asked of a driver. -/
inductive Demand where
  | init (outside : Outside) (storage : Storage)
  | shutdown (outside : Outside)

namespace Demand

def after (driver : Driver) : Demand → Driver
  | init outside storage => (driver.init outside storage).2
  | shutdown outside => (driver.shutdown outside).2

/-- A demand that binds drivers of a kind, and what they are then. -/
def Binds (kind : DriverKind) : Demand → Driver → Prop
  | init outside storage,bound => Bound outside storage kind bound
  | shutdown _,_ => False

def releases : Demand → Bool
  | init _ _ => false
  | shutdown _ => true

end Demand

def run (driver : Driver) (demands : List Demand) : Driver := demands.foldl Demand.after driver

/-- What all that was asked of a driver has come to: it is as made, or as the last demand bound it
that bound it at all, and idle if it was let go since then. -/
inductive Standing (kind : DriverKind) : List Demand → Driver → Prop
  | made {demands : List Demand} (unbound : ∀ demand ∈ demands, ∀ bound, ¬ demand.Binds kind bound) :
      Standing kind demands (fresh kind)
  | settled {before later : List Demand} {demand : Demand} {bound : Driver}
      (binds : demand.Binds kind bound)
      (unbound : ∀ next ∈ later, ∀ other, ¬ next.Binds kind other) :
      Standing kind (before ++ demand :: later)
        (if later.any Demand.releases then bound.idle else bound)

variable {kind : DriverKind} {demands : List Demand} {demand : Demand}

theorem Standing.kind_eq (standing : Standing kind demands driver) : driver.kind = kind := by
  cases standing with
  | made => exact kind_fresh kind
  | @settled before later demand bound binds =>
    have same : bound.kind = kind := by
      cases demand with
      | init => exact Bound.kind_eq binds
      | shutdown => exact binds.elim
    split_ifs
    · cases bound <;> exact same
    · exact same

/-- A demand that does not bind a driver lets it go, or leaves it as it is. -/
theorem Standing.append_unbound (standing : Standing kind demands driver)
    (unbound : ∀ bound, ¬ demand.Binds kind bound) :
    Standing kind (demands ++ [demand]) (if demand.releases then driver.idle else driver) := by
  have each {earlier : List Demand} (none : ∀ next ∈ earlier, ∀ other, ¬ next.Binds kind other) :
      ∀ next ∈ earlier ++ [demand], ∀ other, ¬ next.Binds kind other := by
    intro next member
    rcases List.mem_append.mp member with inside | last
    · exact none next inside
    · rw [List.mem_singleton.mp last]
      exact unbound
  cases standing with
  | made none =>
    rw [idle_fresh,ite_self]
    exact .made (each none)
  | @settled before later first bound binds none =>
    have step : (if demand.releases then
        (if later.any Demand.releases then bound.idle else bound).idle
        else if later.any Demand.releases then bound.idle else bound) =
        if (later ++ [demand]).any Demand.releases then bound.idle else bound := by
      cases last : demand.releases <;> cases held : later.any Demand.releases <;>
        simp [last,held]
    rw [step,List.append_assoc,List.cons_append]
    exact .settled binds (each none)

theorem Standing.step (builtin : kind ≠ .external) (standing : Standing kind demands driver)
    (demand : Demand) : Standing kind (demands ++ [demand]) (demand.after driver) := by
  have own := standing.kind_eq
  have native : driver.kind ≠ .external := own ▸ builtin
  cases demand with
  | init outside storage =>
    rcases init_cases outside storage driver with ⟨cause,refused⟩ | ⟨bound,done,_⟩
    · have unbound (bound : Driver) : ¬ (Demand.init outside storage).Binds kind bound := by
        intro taken
        rw [← own] at taken
        cases refused.symm.trans (init_eq_ok_iff.mpr taken)
      have kept : (Demand.init outside storage).after driver = driver :=
        congrArg Prod.snd refused
      rw [kept]
      exact standing.append_unbound unbound
    · have binds : (Demand.init outside storage).Binds kind bound :=
        own ▸ init_eq_ok_iff.mp done
      have reached : (Demand.init outside storage).after driver = bound := congrArg Prod.snd done
      rw [reached]
      exact .settled binds (by simp)
  | shutdown outside =>
    have reached : (Demand.shutdown outside).after driver = driver.idle :=
      congrArg Prod.snd (shutdown_eq_idle native)
    rw [reached]
    exact standing.append_unbound fun _ taken => taken

theorem standing_run (builtin : kind ≠ .external) (demands : List Demand) :
    Standing kind demands ((fresh kind).run demands) := by
  induction demands using List.reverseRecOn with
  | nil => exact .made (by simp)
  | append_singleton demands demand standing =>
    rw [run,List.foldl_append]
    exact standing.step builtin demand

/-- Binding a built-in driver is all or nothing, whatever it was before: it is refused and stays
as it was, or it is just what the storage and the answers of the world make of it. Under a
cancelled context it is refused. Letting go succeeds in every context, and takes away what is held
while the driver is bound and nothing else. So all that can be asked of a driver never leaves it in
between. -/
theorem init_whole (outside : Outside) (storage : Storage) (builtin : driver.kind ≠ .external) :
    (∀ cause after, driver.init outside storage = (.error cause,after) → after = driver) ∧
      (∀ after, driver.init outside storage = (.ok (),after) ↔
        Bound outside storage driver.kind after) ∧
      (outside.context.isCancelled = true →
        ∃ cause, driver.init outside storage = (.error cause,driver)) ∧
      driver.shutdown outside = (.ok (),driver.idle) ∧
      ∀ demands, Standing driver.kind demands ((fresh driver.kind).run demands) :=
  ⟨fun _ _ => eq_of_init_error,fun _ => init_eq_ok_iff,init_of_cancelled builtin,
    shutdown_eq_idle builtin,standing_run builtin⟩

/-- A driver with a folder is bound to another one, and not under a cancelled context. A token that
is given takes the place of the one that a driver made, and a text that cannot be read does not. -/
theorem init_whole_rebound :
    let outside : Outside :=
      { context := .live
        session := "token"
        folder := fun _ => .finishes (.ok (.directory "/host/srv"))
        refusesInit := fun _ => none
        refusesShutdown := fun _ => none
        addition := fun _ => .ok (.object []) }
    let stopped : Outside := { outside with context := outside.context.cancel }
    let old : FolderDriver :=
      { storage := { mountPath := "/old" }, addition := { rootFolder := "/old" }, root := some "/o" }
    let storage : Storage := { mountPath := "/m", addition := "\x7b\"root_folder\":\"/srv\"\x7d" }
    let folder : FolderDriver :=
      { storage, addition := { rootFolder := "/srv" }, root := some "/host/srv" }
    let active : MemoryDriver := { addition := { session := some "made" }, active := true }
    let named : Storage := { mountPath := "/n", addition := "[\"given\"]" }
    let broken : Storage := { mountPath := "/n", addition := "\x7b" }
    (Driver.folder old).init outside storage = (.ok (),.folder folder) ∧
      (∃ cause, (Driver.folder old).init stopped storage = (.error cause,.folder old)) ∧
      (Driver.folder folder).shutdown stopped = (.ok (),.folder { folder with root := none }) ∧
      (Driver.memory active).init outside named = (.ok (),.memory
        { storage := named, addition := { session := some "given" }, active := true }) ∧
      (Driver.memory active).init outside broken = (.error .invalidAddition,.memory active) := by
  intro outside stopped old storage folder active named broken
  have builtin (driver : FolderDriver) : (Driver.folder driver).kind ≠ .external := nofun
  have memory : (Driver.memory active).kind ≠ .external := nofun
  obtain ⟨_,bound,_,_,_⟩ := init_whole outside storage (builtin old)
  obtain ⟨_,_,refused,_,_⟩ := init_whole stopped storage (builtin old)
  obtain ⟨_,_,_,released,_⟩ := init_whole stopped storage (builtin folder)
  obtain ⟨_,given,_,_,_⟩ := init_whole outside named memory
  obtain ⟨kept,_⟩ := init_whole outside broken memory
  have reply : ((Driver.memory active).init outside broken).1 = .error .invalidAddition := by
    decide +kernel
  have root : FolderAddition.read? storage.addition = .ok { rootFolder := "/srv" } := by
    decide +kernel
  have token : MemoryAddition.read? named.addition = .ok { session := some "given" } := by
    decide +kernel
  exact ⟨(bound _).mpr (.folder root (by decide) rfl rfl),refused rfl,released,
    (given _).mpr (.memory rfl token),Prod.ext reply (kept _ _ (Prod.ext reply rfl))⟩

end Driver
end MountHub
