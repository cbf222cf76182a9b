import MountHub.Driver.Basic
import Mathlib.Tactic.SplitIfs

/-! Binding is all or nothing: a driver that is bound is initialized and holds the storage
given, and one that is not stays as it was. What binding takes, and what a driver is then, is
one relation for all kinds. A driver that has let go keeps the storage, and is not initialized
any more. -/
namespace MountHub

namespace Context

variable {context : Context}

theorem check_eq_ok_iff : context.check = .ok () ↔ context.isCancelled = false := by
  unfold check
  split_ifs with cancelled <;> simp [cancelled]

theorem run_eq_ok_iff {α : Type} {work : Work α} {value : α} :
    (context.run work).1 = .ok value ↔
      context.isCancelled = false ∧ work = .finishes (.ok value) := by
  unfold run
  split_ifs with cancelled
  · simp [cancelled]
  · cases work <;> simp [cancelled]

end Context

theorem MemoryDriver.init_cases (outside : Outside) (storage : Storage) (driver : MemoryDriver) :
    (∃ cause, driver.init outside storage = (.error cause,driver)) ∨
      ∃ addition, driver.init outside storage = (.ok (),{ storage, addition, active := true }) := by
  unfold init
  split
  · exact .inl ⟨_,rfl⟩
  · split
    · exact .inl ⟨_,rfl⟩
    · exact .inr ⟨_,rfl⟩

theorem FolderDriver.init_cases (outside : Outside) (storage : Storage) (driver : FolderDriver) :
    (∃ cause, driver.init outside storage = (.error cause,driver)) ∨
      ∃ addition root,
        driver.init outside storage = (.ok (),{ storage, addition, root := some root }) := by
  unfold init
  split
  · exact .inl ⟨_,rfl⟩
  · split
    · exact .inl ⟨_,rfl⟩
    · simp only
      split
      · exact .inl ⟨_,rfl⟩
      · exact .inr ⟨_,_,rfl⟩

theorem ExternalDriver.init_cases (outside : Outside) (storage : Storage) (driver : ExternalDriver) :
    (∃ cause, driver.init outside storage = (.error cause,driver)) ∨
      driver.init outside storage = (.ok (),{ storage, active := true }) := by
  unfold init
  split
  · exact .inl ⟨_,rfl⟩
  · exact .inr rfl

theorem MemoryDriver.init_eq_ok_iff {outside : Outside} {storage : Storage}
    {driver bound : MemoryDriver} : driver.init outside storage = (.ok (),bound) ↔
      outside.context.isCancelled = false ∧ ∃ parsed,
        MemoryAddition.read? storage.addition = .ok parsed ∧
        bound =
          { storage
            addition := { session := some (parsed.session.getD outside.session) }
            active := true } := by
  rw [← Context.check_eq_ok_iff]
  unfold init
  cases outside.context.check with
  | error cause => simp
  | ok _ =>
    cases MemoryAddition.read? storage.addition with
    | error cause => simp
    | ok parsed => simp [eq_comm]

theorem FolderDriver.canonical_eq_ok_iff {requested root : String} {found : Folder} :
    canonical requested found = .ok root ↔ found = .directory root := by
  cases found <;> simp [canonical]

theorem FolderDriver.init_eq_ok_iff {outside : Outside} {storage : Storage}
    {driver bound : FolderDriver} : driver.init outside storage = (.ok (),bound) ↔
      ∃ parsed root, FolderAddition.read? storage.addition = .ok parsed ∧
        parsed.rootFolder ≠ "" ∧ outside.context.isCancelled = false ∧
        outside.folder parsed.rootFolder = .finishes (.ok (.directory root)) ∧
        bound = { storage, addition := parsed, root := some root } := by
  unfold init
  cases FolderAddition.read? storage.addition with
  | error cause => simp
  | ok parsed =>
    by_cases named : parsed.rootFolder = ""
    · simp [named]
    · have reached (root : String) :
          ((outside.context.run (outside.folder parsed.rootFolder)).1 >>=
            canonical parsed.rootFolder) = .ok root ↔ outside.context.isCancelled = false ∧
              outside.folder parsed.rootFolder = .finishes (.ok (.directory root)) := by
        rw [← Context.run_eq_ok_iff]
        cases (outside.context.run (outside.folder parsed.rootFolder)).1 with
        | error cause => simp [bind,Except.bind]
        | ok found => simp [bind,Except.bind,canonical_eq_ok_iff]
      simp only [if_neg named]
      cases answer : (outside.context.run (outside.folder parsed.rootFolder)).1 >>=
        canonical parsed.rootFolder with
      | error cause =>
        constructor
        · intro done
          cases (Prod.mk.inj done).1
        · rintro ⟨_,root,⟨⟩,_,live,found,_⟩
          cases answer.symm.trans ((reached root).mpr ⟨live,found⟩)
      | ok root =>
        obtain ⟨live,found⟩ := (reached root).mp answer
        constructor
        · intro done
          exact ⟨parsed,root,rfl,named,live,found,(Prod.mk.inj done).2.symm⟩
        · rintro ⟨_,other,⟨⟩,_,_,again,rfl⟩
          cases found.symm.trans again
          rfl

theorem ExternalDriver.init_eq_ok_iff {outside : Outside} {storage : Storage}
    {driver bound : ExternalDriver} : driver.init outside storage = (.ok (),bound) ↔
      outside.refusesInit storage = none ∧ bound = { storage, active := true } := by
  unfold init
  cases outside.refusesInit storage <;> simp [eq_comm]

namespace Driver

variable {driver other : Driver} {outside : Outside} {storage : Storage}

/-- What a driver is once it is bound, and what that takes. -/
inductive Bound (outside : Outside) (storage : Storage) : DriverKind → Driver → Prop
  | memory {parsed : MemoryAddition} (live : outside.context.isCancelled = false)
      (read : MemoryAddition.read? storage.addition = .ok parsed) :
      Bound outside storage .memory (.memory
        { storage
          addition := { session := some (parsed.session.getD outside.session) }
          active := true })
  | folder {parsed : FolderAddition} {root : String}
      (read : FolderAddition.read? storage.addition = .ok parsed) (named : parsed.rootFolder ≠ "")
      (live : outside.context.isCancelled = false)
      (found : outside.folder parsed.rootFolder = .finishes (.ok (.directory root))) :
      Bound outside storage .folder (.folder { storage, addition := parsed, root := some root })
  | external (willing : outside.refusesInit storage = none) :
      Bound outside storage .external (.external { storage, active := true })

namespace Bound

variable {kind : DriverKind} {bound : Driver}

theorem kind_eq (taken : Bound outside storage kind bound) : bound.kind = kind := by
  cases taken <;> rfl

theorem storage_eq (taken : Bound outside storage kind bound) : bound.storage = storage := by
  cases taken <;> rfl

theorem isInitialized (taken : Bound outside storage kind bound) : bound.isInitialized = true := by
  cases taken <;> rfl

/-- Only an external driver may be bound under a context that is cancelled. -/
theorem live (taken : Bound outside storage kind bound) (builtin : kind ≠ .external) :
    outside.context.isCancelled = false := by
  cases taken with
  | memory live | folder _ _ live => exact live
  | external => exact absurd rfl builtin

end Bound

theorem map_eq_ok_iff {α : Type} {ran : Except DriverError Unit × α} {wrap : α → Driver} :
    ran.map id wrap = (.ok (),other) ↔ ∃ after, ran = (.ok (),after) ∧ other = wrap after := by
  obtain ⟨reply,after⟩ := ran
  constructor
  · intro done
    obtain ⟨taken,rfl⟩ := Prod.mk.inj done
    exact ⟨after,Prod.ext taken rfl,rfl⟩
  · rintro ⟨_,⟨⟩,rfl⟩
    rfl

theorem init_eq_ok_iff :
    driver.init outside storage = (.ok (),other) ↔ Bound outside storage driver.kind other := by
  cases driver with
  | memory driver =>
    rw [init,map_eq_ok_iff]
    constructor
    · rintro ⟨after,done,rfl⟩
      obtain ⟨live,parsed,read,rfl⟩ := MemoryDriver.init_eq_ok_iff.mp done
      exact .memory live read
    · rintro ⟨live,read⟩
      exact ⟨_,MemoryDriver.init_eq_ok_iff.mpr ⟨live,_,read,rfl⟩,rfl⟩
  | folder driver =>
    rw [init,map_eq_ok_iff]
    constructor
    · rintro ⟨after,done,rfl⟩
      obtain ⟨parsed,root,read,named,live,found,rfl⟩ := FolderDriver.init_eq_ok_iff.mp done
      exact .folder read named live found
    · rintro (_ | ⟨read,named,live,found⟩ | _)
      exact ⟨_,FolderDriver.init_eq_ok_iff.mpr ⟨_,_,read,named,live,found,rfl⟩,rfl⟩
  | external driver =>
    rw [init,map_eq_ok_iff]
    constructor
    · rintro ⟨after,done,rfl⟩
      obtain ⟨willing,rfl⟩ := ExternalDriver.init_eq_ok_iff.mp done
      exact .external willing
    · rintro (_ | _ | willing)
      exact ⟨_,ExternalDriver.init_eq_ok_iff.mpr ⟨willing,rfl⟩,rfl⟩

theorem init_cases (outside : Outside) (storage : Storage) (driver : Driver) :
    (∃ cause, driver.init outside storage = (.error cause,driver)) ∨
      ∃ bound, driver.init outside storage = (.ok (),bound) ∧ bound.storage = storage ∧
        bound.isInitialized = true := by
  cases driver with
  | memory driver =>
    rcases driver.init_cases outside storage with ⟨cause,refused⟩ | ⟨addition,done⟩
    · exact .inl ⟨cause,by rw [init,refused]; rfl⟩
    · exact .inr ⟨_,by rw [init,done]; rfl,rfl,rfl⟩
  | folder driver =>
    rcases driver.init_cases outside storage with ⟨cause,refused⟩ | ⟨addition,root,done⟩
    · exact .inl ⟨cause,by rw [init,refused]; rfl⟩
    · exact .inr ⟨_,by rw [init,done]; rfl,rfl,rfl⟩
  | external driver =>
    rcases driver.init_cases outside storage with ⟨cause,refused⟩ | done
    · exact .inl ⟨cause,by rw [init,refused]; rfl⟩
    · exact .inr ⟨_,by rw [init,done]; rfl,rfl,rfl⟩

theorem eq_of_init_error {cause : DriverError}
    (refused : driver.init outside storage = (.error cause,other)) : other = driver := by
  rcases init_cases outside storage driver with ⟨_,kept⟩ | ⟨_,done,_⟩
  · exact (Prod.mk.inj (refused.symm.trans kept)).2
  · simp [done] at refused

theorem storage_of_init_ok (bound : driver.init outside storage = (.ok (),other)) :
    other.storage = storage :=
  (init_eq_ok_iff.mp bound).storage_eq

theorem isInitialized_of_init_ok (bound : driver.init outside storage = (.ok (),other)) :
    other.isInitialized = true :=
  (init_eq_ok_iff.mp bound).isInitialized

theorem eq_of_shutdown_error {cause : DriverError}
    (refused : driver.shutdown outside = (.error cause,other)) : other = driver := by
  cases driver with
  | memory driver => cases (Prod.mk.inj refused).1
  | folder driver => cases (Prod.mk.inj refused).1
  | external driver =>
    simp only [shutdown,ExternalDriver.shutdown] at refused
    split at refused
    · exact (Prod.mk.inj refused).2.symm
    · cases (Prod.mk.inj refused).1

@[simp] theorem storage_shutdown (outside : Outside) (driver : Driver) :
    (driver.shutdown outside).2.storage = driver.storage := by
  cases driver with
  | memory driver => rfl
  | folder driver => rfl
  | external driver =>
    simp only [shutdown,ExternalDriver.shutdown]
    split <;> rfl

theorem isInitialized_of_shutdown_ok (released : driver.shutdown outside = (.ok (),other)) :
    other.isInitialized = false := by
  cases driver with
  | memory driver =>
    rw [← (Prod.mk.inj released).2]
    rfl
  | folder driver =>
    rw [← (Prod.mk.inj released).2]
    rfl
  | external driver =>
    simp only [shutdown,ExternalDriver.shutdown] at released
    split at released
    · cases (Prod.mk.inj released).1
    · rw [← (Prod.mk.inj released).2]
      rfl

theorem kind_of_init {done : Except DriverError Unit}
    (bound : driver.init outside storage = (done,other)) : other.kind = driver.kind := by
  have kept := kind_init outside storage driver
  rw [bound] at kept
  exact kept

theorem kind_of_shutdown {done : Except DriverError Unit}
    (released : driver.shutdown outside = (done,other)) : other.kind = driver.kind := by
  have kept := kind_shutdown outside driver
  rw [released] at kept
  exact kept

theorem storage_of_shutdown {done : Except DriverError Unit}
    (released : driver.shutdown outside = (done,other)) : other.storage = driver.storage := by
  have kept := storage_shutdown outside driver
  rw [released] at kept
  exact kept

end Driver
end MountHub
