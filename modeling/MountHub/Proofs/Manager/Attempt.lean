import MountHub.Proofs.Manager.Soundness

/-! Creations and deletions that fail. A creation leaves nothing behind but the row, if it
comes as far as that; a deletion leaves rows and mounts as they were, so that it can be tried
again and again, and the first attempt that nothing stands in the way of ends as the first of
all would have ended. -/
namespace MountHub
open Operation

variable {world : World} {catalog : Catalog} {storage : Storage} {state after : State}
  {error : StorageError} {id : StorageId}

/-- The table answers every call, and every driver lets go. -/
structure World.Works (world : World) : Prop where
  answers : ∀ events call, (world events).refusesCall call = none
  releases : ∀ events storage, (world events).refusesShutdown storage = none

theorem World.works_willing (context : Context) : (World.willing context).Works :=
  ⟨fun _ _ => rfl,fun _ _ => rfl⟩

theorem World.Works.answers_eq {α : Type} (works : world.Works) (events : List Event)
    (call : TableCall) (answer : Except TableError α) :
    world.answers events call answer = answer := by
  rw [World.answers,works.answers]

theorem Driver.shutdown_ok {outside : Outside}
    (releases : ∀ storage, outside.refusesShutdown storage = none) (driver : Driver) :
    (driver.shutdown outside).1 = .ok () := by
  cases driver with
  | memory driver => rfl
  | folder driver => rfl
  | external driver => rw [shutdown,ExternalDriver.shutdown,releases]; rfl

/-- A creation that fails before its row is written leaves at most a driver that nothing
knows of; one that fails afterwards leaves the row besides. -/
theorem Created.of_error (created : Created world catalog storage state (.error error) after) :
    after.registry = state.registry ∧ after.cursors = state.cursors ∧
      state.drivers <+: after.drivers ∧
      ((∀ step cause, error ≠ .driverLifecycle step cause) ∧ after.table = state.table ∨
        (∃ step cause, error = .driverLifecycle step cause) ∧
          ∃ id : StorageId, id.raw.toNat = state.table.lastId + 1 ∧
            after.table.storages = state.table.storages ++ [{ storage with id }] ∧
            after.table.lastId = state.table.lastId + 1) := by
  generalize ended : (Except.error error : Except StorageError StorageId) = reply at created
  cases created with
  | unsupported =>
    obtain rfl := Except.error.inj ended
    exact ⟨rfl,rfl,List.prefix_rfl,.inl ⟨nofun,rfl⟩⟩
  | @unwritten kind cause known refused =>
    obtain rfl := Except.error.inj ended
    refine ⟨rfl,rfl,List.prefix_append _ _,.inl ⟨fun _ _ => ?_,rfl⟩⟩
    cases cause <;> nofun
  | @written kind id changed reply after known created mounting =>
    cases mounting with
    | done => cases ended
    | unbound =>
      obtain rfl := Except.error.inj ended
      obtain ⟨next,_,_,rows,last⟩ := Table.create_eq_ok (World.ok_of_answers created)
      exact ⟨rfl,rfl,List.prefix_append _ _,.inr ⟨⟨_,_,rfl⟩,id,next,rows,last⟩⟩

theorem Deleted.of_error (deleted : Deleted world id state (.error error) after) :
    after.table = state.table ∧ after.registry = state.registry ∧ state.Keeps after := by
  cases deleted with
  | unread | unmounted | unreleased => exact ⟨rfl,rfl,State.keeps_of_drivers_eq rfl⟩
  | undeleted _ _ done => exact ⟨rfl,rfl,State.keeps_freed id (Driver.storage_of_shutdown done)⟩

theorem Deleted.of_ok (deleted : Deleted world id state (.ok ()) after) :
    ∃ storage, state.table.get id = .ok storage ∧ state.table.delete id = .ok after.table ∧
      after.registry = state.registry.delete storage.mountPath := by
  cases deleted with
  | done read _ _ deleted => exact ⟨_,World.ok_of_answers read,World.ok_of_answers deleted,rfl⟩

/-- A mounted storage is deleted, if nothing stands in the way. -/
theorem Deleted.eq_ok {reply : Except StorageError Unit} {path : String} {number : Nat}
    (deleted : Deleted world id state reply after) (sound : state.Sound) (works : world.Works)
    (mounted : state.registry.load path = some number)
    (holds : (state.driver number).storage.id = id) : reply = .ok () := by
  obtain ⟨row,member,same,here,_⟩ := (sound.backed mounted).row
  rw [holds] at same
  have found : state.table.get id = .ok row := same ▸ sound.table.get_of_mem member
  cases deleted with
  | unread refused =>
    rw [works.answers_eq,found] at refused
    cases refused
  | unmounted read absent =>
    rw [works.answers_eq,found] at read
    obtain rfl := Except.ok.inj read
    rw [here,mounted] at absent
    cases absent
  | unreleased _ _ refused =>
    have done := congrArg Prod.fst refused
    rw [Driver.shutdown_ok (works.releases _)] at done
    cases done
  | undeleted _ _ _ refused =>
    obtain ⟨changed,deleted⟩ := Table.delete_of_get found
    rw [works.answers_eq,deleted] at refused
    cases refused
  | done => rfl

/-- Deletions of one storage, one after the other, that all fail, whatever each of them meets. -/
inductive FailedDeletions (id : StorageId) : State → State → Prop
  | none (state : State) : FailedDeletions id state state
  | more {world : World} {error : StorageError} {state middle after : State}
      (failed : Ends (delete world id) state (.error error) middle)
      (rest : FailedDeletions id middle after) : FailedDeletions id state after

theorem State.Keeps.trans {middle : State} (first : state.Keeps middle)
    (second : middle.Keeps after) : state.Keeps after := by
  intro number made
  obtain ⟨still,same⟩ := first number made
  obtain ⟨last,kept⟩ := second number still
  exact ⟨last,kept.trans same⟩

/-- However often a deletion fails, the rows and the mounts stay, and drivers keep what they
are bound to. -/
theorem FailedDeletions.keep (failed : FailedDeletions id state after) (sound : state.Sound) :
    after.Sound ∧ after.table = state.table ∧ after.registry = state.registry ∧
      state.Keeps after := by
  induction failed with
  | none state => exact ⟨sound,rfl,rfl,State.keeps_of_drivers_eq rfl⟩
  | more failed _ ih =>
    have deleted := deleted_of_ends failed
    obtain ⟨table,registry,keeps⟩ := deleted.of_error
    obtain ⟨later,tables,registries,kept⟩ := ih (deleted.sound sound)
    exact ⟨later,tables.trans table,registries.trans registry,keeps.trans kept⟩

/-- After failed attempts, the deletion of a mounted storage that nothing stands in the way of
leaves what a deletion would have left that had gone well at once. -/
theorem FailedDeletions.delete (failed : FailedDeletions id state after) (sound : state.Sound)
    {path : String} {number : Nat} (mounted : state.registry.load path = some number)
    (holds : (state.driver number).storage.id = id) (works : world.Works) :
    ∃ done, Ends (Operation.delete world id) after (.ok ()) done ∧
      done.table.storages = (state.table.storages.filter fun row => row.id ≠ id) ∧
      done.registry = state.registry.delete path ∧
      ∀ {first direct}, Ends (Operation.delete first id) state (.ok ()) direct →
        done.table = direct.table ∧ done.registry = direct.registry := by
  obtain ⟨soundAfter,table,registry,keeps⟩ := failed.keep sound
  obtain ⟨row,member,same,here,_⟩ := (sound.backed mounted).row
  have read : state.table.get id = .ok row := by
    rw [← holds,← same]
    exact sound.table.get_of_mem member
  have still : after.registry.load path = some number := registry ▸ mounted
  have bound : (after.driver number).storage.id = id := by
    rw [(keeps number (sound.backed mounted).made).2,holds]
  obtain ⟨reply,done,ends⟩ := exists_ends (Operation.delete world id) after
  obtain rfl := (deleted_of_ends ends).eq_ok soundAfter works still bound
  obtain ⟨found,readAgain,gone,left⟩ := (deleted_of_ends ends).of_ok
  rw [table,read] at readAgain
  obtain rfl := Except.ok.inj readAgain
  rw [table] at gone
  rw [registry,here] at left
  refine ⟨done,ends,(Table.delete_eq_ok gone).2.1,left,fun {first direct} attempt => ?_⟩
  obtain ⟨other,readFirst,goneFirst,leftFirst⟩ := (deleted_of_ends attempt).of_ok
  rw [read] at readFirst
  obtain rfl := Except.ok.inj readFirst
  rw [here] at leftFirst
  exact ⟨Except.ok.inj (gone.symm.trans goneFirst),left.trans leftFirst.symm⟩

namespace State

/-- Whatever has failed before: a creation that fails for want of a driver type or in the
table leaves rows, ids, mounts and drivers as they were, and one that fails in the driver adds
its row, under the next id, and nothing else; a deletion that fails leaves rows and mounts as
they were, so that a mounted storage is deleted as soon as table and driver let it, after any
number of failed attempts, as if the first had gone well. -/
theorem failed_attempts (name : String) (steps : List Step) :
    let state := (start { name }).run steps
    (∀ {world catalog given error after},
      Ends (create world catalog given) state (.error error) after →
      after.registry = state.registry ∧ after.cursors = state.cursors ∧
      state.drivers <+: after.drivers ∧
      ((∀ step cause, error ≠ .driverLifecycle step cause) ∧ after.table = state.table ∨
        (∃ step cause, error = .driverLifecycle step cause) ∧
          ∃ id : StorageId, id.raw.toNat = state.table.lastId + 1 ∧
            after.table.storages = state.table.storages ++
              [{ given with
                id
                mountPath := Path.standardize given.mountPath
                modified := (world state.events).now }] ∧
            after.table.lastId = state.table.lastId + 1)) ∧
    (∀ {world id error after}, Ends (Operation.delete world id) state (.error error) after →
      after.table = state.table ∧ after.registry = state.registry) ∧
    ∀ mounted ∈ state.mounted, ∀ {tried}, FailedDeletions mounted.storage.id state tried →
      ∀ {world : World}, world.Works →
        ∃ done, Ends (Operation.delete world mounted.storage.id) tried (.ok ()) done ∧
          done.table.storages =
            (state.table.storages.filter fun row => row.id ≠ mounted.storage.id) ∧
          done.registry = state.registry.delete mounted.key ∧
          ∀ {first direct}, Ends (Operation.delete first mounted.storage.id) state (.ok ()) direct →
            done.table = direct.table ∧ done.registry = direct.registry := by
  intro state
  have sound : state.Sound := sound_run name steps
  refine ⟨fun ends => (created_of_ends ends).of_error,fun ends => ?_,?_⟩
  · obtain ⟨table,registry,_⟩ := (deleted_of_ends ends).of_error
    exact ⟨table,registry⟩
  · intro mounted member tried failed world works
    obtain ⟨found,same⟩ := mem_mounted.mp member
    exact failed.delete sound found (congrArg Storage.id same.symm) works

/-- A creation under a cancelled context leaves its row. A table that is locked keeps a row
from being deleted after its driver has let go; once it answers again, the storage is deleted. -/
theorem failed_attempts_locked :
    let state := (start { name := "storages" }).run
      [⟨.willing .live,.builtin,.create { mountPath := "/d", driver := "memory" }⟩]
    let locked : World := fun events => { World.willing .live events with
      refusesCall := fun call => if call = .delete ⟨1⟩ then some (.database "locked") else none }
    let created := (create (.willing (.root true)) .builtin { driver := "memory" }).run.run state
    let tried := (Operation.delete locked ⟨1⟩).run.run state
    let done := (Operation.delete (.willing (.root true)) ⟨1⟩).run.run tried.2
    created.1 = .error (.driverLifecycle "failed init storage but storage is already created"
      .cancelled) ∧ created.2.table.storages.length = 2 ∧ created.2.registry = state.registry ∧
      tried.1 = .error (.persistence "failed delete storage in database" (.database "locked")) ∧
      tried.2.registry = state.registry ∧ (tried.2.driver 0).isInitialized = false ∧
      done.1 = .ok () ∧ done.2.table.storages = [] ∧ done.2.registry.load "/d" = none := by
  intro state locked created tried done
  have unbound : created.1 = .error (.driverLifecycle
      "failed init storage but storage is already created" .cancelled) := by
    decide +kernel
  have failed : tried.1 =
      .error (.persistence "failed delete storage in database" (.database "locked")) := by
    decide +kernel
  have idle : (tried.2.driver 0).isInitialized = false := by decide +kernel
  have mounted : ⟨"/d",0,{ id := ⟨1⟩, mountPath := "/d", driver := "memory", modified := 7 }⟩ ∈
      state.mounted := by
    decide +kernel
  have one : state.table.storages.length = 1 := by decide +kernel
  have rest : (state.table.storages.filter fun row => row.id ≠ ⟨1⟩) = [] := by decide +kernel
  have creation : Ends (create (.willing (.root true)) .builtin { driver := "memory" }) state
      (.error (.driverLifecycle "failed init storage but storage is already created" .cancelled))
      created.2 :=
    Prod.ext unbound rfl
  have attempt : Ends (Operation.delete locked ⟨1⟩) state
      (.error (.persistence "failed delete storage in database" (.database "locked"))) tried.2 :=
    Prod.ext failed rfl
  obtain ⟨creations,deletions,retries⟩ := failed_attempts "storages"
    [⟨.willing .live,.builtin,.create { mountPath := "/d", driver := "memory" }⟩]
  have left := creations creation
  have kept := (deletions attempt).2
  have retry := retries _ mounted (.more attempt (.none _)) (World.works_willing (.root true))
  change created.2.registry = state.registry ∧ _ ∧ _ ∧ (_ ∨ _ ∧ ∃ id : StorageId,
    _ ∧ created.2.table.storages = state.table.storages ++ [_] ∧ _) at left
  change tried.2.registry = state.registry at kept
  change ∃ after, done = (.ok (),after) ∧
    after.table.storages = (state.table.storages.filter fun row => row.id ≠ ⟨1⟩) ∧
    after.registry = state.registry.delete "/d" ∧ _ at retry
  clear_value state created tried done
  obtain ⟨same,_,_,⟨neither,_⟩ | ⟨_,_,_,rows,_⟩⟩ := left
  · exact absurd rfl (neither _ _)
  obtain ⟨after,rfl,none,gone,_⟩ := retry
  refine ⟨unbound,?_,same,failed,kept,idle,rfl,none.trans rest,?_⟩
  · rw [rows,List.length_append,one]
    rfl
  · rw [gone,Registry.load_delete,if_pos rfl]

end State
end MountHub
