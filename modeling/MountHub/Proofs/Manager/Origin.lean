import MountHub.Proofs.Manager.Turn

/-! Where the driver of a mount comes from. After a request, whatever it came to and whatever
failed in it, a mount is one that was there before, and its driver has at most let go; or its
driver has been bound to a row that the table has now, as a new driver or as the one that was
mounted for that row. -/
namespace MountHub
open Operation

variable {world : World} {catalog : Catalog} {storage old : Storage} {state after : State}
  {path : String} {number other : Nat} {outside : Outside} {held : Driver} {lines : List LogRecord}

/-- A driver that has been asked for nothing but to let go. -/
inductive Driver.Rests (driver : Driver) : Driver → Prop
  | same : Rests driver driver
  | released {outside : Outside} {done : Except DriverError Unit} {held : Driver}
      (released : driver.shutdown outside = (done,held)) : Rests driver held

namespace Driver.Rests

variable {driver later : Driver}

theorem storage_eq (rests : driver.Rests later) : later.storage = driver.storage := by
  cases rests with
  | same => rfl
  | released released => exact storage_of_shutdown released

theorem kind_eq (rests : driver.Rests later) : later.kind = driver.kind := by
  cases rests with
  | same => rfl
  | released released => exact kind_of_shutdown released

end Driver.Rests

inductive State.Origin (catalog : Catalog) (state after : State) (path : String) (number : Nat) :
    Prop
  | kept (before : state.registry.load path = some number)
      (rests : (state.driver number).Rests (after.driver number))
  | fresh {kind : DriverKind} {row : Storage} {outside : Outside}
      (member : row ∈ after.table.storages) (known : catalog.find? row.driver = some kind)
      (bound : (Driver.fresh kind).init outside row = (.ok (),after.driver number))
  | rebound {old row : Storage} {outside : Outside} {held : Driver}
      (member : row ∈ after.table.storages)
      (before : state.registry.load old.mountPath = some number)
      (id : (state.driver number).storage.id = row.id)
      (rests : (state.driver number).Rests held)
      (bound : held.init outside row = (.ok (),after.driver number))

namespace State

theorem rests_released {done : Except DriverError Unit}
    (released : (state.driver number).shutdown outside = (done,held)) (other : Nat) :
    (state.driver other).Rests ((state.released number held).driver other) := by
  rcases driver_released_cases state number held other with ⟨rfl,gone⟩ | stays
  · rw [gone]
    exact .released released
  · rw [stays]
    exact .same

theorem rests_freed {done : Except DriverError Unit} (id : StorageId)
    (released : (state.driver number).shutdown outside = (done,held)) (other : Nat) :
    (state.driver other).Rests ((state.freed id number held).driver other) := by
  have noted : ((state.note (.table (.get id))).driver number).shutdown outside = (done,held) :=
    released
  exact rests_released noted other

end State

theorem State.Origin.note (origin : state.Origin catalog after path number) (event : Event) :
    state.Origin catalog (after.note event) path number := by
  cases origin with
  | kept before rests => exact .kept before rests
  | fresh member known bound => exact .fresh member known bound
  | rebound member before id rests bound => exact .rebound member before id rests bound

theorem Mounting.origin {words : String} {reply : Except StorageError Unit}
    (mounting : Mounting world words lines number storage state reply after)
    (made : number < state.drivers.length) (found : after.registry.load path = some other) :
    (state.registry.load path = some other ∧ after.driver other = state.driver other) ∨
      other = number ∧ (state.driver number).init (world state.events).toOutside storage =
        (.ok (),after.driver number) := by
  cases mounting with
  | unbound => exact .inl ⟨found,rfl⟩
  | @done held bound =>
    have driver := State.driver_seated storage held lines made
    by_cases here : other = number
    · rw [(driver number).trans (if_pos rfl)]
      exact .inr ⟨here,bound⟩
    · rw [State.load_seated] at found
      split at found
      · exact absurd (Option.some.inj found).symm here
      · rw [driver,if_neg here]
        exact .inl ⟨found,rfl⟩

theorem Created.origin {reply : Except StorageError StorageId}
    (created : Created world catalog storage state reply after) (sound : state.Sound)
    (found : after.registry.load path = some number) : state.Origin catalog after path number := by
  have same (kind : DriverKind) (before : state.registry.load path = some number) :
      (state.made kind).driver number = state.driver number :=
    (State.driver_made state kind number).trans (if_neg (sound.backed before).made.ne)
  cases created with
  | unsupported => exact .kept found .same
  | @unwritten kind _ known =>
    have stays : ((state.made kind).note (.table (.create storage))).driver number =
      state.driver number := same kind found
    exact .kept found (stays ▸ .same)
  | @written kind id changed _ _ known created mounting =>
    have row : { storage with id } ∈ after.table.storages := by
      rw [mounting.table_eq]
      exact (Table.mem_create (World.ok_of_answers created)).mpr (.inr rfl)
    rcases mounting.origin (by simp) found with ⟨before,stays⟩ | ⟨rfl,bound⟩
    · exact .kept before ((stays.trans (same kind before)) ▸ .same)
    · have made : ((state.made kind).written (.create storage) changed).driver
          state.drivers.length = Driver.fresh kind :=
        (State.driver_made state kind _).trans (if_pos rfl)
      rw [made] at bound
      exact .fresh row known bound

theorem Updated.origin {reply : Except StorageError Unit}
    (updated : Updated world storage state reply after) (sound : state.Sound) (catalog : Catalog)
    (found : after.registry.load path = some number) : state.Origin catalog after path number := by
  have before {old : Storage} {changed : Table}
      (there : (state.rewritten old storage changed).registry.load path = some number) :
      state.registry.load path = some number := by
    rw [State.rewritten,State.load_left] at there
    split at there
    · cases there
    · exact there
  cases updated with
  | unread | otherDriver | unwritten => exact .kept found .same
  | @unmounted old changed =>
    have stays : (state.rewritten old storage changed).driver number = state.driver number :=
      State.driver_rewritten changed number
    exact .kept (before found) (stays ▸ .same)
  | @unreleased old changed asked cause =>
    have stays : ((state.rewritten old storage changed).note (.shutdown asked
        (state.driver asked).kind (state.driver asked).storage (.error cause))).driver number =
        state.driver number :=
      State.driver_rewritten changed number
    exact .kept (before found) (stays ▸ .same)
  | @released old changed asked held _ _ rewriting there done mounting =>
    have rests (each : Nat) : (state.driver each).Rests
        (((state.rewritten old storage changed).released asked held).driver each) := by
      rw [← @State.driver_rewritten storage old state changed asked] at done
      rw [← @State.driver_rewritten storage old state changed each]
      exact State.rests_released done each
    rcases mounting.origin (sound.made_released there changed held) found with
      ⟨stays,same⟩ | ⟨rfl,bound⟩
    · exact .kept (before stays) (same ▸ rests number)
    · obtain ⟨present,id⟩ := rewriting.present
      have row : storage ∈ after.table.storages := by
        rw [mounting.table_eq,State.released_table,State.rewritten_table]
        exact (Table.mem_update rewriting.updated).mpr (.inl rfl)
      exact .rebound row there (((sound.id_eq_iff present there).mpr rfl).trans id) (rests number)
        bound

theorem Deleted.origin {id : StorageId} {reply : Except StorageError Unit}
    (deleted : Deleted world id state reply after) (catalog : Catalog)
    (found : after.registry.load path = some number) : state.Origin catalog after path number := by
  cases deleted with
  | unread | unmounted | unreleased => exact .kept found .same
  | undeleted _ _ done => exact .kept found (State.rests_freed id done number)
  | done _ _ done =>
    rw [State.note_registry,State.load_vacated] at found
    split at found
    · cases found
    · exact .kept found (State.rests_freed id done number)

theorem Saved.origin {reply : Except StorageError Unit}
    (saved : Saved world other state reply after) (catalog : Catalog)
    (found : after.registry.load path = some number) : state.Origin catalog after path number := by
  cases saved <;> exact .kept found .same

theorem Loaded.origin {well : Bool} (loaded : Loaded world catalog storage state well after)
    (sound : state.Sound) (row : storage ∈ state.table.storages)
    (found : after.registry.load path = some number) : state.Origin catalog after path number := by
  have mounted {kind : DriverKind} {reply : Except StorageError Unit} {middle : State}
      (known : catalog.find? storage.driver = some kind)
      (mounting : Mounting world "failed init storage" [] state.drivers.length storage
        (state.made kind) reply middle) (found : middle.registry.load path = some number) :
      state.Origin catalog middle path number := by
    rcases mounting.origin (by simp) found with ⟨before,stays⟩ | ⟨rfl,bound⟩
    · rw [State.driver_made,if_neg (sound.backed before).made.ne] at stays
      exact .kept before (stays ▸ .same)
    · rw [State.driver_made,if_pos rfl] at bound
      exact .fresh (mounting.table_eq.symm ▸ row) known bound
  cases loaded with
  | unsupported => exact .kept found .same
  | unbound known mounting =>
    exact (mounted known mounting found).note _
  | done known mounting => exact mounted known mounting found

theorem LetGo.origin (letGo : LetGo world path other state after) (catalog : Catalog)
    {place : String} (found : after.registry.load place = some number) :
    state.Origin catalog after place number := by
  rw [letGo.load] at found
  split at found
  · cases found
  · refine .kept found ?_
    cases letGo with
    | unreleased => exact .same
    | released done => exact State.rests_released done number

end MountHub
