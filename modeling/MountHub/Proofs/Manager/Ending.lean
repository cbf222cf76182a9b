import MountHub.Manager.Bootstrap
import MountHub.Proofs.Manager.Call
import MountHub.Proofs.Table.Storages

/-! The ends that the operations of a manager can come to. Each end says what stood in
the way, and gives the reply and the whole state that is left behind. -/
namespace MountHub

variable {world : World} {catalog : Catalog} {storage old : Storage} {state after : State}

namespace State

/-- The state after a mount has left its path for another one, if it is another one. -/
def left (state : State) (old new : String) : State :=
  if old = new then state else state.vacated old

@[simp] theorem left_table (old new : String) : (state.left old new).table = state.table := by
  unfold left
  split <;> rfl

@[simp] theorem left_drivers (old new : String) : (state.left old new).drivers = state.drivers := by
  unfold left
  split <;> rfl

@[simp] theorem left_events (old new : String) : (state.left old new).events = state.events := by
  unfold left
  split <;> rfl

@[simp] theorem left_cursors (old new : String) : (state.left old new).cursors = state.cursors := by
  unfold left
  split <;> rfl

theorem load_left (old new path : String) :
    (state.left old new).registry.load path =
      if old = path ∧ old ≠ new then none else state.registry.load path := by
  unfold left
  split_ifs with same gone gone
  · exact absurd same gone.2
  · rfl
  · rw [load_vacated,if_pos gone.1]
  · rw [load_vacated,if_neg fun here => gone ⟨here,same⟩]

/-- The state in which an update comes to the driver: the row is changed, and a mount
whose path changes is gone from its old path. -/
def rewritten (state : State) (old storage : Storage) (changed : Table) : State :=
  ((state.note (.table (.get storage.id))).written (.update storage) changed).left
    old.mountPath storage.mountPath

@[simp] theorem rewritten_table (changed : Table) :
    (state.rewritten old storage changed).table = changed :=
  left_table old.mountPath storage.mountPath

@[simp] theorem rewritten_drivers (changed : Table) :
    (state.rewritten old storage changed).drivers = state.drivers :=
  left_drivers old.mountPath storage.mountPath

theorem driver_rewritten (changed : Table) (number : Nat) :
    (state.rewritten old storage changed).driver number = state.driver number :=
  driver_congr (rewritten_drivers changed) number

/-- The state in which a deletion comes to the row: the driver has let go. -/
def freed (state : State) (id : StorageId) (number : Nat) (held : Driver) : State :=
  (state.note (.table (.get id))).released number held

/-- The state after a driver has been asked for its addition. -/
def asked (state : State) (number : Nat) : State :=
  state.note (.addition number (state.driver number).kind (state.driver number).storage)

/-- What is kept for a driver that gives this addition. -/
def live (state : State) (number : Nat) (addition : Json.Value) : Storage :=
  { (state.driver number).storage with addition := addition.text }

end State

/-- A driver is bound to a storage and mounted at its path. Lines are written to the log of a mount
that went well. -/
inductive Mounting (world : World) (step : String) (lines : List LogRecord) (number : Nat)
    (storage : Storage) (state : State) : Except StorageError Unit → State → Prop
  | unbound {cause : DriverError} {held : Driver}
      (refused : (state.driver number).init (world state.events).toOutside storage =
        (.error cause,held)) :
      Mounting world step lines number storage state (.error (.driverLifecycle step cause))
        (state.note (.init number (state.driver number).kind storage (.error cause)))
  | done {held : Driver}
      (bound : (state.driver number).init (world state.events).toOutside storage =
        (.ok (),held)) :
      Mounting world step lines number storage state (.ok ())
        (state.seated number storage held lines)

/-- A new storage is kept and mounted. -/
inductive Created (world : World) (catalog : Catalog) (storage : Storage) (state : State) :
    Except StorageError StorageId → State → Prop
  | unsupported (unknown : catalog.find? storage.driver = none) :
      Created world catalog storage state (.error (.unsupportedDriver storage.driver)) state
  | unwritten {kind : DriverKind} {cause : TableError}
      (known : catalog.find? storage.driver = some kind)
      (refused : world.answers state.events (.create storage) (state.table.create storage) =
        .error cause) :
      Created world catalog storage state
        (.error (.ofTable "failed create storage in database" cause))
        ((state.made kind).note (.table (.create storage)))
  | written {kind : DriverKind} {id : StorageId} {changed : Table}
      {reply : Except StorageError Unit} {after : State}
      (known : catalog.find? storage.driver = some kind)
      (created : world.answers state.events (.create storage) (state.table.create storage) =
        .ok (id,changed))
      (mounting : Mounting world "failed init storage but storage is already created"
        [.mounted id,.created { storage with id }] state.drivers.length { storage with id }
        ((state.made kind).written (.create storage) changed) reply after) :
      Created world catalog storage state (reply.map fun _ => id) after

/-- A storage that is read from the table takes a new configuration. -/
structure Rewriting (world : World) (old storage : Storage) (state : State) (changed : Table) :
    Prop where
  read : world.answers state.events (.get storage.id) (state.table.get storage.id) = .ok old
  sameDriver : old.driver = storage.driver
  written : world.answers (.table (.get storage.id) :: state.events) (.update storage)
    (state.table.update storage) = .ok changed

theorem Rewriting.present {changed : Table} (rewriting : Rewriting world old storage state changed) :
    old ∈ state.table.storages ∧ old.id = storage.id :=
  Table.mem_of_get_eq_ok (World.ok_of_answers rewriting.read)

theorem Rewriting.updated {changed : Table} (rewriting : Rewriting world old storage state changed) :
    state.table.update storage = .ok changed :=
  World.ok_of_answers rewriting.written

/-- A storage takes a new configuration, and its driver is bound anew. -/
inductive Updated (world : World) (storage : Storage) (state : State) :
    Except StorageError Unit → State → Prop
  | unread {cause : TableError}
      (refused : world.answers state.events (.get storage.id) (state.table.get storage.id) =
        .error cause) :
      Updated world storage state (.error (.ofTable "failed get old storage" cause))
        (state.note (.table (.get storage.id)))
  | otherDriver {old : Storage}
      (read : world.answers state.events (.get storage.id) (state.table.get storage.id) = .ok old)
      (differs : old.driver ≠ storage.driver) :
      Updated world storage state (.error (.immutableField "driver"))
        (state.note (.table (.get storage.id)))
  | unwritten {old : Storage} {cause : TableError}
      (read : world.answers state.events (.get storage.id) (state.table.get storage.id) = .ok old)
      (sameDriver : old.driver = storage.driver)
      (refused : world.answers (.table (.get storage.id) :: state.events) (.update storage)
        (state.table.update storage) = .error cause) :
      Updated world storage state (.error (.ofTable "failed update storage in database" cause))
        ((state.note (.table (.get storage.id))).note (.table (.update storage)))
  | unmounted {old : Storage} {changed : Table}
      (rewriting : Rewriting world old storage state changed)
      (absent : state.registry.load old.mountPath = none) :
      Updated world storage state (.error (.notMounted old.mountPath))
        (state.rewritten old storage changed)
  | unreleased {old : Storage} {changed : Table} {number : Nat} {cause : DriverError} {held : Driver}
      (rewriting : Rewriting world old storage state changed)
      (found : state.registry.load old.mountPath = some number)
      (refused : (state.driver number).shutdown
        (world (state.rewritten old storage changed).events).toOutside = (.error cause,held)) :
      Updated world storage state (.error (.driverLifecycle "failed drop storage" cause))
        ((state.rewritten old storage changed).note (.shutdown number
          (state.driver number).kind (state.driver number).storage (.error cause)))
  | released {old : Storage} {changed : Table} {number : Nat} {held : Driver}
      {reply : Except StorageError Unit} {after : State}
      (rewriting : Rewriting world old storage state changed)
      (found : state.registry.load old.mountPath = some number)
      (done : (state.driver number).shutdown
        (world (state.rewritten old storage changed).events).toOutside = (.ok (),held))
      (mounting : Mounting world "failed init storage" [.updated old.mountPath] number storage
        ((state.rewritten old storage changed).released number held) reply after) :
      Updated world storage state reply after

/-- The row that an update keeps: the path in its one spelling, and the time at which the old row
has been read. -/
def World.row (world : World) (state : State) (given : Storage) : Storage :=
  { given with
    mountPath := Path.standardize given.mountPath
    modified := (world (.table (.get given.id) :: state.events)).now }

/-- A storage is let go and its row deleted. -/
inductive Deleted (world : World) (id : StorageId) (state : State) :
    Except StorageError Unit → State → Prop
  | unread {cause : TableError}
      (refused : world.answers state.events (.get id) (state.table.get id) = .error cause) :
      Deleted world id state (.error (.ofTable "failed get storage" cause))
        (state.note (.table (.get id)))
  | unmounted {storage : Storage}
      (read : world.answers state.events (.get id) (state.table.get id) = .ok storage)
      (absent : state.registry.load storage.mountPath = none) :
      Deleted world id state (.error (.notMounted storage.mountPath))
        (state.note (.table (.get id)))
  | unreleased {storage : Storage} {number : Nat} {cause : DriverError} {held : Driver}
      (read : world.answers state.events (.get id) (state.table.get id) = .ok storage)
      (found : state.registry.load storage.mountPath = some number)
      (refused : (state.driver number).shutdown
        (world (.table (.get id) :: state.events)).toOutside = (.error cause,held)) :
      Deleted world id state (.error (.driverLifecycle "failed drop storage" cause))
        ((state.note (.table (.get id))).note (.shutdown number
          (state.driver number).kind (state.driver number).storage (.error cause)))
  | undeleted {storage : Storage} {number : Nat} {held : Driver} {cause : TableError}
      (read : world.answers state.events (.get id) (state.table.get id) = .ok storage)
      (found : state.registry.load storage.mountPath = some number)
      (done : (state.driver number).shutdown
        (world (.table (.get id) :: state.events)).toOutside = (.ok (),held))
      (refused : world.answers (state.freed id number held).events (.delete id)
        (state.table.delete id) = .error cause) :
      Deleted world id state (.error (.ofTable "failed delete storage in database" cause))
        ((state.freed id number held).note (.table (.delete id)))
  | done {storage : Storage} {number : Nat} {held : Driver} {changed : Table}
      (read : world.answers state.events (.get id) (state.table.get id) = .ok storage)
      (found : state.registry.load storage.mountPath = some number)
      (done : (state.driver number).shutdown
        (world (.table (.get id) :: state.events)).toOutside = (.ok (),held))
      (deleted : world.answers (state.freed id number held).events (.delete id)
        (state.table.delete id) = .ok changed) :
      Deleted world id state (.ok ())
        ((((state.freed id number held).written (.delete id) changed).vacated
          storage.mountPath).note (.logged (.deleted storage.mountPath)))

/-- The live storage of a driver is kept with the addition that the driver has now. -/
inductive Saved (world : World) (number : Nat) (state : State) :
    Except StorageError Unit → State → Prop
  | unserialized {reason : String}
      (refused : (state.driver number).addition (world state.events).toOutside = .error reason) :
      Saved world number state (.error (.serialize "error while marshal addition" reason))
        (state.asked number)
  | unwritten {addition : Json.Value} {cause : TableError}
      (given : (state.driver number).addition (world state.events).toOutside = .ok addition)
      (refused : world.answers (state.asked number).events (.update (state.live number addition))
        (state.table.update (state.live number addition)) = .error cause) :
      Saved world number state (.error (.ofTable "failed update storage in database" cause))
        ((state.asked number).note (.table (.update (state.live number addition))))
  | done {addition : Json.Value} {changed : Table}
      (given : (state.driver number).addition (world state.events).toOutside = .ok addition)
      (written : world.answers (state.asked number).events (.update (state.live number addition))
        (state.table.update (state.live number addition)) = .ok changed) :
      Saved world number state (.ok ())
        ((state.asked number).written (.update (state.live number addition)) changed)

namespace Operation
open Call

theorem mounting_of_ends {step : String} {number : Nat} {reply : Except StorageError Unit}
    (ends : Ends (do driver step (initDriver world number storage); mount storage.mountPath number)
      state reply after) : Mounting world step [] number storage state reply after := by
  rcases ends_bind_initDriver ends with ⟨cause,held,refused,rfl,rfl⟩ | ⟨held,bound,rest⟩
  · exact .unbound refused
  · obtain ⟨rfl,rfl⟩ := ends_lift.mp rest
    exact .done bound

theorem created_of_ends {given : Storage} {reply : Except StorageError StorageId}
    (ends : Ends (create world catalog given) state reply after) :
    Created world catalog (stamped (world state.events).now given) state reply after := by
  unfold create at ends
  rw [ends_bind_lift,run_surroundings] at ends
  simp only at ends
  generalize stamped (world state.events).now given = storage at ends ⊢
  cases known : catalog.find? storage.driver with
  | none =>
    rw [kindOf,known] at ends
    obtain ⟨rfl,rfl⟩ := ends_bind_throw.mp ends
    exact .unsupported known
  | some kind =>
    rw [kindOf,known,pure_bind,ends_bind_lift,run_construct] at ends
    dsimp only at ends
    rcases ends_bind_createRow ends with ⟨cause,refused,rfl,rfl⟩ | ⟨⟨id,changed⟩,created,rest⟩
    · exact .unwritten known refused
    · have kept : world.answers state.events (.create storage) (state.table.create storage) =
        .ok (id,changed) := created
      rcases ends_bind_initDriver rest with ⟨cause,held,refused,rfl,rfl⟩ | ⟨held,bound,rest⟩
      · exact .written known kept (.unbound refused)
      · have live : (((state.made kind).written (.create storage) changed).bound
            state.drivers.length { storage with id } held).driver state.drivers.length = held := by
          rw [State.driver_bound _ _ (by simp),if_pos rfl]
        rw [ends_bind_get,live,Driver.storage_of_init_ok bound,ends_bind_lift,run_record,
          ends_bind_lift,run_mount,ends_bind_lift,run_record] at rest
        obtain ⟨rfl,rfl⟩ := ends_pure.mp rest
        exact .written known kept (.done bound)

theorem ends_left {α : Type} {old new : String} {next : Operation α} {reply : Except StorageError α}
    (ends : Ends (if old ≠ new then (do unmount old; next) else next) state reply after) :
    Ends next (state.left old new) reply after := by
  split at ends
  · rename_i moved
    rw [ends_bind_lift,run_unmount] at ends
    rw [State.left,if_neg moved]
    exact ends
  · rename_i stays
    rw [State.left,if_pos (not_not.mp stays)]
    exact ends

theorem updated_of_ends {given : Storage} {reply : Except StorageError Unit}
    (ends : Ends (update world given) state reply after) :
    Updated world (stamped (world (.table (.get given.id) :: state.events)).now given) state
      reply after := by
  unfold update at ends
  rcases ends_bind_getRow ends with ⟨cause,refused,rfl,rfl⟩ | ⟨old,read,rest⟩
  · exact .unread refused
  split at rest
  · rename_i differs
    obtain ⟨rfl,rfl⟩ := ends_bind_throw.mp rest
    exact .otherDriver read differs
  · rename_i same
    rw [not_not] at same
    dsimp only at rest
    rw [ends_bind_lift,run_surroundings] at rest
    simp only [State.note_events] at rest
    obtain ⟨storage,stamp⟩ : ∃ storage, storage =
      stamped (world (.table (.get given.id) :: state.events)).now given := ⟨_,rfl⟩
    have id : given.id = storage.id := by rw [stamp,stamped]
    have driver : given.driver = storage.driver := by rw [stamp,stamped]
    rw [← stamp] at rest ⊢
    rw [id] at read rest
    rw [driver] at same
    rcases ends_bind_updateRow rest with ⟨cause,refused,rfl,rfl⟩ | ⟨changed,written,rest⟩
    · exact .unwritten read same refused
    · have rewriting : Rewriting world old storage state changed := ⟨read,same,written⟩
      rw [ends_bind_get] at rest
      have moved := ends_left rest
      change Ends _ (state.rewritten old storage changed) reply after at moved
      rw [State.written_registry,State.note_registry] at moved
      cases found : state.registry.load old.mountPath with
      | none =>
        rw [found] at moved
        obtain ⟨rfl,rfl⟩ := ends_throw.mp moved
        exact .unmounted rewriting found
      | some number =>
        rw [found] at moved
        dsimp only at moved
        rcases ends_bind_shutdownDriver moved with ⟨cause,held,refused,rfl,rfl⟩ | ⟨held,done,rest⟩
        · rw [State.driver_rewritten] at refused ⊢
          exact .unreleased rewriting found refused
        · rw [State.driver_rewritten] at done
          refine .released rewriting found done ?_
          rcases ends_bind_initDriver rest with ⟨cause,held,refused,rfl,rfl⟩ | ⟨held,bound,rest⟩
          · exact .unbound refused
          · rw [ends_bind_lift,run_mount] at rest
            obtain ⟨rfl,rfl⟩ := ends_lift.mp rest
            exact .done bound

theorem mountNew_cases {reply : Except StorageError Unit}
    (ends : Ends (mountNew world catalog storage.mountPath storage) state reply after) :
    (catalog.find? storage.driver = none ∧ reply = .error (.unsupportedDriver storage.driver) ∧
      after = state) ∨
    ∃ kind, catalog.find? storage.driver = some kind ∧
      Mounting world "failed init storage" [] state.drivers.length storage (state.made kind)
        reply after := by
  unfold mountNew at ends
  cases known : catalog.find? storage.driver with
  | none =>
    rw [kindOf,known] at ends
    obtain ⟨rfl,rfl⟩ := ends_bind_throw.mp ends
    exact .inl ⟨rfl,rfl,rfl⟩
  | some kind =>
    rw [kindOf,known,pure_bind,ends_bind_lift,run_construct] at ends
    exact .inr ⟨kind,rfl,mounting_of_ends ends⟩

theorem deleted_of_ends {id : StorageId} {reply : Except StorageError Unit}
    (ends : Ends (delete world id) state reply after) : Deleted world id state reply after := by
  unfold delete mountedAt at ends
  rcases ends_bind_getRow ends with ⟨cause,refused,rfl,rfl⟩ | ⟨storage,read,rest⟩
  · exact .unread refused
  · rw [bind_assoc,ends_bind_get] at rest
    cases found : state.registry.load storage.mountPath with
    | none =>
      rw [State.note_registry,found] at rest
      obtain ⟨rfl,rfl⟩ := ends_bind_throw.mp rest
      exact .unmounted read found
    | some number =>
      rw [State.note_registry,found,pure_bind] at rest
      rcases ends_bind_shutdownDriver rest with ⟨cause,held,refused,rfl,rfl⟩ | ⟨held,done,rest⟩
      · exact .unreleased read found refused
      · rcases ends_bind_deleteRow rest with ⟨cause,refused,rfl,rfl⟩ | ⟨changed,deleted,rest⟩
        · exact .undeleted read found done refused
        · rw [ends_bind_lift,run_unmount] at rest
          obtain ⟨rfl,rfl⟩ := ends_lift.mp rest
          exact .done read found done deleted

theorem saved_of_ends {number : Nat} {reply : Except StorageError Unit}
    (ends : Ends (save world number) state reply after) : Saved world number state reply after := by
  unfold save at ends
  rw [ends_bind_get,ends_bind_lift,run_additionOf] at ends
  dsimp only at ends
  cases given : (state.driver number).addition (world state.events).toOutside with
  | error reason =>
    rw [given] at ends
    obtain ⟨rfl,rfl⟩ := ends_throw.mp ends
    exact .unserialized given
  | ok addition =>
    rw [given] at ends
    dsimp only at ends
    rw [← bind_pure (table _ _)] at ends
    rcases ends_bind_updateRow ends with ⟨cause,refused,rfl,rfl⟩ | ⟨changed,written,rest⟩
    · exact .unwritten given refused
    · obtain ⟨rfl,rfl⟩ := ends_pure.mp rest
      exact .done given written

end Operation
end MountHub
