import MountHub.Proofs.Manager.Attempt
import MountHub.Proofs.Manager.Residue

/-! Rows that nothing is mounted at. A creation whose driver refuses leaves one behind, and so
does a change of path. Such a row takes a new configuration and keeps its path to itself, but
only a load mounts it: one that is not refused a page mounts every row that its driver takes. -/
namespace MountHub
open Operation Call

variable {world : World} {catalog : Catalog} {storage old row : Storage} {state after : State}
  {number : Nat} {lines : List LogRecord}

theorem StorageError.driverLifecycle_ne_ofTable (step words : String) (cause : DriverError)
    (refusal : TableError) : StorageError.driverLifecycle step cause ≠ .ofTable words refusal := by
  cases refusal <;> nofun

/-- In this world drivers of a type take a storage, whenever they are asked to. -/
def World.Accepts (world : World) (kind : DriverKind) (storage : Storage) : Prop :=
  ∀ events (driver : Driver), driver.kind = kind →
    (driver.init (world events).toOutside storage).1 = .ok ()

theorem World.accepts_of_bound {kind : DriverKind}
    (binds : ∀ events, ∃ bound, Driver.Bound (world events).toOutside storage kind bound) :
    world.Accepts kind storage := by
  intro events driver same
  obtain ⟨bound,taken⟩ := binds events
  exact congrArg Prod.fst (Driver.init_eq_ok_iff.mpr (same ▸ taken))

/-- A world that refuses nothing binds memory drivers, unless its context is cancelled. -/
theorem World.accepts_memory {context : Context} (live : context.isCancelled = false)
    (blank : Addition.isBlank storage.addition = true) :
    (World.willing context).Accepts .memory storage := by
  have read : MemoryAddition.read? storage.addition = .ok {} := by
    rw [MemoryAddition.read?,Addition.read?,if_pos blank]
  exact World.accepts_of_bound fun _ => ⟨_,.memory live read⟩

theorem World.accepts_external (context : Context) :
    (World.willing context).Accepts .external storage :=
  World.accepts_of_bound fun _ => ⟨_,.external rfl⟩

namespace State

/-- The row is kept and mounted at its path, by a driver that holds it in every field and has
not let go. -/
structure Serves (state : State) (row : Storage) : Prop where
  kept : state.table.get row.id = .ok row
  mounted : ∃ number, state.registry.load row.mountPath = some number ∧
    (state.driver number).storage = row ∧ (state.driver number).isInitialized = true

/-- The row is kept, and nothing is mounted at its path. -/
structure Stranded (state : State) (row : Storage) : Prop where
  kept : state.table.get row.id = .ok row
  unmounted : state.registry.load row.mountPath = none

/-- A new driver that is mounted at another path leaves a row mounted. -/
theorem Serves.mount (serves : state.Serves row) (sound : state.Sound) {held : Driver}
    (kind : DriverKind) (elsewhere : storage.mountPath ≠ row.mountPath) :
    ((state.made kind).seated state.drivers.length storage held lines).Serves row := by
  obtain ⟨number,found,holds,initialized⟩ := serves.mounted
  have made := (sound.backed found).made
  have same : ((state.made kind).seated state.drivers.length storage held lines).driver number =
      state.driver number := by
    rw [driver_seated _ _ _ (by simp),if_neg made.ne,driver_made,if_neg made.ne]
  refine ⟨serves.kept,number,?_,?_,?_⟩
  · rw [load_seated,if_neg elsewhere]
    exact found
  · rw [same,holds]
  · rw [same,initialized]

theorem Serves.same_drivers (serves : state.Serves row) (table : after.table = state.table)
    (registry : after.registry = state.registry)
    (drivers : ∀ number < state.drivers.length, after.driver number = state.driver number)
    (sound : state.Sound) : after.Serves row := by
  obtain ⟨number,found,holds,initialized⟩ := serves.mounted
  have same := drivers number (sound.backed found).made
  exact ⟨table ▸ serves.kept,number,registry ▸ found,same ▸ holds,same ▸ initialized⟩

end State

namespace Mounting

variable {step : String} {reply : Except StorageError Unit}

theorem eq_ok (mounting : Mounting world step lines number storage state reply after)
    (accepts : world.Accepts (state.driver number).kind storage) : reply = .ok () := by
  cases mounting with
  | unbound refused =>
    have taken := accepts state.events (state.driver number) rfl
    rw [refused] at taken
    cases taken
  | done => rfl

theorem serves (mounting : Mounting world step lines number storage state (.ok ()) after)
    (made : number < state.drivers.length) (kept : state.table.get storage.id = .ok storage) :
    after.Serves storage := by
  cases mounting with
  | @done held bound =>
    have holds : (state.seated number storage held lines).driver number = held := by
      rw [State.driver_seated _ _ _ made,if_pos rfl]
    refine ⟨kept,number,?_,?_,?_⟩
    · rw [State.load_seated,if_pos rfl]
    · rw [holds,Driver.storage_of_init_ok bound]
    · rw [holds,Driver.isInitialized_of_init_ok bound]

end Mounting

theorem Table.Sound.free_of_get {table : Table} (sound : table.Sound)
    (found : table.get storage.id = .ok old) (stays : old.mountPath = storage.mountPath) :
    ∀ other ∈ table.storages, other.id ≠ storage.id → other.mountPath ≠ storage.mountPath := by
  obtain ⟨present,id⟩ := Table.mem_of_get_eq_ok found
  intro other member different same
  rw [sound.eq_of_path member present (same.trans stays.symm)] at different
  exact different id

theorem World.Works.shutdown_ne_error (works : world.Works) (events : List Event) (driver held : Driver)
    (cause : DriverError) : driver.shutdown (world events).toOutside ≠ (.error cause,held) := by
  intro refused
  have done := Driver.shutdown_ok (works.releases events) driver
  rw [refused] at done
  cases done

/-- A row that can be read is written, if it keeps its driver type and its path is free. -/
theorem World.Works.not_unwritten (works : world.Works)
    (found : state.table.get storage.id = .ok old) (sameDriver : old.driver = storage.driver)
    (free : ∀ other ∈ state.table.storages, other.id ≠ storage.id →
      other.mountPath ≠ storage.mountPath) : ¬ Unwritten world storage state := by
  rintro (⟨refused⟩ | ⟨read,differs⟩ | ⟨refused⟩)
  · rw [works.answers_eq,found] at refused
    cases refused
  · rw [works.answers_eq,found] at read
    obtain rfl := Except.ok.inj read
    exact differs sameDriver
  · obtain ⟨changed,written⟩ := Table.update_of_free found free
    rw [works.answers_eq,written] at refused
    cases refused

/-- The storage that an update reads is the row that is there. -/
theorem Rewriting.old_eq {changed : Table} {other : Storage}
    (rewriting : Rewriting world old storage state changed)
    (found : state.table.get storage.id = .ok other) : old = other :=
  Except.ok.inj ((World.ok_of_answers rewriting.read).symm.trans found)

theorem Rewriting.get_eq {changed : Table} (rewriting : Rewriting world old storage state changed)
    (sound : state.Sound) : changed.get storage.id = .ok storage :=
  (sound.table.update rewriting.updated).get_of_mem
    ((Table.mem_update rewriting.updated).mpr (.inl rfl))

namespace Updated

variable {reply : Except StorageError Unit}

/-- An update that is written ends well, if its driver is mounted, lets go and takes the new
configuration. -/
theorem serves (updated : Updated world storage state reply after) (sound : state.Sound)
    (works : world.Works) (written : ¬ Unwritten world storage state)
    (found : state.table.get storage.id = .ok old)
    (mounted : state.registry.load old.mountPath = some number)
    (accepts : world.Accepts (state.driver number).kind storage) :
    reply = .ok () ∧ after.Serves storage := by
  cases updated with
  | unread refused => exact absurd (.unread refused) written
  | otherDriver given differs => exact absurd (.otherDriver given differs) written
  | unwritten _ _ refused => exact absurd (.refused refused) written
  | unmounted rewriting absent =>
    obtain rfl := rewriting.old_eq found
    rw [mounted] at absent
    cases absent
  | unreleased _ _ refused => exact absurd refused (works.shutdown_ne_error _ _ _ _)
  | @released other changed holder held _ _ rewriting there done mounting =>
    obtain rfl := rewriting.old_eq found
    rw [mounted] at there
    obtain rfl := Option.some.inj there
    obtain rfl := mounting.eq_ok (by
      rw [sound.driver_released mounted,Driver.kind_of_shutdown done]
      exact accepts)
    refine ⟨rfl,mounting.serves (sound.made_released mounted changed held) ?_⟩
    · rw [State.released_table,State.rewritten_table]
      exact rewriting.get_eq sound

/-- A row that nothing is mounted at takes a new configuration all the same. The update fails
for want of a mount, and the row stays unmounted. -/
theorem stranded (updated : Updated world storage state reply after) (sound : state.Sound)
    (written : ¬ Unwritten world storage state) (stranded : state.Stranded row)
    (id : row.id = storage.id) (stays : row.mountPath = storage.mountPath) :
    reply = .error (.notMounted row.mountPath) ∧ after.Stranded storage := by
  have found : state.table.get storage.id = .ok row := id ▸ stranded.kept
  cases updated with
  | unread refused => exact absurd (.unread refused) written
  | otherDriver given differs => exact absurd (.otherDriver given differs) written
  | unwritten _ _ refused => exact absurd (.refused refused) written
  | unmounted rewriting absent =>
    obtain rfl := rewriting.old_eq found
    refine ⟨rfl,?_,?_⟩
    · rw [State.rewritten_table]
      exact rewriting.get_eq sound
    · rw [State.rewritten,State.load_left,if_neg fun moved => moved.2 stays,← stays]
      exact absent
  | unreleased rewriting there | released rewriting there =>
    obtain rfl := rewriting.old_eq found
    rw [stranded.unmounted] at there
    cases there

end Updated

/-- A path that a row has cannot be given to a new one, which leaves rows and mounts as they
were. -/
theorem Created.of_taken {reply : Except StorageError StorageId}
    (created : Created world catalog storage state reply after) (works : world.Works)
    (known : catalog.find? storage.driver ≠ none) (member : row ∈ state.table.storages)
    (taken : row.mountPath = storage.mountPath) :
    ∃ cause, reply = .error (.persistence "failed create storage in database" cause) ∧
      (state.table.lastId + 1 < Table.idLimit → cause = .pathTaken state.table.name) ∧
      after.table = state.table ∧ after.registry = state.registry ∧
      after.cursors = state.cursors := by
  have refusal := Table.create_of_taken member taken
  cases created with
  | unsupported unknown => exact absurd unknown known
  | unwritten _ refused =>
    rw [works.answers_eq,refusal] at refused
    obtain rfl := Except.error.inj refused
    split_ifs with room
    · exact ⟨_,rfl,fun _ => rfl,rfl,rfl,rfl⟩
    · exact ⟨_,rfl,fun left => absurd left room,rfl,rfl,rfl⟩
  | written _ given =>
    rw [works.answers_eq,refusal] at given
    cases given

/-- A row that nothing is mounted at is not deleted. -/
theorem Deleted.of_stranded {reply : Except StorageError Unit}
    (deleted : Deleted world row.id state reply after) (works : world.Works)
    (stranded : state.Stranded row) :
    reply = .error (.notMounted row.mountPath) ∧ state.Intact after := by
  have read {other : Storage}
      (given : world.answers state.events (.get row.id) (state.table.get row.id) = .ok other) :
      other = row := by
    rw [works.answers_eq,stranded.kept] at given
    exact (Except.ok.inj given).symm
  cases deleted with
  | unread refused =>
    rw [works.answers_eq,stranded.kept] at refused
    cases refused
  | unmounted given =>
    obtain rfl := read given
    exact ⟨rfl,rfl,rfl,rfl,rfl⟩
  | unreleased given found | undeleted given found | done given found =>
    obtain rfl := read given
    rw [stranded.unmounted] at found
    cases found

namespace Loaded

variable {well : Bool} {kind : DriverKind}

/-- A row goes well, if its driver takes it. -/
theorem well_eq (loaded : Loaded world catalog row state well after)
    (known : catalog.find? row.driver = some kind) (accepts : world.Accepts kind row) :
    well = true := by
  have fresh : ((state.made kind).driver state.drivers.length).kind = kind := by
    rw [State.driver_made,if_pos rfl,Driver.kind_fresh]
  cases loaded with
  | unsupported unknown =>
    rw [known] at unknown
    cases unknown
  | unbound found mounting =>
    rw [known] at found
    obtain rfl := Option.some.inj found
    cases mounting.eq_ok (by rw [fresh]; exact accepts)
  | done => rfl

theorem serves_self (loaded : Loaded world catalog row state true after) (sound : state.Sound)
    (member : row ∈ state.table.storages) : after.Serves row := by
  cases loaded with
  | done found mounting => exact mounting.serves (by simp) (sound.table.get_of_mem member)

theorem serves_other (loaded : Loaded world catalog storage state well after)
    (sound : state.Sound) (elsewhere : storage.mountPath ≠ row.mountPath)
    (serves : state.Serves row) : after.Serves row := by
  cases loaded with
  | unsupported => exact serves.same_drivers rfl rfl (fun _ _ => rfl) sound
  | @unbound kind _ _ _ mounting =>
    cases mounting
    refine serves.same_drivers rfl rfl (fun number made => ?_) sound
    exact (State.driver_made state kind number).trans (if_neg made.ne)
  | done _ mounting =>
    cases mounting
    exact serves.mount sound _ elsewhere

end Loaded

/-- A load that is not refused a page mounts each row that its driver takes, whatever comes of
the others. -/
theorem load_serves {kind : DriverKind} {size : UInt64} {reply : Except StorageError Nat}
    (sound : state.Sound) (kept : state.table.get row.id = .ok row)
    (known : catalog.find? row.driver = some kind) (accepts : world.Accepts kind row)
    (listed : ∀ events page size, (world events).refusesCall (.list page size) = none)
    (ends : Ends (Operation.load world catalog size) state reply after) :
    (∃ count, reply = .ok count) ∧ after.Sound ∧ after.Serves row := by
  have present := (Table.mem_of_get_eq_ok kept).1
  have invariant : LoadInvariant world catalog state.table fun passed _ middle =>
      middle.Sound ∧ (row ∈ passed → middle.Serves row) := by
    constructor
    · rintro passed count middle page size _ ⟨sound,serves⟩
      exact ⟨sound.note _,fun member =>
        (serves member).same_drivers rfl rfl (fun _ _ => rfl) sound⟩
    · rintro passed count storage middle well after same member ⟨sound,serves⟩ loaded
      rw [← same] at member present
      refine ⟨loaded.sound sound member,fun last => ?_⟩
      by_cases here : storage = row
      · subst here
        obtain rfl := loaded.well_eq known accepts
        exact loaded.serves_self sound member
      · have before : row ∈ passed :=
          (List.mem_append.mp last).resolve_right fun single =>
            here (List.mem_singleton.mp single).symm
        exact loaded.serves_other sound
          (fun path => here (sound.table.eq_of_path member present path)) (serves before)
  obtain ⟨passed,count,middle,_,⟨soundMiddle,serves⟩,⟨rfl,rfl,rfl⟩ | ⟨_,_,_,_,_,refused,_⟩⟩ :=
    invariant.load sound.table.length_lt ⟨sound,by simp⟩ ends
  · refine ⟨⟨count,rfl⟩,soundMiddle.note _,?_⟩
    exact (serves (Table.mem_shown.mpr present)).same_drivers rfl rfl (fun _ _ => rfl) soundMiddle
  · rw [listed] at refused
    cases refused

end MountHub
