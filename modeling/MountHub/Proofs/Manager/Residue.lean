import MountHub.Proofs.Manager.Soundness

/-! What an update that fails leaves behind. If it is not written, nothing has changed. If it
is, the row keeps the new configuration, a mount whose path changes is gone, and the driver
still holds the old configuration. The error tells which of the two it was. -/
namespace MountHub
open Operation

variable {world : World} {storage old : Storage} {state after : State} {error : StorageError}

/-- The table refuses calls for reasons of its own; positions of pages refuse none of them. -/
def World.InRange (world : World) : Prop :=
  ∀ events call, (world events).refusesCall call ≠ some .pageOutOfRange

theorem World.InRange.cause_ne {α : Type} {events : List Event} {call : TableCall}
    {answer : Except TableError α} {cause : TableError} (inRange : world.InRange)
    (own : answer ≠ .error .pageOutOfRange)
    (refused : world.answers events call answer = .error cause) : cause ≠ .pageOutOfRange := by
  rintro rfl
  unfold answers at refused
  split at refused
  · rename_i error found
    rw [Except.error.inj refused] at found
    exact inRange events call found
  · exact own refused

theorem Table.get_ne_pageOutOfRange (table : Table) (id : StorageId) :
    table.get id ≠ .error .pageOutOfRange := by
  unfold get
  split <;> nofun

theorem Table.update_ne_pageOutOfRange (table : Table) (storage : Storage) :
    table.update storage ≠ .error .pageOutOfRange := by
  unfold update
  split_ifs <;> nofun

namespace StorageError

/-- The error is about a row: it is missing, it keeps its driver type, or the table fails. -/
inductive TellsOfRow : StorageError → Prop
  | missing {step : String} (id : StorageId)
      (reading : step = "failed get old storage" ∨ step = "failed update storage in database") :
      TellsOfRow (.ofTable step (.notFound id))
  | fixed (field : String) : TellsOfRow (.immutableField field)
  | persistence (step : String) (cause : TableError) : TellsOfRow (.persistence step cause)

/-- The error is about a mount: there is none at a path, or its driver refuses. -/
inductive TellsOfMount : StorageError → Prop
  | notMounted (path : String) : TellsOfMount (.notMounted path)
  | driverLifecycle (step : String) (cause : DriverError) :
      TellsOfMount (.driverLifecycle step cause)

theorem tellsOfRow_ofTable {step : String} {cause : TableError}
    (reading : step = "failed get old storage" ∨ step = "failed update storage in database")
    (inRange : cause ≠ .pageOutOfRange) : (ofTable step cause).TellsOfRow := by
  cases cause with
  | notFound id => exact .missing id reading
  | pageOutOfRange => exact absurd rfl inRange
  | pathTaken | database | io => exact .persistence _ _

/-- A missing row and a missing mount are told apart by the first words of the text. -/
theorem not_tellsOfMount_ofTable {step : String} (cause : TableError)
    (reading : step = "failed get old storage" ∨ step = "failed update storage in database") :
    ¬ (ofTable step cause).TellsOfMount := by
  have notFound (id : StorageId) (path : String) :
      step ++ ": storage " ++ toString id.raw ≠ "no storage mounted at virtual path " ++ path := by
    intro same
    have first := congrArg (fun text => text.toList.head?) same
    rcases reading with rfl | rfl <;> simp at first
  intro tells
  generalize told : ofTable step cause = error at tells
  cases tells with
  | notMounted path =>
    cases cause with
    | notFound id => exact notFound id path (StorageError.notFound.inj told)
    | pageOutOfRange | pathTaken | database | io => cases told
  | driverLifecycle => cases cause <;> cases told

end StorageError

/-- Nothing but what the world has been asked sets the second state apart from the first. -/
structure State.Intact (state after : State) : Prop where
  table : after.table = state.table
  registry : after.registry = state.registry
  drivers : after.drivers = state.drivers
  cursors : after.cursors = state.cursors

/-- A new configuration is not written: the row is not read, or it has another driver type, or
the table refuses the change. -/
inductive Unwritten (world : World) (storage : Storage) (state : State) : Prop
  | unread {cause : TableError}
      (refused : world.answers state.events (.get storage.id) (state.table.get storage.id) =
        .error cause)
  | otherDriver {old : Storage}
      (read : world.answers state.events (.get storage.id) (state.table.get storage.id) = .ok old)
      (differs : old.driver ≠ storage.driver)
  | refused {cause : TableError}
      (refused : world.answers (.table (.get storage.id) :: state.events) (.update storage)
        (state.table.update storage) = .error cause)

theorem Rewriting.not_unwritten {changed : Table}
    (rewriting : Rewriting world old storage state changed) : ¬ Unwritten world storage state := by
  rintro (⟨refused⟩ | ⟨read,differs⟩ | ⟨refused⟩)
  · rw [rewriting.read] at refused
    cases refused
  · rw [rewriting.read] at read
    obtain rfl := Except.ok.inj read
    exact differs rewriting.sameDriver
  · rw [rewriting.written] at refused
    cases refused

/-- A path that another row has is refused. -/
theorem Unwritten.of_taken {other : Storage} (member : other ∈ state.table.storages)
    (different : other.id ≠ storage.id) (taken : other.mountPath = storage.mountPath) :
    Unwritten world storage state := by
  cases written : world.answers (.table (.get storage.id) :: state.events) (.update storage)
      (state.table.update storage) with
  | error cause => exact .refused written
  | ok changed =>
    obtain ⟨_,free,_⟩ := Table.update_eq_ok (World.ok_of_answers written)
    exact absurd taken (free other member different)

/-- What is left of an update from an old configuration to a new one that fails after the new
one has been written. -/
structure Residue (old storage : Storage) (state after : State) : Prop where
  row : after.table.get storage.id = .ok storage
  rows : after.table.storages =
    state.table.storages.map fun row => if row.id = storage.id then storage else row
  lastId : after.table.lastId = state.table.lastId
  inPlace : old.mountPath = storage.mountPath → after.registry = state.registry
  moved : old.mountPath ≠ storage.mountPath →
    after.registry.load old.mountPath = none ∧ after.registry.load storage.mountPath = none ∧
      ∀ path, path ≠ old.mountPath → after.registry.load path = state.registry.load path
  drivers : ∀ number, (after.driver number).storage = (state.driver number).storage
  cursors : after.cursors = state.cursors

namespace State

/-- Where no row is, nothing is mounted. -/
theorem Sound.load_eq_none (sound : state.Sound) {path : String}
    (free : ∀ row ∈ state.table.storages, row.mountPath ≠ path) :
    state.registry.load path = none := by
  cases found : state.registry.load path with
  | none => rfl
  | some number =>
    obtain ⟨row,member,_,here,_⟩ := (sound.backed found).row
    exact absurd here (free row member)

theorem storage_driver_released {number : Nat} {held : Driver}
    (same : held.storage = (state.driver number).storage) (other : Nat) :
    ((state.released number held).driver other).storage = (state.driver other).storage := by
  rcases driver_released_cases state number held other with ⟨rfl,held⟩ | stays
  · rw [held,same]
  · rw [stays]

end State

namespace Rewriting

variable {changed : Table}

/-- The path that a mount moves to is free: no other row has it, and so nothing is mounted
there. -/
theorem load_eq_none (rewriting : Rewriting world old storage state changed) (sound : state.Sound)
    (moved : old.mountPath ≠ storage.mountPath) :
    state.registry.load storage.mountPath = none := by
  obtain ⟨present,id⟩ := rewriting.present
  obtain ⟨_,free,_⟩ := Table.update_eq_ok rewriting.updated
  apply sound.load_eq_none
  intro row member
  by_cases same : row.id = storage.id
  · rw [sound.table.eq_of_id member present (same.trans id.symm)]
    exact moved
  · exact free row member same

theorem residue (rewriting : Rewriting world old storage state changed) (sound : state.Sound)
    (table : after.table = changed)
    (registry : after.registry = (state.rewritten old storage changed).registry)
    (drivers : ∀ number, (after.driver number).storage = (state.driver number).storage)
    (cursors : after.cursors = state.cursors) : Residue old storage state after := by
  have updated := rewriting.updated
  obtain ⟨_,_,rows,last⟩ := Table.update_eq_ok updated
  have load (path : String) : after.registry.load path =
      if old.mountPath = path ∧ old.mountPath ≠ storage.mountPath then none
      else state.registry.load path := by
    rw [registry,State.rewritten,State.load_left]
    rfl
  refine ⟨?_,table ▸ rows,table ▸ last,?_,?_,drivers,cursors⟩
  · rw [table]
    exact (sound.table.update updated).get_of_mem ((Table.mem_update updated).mpr (.inl rfl))
  · intro stays
    rw [registry,State.rewritten,State.left,if_pos stays]
    rfl
  · intro moved
    refine ⟨?_,?_,fun path elsewhere => ?_⟩
    · rw [load,if_pos ⟨rfl,moved⟩]
    · rw [load,if_neg fun here => moved here.1]
      exact rewriting.load_eq_none sound moved
    · rw [load,if_neg fun here => elsewhere here.1.symm]

end Rewriting

/-- An update fails before its row is written, or after. -/
theorem Updated.of_error (updated : Updated world storage state (.error error) after)
    (sound : state.Sound) :
    (Unwritten world storage state ∧ state.Intact after ∧ ¬ error.TellsOfMount ∧
      (world.InRange → error.TellsOfRow)) ∨
    ∃ old changed, Rewriting world old storage state changed ∧ error.TellsOfMount ∧
      Residue old storage state after := by
  cases updated with
  | unread refused =>
    refine .inl ⟨.unread refused,⟨rfl,rfl,rfl,rfl⟩,
      StorageError.not_tellsOfMount_ofTable _ (.inl rfl),fun inRange => ?_⟩
    exact StorageError.tellsOfRow_ofTable (.inl rfl)
      (inRange.cause_ne (Table.get_ne_pageOutOfRange _ _) refused)
  | otherDriver read differs =>
    exact .inl ⟨.otherDriver read differs,⟨rfl,rfl,rfl,rfl⟩,nofun,fun _ => .fixed _⟩
  | unwritten read same refused =>
    refine .inl ⟨.refused refused,⟨rfl,rfl,rfl,rfl⟩,
      StorageError.not_tellsOfMount_ofTable _ (.inr rfl),fun inRange => ?_⟩
    exact StorageError.tellsOfRow_ofTable (.inr rfl)
      (inRange.cause_ne (Table.update_ne_pageOutOfRange _ _) refused)
  | unmounted rewriting absent =>
    exact .inr ⟨_,_,rewriting,.notMounted _,rewriting.residue sound (State.rewritten_table _) rfl
      (fun number => by rw [State.driver_rewritten]) (State.left_cursors _ _)⟩
  | @unreleased old changed _ _ _ rewriting found refused =>
    refine .inr ⟨_,_,rewriting,.driverLifecycle _ _,rewriting.residue sound
      (State.rewritten_table _) rfl (fun number => ?_) (State.left_cursors _ _)⟩
    exact congrArg Driver.storage (State.driver_rewritten changed number)
  | @released old changed number held _ _ rewriting found done mounting =>
    cases mounting with
    | unbound refused =>
      refine .inr ⟨_,_,rewriting,.driverLifecycle _ _,rewriting.residue sound
        (State.rewritten_table _) rfl (fun other => ?_) (State.left_cursors _ _)⟩
      -- The driver has let go, and keeps the storage it was bound to.
      have kept := Driver.storage_of_shutdown done
      rw [← @State.driver_rewritten storage old state changed number] at kept
      exact (State.storage_driver_released kept other).trans
        (congrArg Driver.storage (State.driver_rewritten changed other))

namespace State

/-- Whatever has failed before: an update that fails without having written its row changes
nothing. One that fails afterwards leaves the row with the new configuration, in its one
spelling and with the new time, and all other rows; it leaves the registry as it was if the
path stays, and else without the old path and the new one; no driver takes another storage.
The error is about the row in the first case, and about the mount in the second. A path that
another row has is never written. -/
theorem update_residue (name : String) (steps : List Step) {given : Storage}
    (failed : Ends (update world given) ((start { name }).run steps) (.error error) after) :
    let state := (start { name }).run steps
    let storage := world.row state given
    (Unwritten world storage state ↔ ¬ error.TellsOfMount) ∧
    (Unwritten world storage state → state.Intact after ∧ (world.InRange → error.TellsOfRow)) ∧
    (error.TellsOfMount → ∃ old, state.table.get given.id = .ok old ∧
      Residue old storage state after) ∧
    ∀ other ∈ state.table.storages, other.id ≠ given.id → other.mountPath = storage.mountPath →
      Unwritten world storage state := by
  intro state storage
  have taken : ∀ other ∈ state.table.storages, other.id ≠ given.id →
      other.mountPath = storage.mountPath → Unwritten world storage state :=
    fun _ member different same => Unwritten.of_taken member different same
  rcases (updated_of_ends failed).of_error (sound_run name steps) with
    ⟨unwritten,intact,notMount,row⟩ | ⟨old,changed,rewriting,mount,residue⟩
  · exact ⟨iff_of_true unwritten notMount,fun _ => ⟨intact,row⟩,fun tells => absurd tells notMount,
      taken⟩
  · have written := rewriting.not_unwritten
    have read : state.table.get given.id = .ok old := World.ok_of_answers rewriting.read
    exact ⟨iff_of_false written (not_not.mpr mount),fun unwritten => absurd unwritten written,
      fun _ => ⟨old,read,residue⟩,taken⟩

/-- A mount that is to move while the context is cancelled is nowhere afterwards, and its row
says where it was to be. -/
theorem update_residue_moved :
    let given : Storage := { id := ⟨1⟩, mountPath := "e", driver := "memory" }
    let state := (start { name := "storages" }).run
      [⟨.willing .live,.builtin,.create { mountPath := "/d/", driver := "memory" }⟩]
    let ended := (update (.willing (.root true)) given).run.run state
    ended.1 = .error (.driverLifecycle "failed init storage" .cancelled) ∧
      state.registry.load "/d" = some 0 ∧ ended.2.registry.load "/d" = none ∧
      ended.2.registry.load "/e" = none ∧
      ended.2.table.get ⟨1⟩ = .ok { given with mountPath := "/e", modified := 7 } := by
  intro given state ended
  have failed : ended.1 = .error (.driverLifecycle "failed init storage" .cancelled) := by
    decide +kernel
  have before : state.table.get ⟨1⟩ = .ok { given with mountPath := "/d", modified := 7 } := by
    decide +kernel
  have row : (World.willing (.root true)).row state given =
      { given with mountPath := "/e", modified := 7 } := by decide +kernel
  have mounted : state.registry.load "/d" = some 0 := by decide +kernel
  have ends : Ends (update (.willing (.root true)) given) state
      (.error (.driverLifecycle "failed init storage" .cancelled)) ended.2 :=
    Prod.ext failed rfl
  have left := (update_residue "storages" _ ends).2.2.1
  change _ → ∃ old, state.table.get ⟨1⟩ = .ok old ∧
    Residue old ((World.willing (.root true)).row state given) state ended.2 at left
  rw [row] at left
  clear_value state ended
  obtain ⟨old,read,residue⟩ := left (.driverLifecycle _ _)
  obtain rfl := Except.ok.inj (before.symm.trans read)
  obtain ⟨gone,free,_⟩ := residue.moved (by decide)
  exact ⟨failed,mounted,gone,free,residue.row⟩

end State
end MountHub
