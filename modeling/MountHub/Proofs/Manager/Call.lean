import MountHub.Manager.State
import MountHub.Proofs.Driver.Binding
import Mathlib.Order.Lattice
import Mathlib.Tactic.Simps.Basic

/-! What the single calls of a manager do to its state, and how the end of an
operation comes about from the ends of its steps. -/
namespace MountHub

variable {α β : Type} {world : World} {state after : State}

/-- What a call on the table comes to in a world: its answer, unless it is refused. -/
def World.answers (world : World) (events : List Event) (call : TableCall)
    (answer : Except TableError α) : Except TableError α :=
  match (world events).refusesCall call with
  | some error => .error error
  | none => answer

theorem World.answers_map (events : List Event) (call : TableCall) (f : α → β)
    (answer : Except TableError α) :
    world.answers events call (answer.map f) = (world.answers events call answer).map f := by
  unfold answers
  split <;> rfl

theorem World.ok_of_answers {events : List Event} {call : TableCall}
    {answer : Except TableError α} {value : α}
    (answered : world.answers events call answer = .ok value) : answer = .ok value := by
  unfold answers at answered
  split at answered
  · cases answered
  · exact answered

theorem World.willing_of_answers_ok {events : List Event} {call : TableCall}
    {answer : Except TableError α} {value : α}
    (answered : world.answers events call answer = .ok value) :
    (world events).refusesCall call = none := by
  unfold answers at answered
  split at answered
  · cases answered
  · assumption

theorem World.refuses_of_answers_ok {events : List Event} {call : TableCall} {value : α}
    {cause : TableError} (refused : world.answers events call (.ok value) = .error cause) :
    (world events).refusesCall call = some cause := by
  unfold answers at refused
  split at refused
  · rename_i error found
    rw [found,Except.error.inj refused]
  · cases refused

namespace State

/-- The state after one more event. -/
@[simps] def note (state : State) (event : Event) : State :=
  { state with events := event :: state.events }

/-- The state after lines have been written to the log, the latest first. -/
@[simps] def reported (state : State) (lines : List LogRecord) : State :=
  { state with events := lines.map .logged ++ state.events }

/-- The state after a call that leaves this table. -/
@[simps] def written (state : State) (call : TableCall) (table : Table) : State :=
  { state with table, events := .table call :: state.events }

/-- The state with one more driver. -/
@[simps] def made (state : State) (kind : DriverKind) : State :=
  { state with drivers := state.drivers ++ [Driver.fresh kind] }

/-- The state after a driver has been bound to a storage. -/
@[simps] def bound (state : State) (number : Nat) (storage : Storage) (driver : Driver) : State :=
  { state with
    drivers := state.drivers.set number driver
    events := (Call.boundRecord? driver).toList.map .logged ++
      .init number driver.kind storage (.ok ()) :: state.events }

/-- The state after a driver has let go. -/
@[simps] def released (state : State) (number : Nat) (driver : Driver) : State :=
  { state with
    drivers := state.drivers.set number driver
    events := .shutdown number driver.kind driver.storage (.ok ()) :: state.events }

/-- The state with a driver mounted at a path. -/
@[simps] def entered (state : State) (path : String) (number : Nat) : State :=
  { state with registry := state.registry.store path number }

/-- The state after a driver has been bound to a storage and mounted at its path, and the log has
the lines that tell of it. -/
def seated (state : State) (number : Nat) (storage : Storage) (driver : Driver)
    (lines : List LogRecord) : State :=
  ((state.bound number storage driver).entered storage.mountPath number).reported lines

/-- The state with nothing mounted at a path. -/
@[simps] def vacated (state : State) (path : String) : State :=
  { state with registry := state.registry.delete path }

theorem driver_congr {first second : State} (same : first.drivers = second.drivers) (number : Nat) :
    first.driver number = second.driver number := by
  rw [driver,driver,same]

theorem driver_set {first second : State} {number : Nat} {driver : Driver}
    (changed : second.drivers = first.drivers.set number driver)
    (made : number < first.drivers.length) (other : Nat) :
    second.driver other = if other = number then driver else first.driver other := by
  unfold State.driver
  rw [changed,List.getElem?_set]
  by_cases same : number = other
  · subst same
    simp [made]
  · simp [same,Ne.symm same]

theorem driver_append {first second : State} {driver : Driver}
    (changed : second.drivers = first.drivers ++ [driver]) (other : Nat) :
    second.driver other =
      if other = first.drivers.length then driver else first.driver other := by
  unfold State.driver
  rw [changed]
  rcases lt_trichotomy other first.drivers.length with before | rfl | beyond
  · simp [List.getElem?_append_left before,before.ne]
  · simp
  · rw [if_neg beyond.ne',List.getElem?_eq_none (by simp; omega),List.getElem?_eq_none beyond.le]

theorem driver_made (state : State) (kind : DriverKind) (other : Nat) :
    (state.made kind).driver other =
      if other = state.drivers.length then Driver.fresh kind else state.driver other :=
  driver_append (made_drivers state kind) other

theorem driver_bound {state : State} {number : Nat} (storage : Storage) (held : Driver)
    (made : number < state.drivers.length) (other : Nat) :
    (state.bound number storage held).driver other =
      if other = number then held else state.driver other :=
  driver_set (bound_drivers state number storage held) made other

theorem driver_released {state : State} {number : Nat} (held : Driver)
    (made : number < state.drivers.length) (other : Nat) :
    (state.released number held).driver other =
      if other = number then held else state.driver other :=
  driver_set (released_drivers state number held) made other

/-- A driver lets go, if it has been made; all others stay as they are. -/
theorem driver_released_cases (state : State) (number : Nat) (held : Driver) (other : Nat) :
    other = number ∧ (state.released number held).driver other = held ∨
      (state.released number held).driver other = state.driver other := by
  by_cases made : number < state.drivers.length
  · rw [driver_released held made]
    split_ifs with here
    · exact .inl ⟨here,rfl⟩
    · exact .inr rfl
  · exact .inr (driver_congr (List.set_eq_of_length_le (by omega)) other)

section Seated

variable {state : State} {number : Nat} (storage : Storage) (held : Driver) (lines : List LogRecord)

@[simp] theorem seated_drivers :
    (state.seated number storage held lines).drivers = state.drivers.set number held := rfl

theorem driver_seated (made : number < state.drivers.length) (other : Nat) :
    (state.seated number storage held lines).driver other =
      if other = number then held else state.driver other :=
  driver_bound storage held made other

theorem load_seated (path : String) :
    (state.seated number storage held lines).registry.load path =
      if storage.mountPath = path then some number else state.registry.load path :=
  state.registry.load_store storage.mountPath path number

end Seated

theorem load_vacated (state : State) (path other : String) :
    (state.vacated path).registry.load other =
      if path = other then none else state.registry.load other :=
  state.registry.load_delete path other

end State

namespace Call

theorem run_bind (first : Call α) (next : α → Call β) (state : State) :
    (first >>= next).run state = (next (first.run state).1).run (first.run state).2 := rfl

@[simp] theorem run_get (state : State) : (get : Call State).run state = (state,state) := rfl

@[simp] theorem run_surroundings (world : World) (state : State) :
    (surroundings world).run state = (world state.events,state) := rfl

@[simp] theorem run_record (event : Event) (state : State) :
    (record event).run state = ((),state.note event) := rfl

@[simp] theorem run_mount (path : String) (number : Nat) (state : State) :
    (mount path number).run state = ((),state.entered path number) := rfl

@[simp] theorem run_unmount (path : String) (state : State) :
    (unmount path).run state = ((),state.vacated path) := rfl

@[simp] theorem run_construct (kind : DriverKind) (state : State) :
    (construct kind).run state = (state.drivers.length,state.made kind) := rfl

theorem run_onTable (world : World) (call : TableCall)
    (answer : Table → Except TableError (α × Table)) (state : State) :
    (onTable world call answer).run state =
      match world.answers state.events call (answer state.table) with
      | .error cause => (.error cause,state.note (.table call))
      | .ok (value,table) => (.ok value,state.written call table) := by
  unfold onTable World.answers
  rw [run_bind,run_surroundings,run_bind,run_record]
  cases (world state.events).refusesCall call with
  | some error => rfl
  | none =>
    simp only [run_bind,run_get,State.note_table]
    cases answer state.table <;> rfl

/-- A driver in place of itself changes nothing. -/
theorem run_putDriver_self (number : Nat) (state : State) :
    (putDriver number (state.driver number)).run state = ((),state) := by
  have same : state.drivers.set number (state.driver number) = state.drivers := by
    apply List.ext_getElem?
    intro other
    rw [List.getElem?_set]
    split_ifs with here inside
    · subst here
      simp [State.driver,inside]
    · rw [List.getElem?_eq_none (by omega)]
    · rfl
  change ((),{ state with drivers := state.drivers.set number (state.driver number) }) = _
  rw [same]

theorem run_initDriver (world : World) (number : Nat) (storage : Storage) (state : State) :
    (initDriver world number storage).run state =
      match (state.driver number).init (world state.events).toOutside storage with
      | (.error cause,_) => (.error cause,
          state.note (.init number (state.driver number).kind storage (.error cause)))
      | (.ok _,driver) => (.ok (),state.bound number storage driver) := by
  unfold initDriver
  rcases reached : (state.driver number).init (world state.events).toOutside storage with
    ⟨cause | _,driver⟩
  · obtain rfl := Driver.eq_of_init_error reached
    simp only [run_bind,run_get,run_surroundings,reached,run_putDriver_self]
    rfl
  · simp only [run_bind,run_get,run_surroundings,reached]
    cases holds : boundRecord? driver <;> simp [State.bound,holds] <;> rfl

theorem run_shutdownDriver (world : World) (number : Nat) (state : State) :
    (shutdownDriver world number).run state =
      match (state.driver number).shutdown (world state.events).toOutside with
      | (.error cause,_) => (.error cause,state.note (.shutdown number
          (state.driver number).kind (state.driver number).storage (.error cause)))
      | (.ok _,driver) => (.ok (),state.released number driver) := by
  unfold shutdownDriver
  rcases reached : (state.driver number).shutdown (world state.events).toOutside with
    ⟨cause | _,driver⟩
  · obtain rfl := Driver.eq_of_shutdown_error reached
    simp only [run_bind,run_get,run_surroundings,reached,run_putDriver_self]
    rfl
  · simp only [run_bind,run_get,run_surroundings,reached]
    rfl

theorem run_additionOf (world : World) (number : Nat) (state : State) :
    (additionOf world number).run state =
      let driver := state.driver number
      (driver.addition (world state.events).toOutside,
        state.note (.addition number driver.kind driver.storage)) := rfl

end Call

namespace Operation
open Call

/-- An operation that is begun in one state ends with a reply in another. -/
def Ends (operation : Operation α) (state : State) (reply : Except StorageError α)
    (after : State) : Prop :=
  operation.run.run state = (reply,after)

theorem ends_run (operation : Operation α) (state : State) :
    Ends operation state (operation.run.run state).1 (operation.run.run state).2 := rfl

theorem exists_ends (operation : Operation α) (state : State) :
    ∃ reply after, Ends operation state reply after :=
  ⟨_,_,ends_run operation state⟩

theorem ends_bind {first : Operation α} {next : α → Operation β} {reply : Except StorageError β} :
    Ends (first >>= next) state reply after ↔
      (∃ error, Ends first state (.error error) after ∧ reply = .error error) ∨
      ∃ value middle, Ends first state (.ok value) middle ∧ Ends (next value) middle reply after := by
  have step : (first >>= next).run.run state =
      match first.run.run state with
      | (.ok value,middle) => (next value).run.run middle
      | (.error error,middle) => (.error error,middle) := by
    rw [ExceptT.run_bind,run_bind]
    rcases first.run.run state with ⟨_ | _,_⟩ <;> rfl
  unfold Ends
  rw [step]
  rcases first.run.run state with ⟨error | value,middle⟩
  · constructor
    · rintro same
      obtain ⟨rfl,rfl⟩ := Prod.mk.inj same
      exact .inl ⟨error,rfl,rfl⟩
    · rintro (⟨cause,same,rfl⟩ | ⟨value,between,same,_⟩)
      · obtain ⟨refused,rfl⟩ := Prod.mk.inj same
        rw [Except.error.inj refused]
      · cases (Prod.mk.inj same).1
  · constructor
    · exact fun rest => .inr ⟨value,middle,rfl,rest⟩
    · rintro (⟨cause,same,_⟩ | ⟨other,between,same,rest⟩)
      · cases (Prod.mk.inj same).1
      · obtain ⟨given,rfl⟩ := Prod.mk.inj same
        rw [Except.ok.inj given]
        exact rest

theorem ends_pure {value : α} {reply : Except StorageError α} :
    Ends (pure value) state reply after ↔ reply = .ok value ∧ after = state := by
  change ((.ok value,state) : Except StorageError α × State) = (reply,after) ↔ _
  rw [Prod.mk.injEq,eq_comm,@eq_comm _ state]

theorem ends_throw {error : StorageError} {reply : Except StorageError α} :
    Ends (throw error) state reply after ↔ reply = .error error ∧ after = state := by
  change ((.error error,state) : Except StorageError α × State) = (reply,after) ↔ _
  rw [Prod.mk.injEq,eq_comm,@eq_comm _ state]

theorem ends_lift {call : Call α} {reply : Except StorageError α} :
    Ends (liftM call) state reply after ↔
      reply = .ok (call.run state).1 ∧ after = (call.run state).2 := by
  change ((.ok (call.run state).1,(call.run state).2) : Except StorageError α × State) =
    (reply,after) ↔ _
  rw [Prod.mk.injEq,eq_comm,@eq_comm _ (call.run state).2]

theorem ends_bind_lift {call : Call α} {next : α → Operation β} {reply : Except StorageError β} :
    Ends (liftM call >>= next) state reply after ↔
      Ends (next (call.run state).1) (call.run state).2 reply after := by
  rw [ends_bind]
  constructor
  · rintro (⟨error,first,_⟩ | ⟨value,middle,first,rest⟩)
    · cases (ends_lift.mp first).1
    · obtain ⟨same,rfl⟩ := ends_lift.mp first
      rw [← Except.ok.inj same]
      exact rest
  · exact fun rest => .inr ⟨_,_,ends_lift.mpr ⟨rfl,rfl⟩,rest⟩

theorem ends_bind_get {next : State → Operation β} {reply : Except StorageError β} :
    Ends (get >>= next) state reply after ↔ Ends (next state) state reply after :=
  @ends_bind_lift _ _ state after get next reply

theorem ends_bind_throw {error : StorageError} {next : α → Operation β}
    {reply : Except StorageError β} :
    Ends (throw error >>= next) state reply after ↔ reply = .error error ∧ after = state := by
  rw [ends_bind]
  constructor
  · rintro (⟨cause,first,rfl⟩ | ⟨value,middle,first,_⟩)
    · obtain ⟨same,rfl⟩ := ends_throw.mp first
      rw [Except.error.inj same]
      exact ⟨rfl,rfl⟩
    · cases (ends_throw.mp first).1
  · rintro ⟨rfl,rfl⟩
    exact .inl ⟨error,ends_throw.mpr ⟨rfl,rfl⟩,rfl⟩

section Steps

variable {step : String} {reply : Except StorageError β}

/-- A step on the table ends the operation where it is refused, and else goes on with
what the table gives. -/
theorem ends_bind_onTable {γ : Type} {call : TableCall}
    {answer : Table → Except TableError (α × Table)} {asked : Except TableError γ}
    {give : γ → α × Table} {next : α → Operation β} (same : answer state.table = asked.map give)
    (ends : Ends (table step (onTable world call answer) >>= next) state reply after) :
    (∃ cause, world.answers state.events call asked = .error cause ∧
      reply = .error (.ofTable step cause) ∧ after = state.note (.table call)) ∨
    ∃ value, world.answers state.events call asked = .ok value ∧
      Ends (next (give value).1) (state.written call (give value).2) reply after := by
  rw [table,bind_assoc,ends_bind_lift,run_onTable,same,World.answers_map] at ends
  cases answered : world.answers state.events call asked with
  | error cause =>
    rw [answered] at ends
    obtain ⟨rfl,rfl⟩ := ends_bind_throw.mp ends
    exact .inl ⟨cause,rfl,rfl,rfl⟩
  | ok value =>
    rw [answered] at ends
    simp only [Except.map,pure_bind] at ends
    exact .inr ⟨value,rfl,ends⟩

theorem ends_bind_getRow {id : StorageId} {next : Storage → Operation β}
    (ends : Ends (table step (getRow world id) >>= next) state reply after) :
    (∃ cause, world.answers state.events (.get id) (state.table.get id) = .error cause ∧
      reply = .error (.ofTable step cause) ∧ after = state.note (.table (.get id))) ∨
    ∃ storage, world.answers state.events (.get id) (state.table.get id) = .ok storage ∧
      Ends (next storage) (state.note (.table (.get id))) reply after :=
  ends_bind_onTable rfl ends

theorem ends_bind_listRows {page size : UInt64} {next : List Storage × Nat → Operation β}
    (ends : Ends (table step (listRows world page size) >>= next) state reply after) :
    (∃ cause, world.answers state.events (.list page size) (state.table.list page size) =
      .error cause ∧
      reply = .error (.ofTable step cause) ∧ after = state.note (.table (.list page size))) ∨
    ∃ listed, world.answers state.events (.list page size) (state.table.list page size) =
      .ok listed ∧
      Ends (next listed) (state.note (.table (.list page size))) reply after :=
  ends_bind_onTable rfl ends

theorem ends_bind_createRow {storage : Storage} {next : StorageId → Operation β}
    (ends : Ends (table step (createRow world storage) >>= next) state reply after) :
    (∃ cause, world.answers state.events (.create storage) (state.table.create storage) =
      .error cause ∧
      reply = .error (.ofTable step cause) ∧ after = state.note (.table (.create storage))) ∨
    ∃ given, world.answers state.events (.create storage) (state.table.create storage) =
      .ok given ∧
      Ends (next given.1) (state.written (.create storage) given.2) reply after :=
  have same : state.table.create storage = (state.table.create storage).map id :=
    (congrFun Except.map_id _).symm
  ends_bind_onTable same ends

theorem ends_bind_updateRow {storage : Storage} {next : Unit → Operation β}
    (ends : Ends (table step (updateRow world storage) >>= next) state reply after) :
    (∃ cause, world.answers state.events (.update storage) (state.table.update storage) =
      .error cause ∧
      reply = .error (.ofTable step cause) ∧ after = state.note (.table (.update storage))) ∨
    ∃ changed, world.answers state.events (.update storage) (state.table.update storage) =
      .ok changed ∧
      Ends (next ()) (state.written (.update storage) changed) reply after :=
  ends_bind_onTable rfl ends

theorem ends_bind_deleteRow {id : StorageId} {next : Unit → Operation β}
    (ends : Ends (table step (deleteRow world id) >>= next) state reply after) :
    (∃ cause, world.answers state.events (.delete id) (state.table.delete id) = .error cause ∧
      reply = .error (.ofTable step cause) ∧ after = state.note (.table (.delete id))) ∨
    ∃ changed, world.answers state.events (.delete id) (state.table.delete id) = .ok changed ∧
      Ends (next ()) (state.written (.delete id) changed) reply after :=
  ends_bind_onTable rfl ends

/-- A driver that refuses to be bound ends the operation and stays as it was. -/
theorem ends_bind_initDriver {number : Nat} {storage : Storage} {next : Unit → Operation β}
    (ends : Ends (driver step (initDriver world number storage) >>= next) state reply after) :
    (∃ cause held, (state.driver number).init (world state.events).toOutside storage =
      (.error cause,held) ∧
      reply = .error (.driverLifecycle step cause) ∧
      after = state.note (.init number (state.driver number).kind storage (.error cause))) ∨
    ∃ held, (state.driver number).init (world state.events).toOutside storage = (.ok (),held) ∧
      Ends (next ()) (state.bound number storage held) reply after := by
  rw [driver,bind_assoc,ends_bind_lift,run_initDriver] at ends
  rcases reached : (state.driver number).init (world state.events).toOutside storage with
    ⟨cause | _,held⟩
  · rw [reached] at ends
    obtain ⟨rfl,rfl⟩ := ends_bind_throw.mp ends
    exact .inl ⟨cause,held,rfl,rfl,rfl⟩
  · rw [reached] at ends
    simp only [pure_bind] at ends
    exact .inr ⟨held,rfl,ends⟩

/-- A driver that does not let go ends the operation and stays as it was. -/
theorem ends_bind_shutdownDriver {number : Nat} {next : Unit → Operation β}
    (ends : Ends (driver step (shutdownDriver world number) >>= next) state reply after) :
    (∃ cause held, (state.driver number).shutdown (world state.events).toOutside =
      (.error cause,held) ∧
      reply = .error (.driverLifecycle step cause) ∧
      after = state.note (.shutdown number (state.driver number).kind
        (state.driver number).storage (.error cause))) ∨
    ∃ held, (state.driver number).shutdown (world state.events).toOutside = (.ok (),held) ∧
      Ends (next ()) (state.released number held) reply after := by
  rw [driver,bind_assoc,ends_bind_lift,run_shutdownDriver] at ends
  rcases reached : (state.driver number).shutdown (world state.events).toOutside with
    ⟨cause | _,held⟩
  · rw [reached] at ends
    obtain ⟨rfl,rfl⟩ := ends_bind_throw.mp ends
    exact .inl ⟨cause,held,rfl,rfl,rfl⟩
  · rw [reached] at ends
    simp only [pure_bind] at ends
    exact .inr ⟨held,rfl,ends⟩

end Steps

end Operation
end MountHub
