import MountHub.Proofs.Manager.Stranded

/-! What requests do to drivers, where the table answers and drivers let go. A request comes to
turns, and a turn asks no driver for anything, or only one: a new driver is bound and mounted,
or is left alone; a mounted one lets go, and is bound again if it is to be. What survives every
turn survives every run. -/
namespace MountHub
open Operation Call

variable {world : World} {catalog : Catalog} {storage old : Storage} {state middle after : State}
  {number : Nat} {held : Driver} {news : List Event} {lines : List LogRecord}

namespace State

/-- What a driver has been asked, the latest first. -/
def course (state : State) (number : Nat) : List Event :=
  state.events.filter fun event => event.driver? = some number

@[simp] theorem course_note (event : Event) (other : Nat) :
    (state.note event).course other =
      if event.driver? = some other then event :: state.course other else state.course other := by
  rw [course,note_events,List.filter_cons]
  simp only [decide_eq_true_eq]
  rfl

@[simp] theorem course_reported (lines : List LogRecord) (other : Nat) :
    (state.reported lines).course other = state.course other := by
  have silent : (lines.map Event.logged).filter (fun event => event.driver? = some other) = [] := by
    rw [List.filter_eq_nil_iff]
    intro event member
    obtain ⟨line,_,rfl⟩ := List.mem_map.mp member
    simp [Event.driver?]
  rw [course,reported_events,List.filter_append,silent]
  rfl

@[simp] theorem course_released (other : Nat) :
    (state.released number held).course other =
      if other = number then
        .shutdown number held.kind held.storage (.ok ()) :: state.course other
      else state.course other := by
  change (state.note (.shutdown number held.kind held.storage (.ok ()))).course other = _
  rw [course_note]
  simp only [Event.driver?,Option.some.injEq,eq_comm]

@[simp] theorem course_seated (other : Nat) :
    (state.seated number storage held lines).course other =
      if other = number then .init number held.kind storage (.ok ()) :: state.course other
      else state.course other := by
  change (((state.note (.init number held.kind storage (.ok ()))).reported
    (boundRecord? held).toList).reported lines).course other = _
  rw [course_reported,course_reported,course_note]
  simp only [Event.driver?,Option.some.injEq,eq_comm]

/-- No driver is asked for anything. -/
structure Idles (state after : State) : Prop where
  drivers : after.drivers = state.drivers
  courses : ∀ number, after.course number = state.course number

theorem Idles.trans (first : state.Idles middle) (second : middle.Idles after) :
    state.Idles after :=
  ⟨second.drivers.trans first.drivers,
    fun number => (second.courses number).trans (first.courses number)⟩

theorem idles_of_events_eq (drivers : after.drivers = state.drivers)
    (events : after.events = state.events) : state.Idles after :=
  ⟨drivers,fun number => by rw [course,course,events]⟩

theorem idles_note {event : Event} (silent : event.driver? = none) :
    state.Idles (state.note event) :=
  ⟨rfl,fun number => by rw [course_note,silent,if_neg (by simp)]⟩

theorem idles_written (call : TableCall) (table : Table) :
    state.Idles (state.written call table) := by
  have noted : state.Idles (state.note (.table call)) := idles_note rfl
  exact noted.trans (idles_of_events_eq rfl rfl)

theorem idles_rewritten (changed : Table) : state.Idles (state.rewritten old storage changed) := by
  have noted : state.Idles (state.note (.table (.get storage.id))) := idles_note rfl
  exact (noted.trans (idles_written _ changed)).trans
    (idles_of_events_eq (left_drivers _ _) (left_events _ _))

/-- One driver is asked for something, and has become what is held. -/
structure Touches (state after : State) (number : Nat) (held : Driver) (news : List Event) :
    Prop where
  driver : ∀ other, after.driver other = if other = number then held else state.driver other
  course : ∀ other, after.course other =
    if other = number then news ++ state.course other else state.course other
  made : number < after.drivers.length
  grown : state.drivers.length ≤ after.drivers.length

namespace Touches

theorem idles (touches : state.Touches middle number held news) (idles : middle.Idles after) :
    state.Touches after number held news where
  driver other := (driver_congr idles.drivers other).trans (touches.driver other)
  course other := (idles.courses other).trans (touches.course other)
  made := idles.drivers ▸ touches.made
  grown := idles.drivers ▸ touches.grown

theorem trans {again : Driver} {more : List Event}
    (first : state.Touches middle number held news)
    (second : middle.Touches after number again more) :
    state.Touches after number again (more ++ news) where
  driver other := by
    rw [second.driver,first.driver]
    split_ifs <;> rfl
  course other := by
    rw [second.course,first.course]
    split_ifs
    · rw [List.append_assoc]
    · rfl
  made := second.made
  grown := first.grown.trans second.grown

end Touches

theorem Idles.touches (idles : state.Idles middle)
    (touches : middle.Touches after number held news) : state.Touches after number held news where
  driver other := by rw [touches.driver,driver_congr idles.drivers]
  course other := by rw [touches.course,idles.courses]
  made := touches.made
  grown := idles.drivers ▸ touches.grown

theorem touches_made (kind : DriverKind) :
    state.Touches (state.made kind) state.drivers.length (Driver.fresh kind) [] where
  driver := driver_made state kind
  course other := by rw [List.nil_append,ite_self]; rfl
  made := by simp
  grown := by simp

theorem touches_seated (made : number < state.drivers.length) :
    state.Touches (state.seated number storage held lines) number held
      [.init number held.kind storage (.ok ())] where
  driver := driver_seated storage held lines made
  course := course_seated
  made := by simpa using made
  grown := by simp

theorem touches_released (held : Driver) (made : number < state.drivers.length) :
    state.Touches (state.released number held) number held
      [.shutdown number held.kind held.storage (.ok ())] where
  driver := driver_released held made
  course := course_released
  made := by simpa using made
  grown := by simp

theorem touches_refused (storage : Storage) (cause : DriverError)
    (made : number < state.drivers.length) (holds : state.driver number = held) :
    state.Touches (state.note (.init number held.kind storage (.error cause))) number held
      [.init number held.kind storage (.error cause)] where
  driver other := by
    split_ifs with here
    · rw [here]
      exact holds
    · rfl
  course other := by
    rw [course_note]
    simp only [Event.driver?,Option.some.injEq,eq_comm (a := number)]
    rfl
  made := made
  grown := le_rfl

end State

/-- A mounted driver lets go and refuses to be bound again. It stays mounted, if its path was to
stay. -/
structure Unbound (state after : State) (path : String) (number : Nat) (storage : Storage)
    (cause : DriverError) (held : Driver) : Prop where
  found : state.registry.load path = some number
  uninitialized : held.isInitialized = false
  same : held.storage = (state.driver number).storage
  touches : state.Touches after number held
    [.init number held.kind storage (.error cause),.shutdown number held.kind held.storage (.ok ())]
  mounts : ∀ other, after.registry.load other =
    if path = other ∧ path ≠ storage.mountPath then none else state.registry.load other

/-- What can happen to drivers and mounts at a time. -/
inductive Turn (state after : State) : Prop
  | quiet (idles : state.Idles after)
      (mounts : ∀ path, after.registry.load path = state.registry.load path)
  /-- A driver is made, and may refuse to be bound. -/
  | made {kind : DriverKind} {news : List Event}
      (refused : news = [] ∨ ∃ storage cause,
        news = [.init state.drivers.length kind storage (.error cause)])
      (touches : state.Touches after state.drivers.length (Driver.fresh kind) news)
      (mounts : ∀ path, after.registry.load path = state.registry.load path)
  /-- A driver is made and mounted, in place of what was mounted there for the same row. -/
  | mounted {storage : Storage} {held : Driver} (initialized : held.isInitialized = true)
      (holds : held.storage = storage)
      (touches : state.Touches after state.drivers.length held
        [.init state.drivers.length held.kind storage (.ok ())])
      (mounts : ∀ path, after.registry.load path =
        if storage.mountPath = path then some state.drivers.length else state.registry.load path)
      (row : ∀ {path number}, state.registry.load path = some number →
        ((state.driver number).storage.id = storage.id ↔ path = storage.mountPath))
  /-- A mounted driver lets go and is unmounted. -/
  | released {path : String} {number : Nat} {held : Driver}
      (found : state.registry.load path = some number)
      (uninitialized : held.isInitialized = false)
      (touches : state.Touches after number held
        [.shutdown number held.kind held.storage (.ok ())])
      (mounts : ∀ other, after.registry.load other =
        if path = other then none else state.registry.load other)
  | unbound {path : String} {number : Nat} {storage : Storage} {cause : DriverError} {held : Driver}
      (unbound : Unbound state after path number storage cause held)
  /-- A mounted driver lets go, is bound again to its row, and is mounted at the path that the
  row has now. -/
  | rebound {path : String} {number : Nat} {storage before : Storage} {held : Driver}
      {kind : DriverKind}
      (found : state.registry.load path = some number)
      (initialized : held.isInitialized = true) (holds : held.storage = storage)
      (id : (state.driver number).storage.id = storage.id)
      (free : ∀ {other}, state.registry.load storage.mountPath = some other → other = number)
      (touches : state.Touches after number held
        [.init number held.kind storage (.ok ()),.shutdown number kind before (.ok ())])
      (mounts : ∀ other, after.registry.load other =
        if storage.mountPath = other then some number
        else if path = other then none else state.registry.load other)

theorem Turn.note (turn : Turn state after) {event : Event} (silent : event.driver? = none) :
    Turn state (after.note event) := by
  have idles : after.Idles (after.note event) := State.idles_note silent
  cases turn with
  | quiet before mounts => exact .quiet (before.trans idles) mounts
  | made refused touches mounts => exact .made refused (touches.idles idles) mounts
  | mounted initialized holds touches mounts row =>
    exact .mounted initialized holds (touches.idles idles) mounts row
  | released found uninitialized touches mounts =>
    exact .released found uninitialized (touches.idles idles) mounts
  | unbound unbound =>
    exact .unbound ⟨unbound.found,unbound.uninitialized,unbound.same,unbound.touches.idles idles,
      unbound.mounts⟩
  | rebound found initialized holds id free touches mounts =>
    exact .rebound found initialized holds id free (touches.idles idles) mounts

/-- A new driver comes to be mounted, or not. -/
theorem Mounting.turn {step : String} {reply : Except StorageError Unit} {kind : DriverKind}
    (mounting : Mounting world step lines state.drivers.length storage middle reply after)
    (idles : (state.made kind).Idles middle) (registry : middle.registry = state.registry)
    (row : ∀ {path number}, state.registry.load path = some number →
      ((state.driver number).storage.id = storage.id ↔ path = storage.mountPath)) :
    Turn state after := by
  have touches := (State.touches_made kind).idles idles
  have fresh : middle.driver state.drivers.length = Driver.fresh kind := by
    rw [touches.driver,if_pos rfl]
  cases mounting with
  | @unbound cause _ refused =>
    rw [fresh,Driver.kind_fresh]
    have refusal := State.touches_refused storage cause touches.made fresh
    rw [Driver.kind_fresh] at refusal
    exact .made (.inr ⟨storage,cause,rfl⟩) (touches.trans refusal)
      fun path => congrArg (·.load path) registry
  | @done held bound =>
    refine .mounted (Driver.isInitialized_of_init_ok bound) (Driver.storage_of_init_ok bound)
      (touches.trans (State.touches_seated touches.made)) ?_ row
    intro path
    rw [State.load_seated,registry]

namespace State.Sound

/-- A driver is mounted at one path. -/
theorem path_eq (sound : state.Sound) {first second : String}
    (one : state.registry.load first = some number)
    (two : state.registry.load second = some number) : first = second :=
  (sound.backed one).place.symm.trans (sound.backed two).place

/-- The rows of the drivers that are mounted have their ids and paths. -/
theorem id_eq_iff (sound : state.Sound) {path : String} (member : storage ∈ state.table.storages)
    (found : state.registry.load path = some number) :
    (state.driver number).storage.id = storage.id ↔ path = storage.mountPath := by
  obtain ⟨row,inside,id,here,_⟩ := (sound.backed found).row
  rw [← id,← here]
  exact ⟨fun same => by rw [sound.table.eq_of_id inside member same],
    fun same => by rw [sound.table.eq_of_path inside member same]⟩

/-- Drivers that are mounted for one row are mounted at one path. -/
theorem path_eq_of_id (sound : state.Sound) {first second : String} {one two : Nat}
    (here : state.registry.load first = some one) (there : state.registry.load second = some two)
    (same : (state.driver one).storage.id = (state.driver two).storage.id) : first = second := by
  obtain ⟨row,member,id,path,_⟩ := (sound.backed there).row
  rw [← path]
  exact (sound.id_eq_iff member here).mp (same.trans id.symm)

end State.Sound

theorem Created.turn {reply : Except StorageError StorageId}
    (created : Created world catalog storage state reply after) (sound : state.Sound) :
    Turn state after := by
  cases created with
  | unsupported => exact .quiet ⟨rfl,fun _ => rfl⟩ fun _ => rfl
  | unwritten =>
    exact .made (.inl rfl) ((State.touches_made _).idles (State.idles_note rfl)) fun _ => rfl
  | @written kind id changed _ _ known created mounting =>
    refine mounting.turn (State.idles_written _ _) rfl fun {path number} found => ?_
    -- The id is new and the path was free, so nothing that is mounted has either.
    obtain ⟨next,_,free,_⟩ := Table.create_eq_ok (World.ok_of_answers created)
    obtain ⟨row,inside,same,here,_⟩ := (sound.backed found).row
    have handedOut := (sound.table.handedOut row inside).2
    refine ⟨fun taken => ?_,fun taken => absurd (here.trans taken) (free row inside)⟩
    rw [← same] at taken
    rw [taken,next] at handedOut
    omega

theorem State.Sound.unbound (sound : state.Sound) {changed : Table} {cause : DriverError}
    (found : state.registry.load old.mountPath = some number)
    (done : (state.driver number).shutdown
      (world (state.rewritten old storage changed).events).toOutside = (.ok (),held)) :
    Unbound state (((state.rewritten old storage changed).released number held).note
      (.init number held.kind storage (.error cause))) old.mountPath number storage cause held := by
  have idles : state.Idles (state.rewritten old storage changed) := State.idles_rewritten changed
  have made := (sound.backed found).made
  have touches := idles.touches (State.touches_released held (idles.drivers ▸ made))
  have refusal := State.touches_refused storage cause touches.made (by rw [touches.driver,if_pos rfl])
  refine ⟨found,Driver.isInitialized_of_shutdown_ok done,Driver.storage_of_shutdown done,
    touches.trans refusal,fun other => ?_⟩
  rw [State.note_registry,State.released_registry,State.rewritten,State.load_left]
  rfl

namespace State

/-- The state after a row has been rewritten, and its driver has let go and been bound again. -/
def rebound (state : State) (old storage : Storage) (number : Nat) (changed : Table)
    (held again : Driver) : State :=
  ((state.rewritten old storage changed).released number held).seated number storage again
    [.updated old.mountPath]

theorem touches_rebound (made : number < state.drivers.length) (changed : Table)
    (held again : Driver) :
    state.Touches (state.rebound old storage number changed held again) number again
      [.init number again.kind storage (.ok ()),.shutdown number held.kind held.storage (.ok ())] := by
  have idles : state.Idles (state.rewritten old storage changed) := idles_rewritten changed
  have touches := idles.touches (touches_released held (idles.drivers ▸ made))
  exact touches.trans (touches_seated touches.made)

theorem driver_rebound (made : number < state.drivers.length) (changed : Table)
    (held again : Driver) :
    (state.rebound old storage number changed held again).driver number = again := by
  rw [(touches_rebound made changed held again).driver,if_pos rfl]

theorem load_rebound (changed : Table) (held again : Driver) (path : String) :
    (state.rebound old storage number changed held again).registry.load path =
      if storage.mountPath = path then some number
      else if old.mountPath = path then none else state.registry.load path := by
  rw [rebound,load_seated,released_registry,rewritten,load_left]
  split_ifs with here gone there there
  · rfl
  · rfl
  · exact absurd gone.1 there
  · exact absurd (fun same => here (same.symm.trans there)) fun moved => gone ⟨there,moved⟩
  · rfl

end State

/-- An update that succeeds has rewritten a row whose driver was mounted, and that driver has let
go and been bound to the row. -/
theorem Updated.of_ok (updated : Updated world storage state (.ok ()) after) (sound : state.Sound) :
    ∃ old number changed held again earlier later, Rewriting world old storage state changed ∧
      state.registry.load old.mountPath = some number ∧
      (state.driver number).shutdown (world earlier).toOutside = (.ok (),held) ∧
      held.init (world later).toOutside storage = (.ok (),again) ∧
      after = state.rebound old storage number changed held again := by
  generalize reached : (Except.ok () : Except StorageError Unit) = reply at updated
  cases updated with
  | unread | otherDriver | unwritten | unmounted | unreleased => cases reached
  | released rewriting found done mounting =>
    cases mounting with
    | unbound => cases reached
    | done bound =>
      rw [sound.driver_released found] at bound
      exact ⟨_,_,_,_,_,_,_,rewriting,found,done,bound,rfl⟩

theorem Updated.turn {reply : Except StorageError Unit}
    (updated : Updated world storage state reply after) (sound : state.Sound)
    (works : world.Works) : Turn state after := by
  cases updated with
  | unread => exact .quiet (State.idles_note rfl) fun _ => rfl
  | otherDriver => exact .quiet (State.idles_note rfl) fun _ => rfl
  | unwritten =>
    have noted : state.Idles (state.note (.table (.get storage.id))) := State.idles_note rfl
    exact .quiet (noted.trans (State.idles_note rfl)) fun _ => rfl
  | @unmounted old changed rewriting absent =>
    refine .quiet (State.idles_rewritten changed) fun path => ?_
    rw [State.rewritten,State.load_left]
    split_ifs with here
    · rw [← here.1]
      exact absent.symm
    · rfl
  | unreleased _ _ refused => exact absurd refused (works.shutdown_ne_error _ _ _ _)
  | @released old changed number held _ _ rewriting found done mounting =>
    have idles : state.Idles (state.rewritten old storage changed) := State.idles_rewritten changed
    have made := (sound.backed found).made
    have touches := idles.touches (State.touches_released held (idles.drivers ▸ made))
    obtain ⟨present,id⟩ := rewriting.present
    cases mounting with
    | unbound refused =>
      rw [touches.driver,if_pos rfl]
      exact .unbound (sound.unbound found done)
    | @done again bound =>
      refine .rebound found (Driver.isInitialized_of_init_ok bound)
        (Driver.storage_of_init_ok bound) ?_ (fun {other} taken => ?_)
        (State.touches_rebound made changed held again) (State.load_rebound changed held again)
      · exact ((sound.id_eq_iff present found).mpr rfl).trans id
      · by_cases stays : old.mountPath = storage.mountPath
        · rw [← stays,found] at taken
          exact (Option.some.inj taken).symm
        · rw [rewriting.load_eq_none sound stays] at taken
          cases taken

theorem Deleted.turn {id : StorageId} {reply : Except StorageError Unit}
    (deleted : Deleted world id state reply after) (sound : state.Sound) (works : world.Works) :
    Turn state after := by
  cases deleted with
  | unread => exact .quiet (State.idles_note rfl) fun _ => rfl
  | unmounted => exact .quiet (State.idles_note rfl) fun _ => rfl
  | unreleased _ _ refused => exact absurd refused (works.shutdown_ne_error _ _ _ _)
  | undeleted read _ _ refused =>
    obtain ⟨changed,deleted⟩ := Table.delete_of_get (World.ok_of_answers read)
    rw [works.answers_eq,deleted] at refused
    cases refused
  | @done old number held changed read found done =>
    have made := (sound.backed found).made
    have idles : state.Idles (state.note (.table (.get id))) := State.idles_note rfl
    refine Turn.note ?_ rfl
    refine .released found (Driver.isInitialized_of_shutdown_ok done)
      ((idles.touches (State.touches_released held made)).idles
        ((State.idles_written _ changed).trans (State.idles_of_events_eq rfl rfl))) fun other => ?_
    rw [State.load_vacated]
    rfl

theorem Saved.turn {reply : Except StorageError Unit}
    (saved : Saved world number state reply after) : Turn state after := by
  have idles : state.Idles (state.asked number) := State.idles_note rfl
  cases saved with
  | unserialized => exact .quiet idles fun _ => rfl
  | unwritten => exact .quiet (idles.trans (State.idles_note rfl)) fun _ => rfl
  | done => exact .quiet (idles.trans (State.idles_written _ _)) fun _ => rfl

theorem Loaded.turn {well : Bool} (loaded : Loaded world catalog storage state well after)
    (sound : state.Sound) (member : storage ∈ state.table.storages) : Turn state after := by
  have mounted {kind : DriverKind} {reply : Except StorageError Unit} {middle : State}
      (mounting : Mounting world "failed init storage" [] state.drivers.length storage
        (state.made kind) reply middle) : Turn state middle :=
    mounting.turn ⟨rfl,fun _ => rfl⟩ rfl (sound.id_eq_iff member)
  cases loaded with
  | unsupported => exact .quiet (State.idles_note rfl) fun _ => rfl
  | unbound _ mounting => exact (mounted mounting).note rfl
  | done _ mounting => exact mounted mounting

theorem LetGo.turn {path : String} (letGo : LetGo world path number state after)
    (sound : state.Sound) (works : world.Works) (found : state.registry.load path = some number) :
    Turn state after := by
  cases letGo with
  | unreleased refused => exact absurd refused (works.shutdown_ne_error _ _ _ _)
  | @released held done =>
    refine .released found (Driver.isInitialized_of_shutdown_ok done)
      ((State.touches_released held (sound.backed found).made).idles
        (State.idles_of_events_eq rfl rfl)) fun other => ?_
    rw [State.load_vacated]
    rfl

/-- A property of states that survives every turn. -/
def Turn.Keeps (holds : State → Prop) : Prop :=
  ∀ {state after}, state.Sound → holds state → Turn state after → holds after

section Steps

variable {holds : State → Prop} (works : world.Works) (keeps : Turn.Keeps holds)
include works keeps

theorem plainInvariant_turn (catalog : Catalog) :
    PlainInvariant world catalog fun state => state.Sound ∧ holds state where
  short both := both.1.table.length_lt
  noted silent both :=
    ⟨both.1.note _,keeps both.1 both.2 (.quiet (State.idles_note silent) fun _ => rfl)⟩
  turned _ both := ⟨both.1.same_drivers rfl rfl rfl,
    keeps both.1 both.2 (.quiet (State.idles_of_events_eq rfl rfl) fun _ => rfl)⟩
  created canonical both created :=
    ⟨created.sound both.1 canonical,keeps both.1 both.2 (created.turn both.1)⟩
  updated canonical both updated :=
    ⟨updated.sound both.1 canonical,keeps both.1 both.2 (updated.turn both.1 works)⟩
  deleted both deleted := ⟨deleted.sound both.1,keeps both.1 both.2 (deleted.turn both.1 works)⟩
  saved mounted both saved := ⟨saved.sound both.1 mounted,keeps both.1 both.2 saved.turn⟩
  loaded row both loaded := ⟨loaded.sound both.1 row,keeps both.1 both.2 (loaded.turn both.1 row)⟩

theorem shutdownAll_turn (both : state.Sound ∧ holds state) :
    ((shutdownAll world).run state).2.Sound ∧ holds ((shutdownAll world).run state).2 := by
  refine @shutdownAll_mounted world state (fun state => state.Sound ∧ holds state)
    (fun found letGo both => ?_) both
  exact ⟨letGo.sound both.1,keeps both.1 both.2 (letGo.turn both.1 works found)⟩

end Steps

/-- What survives every turn survives a run in which the table answers and drivers let go, as
long as the manager stays the same, or it survives a new manager. -/
theorem State.run_turn {holds : State → Prop} (keeps : Turn.Keeps holds) (name : String)
    {steps : List Step} (works : ∀ step ∈ steps, step.world.Works)
    (restarted : ∀ step ∈ steps, step.request = .restart →
      ∀ state, state.Sound → holds state → holds state.restart)
    (begun : holds (start { name })) :
    ((start { name }).run steps).Sound ∧ holds ((start { name }).run steps) := by
  refine @State.run_invariant _ (fun state => state.Sound ∧ holds state) steps
    (fun step member state both => ?_) ⟨sound_start name,begun⟩
  have working := works step member
  have fresh := restarted step member
  by_cases plain : step.request.isPlain = true
  · exact (plainInvariant_turn working keeps step.catalog).step plain both
  · obtain ⟨world,catalog,request⟩ := step
    cases request with
    | shutdownAll => exact shutdownAll_turn working keeps both
    | restart => exact ⟨both.1.restart,fresh rfl state both.1 both.2⟩
    | _ => exact absurd rfl plain

end MountHub
