import MountHub.Manager.Routing
import MountHub.Proofs.Manager.Load
import MountHub.Proofs.Path.Standard

/-! Runs of a manager: requests one after the other, each in a world and with a catalog of
its own, so that anything may fail in any of them. What survives all that one request can come
to, survives a run. -/
namespace MountHub
open Operation Call

/-- What is asked of a manager. -/
inductive Request where
  | create (storage : Storage)
  | update (storage : Storage)
  | delete (id : StorageId)
  /-- Saves the driver that is mounted at a path, if there is one. -/
  | sync (path : String)
  | load (size : UInt64)
  | shutdownAll
  | list (page size : UInt64)
  | balanced (path : String)
  | route (path : String)
  /-- A new manager takes over the rows. -/
  | restart
deriving DecidableEq, Inhabited

/-- A request to the manager that is running, which keeps what it has mounted. -/
def Request.isPlain : Request → Bool
  | .shutdownAll | .restart => false
  | _ => true

structure Step where
  world : World
  catalog : Catalog
  request : Request

/-- The state that a request leaves behind, whatever its reply is. -/
def Step.after (step : Step) (state : State) : State :=
  match step.request with
  | .create storage => ((create step.world step.catalog storage).run.run state).2
  | .update storage => ((update step.world storage).run.run state).2
  | .delete id => ((Operation.delete step.world id).run.run state).2
  | .sync path =>
    match state.registry.load path with
    | some number => ((sync step.world number).run state).2
    | none => state
  | .load size => ((load step.world step.catalog size).run.run state).2
  | .shutdownAll => ((shutdownAll step.world).run state).2
  | .list page size => ((Operation.list step.world page size).run.run state).2
  | .balanced path => ((balanced path).run state).2
  | .route path => ((route path).run.run state).2
  | .restart => state.restart

/-- A world that refuses nothing, under one context throughout. -/
def World.willing (context : Context) : World := fun _ =>
  { context
    session := "token"
    folder := fun requested => .finishes (.ok (.directory requested))
    refusesInit := fun _ => none
    refusesShutdown := fun _ => none
    addition := fun _ => .ok (.object [])
    now := 7
    refusesCall := fun _ => none }

variable {world : World} {state after : State} {number : Nat}

/-- The state at the end of a run. -/
def State.run (state : State) (steps : List Step) : State :=
  steps.foldl (fun state step => step.after state) state

/-- What every step of a run preserves, the run preserves. -/
theorem State.run_invariant {holds : State → Prop} {steps : List Step}
    (preserves : ∀ step ∈ steps, ∀ state, holds state → holds (step.after state))
    (start : holds state) : holds (state.run steps) := by
  induction steps generalizing state with
  | nil => exact start
  | cons step more ih =>
    exact ih (fun other member => preserves other (by simp [member]))
      (preserves step (by simp) state start)

/-- A driver lets go and is unmounted, with a warning if it does not let go. -/
inductive LetGo (world : World) (path : String) (number : Nat) (state : State) : State → Prop
  | unreleased {cause : DriverError} {held : Driver}
      (refused : (state.driver number).shutdown (world state.events).toOutside =
        (.error cause,held)) :
      LetGo world path number state
        (((state.note (.shutdown number (state.driver number).kind (state.driver number).storage
          (.error cause))).note (.logged ⟨.manager,.warn,"failed drop storage: " ++ cause.message,
            [("mount_path",path)]⟩)).vacated path)
  | released {held : Driver}
      (done : (state.driver number).shutdown (world state.events).toOutside = (.ok (),held)) :
      LetGo world path number state ((state.released number held).vacated path)

theorem LetGo.table_eq {path : String} (letGo : LetGo world path number state after) :
    after.table = state.table := by
  cases letGo <;> rfl

theorem LetGo.driver_eq {path : String} (letGo : LetGo world path number state after) {other : Nat}
    (untouched : other ≠ number) : after.driver other = state.driver other := by
  cases letGo with
  | unreleased => rfl
  | @released held =>
    change (state.released number held).driver other = state.driver other
    rw [State.driver,State.driver,State.released_drivers,List.getElem?_set_ne (Ne.symm untouched)]

theorem LetGo.load {path : String} (letGo : LetGo world path number state after) (other : String) :
    after.registry.load other = if path = other then none else state.registry.load other := by
  cases letGo with
  | unreleased => exact state.registry.load_delete path other
  | released => exact state.registry.load_delete path other

namespace Call

/-- Drivers are let go one after the other, and counted. -/
theorem release_cons (world : World) (path : String) (number : Nat) (more : List (String × Nat))
    (state : State) :
    ∃ middle, LetGo world path number state middle ∧
      (release world ((path,number) :: more)).run state =
        (((release world more).run middle).1 + 1,((release world more).run middle).2) := by
  rw [release,run_bind,run_shutdownDriver]
  rcases reached : (state.driver number).shutdown (world state.events).toOutside with
    ⟨cause | _,held⟩
  · exact ⟨_,.unreleased reached,rfl⟩
  · exact ⟨_,.released reached,rfl⟩

/-- What letting a mounted driver go preserves, letting mounted ones go preserves that are
mounted at different paths. -/
theorem release_mounted {holds : State → Prop} {entries : List (String × Nat)}
    (preserves : ∀ {path number state after}, state.registry.load path = some number →
      LetGo world path number state after → holds state → holds after)
    (distinct : (Keyed.keys entries).Nodup)
    (mounted : ∀ {path number}, (path,number) ∈ entries →
      state.registry.load path = some number)
    (start : holds state) : holds ((release world entries).run state).2 := by
  induction entries generalizing state with
  | nil => exact start
  | cons entry more ih =>
    obtain ⟨path,number⟩ := entry
    obtain ⟨middle,letGo,same⟩ := release_cons world path number more state
    obtain ⟨alone,rest⟩ := List.nodup_cons.mp distinct
    rw [same]
    refine ih rest (fun {other next} member => ?_)
      (preserves (mounted (List.mem_cons_self ..)) letGo start)
    rw [letGo.load,if_neg]
    · exact mounted (List.mem_cons_of_mem _ member)
    · rintro rfl
      exact alone (List.mem_map.mpr ⟨_,member,rfl⟩)

/-- What letting a mounted driver go preserves, the end of a manager preserves. -/
theorem shutdownAll_mounted {holds : State → Prop}
    (preserves : ∀ {path number state after}, state.registry.load path = some number →
      LetGo world path number state after → holds state → holds after)
    (start : holds state) : holds ((shutdownAll world).run state).2 :=
  release_mounted preserves state.registry.nodup
    (fun member => (state.registry.mem_entries_iff _ _).mp member) start

theorem load_release (entries : List (String × Nat)) (path : String) :
    ((release world entries).run state).2.registry.load path =
      if path ∈ Keyed.keys entries then none else state.registry.load path := by
  induction entries generalizing state with
  | nil => rfl
  | cons entry more ih =>
    obtain ⟨middle,letGo,same⟩ := release_cons world entry.1 entry.2 more state
    have first : path ∈ Keyed.keys (entry :: more) ↔ entry.1 = path ∨ path ∈ Keyed.keys more := by
      rw [Keyed.keys,List.map_cons,List.mem_cons,eq_comm,Keyed.keys]
    rw [same,ih,letGo.load]
    by_cases here : entry.1 = path
    · rw [if_pos here,ite_self,if_pos (first.mpr (.inl here))]
    · simp only [first,here,false_or,if_false]

/-- Once all drivers have been let go, nothing is mounted. -/
theorem load_shutdownAll (world : World) (state : State) (path : String) :
    ((shutdownAll world).run state).2.registry.load path = none := by
  change ((release world state.registry.entries).run state).2.registry.load path = none
  rw [load_release]
  split_ifs with present
  · rfl
  · cases found : state.registry.load path with
    | none => rfl
    | some number =>
      have member := (state.registry.mem_entries_iff path number).mpr found
      exact absurd (List.mem_map_of_mem member) present

theorem sync_cases (world : World) (number : Nat) (state : State) :
    ∃ reply middle, Saved world number state reply middle ∧
      (((sync world number).run state).2 = middle ∨
        ∃ line, ((sync world number).run state).2 = middle.note (.logged line)) := by
  unfold sync
  rw [run_bind]
  rcases ends : (save world number).run.run state with ⟨error | _,middle⟩
  · exact ⟨_,middle,saved_of_ends ends,.inr ⟨_,rfl⟩⟩
  · exact ⟨_,middle,saved_of_ends ends,.inl rfl⟩

end Call

namespace Operation

theorem eq_of_ends_route {path : String} {reply : Except StorageError (Mounted × String)}
    (ends : Ends (route path) state reply after) :
    reply = (match (state.cursors.select state.mounted (Path.standardize path)).1 with
      | some mounted => .ok (mounted,mounted.relative (Path.standardize path))
      | none => .error (.notServed (Path.standardize path))) ∧
      after = ((balanced (Path.standardize path)).run state).2 := by
  unfold route at ends
  rw [ends_bind_lift] at ends
  change Ends (match (state.cursors.select state.mounted (Path.standardize path)).1 with
    | some mounted => _
    | none => _) _ _ _ at ends
  split at ends
  · exact ends_pure.mp ends
  · exact ends_throw.mp ends

theorem route_of_select {path : String} {mounted : Mounted}
    (chosen : (state.cursors.select state.mounted (Path.standardize path)).1 = some mounted) :
    ((route path).run.run state).1 = .ok (mounted,mounted.relative (Path.standardize path)) := by
  rw [(eq_of_ends_route (ends_run _ state)).1,chosen]

theorem route_of_unserved {path : String}
    (unserved : (state.cursors.select state.mounted (Path.standardize path)).1 = none) :
    ((route path).run.run state).1 = .error (.notServed (Path.standardize path)) := by
  rw [(eq_of_ends_route (ends_run _ state)).1,unserved]

/-- A listing ends with what the table answers, and leaves no more than a note of the call. -/
theorem eq_of_ends_list {page size : UInt64} {reply : Except StorageError (List Storage × Nat)}
    (ends : Ends (Operation.list world page size) state reply after) :
    reply = (world.answers state.events (.list page size) (state.table.list page size)).mapError
      (.ofTable "failed get storages") ∧ after = state.note (.table (.list page size)) := by
  unfold Operation.list at ends
  rw [← bind_pure (table _ _)] at ends
  rcases ends_bind_listRows ends with ⟨cause,refused,told⟩ | ⟨given,answered,rest⟩
  · rw [refused]
    exact told
  · rw [answered]
    exact ends_pure.mp rest

theorem listed_of_ends {page size : UInt64} {listed : List Storage × Nat}
    (ends : Ends (Operation.list world page size) state (.ok listed) after) :
    state.table.list page size = .ok listed := by
  have told := (eq_of_ends_list ends).1
  cases answered : world.answers state.events (.list page size) (state.table.list page size) with
  | error cause =>
    rw [answered] at told
    cases told
  | ok given =>
    rw [answered] at told
    obtain rfl := Except.ok.inj told
    exact World.ok_of_answers answered

end Operation

/-- The driver that was to be bound or to let go. -/
def Event.driver? : Event → Option Nat
  | .init number _ _ _ | .shutdown number _ _ _ => some number
  | _ => none

/-- A property of states that survives whatever a request to a manager that keeps running can
come to, in one world and with one catalog. It may look at what drivers have been asked. -/
structure PlainInvariant (world : World) (catalog : Catalog) (holds : State → Prop) : Prop where
  short : ∀ {state}, holds state → state.table.rows.length < Table.idLimit
  noted : ∀ {state} {event : Event}, event.driver? = none → holds state → holds (state.note event)
  turned : ∀ {state} (cursors : Cursors), holds state → holds { state with cursors }
  created : ∀ {storage state reply after}, Path.Canonical storage.mountPath → holds state →
    Created world catalog storage state reply after → holds after
  updated : ∀ {storage state reply after}, Path.Canonical storage.mountPath → holds state →
    Updated world storage state reply after → holds after
  deleted : ∀ {id state reply after}, holds state → Deleted world id state reply after →
    holds after
  saved : ∀ {path number state reply after}, state.registry.load path = some number →
    holds state → Saved world number state reply after → holds after
  loaded : ∀ {storage state well after}, storage ∈ state.table.storages → holds state →
    Loaded world catalog storage state well after → holds after

/-- A property of states that survives the end of a manager besides. -/
structure StepInvariant (world : World) (catalog : Catalog) (holds : State → Prop) : Prop
    extends PlainInvariant world catalog holds where
  letGo : ∀ {path number state after}, holds state → LetGo world path number state after →
    holds after
  restarted : ∀ {state}, holds state → holds state.restart

/-- A property of states that survives whatever one request can come to. -/
structure RequestInvariant (step : Step) (holds : State → Prop) : Prop where
  short : ∀ {state}, holds state → state.table.rows.length < Table.idLimit
  noted : ∀ {state} {event : Event}, event.driver? = none → holds state → holds (state.note event)
  turned : ∀ {state} (cursors : Cursors), holds state → holds { state with cursors }
  created : ∀ {given now state reply after}, step.request = .create given → holds state →
    Created step.world step.catalog (stamped now given) state reply after → holds after
  updated : ∀ {given now state reply after}, step.request = .update given → holds state →
    Updated step.world (stamped now given) state reply after → holds after
  deleted : ∀ {id state reply after}, step.request = .delete id → holds state →
    Deleted step.world id state reply after → holds after
  saved : ∀ {path number state reply after}, step.request = .sync path →
    state.registry.load path = some number → holds state →
    Saved step.world number state reply after → holds after
  loaded : ∀ {size storage state well after}, step.request = .load size →
    storage ∈ state.table.storages → holds state →
    Loaded step.world step.catalog storage state well after → holds after
  letGo : ∀ {path number state after}, step.request = .shutdownAll →
    state.registry.load path = some number → holds state →
    LetGo step.world path number state after → holds after
  restarted : ∀ {state}, step.request = .restart → holds state → holds state.restart

theorem RequestInvariant.step {step : Step} {holds : State → Prop}
    (invariant : RequestInvariant step holds) (start : holds state) : holds (step.after state) := by
  obtain ⟨world,catalog,request⟩ := step
  cases request with
  | create given =>
    exact invariant.created rfl start (created_of_ends (ends_run (create world catalog given) state))
  | update given =>
    exact invariant.updated rfl start (updated_of_ends (ends_run (update world given) state))
  | delete id =>
    exact invariant.deleted rfl start
      (deleted_of_ends (ends_run (Operation.delete world id) state))
  | sync path =>
    simp only [Step.after]
    split
    · rename_i number mounted
      obtain ⟨reply,middle,saved,same | ⟨line,same⟩⟩ := Call.sync_cases world number state
      · rw [same]
        exact invariant.saved rfl mounted start saved
      · rw [same]
        exact invariant.noted rfl (invariant.saved rfl mounted start saved)
    · exact start
  | load size =>
    have rows : LoadInvariant world catalog state.table fun _ _ state => holds state :=
      { page := fun _ start => invariant.noted rfl start
        row := fun same member start loaded => invariant.loaded rfl (same ▸ member) start loaded }
    obtain ⟨_,_,middle,_,loaded,⟨_,_,same⟩ | ⟨_,same,_⟩⟩ :=
      rows.load (invariant.short start) start (ends_run (Operation.load world catalog size) state)
    · simp only [Step.after]
      rw [same]
      exact invariant.noted rfl loaded
    · simp only [Step.after]
      rw [same]
      exact loaded
  | shutdownAll =>
    exact Call.shutdownAll_mounted (fun found letGo start => invariant.letGo rfl found start letGo)
      start
  | list page size =>
    simp only [Step.after]
    rw [(eq_of_ends_list (ends_run _ state)).2]
    exact invariant.noted rfl start
  | balanced path => exact invariant.turned (state.cursors.select state.mounted path).2 start
  | route path =>
    simp only [Step.after]
    rw [(eq_of_ends_route (ends_run _ state)).2]
    exact invariant.turned (state.cursors.select state.mounted (Path.standardize path)).2 start
  | restart => exact invariant.restarted rfl start

theorem PlainInvariant.step {step : Step} {holds : State → Prop}
    (invariant : PlainInvariant step.world step.catalog holds)
    (plain : step.request.isPlain = true) (start : holds state) : holds (step.after state) := by
  have requests : RequestInvariant step holds :=
    { short := invariant.short
      noted := invariant.noted
      turned := invariant.turned
      created := fun _ => invariant.created (Path.canonical_standardize _)
      updated := fun _ => invariant.updated (Path.canonical_standardize _)
      deleted := fun _ => invariant.deleted
      saved := fun _ => invariant.saved
      loaded := fun _ => invariant.loaded
      letGo := fun ends => by rw [ends] at plain; cases plain
      restarted := fun ends => by rw [ends] at plain; cases plain }
  exact requests.step start

theorem StepInvariant.step {step : Step} {holds : State → Prop}
    (invariant : StepInvariant step.world step.catalog holds) (start : holds state) :
    holds (step.after state) := by
  have requests : RequestInvariant step holds :=
    { short := invariant.short
      noted := invariant.noted
      turned := invariant.turned
      created := fun _ => invariant.created (Path.canonical_standardize _)
      updated := fun _ => invariant.updated (Path.canonical_standardize _)
      deleted := fun _ => invariant.deleted
      saved := fun _ => invariant.saved
      loaded := fun _ => invariant.loaded
      letGo := fun _ _ => invariant.letGo
      restarted := fun _ => invariant.restarted }
  exact requests.step start

theorem StepInvariant.run {holds : State → Prop}
    (invariant : ∀ world catalog, StepInvariant world catalog holds) (start : holds state)
    (steps : List Step) : holds (state.run steps) :=
  State.run_invariant (fun step _ _ => (invariant step.world step.catalog).step) start

end MountHub
