import MountHub.Proofs.Manager.Retired
import MountHub.Proofs.Manager.Turn

/-! Which drivers are initialized: those that were bound and have not let go since. A driver that
is mounted is one of them, but for one end of an update: the driver has let go, refuses the new
configuration, and stays mounted because its path was to stay. -/
namespace MountHub
open Operation Call

variable {world : World} {storage : Storage} {state after : State} {number : Nat} {held : Driver}
  {news : List Event}

/-- What an event tells of the driver that was asked: it holds on, or it has let go. -/
def Event.holding? : Event → Option Bool
  | .init _ _ _ (.ok ()) => some true
  | .shutdown _ _ _ (.ok ()) => some false
  | _ => none

theorem Driver.isInitialized_fresh (kind : DriverKind) :
    (Driver.fresh kind).isInitialized = false := by
  cases kind <;> rfl

namespace State

/-- By what the driver has been asked: it was bound, and has not let go since. -/
def holdsOn (state : State) (number : Nat) : Bool :=
  ((state.course number).findSome? Event.holding?).getD false

/-- What drivers have been asked accounts for what they are. -/
structure Traced (state : State) : Prop where
  unasked : ∀ number, state.drivers.length ≤ number → state.course number = []
  told : ∀ number, (state.driver number).isInitialized = state.holdsOn number

theorem Idles.traced (idles : state.Idles after) (traced : state.Traced) : after.Traced where
  unasked number beyond := by
    rw [idles.courses]
    exact traced.unasked number (idles.drivers ▸ beyond)
  told number := by
    rw [driver_congr idles.drivers,traced.told,holdsOn,holdsOn,idles.courses]

theorem Touches.traced (touches : state.Touches after number held news) (traced : state.Traced)
    (now : held.isInitialized =
      ((news ++ state.course number).findSome? Event.holding?).getD false) : after.Traced where
  unasked other beyond := by
    rw [touches.course,if_neg]
    · exact traced.unasked other (touches.grown.trans beyond)
    · exact fun here => Nat.not_lt.mpr beyond (here ▸ touches.made)
  told other := by
    rw [holdsOn,touches.driver,touches.course]
    split_ifs with here
    · rw [here]
      exact now
    · exact traced.told other

theorem keeps_traced : Turn.Keeps Traced := by
  intro state after sound traced turn
  cases turn with
  | quiet idles => exact idles.traced traced
  | made refused touches =>
    refine touches.traced traced ?_
    rw [Driver.isInitialized_fresh,traced.unasked _ le_rfl]
    rcases refused with rfl | ⟨storage,cause,rfl⟩ <;> rfl
  | mounted initialized _ touches => exact touches.traced traced initialized
  | released _ uninitialized touches => exact touches.traced traced uninitialized
  | unbound unbound => exact unbound.touches.traced traced unbound.uninitialized
  | rebound _ initialized _ _ _ touches => exact touches.traced traced initialized

/-- The driver let go for a new configuration at the same path, and has refused it. Since then
it has not been asked for anything. -/
def Stalled (state : State) (number : Nat) : Prop :=
  ∃ kind storage cause old earlier, old.mountPath = storage.mountPath ∧
    state.course number = .init number kind storage (.error cause) ::
      .shutdown number kind old (.ok ()) :: earlier

theorem Stalled.holdsOn (stalled : state.Stalled number) : state.holdsOn number = false := by
  obtain ⟨_,_,_,_,_,_,course⟩ := stalled
  rw [State.holdsOn,course]
  rfl

/-- Every driver that is mounted is initialized, or an update has left it as it is. -/
def Steady (state : State) : Prop :=
  ∀ {path number}, state.registry.load path = some number →
    (state.driver number).isInitialized = true ∨ state.Stalled number

/-- A driver that is not asked for anything stays steady. -/
theorem Touches.steady (touches : state.Touches after number held news) {other : Nat}
    (steady : (state.driver other).isInitialized = true ∨ state.Stalled other)
    (untouched : other ≠ number) :
    (after.driver other).isInitialized = true ∨ after.Stalled other := by
  rw [Stalled,touches.driver,touches.course,if_neg untouched,if_neg untouched]
  exact steady

theorem stalled_of_unbound {path : String} {cause : DriverError}
    (unbound : Unbound state after path number storage cause held)
    (place : held.storage.mountPath = storage.mountPath) : after.Stalled number :=
  ⟨_,_,_,_,_,place,(unbound.touches.course number).trans (if_pos rfl)⟩

theorem keeps_steady : Turn.Keeps Steady := by
  intro state after sound steady turn path number found
  cases turn with
  | quiet idles mounts =>
    rw [mounts] at found
    rw [Stalled,driver_congr idles.drivers,idles.courses]
    exact steady found
  | made _ touches mounts =>
    rw [mounts] at found
    refine touches.steady (steady found) ?_
    rintro rfl
    exact sound.load_ne_length path found
  | mounted initialized _ touches mounts =>
    rw [mounts] at found
    split at found
    · obtain rfl := Option.some.inj found
      rw [touches.driver,if_pos rfl]
      exact .inl initialized
    · refine touches.steady (steady found) ?_
      rintro rfl
      exact sound.load_ne_length path found
  | released there _ touches mounts =>
    rw [mounts] at found
    split at found
    · cases found
    · rename_i elsewhere
      refine touches.steady (steady found) ?_
      rintro rfl
      exact elsewhere (sound.path_eq there found)
  | @unbound old asked storage cause held unbound =>
    have there := unbound.found
    rw [unbound.mounts] at found
    split at found
    · cases found
    · rename_i stays
      by_cases here : number = asked
      · -- It was mounted at its old path, so that is where it is, and the path was to stay.
        subst here
        obtain rfl := sound.path_eq there found
        have place : held.storage.mountPath = storage.mountPath := by
          rw [unbound.same,(sound.backed there).place]
          by_contra moved
          exact stays ⟨rfl,moved⟩
        exact .inr (stalled_of_unbound unbound place)
      · exact unbound.touches.steady (steady found) here
  | @rebound old asked _ _ _ _ there initialized _ _ _ touches mounts =>
    by_cases here : number = asked
    · rw [touches.driver,if_pos here]
      exact .inl initialized
    · rw [mounts] at found
      split_ifs at found
      · exact absurd (Option.some.inj found).symm here
      · exact touches.steady (steady found) here

/-- A lookup of the manager leads to the driver. -/
inductive Leads (state : State) (number : Nat) : Prop
  | exact {path : String} (found : state.registry.load path = some number)
  | serving {path : String} {mounted : Mounted} (member : mounted ∈ state.storagesByPath path)
      (same : mounted.driver = number)
  | chosen {path : String} {mounted : Mounted}
      (found : ((balanced path).run state).1 = some mounted) (same : mounted.driver = number)

theorem Leads.mounted (leads : state.Leads number) :
    ∃ path, state.registry.load path = some number := by
  cases leads with
  | exact found => exact ⟨_,found⟩
  | serving member same =>
    exact ⟨_,same ▸ (mem_mounted.mp (Mounted.mem_resolve.mp member).1).1⟩
  | chosen found same => exact ⟨_,same ▸ (mem_mounted.mp (Cursors.mem_of_select found)).1⟩

end State

/-- An update whose driver refuses the new configuration leaves the driver as it is after letting
go. If the path was to stay, the driver stays mounted. -/
theorem Updated.stalled {cause : DriverError}
    (updated : Updated world storage state
      (.error (.driverLifecycle "failed init storage" cause)) after) (sound : state.Sound) :
    ∃ old number, state.table.get storage.id = .ok old ∧
      state.registry.load old.mountPath = some number ∧
      (after.driver number).isInitialized = false ∧
      if old.mountPath = storage.mountPath then
        after.registry.load old.mountPath = some number ∧ after.Stalled number
      else ∀ path, after.registry.load path ≠ some number := by
  generalize ended :
    (Except.error (.driverLifecycle "failed init storage" cause) : Except StorageError Unit) = reply
    at updated
  cases updated with
  | unread | unwritten =>
    exact absurd (Except.error.inj ended) (StorageError.driverLifecycle_ne_ofTable _ _ _ _)
  | otherDriver | unmounted => cases ended
  | unreleased =>
    exact absurd (StorageError.driverLifecycle.inj (Except.error.inj ended)).1 (by decide)
  | @released old changed number held _ _ rewriting found done mounting =>
    have read := World.ok_of_answers rewriting.read
    cases mounting with
    | done => cases ended
    | @unbound refusal _ refused =>
      have unbound : Unbound state _ old.mountPath number storage refusal held :=
        sound.unbound found done
      have holds : ((state.rewritten old storage changed).released number held).driver number =
          held := (unbound.touches.driver number).trans (if_pos rfl)
      rw [holds]
      refine ⟨old,number,read,found,?_,?_⟩
      · rw [unbound.touches.driver,if_pos rfl]
        exact unbound.uninitialized
      · split_ifs with stays
        · refine ⟨?_,State.stalled_of_unbound unbound ?_⟩
          · rw [unbound.mounts,if_neg fun gone => gone.2 stays]
            exact found
          · rw [unbound.same,(sound.backed found).place,stays]
        · intro path there
          rw [unbound.mounts] at there
          split at there
          · cases there
          · rename_i elsewhere
            exact elsewhere ⟨sound.path_eq found there,stays⟩

namespace State

/-- In every run in which the table answers and drivers let go, whatever refuses to be bound and
whichever contexts are cancelled: a driver is initialized exactly if it was bound and has not let
go since; and the drivers that lookups lead to are initialized, but for those that an update has
stalled. An update whose driver refuses the new configuration does stall it, unless the path was
to change: then nothing leads to the driver any more. -/
theorem lookup_initialized (name : String) {steps : List Step}
    (works : ∀ step ∈ steps, step.world.Works) :
    let state := (start { name }).run steps
    (∀ number, (state.driver number).isInitialized = state.holdsOn number) ∧
    (∀ number, state.Leads number →
      ((state.driver number).isInitialized = true ↔ ¬ state.Stalled number)) ∧
    ∀ {world given cause after},
      Ends (update world given) state
        (.error (.driverLifecycle "failed init storage" cause)) after →
      ∃ old number, state.table.get given.id = .ok old ∧
        state.registry.load old.mountPath = some number ∧
        (after.driver number).isInitialized = false ∧
        if old.mountPath = Path.standardize given.mountPath then
          after.registry.load old.mountPath = some number ∧ after.Stalled number
        else ∀ path, after.registry.load path ≠ some number := by
  intro state
  have keeps : Turn.Keeps fun state => state.Traced ∧ state.Steady := fun sound both turn =>
    ⟨keeps_traced sound both.1 turn,keeps_steady sound both.2 turn⟩
  obtain ⟨sound,traced,steady⟩ : state.Sound ∧ state.Traced ∧ state.Steady := by
    apply run_turn keeps name works
    · exact fun _ _ _ state _ both => ⟨⟨both.1.unasked,both.1.told⟩,fun found => nomatch found⟩
    · exact ⟨⟨fun _ _ => rfl,fun _ => rfl⟩,fun found => nomatch found⟩
  refine ⟨traced.told,fun number leads => ?_,fun ends => (updated_of_ends ends).stalled sound⟩
  obtain ⟨path,found⟩ := leads.mounted
  constructor
  · intro initialized stalled
    rw [traced.told,stalled.holdsOn] at initialized
    cases initialized
  · exact (steady found).resolve_right

/-- A driver that is mounted is initialized until an update of its row is cancelled. -/
theorem lookup_initialized_cancelled :
    let given : Storage := { mountPath := "/a", driver := "memory" }
    let state := (start { name := "storages" }).run [⟨.willing .live,.builtin,.create given⟩]
    let ended := (update (.willing (.root true)) { given with id := ⟨1⟩ }).run.run state
    (∀ step ∈ [(⟨.willing .live,.builtin,.create given⟩ : Step)], step.world.Works) ∧
      state.Leads 0 ∧ (state.driver 0).isInitialized = true ∧ ¬ state.Stalled 0 ∧
      ended.1 = .error (.driverLifecycle "failed init storage" .cancelled) ∧
      ended.2.registry.load "/a" = some 0 ∧ ended.2.Stalled 0 := by
  intro given state ended
  have works : ∀ step ∈ [(⟨.willing .live,.builtin,.create given⟩ : Step)], step.world.Works :=
    List.forall_mem_singleton.mpr (World.works_willing .live)
  have mounted : state.registry.load "/a" = some 0 := by decide +kernel
  have initialized : (state.driver 0).isInitialized = true := by decide +kernel
  have row : state.table.get ⟨1⟩ = .ok { given with id := ⟨1⟩, modified := 7 } := by decide +kernel
  have unbound : ended.1 = .error (.driverLifecycle "failed init storage" .cancelled) := by
    decide +kernel
  have place : Path.standardize "/a" = "/a" := by decide +kernel
  obtain ⟨_,lookups,updates⟩ := lookup_initialized "storages" works
  have stalls := updates (Prod.ext unbound rfl :
    Ends (update (.willing (.root true)) { given with id := ⟨1⟩ }) state _ ended.2)
  have leads : state.Leads 0 := .exact mounted
  have busy := (lookups 0 leads).mp initialized
  change ¬ state.Stalled 0 at busy
  change ∃ old number, state.table.get ⟨1⟩ = .ok old ∧
    state.registry.load old.mountPath = some number ∧ (ended.2.driver number).isInitialized = false ∧
    if old.mountPath = Path.standardize "/a" then
      ended.2.registry.load old.mountPath = some number ∧ ended.2.Stalled number
    else ∀ path, ended.2.registry.load path ≠ some number at stalls
  clear_value state ended
  obtain ⟨old,number,found,there,_,stays⟩ := stalls
  obtain rfl := Except.ok.inj (row.symm.trans found)
  obtain rfl := Option.some.inj (mounted.symm.trans there)
  rw [place,if_pos rfl] at stays
  exact ⟨works,leads,initialized,busy,unbound,stays⟩

/-- After the update of a row has been cancelled, lookups lead to a driver that has let go. -/
theorem lookup_uninitialized :
    let given : Storage := { mountPath := "/a", driver := "memory" }
    let steps : List Step := [⟨.willing .live,.builtin,.create given⟩,
      ⟨.willing (.root true),.builtin,.update { given with id := ⟨1⟩ }⟩]
    let state := (start { name := "storages" }).run steps
    (∀ step ∈ steps, step.world.Works) ∧ state.registry.load "/a" = some 0 ∧
      ((state.storagesByPath "/a").map fun mounted => mounted.driver) = [0] ∧
      (((balanced "/a").run state).1.map fun mounted => mounted.driver) = some 0 ∧
      (state.driver 0).kind = .memory ∧ (state.driver 0).isInitialized = false := by
  intro given steps state
  have works : ∀ step ∈ steps, step.world.Works :=
    List.forall_mem_cons.mpr ⟨World.works_willing .live,
      List.forall_mem_singleton.mpr (World.works_willing (.root true))⟩
  exact ⟨works,by decide +kernel,by decide +kernel,by decide +kernel,by decide +kernel,
    by decide +kernel⟩

end State
end MountHub
