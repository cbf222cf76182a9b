import MountHub.Proofs.Manager.Initialized

/-! Drivers that are lost. A driver that is initialized is mounted, unless a load has mounted
another one in its place: loading a row that is mounted makes a second driver for it, and nothing
asks the first to let go. Such a driver stays initialized, whatever is let go later. -/
namespace MountHub
open Operation Call

variable {world : World} {catalog : Catalog} {storage row : Storage} {state after : State}
  {number : Nat} {held : Driver} {news : List Event}

theorem LetGo.uninitialized {path : String} (letGo : LetGo world path number state after)
    (works : world.Works) (made : number < state.drivers.length) :
    (after.driver number).isInitialized = false := by
  cases letGo with
  | unreleased refused => exact absurd refused (works.shutdown_ne_error _ _ _ _)
  | @released held done =>
    have touches := State.touches_released held made
    change ((state.released number held).driver number).isInitialized = false
    rw [touches.driver,if_pos rfl]
    exact Driver.isInitialized_of_shutdown_ok done

namespace State

/-- Another driver, made later, has been bound to the row of the driver. -/
def Displaced (state : State) (number : Nat) : Prop :=
  ∃ later kind storage, number < later ∧
    .init later kind storage (.ok ()) ∈ state.course later ∧
    storage.id = (state.driver number).storage.id

theorem Idles.displaced_iff (idles : state.Idles after) :
    after.Displaced number ↔ state.Displaced number := by
  simp only [Displaced,idles.courses,driver_congr idles.drivers]

/-- A driver that stays bound to its row is displaced by what another one is asked, or was so
before. -/
theorem Touches.displaced_iff (touches : state.Touches after number held news) {other : Nat}
    (same : (after.driver other).storage.id = (state.driver other).storage.id) :
    after.Displaced other ↔ state.Displaced other ∨ ∃ kind storage, other < number ∧
      .init number kind storage (.ok ()) ∈ news ∧
      storage.id = (state.driver other).storage.id := by
  constructor
  · rintro ⟨later,kind,storage,beyond,bound,id⟩
    rw [same] at id
    rw [touches.course] at bound
    split at bound
    · rename_i here
      subst here
      rcases List.mem_append.mp bound with new | before
      · exact .inr ⟨kind,storage,beyond,new,id⟩
      · exact .inl ⟨later,kind,storage,beyond,before,id⟩
    · exact .inl ⟨later,kind,storage,beyond,bound,id⟩
  · rintro (⟨later,kind,storage,beyond,bound,id⟩ | ⟨kind,storage,beyond,new,id⟩)
    · refine ⟨later,kind,storage,beyond,?_,id.trans same.symm⟩
      rw [touches.course]
      split
      · exact List.mem_append_right _ bound
      · exact bound
    · refine ⟨number,kind,storage,beyond,?_,id.trans same.symm⟩
      rw [touches.course,if_pos rfl]
      exact List.mem_append_left _ new

/-- No driver is bound to anything, so none is displaced. -/
theorem Touches.displaced_iff_of_unbound (touches : state.Touches after number held news)
    {other : Nat} (same : (after.driver other).storage.id = (state.driver other).storage.id)
    (unbound : ∀ kind storage, .init number kind storage (.ok ()) ∉ news) :
    after.Displaced other ↔ state.Displaced other := by
  rw [touches.displaced_iff same,or_iff_left]
  rintro ⟨kind,storage,_,new,_⟩
  exact unbound kind storage new

theorem Touches.driver_eq (touches : state.Touches after number held news) {other : Nat}
    (untouched : other ≠ number) : after.driver other = state.driver other := by
  rw [touches.driver,if_neg untouched]

theorem Touches.displaced (touches : state.Touches after number held news) {other : Nat}
    (untouched : other ≠ number) (displaced : state.Displaced other) : after.Displaced other :=
  (touches.displaced_iff (by rw [touches.driver_eq untouched])).mpr (.inl displaced)

/-- Drivers that are initialized are mounted, or displaced, and those that are mounted are not
displaced. -/
structure Owned (state : State) : Prop where
  traced : state.Traced
  reached : ∀ number, (state.driver number).isInitialized = true →
    (∃ path, state.registry.load path = some number) ∨ state.Displaced number
  sole : ∀ {path number}, state.registry.load path = some number → ¬ state.Displaced number

theorem Owned.reached_turn (owned : state.Owned) (turn : Turn state after) (sound : state.Sound)
    (initialized : (after.driver number).isInitialized = true) :
    (∃ path, after.registry.load path = some number) ∨ after.Displaced number := by
  cases turn with
  | quiet idles mounts =>
    rw [driver_congr idles.drivers] at initialized
    rw [idles.displaced_iff]
    exact (owned.reached number initialized).imp_left fun ⟨path,found⟩ =>
      ⟨path,(mounts path).trans found⟩
  | made _ touches mounts =>
    rw [touches.driver] at initialized
    split at initialized
    · rw [Driver.isInitialized_fresh] at initialized
      cases initialized
    · rename_i untouched
      exact (owned.reached number initialized).imp
        (fun ⟨path,found⟩ => ⟨path,(mounts path).trans found⟩) (touches.displaced untouched)
  | @mounted storage held _ _ touches mounts row =>
    rw [touches.driver] at initialized
    split at initialized
    · rename_i here
      exact .inl ⟨storage.mountPath,by rw [mounts,if_pos rfl,here]⟩
    · rename_i untouched
      rcases owned.reached number initialized with ⟨path,found⟩ | displaced
      · by_cases here : storage.mountPath = path
        · -- The driver that was mounted there is the one that is displaced.
          refine .inr ((touches.displaced_iff (by rw [touches.driver_eq untouched])).mpr (.inr ?_))
          exact ⟨held.kind,storage,(sound.backed found).made,List.mem_singleton_self _,
            ((row found).mpr here.symm).symm⟩
        · exact .inl ⟨path,by rw [mounts,if_neg here,found]⟩
      · exact .inr (touches.displaced untouched displaced)
  | released there uninitialized touches mounts =>
    rw [touches.driver] at initialized
    split at initialized
    · rw [uninitialized] at initialized
      cases initialized
    · rename_i untouched
      refine (owned.reached number initialized).imp (fun ⟨path,found⟩ => ⟨path,?_⟩)
        (touches.displaced untouched)
      rw [mounts,if_neg,found]
      rintro rfl
      exact untouched (Option.some.inj (found.symm.trans there))
  | unbound unbound =>
    rw [unbound.touches.driver] at initialized
    split at initialized
    · rw [unbound.uninitialized] at initialized
      cases initialized
    · rename_i untouched
      refine (owned.reached number initialized).imp (fun ⟨path,found⟩ => ⟨path,?_⟩)
        (unbound.touches.displaced untouched)
      rw [unbound.mounts,if_neg,found]
      rintro ⟨rfl,_⟩
      exact untouched (Option.some.inj (found.symm.trans unbound.found))
  | @rebound old asked storage _ _ _ there _ _ _ free touches mounts =>
    rw [touches.driver] at initialized
    split at initialized
    · rename_i here
      exact .inl ⟨storage.mountPath,by rw [mounts,if_pos rfl,here]⟩
    · rename_i untouched
      refine (owned.reached number initialized).imp (fun ⟨path,found⟩ => ⟨path,?_⟩)
        (touches.displaced untouched)
      rw [mounts,if_neg,if_neg,found]
      · rintro rfl
        exact untouched (Option.some.inj (found.symm.trans there))
      · rintro rfl
        exact untouched (free found)

theorem Owned.sole_turn (owned : state.Owned) (turn : Turn state after) (sound : state.Sound)
    {path : String} (found : after.registry.load path = some number) :
    ¬ after.Displaced number := by
  cases turn with
  | quiet idles mounts =>
    rw [mounts] at found
    rw [idles.displaced_iff]
    exact owned.sole found
  | made refused touches mounts =>
    rw [mounts] at found
    have untouched : number ≠ state.drivers.length := (sound.backed found).made.ne
    rw [touches.displaced_iff_of_unbound (by rw [touches.driver_eq untouched])]
    · exact owned.sole found
    · rcases refused with rfl | ⟨_,_,rfl⟩ <;> simp
  | @mounted storage held _ _ touches mounts row =>
    rw [mounts] at found
    split at found
    · -- No driver has been made after this one.
      obtain rfl := Option.some.inj found
      rintro ⟨later,_,_,beyond,bound,_⟩
      rw [touches.course,if_neg beyond.ne',owned.traced.unasked later beyond.le] at bound
      cases bound
    · rename_i elsewhere
      have untouched : number ≠ state.drivers.length := (sound.backed found).made.ne
      rw [touches.displaced_iff (by rw [touches.driver_eq untouched])]
      rintro (before | ⟨_,_,_,new,id⟩)
      · exact owned.sole found before
      · obtain ⟨_,_,rfl,_⟩ := Event.init.inj (List.mem_singleton.mp new)
        exact elsewhere ((row found).mp id.symm).symm
  | released there _ touches mounts =>
    rw [mounts] at found
    split at found
    · cases found
    · rename_i elsewhere
      rw [touches.displaced_iff_of_unbound]
      · exact owned.sole found
      · rw [touches.driver_eq]
        rintro rfl
        exact elsewhere (sound.path_eq there found)
      · simp
  | unbound unbound =>
    rw [unbound.mounts] at found
    split at found
    · cases found
    · rw [unbound.touches.displaced_iff_of_unbound]
      · exact owned.sole found
      · rw [unbound.touches.driver]
        split_ifs with here
        · rw [unbound.same,here]
        · rfl
      · simp
  | @rebound old asked storage _ held _ there _ holds id _ touches mounts =>
    have same : (after.driver number).storage.id = (state.driver number).storage.id := by
      rw [touches.driver]
      split_ifs with here
      · rw [holds,here,id]
      · rfl
    rw [mounts] at found
    rw [touches.displaced_iff same]
    split at found
    · obtain rfl := Option.some.inj found
      rintro (before | ⟨_,_,beyond,_⟩)
      · exact owned.sole there before
      · exact absurd beyond (lt_irrefl _)
    · split at found
      · cases found
      · rename_i elsewhere
        rintro (before | ⟨_,_,_,new,shared⟩)
        · exact owned.sole found before
        · rcases List.mem_cons.mp new with same | last
          · obtain ⟨_,_,rfl,_⟩ := Event.init.inj same
            exact elsewhere (sound.path_eq_of_id there found (id.trans shared))
          · cases List.mem_singleton.mp last

theorem keeps_owned : Turn.Keeps Owned := fun sound owned turn =>
  ⟨keeps_traced sound owned.traced turn,fun _ => owned.reached_turn turn sound,
    owned.sole_turn turn sound⟩

/-- A driver that is mounted nowhere is left alone at the end of a manager. -/
theorem driver_shutdownAll (world : World)
    (unmounted : ∀ path, state.registry.load path ≠ some number) :
    ((shutdownAll world).run state).2.driver number = state.driver number := by
  have kept := @shutdownAll_mounted world state
    (fun middle => (∀ path, middle.registry.load path ≠ some number) ∧
      middle.driver number = state.driver number) ?_ ⟨unmounted,rfl⟩
  · exact kept.2
  intro path other middle after found letGo ⟨absent,same⟩
  refine ⟨fun place => ?_,?_⟩
  · rw [letGo.load]
    split
    · exact nofun
    · exact absent place
  · rw [letGo.driver_eq,same]
    rintro rfl
    exact absent path found

/-- A driver that is mounted has let go at the end of a manager. -/
theorem isInitialized_shutdownAll (works : world.Works) (sound : state.Sound) {path : String}
    (found : state.registry.load path = some number) :
    (((shutdownAll world).run state).2.driver number).isInitialized = false := by
  have kept := @shutdownAll_mounted world state
    (fun middle => middle.Sound ∧ (middle.registry.load path = some number ∨
      (middle.driver number).isInitialized = false ∧
        ∀ place, middle.registry.load place ≠ some number)) ?_ ⟨sound,.inl found⟩
  · rw [load_shutdownAll] at kept
    exact (kept.2.resolve_left nofun).1
  intro place other middle after there letGo ⟨sound,either⟩
  refine ⟨letGo.sound sound,?_⟩
  rcases either with mounted | ⟨idle,absent⟩
  · by_cases here : place = path
    · subst here
      obtain rfl := Option.some.inj (mounted.symm.trans there)
      refine .inr ⟨letGo.uninitialized works (sound.backed there).made,fun elsewhere => ?_⟩
      rw [letGo.load]
      split
      · exact nofun
      · rename_i different
        exact fun again => different (sound.path_eq there again)
    · rw [letGo.load,if_neg here]
      exact .inl mounted
  · have untouched : number ≠ other := by
      rintro rfl
      exact absent place there
    rw [letGo.driver_eq untouched]
    refine .inr ⟨idle,fun elsewhere => ?_⟩
    rw [letGo.load]
    split
    · exact nofun
    · exact absent elsewhere

end State

namespace Loaded

variable {well : Bool}

/-- Loading makes new drivers and leaves the others alone. -/
theorem driver_eq (loaded : Loaded world catalog storage state well after)
    (made : number < state.drivers.length) : after.driver number = state.driver number := by
  cases loaded with
  | unsupported => rfl
  | @unbound kind _ _ _ mounting =>
    cases mounting
    exact (State.driver_made state kind number).trans (if_neg made.ne)
  | @done kind _ _ mounting =>
    cases mounting
    rw [State.driver_seated _ _ _ (by simp),if_neg made.ne,State.driver_made,if_neg made.ne]

theorem grown (loaded : Loaded world catalog storage state well after) :
    state.drivers.length ≤ after.drivers.length := by
  cases loaded with
  | unsupported => exact le_rfl
  | unbound _ mounting | done _ mounting => simp [mounting.length_drivers]

theorem load_eq (loaded : Loaded world catalog storage state well after) (path : String) :
    after.registry.load path = if well = true ∧ storage.mountPath = path then
      some state.drivers.length else state.registry.load path := by
  cases loaded with
  | unsupported => rfl
  | unbound _ mounting =>
    cases mounting
    rfl
  | done _ mounting =>
    cases mounting
    rw [State.load_seated]
    simp only [true_and]
    rfl

end Loaded

namespace State

/-- A load that comes to a row mounts a new driver for it, if the driver takes it, and asks none
of the drivers that there were. -/
theorem Sound.load_remounts {kind : DriverKind} {size : UInt64} {count : Nat}
    (sound : state.Sound) (present : row ∈ state.table.storages)
    (known : catalog.find? row.driver = some kind) (accepts : world.Accepts kind row)
    (ends : Ends (Operation.load world catalog size) state (.ok count) after) :
    (∀ number < state.drivers.length, after.driver number = state.driver number) ∧
      ∃ fresh, state.drivers.length ≤ fresh ∧
        after.registry.load row.mountPath = some fresh := by
  have invariant : LoadInvariant world catalog state.table fun passed _ middle =>
      state.drivers.length ≤ middle.drivers.length ∧
      (∀ number < state.drivers.length, middle.driver number = state.driver number) ∧
      (row ∈ passed → ∃ fresh, state.drivers.length ≤ fresh ∧
        middle.registry.load row.mountPath = some fresh) := by
    constructor
    · exact fun _ holds => holds
    · rintro passed count storage middle well after same member ⟨grown,kept,mounted⟩ loaded
      refine ⟨grown.trans loaded.grown,fun number made => ?_,fun last => ?_⟩
      · rw [loaded.driver_eq (made.trans_le grown),kept number made]
      · rw [loaded.load_eq]
        by_cases here : storage = row
        · subst here
          obtain rfl := loaded.well_eq known accepts
          exact ⟨_,grown,if_pos ⟨rfl,rfl⟩⟩
        · have before : row ∈ passed :=
            (List.mem_append.mp last).resolve_right fun single =>
              here (List.mem_singleton.mp single).symm
          rw [if_neg fun moved => here (sound.table.eq_of_path member present moved.2)]
          exact mounted before
  obtain ⟨passed,total,middle,_,⟨_,kept,mounted⟩,⟨rfl,_,rfl⟩ | ⟨_,_,_,_,_,_,wrong⟩⟩ :=
    invariant.load sound.table.length_lt ⟨le_rfl,fun _ _ => rfl,nofun⟩ ends
  · exact ⟨kept,mounted (Table.mem_shown.mpr present)⟩
  · cases wrong

/-- In every run of one manager in which the table answers and drivers let go, whatever refuses
to be bound and whichever contexts are cancelled: a driver is initialized exactly if it was bound
and has not let go since, and one that is initialized is mounted or displaced, but not both. When
everything is let go, those that stay initialized are those that were displaced. And a load that
comes to the row of a mounted driver does displace it, without asking it to let go. -/
theorem initialized_mounted (name : String) {steps : List Step}
    (works : ∀ step ∈ steps, step.world.Works) (running : ∀ step ∈ steps, step.request ≠ .restart) :
    let state := (start { name }).run steps
    (∀ number, (state.driver number).isInitialized = state.holdsOn number) ∧
    (∀ number, (state.driver number).isInitialized = true →
      ((∃ path, state.registry.load path = some number) ↔ ¬ state.Displaced number)) ∧
    (∀ {world : World}, world.Works → ∀ number,
      ((((shutdownAll world).run state).2.driver number).isInitialized = true ↔
        (state.driver number).isInitialized = true ∧ state.Displaced number)) ∧
    ∀ {world : World} {catalog size count after kind row number}, world.Works →
      row ∈ state.table.storages → state.registry.load row.mountPath = some number →
      (state.driver number).isInitialized = true → catalog.find? row.driver = some kind →
      world.Accepts kind row →
      Ends (Operation.load world catalog size) state (.ok count) after →
      after.driver number = state.driver number ∧
        (∀ path, after.registry.load path ≠ some number) ∧ after.Displaced number := by
  intro state
  obtain ⟨sound,owned⟩ : state.Sound ∧ state.Owned := by
    apply run_turn keeps_owned name works
    · exact fun step member restart => absurd restart (running step member)
    · exact ⟨⟨fun _ _ => rfl,fun _ => rfl⟩,nofun,nofun⟩
  have mounted_iff (number : Nat) (initialized : (state.driver number).isInitialized = true) :
      (∃ path, state.registry.load path = some number) ↔ ¬ state.Displaced number :=
    ⟨fun ⟨_,found⟩ => owned.sole found,(owned.reached number initialized).resolve_right⟩
  refine ⟨owned.traced.told,mounted_iff,?_,?_⟩
  · intro world works number
    by_cases mounted : ∃ path, state.registry.load path = some number
    · obtain ⟨path,found⟩ := mounted
      rw [isInitialized_shutdownAll works sound found]
      exact ⟨nofun,fun both => absurd both.2 (owned.sole found)⟩
    · rw [driver_shutdownAll world (not_exists.mp mounted)]
      exact ⟨fun initialized => ⟨initialized,(owned.reached number initialized).resolve_left mounted⟩,
        And.left⟩
  · intro world catalog size count after kind row number works present found initialized known
      accepts ends
    obtain ⟨kept,fresh,beyond,there⟩ := sound.load_remounts present known accepts ends
    have made := (sound.backed found).made
    have same := kept number made
    obtain ⟨soundAfter,ownedAfter⟩ : after.Sound ∧ after.Owned := by
      have stepped := @PlainInvariant.step state ⟨world,catalog,.load size⟩ _
        (plainInvariant_turn works keeps_owned catalog) rfl ⟨sound,owned⟩
      simp only [Step.after] at stepped
      rw [show ((Operation.load world catalog size).run.run state).2 = after from
        congrArg Prod.snd ends] at stepped
      exact stepped
    have unmounted : ∀ path, after.registry.load path ≠ some number := by
      intro path again
      have place := (soundAfter.backed again).place
      rw [same,(sound.backed found).place] at place
      rw [← place,there] at again
      obtain rfl := Option.some.inj again
      omega
    refine ⟨same,unmounted,(ownedAfter.reached number ?_).resolve_left fun ⟨path,again⟩ =>
      unmounted path again⟩
    rw [same]
    exact initialized

/-- A driver that is mounted lets go in the end, unless its row is loaded before. -/
theorem initialized_mounted_loaded :
    let steps : List Step :=
      [⟨.willing .live,.builtin,.create { mountPath := "/a", driver := "memory" }⟩]
    let state := (start { name := "storages" }).run steps
    let ended := ((shutdownAll (.willing .live)).run state).2
    let loaded := (Operation.load (.willing .live) .builtin 10).run.run state
    (∀ step ∈ steps, step.world.Works) ∧ (∀ step ∈ steps, step.request ≠ .restart) ∧
      (state.driver 0).isInitialized = true ∧ ¬ state.Displaced 0 ∧
      (ended.driver 0).isInitialized ≠ true ∧ loaded.1 = .ok 1 ∧
      (loaded.2.driver 0).isInitialized = true ∧
      (∀ path, loaded.2.registry.load path ≠ some 0) ∧ loaded.2.Displaced 0 := by
  intro steps state ended loaded
  have works : ∀ step ∈ steps, step.world.Works :=
    List.forall_mem_singleton.mpr (World.works_willing .live)
  have running : ∀ step ∈ steps, step.request ≠ .restart := by decide
  have mounted : state.registry.load "/a" = some 0 := by decide +kernel
  have initialized : (state.driver 0).isInitialized = true := by decide +kernel
  have present : { id := ⟨1⟩, mountPath := "/a", driver := "memory", modified := 7 } ∈
      state.table.storages := by
    decide +kernel
  have known : Catalog.builtin.find? "memory" = some .memory := by decide
  have listed : loaded.1 = .ok 1 := by decide +kernel
  obtain ⟨_,owned,ends,loads⟩ := initialized_mounted "storages" works running
  have kept := (owned 0 initialized).mp ⟨"/a",mounted⟩
  have released := ends (World.works_willing .live) 0
  have displaced := loads (World.works_willing .live) present mounted initialized known
    (World.accepts_memory rfl rfl)
    (Prod.ext listed rfl : Ends (Operation.load (.willing .live) .builtin 10) state _ loaded.2)
  change ¬ state.Displaced 0 at kept
  change (ended.driver 0).isInitialized = true ↔ _ ∧ state.Displaced 0 at released
  change loaded.2.driver 0 = state.driver 0 ∧ _ at displaced
  clear_value state ended loaded
  obtain ⟨same,unmounted,displaced⟩ := displaced
  exact ⟨works,running,initialized,kept,fun still => kept (released.mp still).2,listed,
    same ▸ initialized,unmounted,displaced⟩

/-- After everything has been let go, a driver is initialized whose row has been loaded while it
was mounted. -/
theorem initialized_unmounted :
    let steps : List Step :=
      [⟨.willing .live,.builtin,.create { mountPath := "/a", driver := "memory" }⟩,
        ⟨.willing .live,.builtin,.load 10⟩,⟨.willing .live,.builtin,.shutdownAll⟩]
    let state := (start { name := "storages" }).run steps
    (∀ step ∈ steps, step.world.Works) ∧ (∀ step ∈ steps, step.request ≠ .restart) ∧
      state.registry.entries = [] ∧ (state.driver 0).isInitialized = true ∧
      (state.driver 1).isInitialized = false := by
  intro steps state
  have live := World.works_willing .live
  have works : ∀ step ∈ steps, step.world.Works :=
    List.forall_mem_cons.mpr ⟨live,List.forall_mem_cons.mpr ⟨live,
      List.forall_mem_singleton.mpr live⟩⟩
  exact ⟨works,by decide,by decide +kernel,by decide +kernel,by decide +kernel⟩

end State
end MountHub
