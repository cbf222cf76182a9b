import MountHub.Proofs.Manager.Reload
import MountHub.Proofs.Manager.Turn
import MountHub.Proofs.Table.Contents

/-! The end of a manager, and a load after it. Each mounted driver is told once to let go, and
whether it does or not, nothing stays mounted; the rows are there to be mounted again. -/
namespace MountHub
open Operation Call

variable {world : World} {catalog : Catalog} {state after : State} {path : String} {number : Nat}

/-- What is told of a mount that is to go: how its driver answers, and a warning if it does not
let go. -/
def State.told (state : State) (path : String) (number : Nat) (reply : Except DriverError Unit) :
    List Event :=
  .shutdown number (state.driver number).kind (state.driver number).storage reply ::
    match reply with
    | .ok _ => []
    | .error cause => [.logged ⟨.manager,.warn,"failed drop storage: " ++ cause.message,
        [("mount_path",path)]⟩]

theorem State.told_congr (same : after.driver number = state.driver number) (path : String)
    (reply : Except DriverError Unit) :
    after.told path number reply = state.told path number reply := by
  unfold told
  rw [same]

namespace LetGo

theorem cursors_eq (letGo : LetGo world path number state after) :
    after.cursors = state.cursors := by
  cases letGo <;> rfl

theorem events_eq (letGo : LetGo world path number state after) :
    after.events = (state.told path number
      ((state.driver number).shutdown (world state.events).toOutside).1).reverse ++
        state.events := by
  cases letGo with
  | unreleased refused =>
    rw [refused]
    rfl
  | released done =>
    rw [done,State.told,← Driver.kind_of_shutdown done,← Driver.storage_of_shutdown done]
    rfl

end LetGo

namespace Call

/-- Drivers that are let go answer in turn, each once. -/
theorem release_told (world : World) {entries : List (String × Nat)}
    (distinct : (entries.map Prod.snd).Nodup) (state : State) :
    let ended := (release world entries).run state
    ended.1 = entries.length ∧ ended.2.table = state.table ∧ ended.2.cursors = state.cursors ∧
      ∃ reply : Nat → Except DriverError Unit,
        (∀ number, ∃ events,
          reply number = ((state.driver number).shutdown (world events).toOutside).1) ∧
        ended.2.events = (entries.flatMap fun entry =>
          state.told entry.1 entry.2 (reply entry.2)).reverse ++ state.events := by
  induction entries generalizing state with
  | nil => exact ⟨rfl,rfl,rfl,_,fun _ => ⟨[],rfl⟩,rfl⟩
  | cons entry more ih =>
    obtain ⟨path,number⟩ := entry
    obtain ⟨alone,rest⟩ := List.nodup_cons.mp distinct
    obtain ⟨middle,letGo,same⟩ := release_cons world path number more state
    obtain ⟨count,table,cursors,reply,answers,told⟩ := ih rest middle
    let answer := ((state.driver number).shutdown (world state.events).toOutside).1
    let replies : Nat → Except DriverError Unit := Function.update reply number answer
    have here : replies number = answer := Function.update_self ..
    have there {other : Nat} (different : other ≠ number) : replies other = reply other :=
      Function.update_of_ne different ..
    -- The drivers after the first are others, and stay as they are until it is their turn.
    have later : (more.flatMap fun entry => middle.told entry.1 entry.2 (reply entry.2)) =
        more.flatMap fun entry => state.told entry.1 entry.2 (replies entry.2) := by
      apply List.flatMap_congr
      intro entry member
      have different : entry.2 ≠ number := fun same =>
        alone (List.mem_map.mpr ⟨entry,member,same⟩)
      rw [there different,State.told_congr (letGo.driver_eq different)]
    rw [same]
    refine ⟨congrArg (· + 1) count,table.trans letGo.table_eq,cursors.trans letGo.cursors_eq,
      replies,fun other => ?_,?_⟩
    · by_cases same : other = number
      · exact ⟨state.events,same ▸ here⟩
      · obtain ⟨events,answered⟩ := answers other
        exact ⟨events,by rw [there same,answered,letGo.driver_eq same]⟩
    · rw [told,letGo.events_eq,later,List.flatMap_cons,List.reverse_append,List.append_assoc,here]

end Call

namespace State

theorem Sound.nodup_driver (sound : state.Sound) :
    (state.registry.entries.map Prod.snd).Nodup := by
  refine List.Nodup.map_on ?_ (List.Nodup.of_map Prod.fst state.registry.nodup)
  rintro ⟨first,number⟩ one ⟨second,_⟩ two rfl
  have here := (state.registry.mem_entries_iff first number).mp one
  have there := (state.registry.mem_entries_iff second number).mp two
  rw [sound.path_eq here there]

theorem entries_shutdownAll (world : World) (state : State) :
    ((shutdownAll world).run state).2.registry.entries = [] := by
  rw [List.eq_nil_iff_forall_not_mem]
  rintro ⟨path,number⟩ member
  have found := (Registry.mem_entries_iff _ _ _).mp member
  rw [load_shutdownAll] at found
  cases found

theorem views_of_empty (empty : state.registry.entries = []) :
    state.mounts = [] ∧ ∀ path, state.storagesByPath path = [] ∧ state.virtualChildren path = [] := by
  have nothing : state.mounted = [] := by rw [mounted,empty]; rfl
  refine ⟨?_,fun path => ⟨?_,?_⟩⟩
  · rw [mounts,nothing]
    simp [Mounted.summaries,Mounted.listed]
  · rw [storagesByPath,nothing]
    simp [Mounted.resolve]
  · rw [virtualChildren,nothing]
    simp [Mounted.children,Mounted.listed,Mounted.firstOfName]

/-- The rows are the same as before, and each is mounted as it stands; nothing else is mounted. -/
structure Remounts (state after : State) : Prop where
  table : after.table = state.table
  mounts : (after.mounted.map fun mounted => (mounted.key,mounted.storage)).Perm
    (state.table.storages.map fun row => (row.mountPath,row))

/-- A load while nothing is mounted, in which each row is taken by its driver, mounts the rows as
they stand and nothing else. -/
theorem load_every {size : UInt64} {reply : Except StorageError Nat} (sound : state.Sound)
    (empty : ∀ path, state.registry.load path = none)
    (ends : Ends (load world catalog size) state reply after)
    (every : ∀ row ∈ state.table.storages, (row,.ok ()) ∈ after.inits.drop state.inits.length) :
    state.Remounts after ∧
      ((∀ events page size, (world events).refusesCall (.list page size) = none) →
        reply = .ok state.table.rows.length) := by
  obtain ⟨done,inits,table,loaded,part,mirrors,complete⟩ := load_taken sound empty ends
  have all : ∀ row ∈ state.table.storages, row ∈ taken done := by
    intro row member
    have well := every row member
    rw [inits,List.drop_left] at well
    exact mem_taken.mpr well
  refine ⟨⟨table,?_⟩,fun listed => ?_⟩
  · have shows := loaded.mounted_perm id fun row member =>
      mirrors.mounted row (all row (table ▸ member))
    rw [table] at shows
    exact shows
  · have size : (taken done).length = state.table.shown.length := by
      apply le_antisymm part.length_le
      apply sound.table.nodup_shown.length_le_of_subset
      exact fun row member => all row (Table.mem_shown.mp member)
    rw [(complete listed).1,size,Table.length_shown]

/-- A load while nothing is mounted binds a driver to each row, once and in listing order, if it is
not refused a page and drivers of the types that the rows have take them. -/
theorem load_accepted {size : UInt64} {reply : Except StorageError Nat} (sound : state.Sound)
    (empty : ∀ path, state.registry.load path = none)
    (ends : Ends (load world catalog size) state reply after)
    (listed : ∀ events page size, (world events).refusesCall (.list page size) = none)
    (accepts : ∀ row ∈ state.table.storages, ∃ kind,
      catalog.find? row.driver = some kind ∧ world.Accepts kind row) :
    after.inits = state.inits ++ state.table.shown.map fun row => (row,.ok ()) := by
  obtain ⟨done,inits,_,_,_,_,complete⟩ := load_taken sound empty ends
  obtain ⟨replied,passed⟩ := complete listed
  have all : done.map Prod.fst = state.table.shown := by
    rw [passed,List.filter_eq_self]
    intro row member
    obtain ⟨kind,known,_⟩ := accepts row (Table.mem_shown.mp member)
    rw [Catalog.contains,known]
    rfl
  have counted : LoadInvariant world catalog state.table fun passed count _ =>
      count = passed.length := by
    refine ⟨fun _ holds => holds,?_⟩
    rintro passed count row middle well after _ member rfl loaded
    obtain ⟨kind,known,takes⟩ := accepts row member
    rw [loaded.well_eq known takes,List.length_append]
    rfl
  obtain ⟨count,_,_,rfl,again⟩ := counted.load_all sound.table.length_lt listed rfl size
  -- As many rows are taken as there are, so none is refused.
  have full : (done.filter fun init => init.2.isOk).length = done.length := by
    obtain ⟨same,_⟩ := Prod.mk.inj (again.symm.trans ends)
    rw [replied,← all,List.length_map,taken,List.length_map] at same
    exact (Except.ok.inj same).symm
  rw [List.length_filter_eq_length_iff] at full
  rw [inits,← all,List.map_map]
  refine congrArg (state.inits ++ ·) ((List.map_id done).symm.trans (List.map_congr_left ?_))
  rintro ⟨row,_ | _⟩ member
  · cases full _ member
  · rfl

/-- At the end of a manager, in every state and world, each mounted driver is told once to let go,
and no other is; for each that does not, one warning is written. Nothing stays mounted, and rows
and cursors stay as they were. A load after it in which each row is taken by its driver mounts every
row again, as it stands, and nothing else. So it is where no page is refused and drivers of the
types that the rows have take them: then each row is bound once, in listing order. -/
theorem shutdown_reload (name : String) (steps : List Step) (world : World) :
    let state := (start { name }).run steps
    let released := ((shutdownAll world).run state).1
    let ended := ((shutdownAll world).run state).2
    released = state.registry.size ∧ (state.registry.entries.map Prod.snd).Nodup ∧
      (∃ reply : Nat → Except DriverError Unit,
        (∀ number, ∃ events,
          reply number = ((state.driver number).shutdown (world events).toOutside).1) ∧
        ended.events = (state.registry.entries.flatMap fun entry =>
          state.told entry.1 entry.2 (reply entry.2)).reverse ++ state.events) ∧
      ended.registry.entries = [] ∧ ended.table = state.table ∧ ended.cursors = state.cursors ∧
      ended.mounts = [] ∧
      (∀ path, ended.storagesByPath path = [] ∧ ended.virtualChildren path = []) ∧
      ∀ (later : World) (catalog : Catalog) (size : UInt64),
        let reply := ((load later catalog size).run.run ended).1
        let loaded := ((load later catalog size).run.run ended).2
        ((∀ row ∈ state.table.storages, (row,.ok ()) ∈ loaded.inits.drop ended.inits.length) →
          state.Remounts loaded ∧
          ((∀ events page size, (later events).refusesCall (.list page size) = none) →
            reply = .ok state.table.rows.length)) ∧
        ((∀ events page size, (later events).refusesCall (.list page size) = none) →
          (∀ row ∈ state.table.storages, ∃ kind,
            catalog.find? row.driver = some kind ∧ later.Accepts kind row) →
          loaded.inits = ended.inits ++ (state.table.shown.map fun row => (row,.ok ())) ∧
          state.Remounts loaded ∧ reply = .ok state.table.rows.length) := by
  intro state released ended
  have sound : state.Sound := sound_run name steps
  have distinct := sound.nodup_driver
  obtain ⟨count,table,cursors,told⟩ := release_told world distinct state
  have empty : ended.registry.entries = [] := entries_shutdownAll world state
  obtain ⟨mounts,views⟩ := views_of_empty empty
  refine ⟨count,distinct,told,empty,table,cursors,mounts,views,?_⟩
  intro later catalog size reply loaded
  have kept : ended.Sound := shutdownAll_mounted (fun _ letGo sound => letGo.sound sound) sound
  have same : ended.table = state.table := table
  have ends : Ends (load later catalog size) ended reply loaded := ends_run _ _
  have nothing := load_shutdownAll world state
  have every := load_every kept nothing ends
  have remounts (mounts : ended.Remounts loaded) : state.Remounts loaded :=
    ⟨mounts.table.trans same,same ▸ mounts.mounts⟩
  rw [same] at every
  refine ⟨fun taken => (every taken).imp_left remounts,fun listed accepts => ?_⟩
  have inits := load_accepted kept nothing ends listed (same ▸ accepts)
  rw [same] at inits
  obtain ⟨mounts,complete⟩ := every fun row member => by
    rw [inits,List.drop_left]
    exact List.mem_map.mpr ⟨row,Table.mem_shown.mpr member,rfl⟩
  exact ⟨inits,remounts mounts,complete listed⟩

/-- A driver that does not let go is left behind as it is, and a new one is mounted for its row. -/
theorem shutdown_reload_refused :
    let catalog := Catalog.builtin.register "remote" .external
    let stubborn : World := fun events =>
      { World.willing .live events with refusesShutdown := fun _ => some (.unavailable "lost") }
    let state := (start { name := "storages" }).run
      [⟨.willing .live,catalog,.create { mountPath := "/r", driver := "remote" }⟩]
    let ended := ((shutdownAll stubborn).run state).2
    let reply := ((load (.willing .live) catalog 10).run.run ended).1
    let loaded := ((load (.willing .live) catalog 10).run.run ended).2
    (∀ row ∈ state.table.storages, (row,.ok ()) ∈ loaded.inits.drop ended.inits.length) ∧
      (∀ events page size,
        (World.willing .live events).refusesCall (.list page size) = none) ∧
      (∀ row ∈ state.table.storages, ∃ kind,
        catalog.find? row.driver = some kind ∧ (World.willing .live).Accepts kind row) ∧
      (ended.driver 0).isInitialized = true ∧ ended.registry.entries = [] ∧ reply = .ok 1 ∧
      loaded.inits = ended.inits ++ (state.table.shown.map fun row => (row,.ok ())) ∧
      state.Remounts loaded := by
  intro catalog stubborn state ended reply loaded
  have every : ∀ row ∈ state.table.storages,
      (row,.ok ()) ∈ loaded.inits.drop ended.inits.length := by
    decide +kernel
  have listed : ∀ events page size,
      (World.willing .live events).refusesCall (.list page size) = none := fun _ _ _ => rfl
  have held : (ended.driver 0).isInitialized = true := by decide +kernel
  have one : state.table.rows.length = 1 := by decide +kernel
  have remote : ∀ row ∈ state.table.storages, catalog.find? row.driver = some .external := by
    decide +kernel
  have accepts : ∀ row ∈ state.table.storages, ∃ kind,
      catalog.find? row.driver = some kind ∧ (World.willing .live).Accepts kind row :=
    fun row member => ⟨.external,remote row member,World.accepts_external .live⟩
  obtain ⟨_,_,_,empty,_,_,_,_,again⟩ := shutdown_reload "storages"
    [⟨.willing .live,catalog,.create { mountPath := "/r", driver := "remote" }⟩] stubborn
  obtain ⟨told,accepted⟩ := again (.willing .live) catalog 10
  obtain ⟨mounts,complete⟩ := told every
  obtain ⟨inits,_,_⟩ := accepted listed accepts
  exact ⟨every,listed,accepts,held,empty,one ▸ complete listed,inits,mounts⟩

end State
end MountHub
