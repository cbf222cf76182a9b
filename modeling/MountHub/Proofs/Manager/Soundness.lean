import MountHub.Proofs.Manager.Run

/-! What stands behind a mount. In every state that a manager comes to, a driver is mounted
at the path that it is bound to, and the table has the row that it is bound to. -/
namespace MountHub

variable {world : World} {catalog : Catalog} {storage old : Storage} {state after : State}
  {number : Nat} {path : String} {lines : List LogRecord}

namespace State

/-- The driver was made, is bound to the path, and has a row there. -/
structure Backed (state : State) (path : String) (number : Nat) : Prop where
  made : number < state.drivers.length
  place : (state.driver number).storage.mountPath = path
  row : ∃ row ∈ state.table.storages, row.id = (state.driver number).storage.id ∧
    row.mountPath = path ∧ row.driver = (state.driver number).storage.driver

structure Sound (state : State) : Prop where
  table : state.table.Sound
  canonical : ∀ row ∈ state.table.storages, Path.Canonical row.mountPath
  backed : ∀ {path number}, state.registry.load path = some number → state.Backed path number

/-- Every driver is still there, bound to the same storage. -/
def Keeps (state after : State) : Prop :=
  ∀ number < state.drivers.length,
    number < after.drivers.length ∧ (after.driver number).storage = (state.driver number).storage

theorem keeps_of_drivers_eq (same : after.drivers = state.drivers) : state.Keeps after := by
  intro number made
  rw [same,driver_congr same]
  exact ⟨made,rfl⟩

theorem keeps_made (state : State) (kind : DriverKind) : state.Keeps (state.made kind) := by
  intro number made
  rw [driver_made,if_neg (by omega),made_drivers,List.length_append]
  exact ⟨by omega,rfl⟩

theorem keeps_released {held : Driver} (same : held.storage = (state.driver number).storage) :
    state.Keeps (state.released number held) := by
  intro other made
  rw [released_drivers,List.length_set]
  refine ⟨made,?_⟩
  rcases driver_released_cases state number held other with ⟨rfl,gone⟩ | stays
  · rw [gone,same]
  · rw [stays]

theorem keeps_freed {held : Driver} (id : StorageId)
    (same : held.storage = (state.driver number).storage) :
    state.Keeps (state.freed id number held) :=
  fun other made => keeps_released same other made

theorem sound_start (name : String) : (State.start { name }).Sound where
  table := Table.sound_empty name
  canonical := by simp [start,Table.storages]
  backed := by
    intro path number found
    cases found

namespace Sound

/-- Nothing new is mounted, drivers keep their storages, and the rows of those that stay
mounted keep id, mount path and driver type. -/
theorem keep (sound : state.Sound) (table : after.table.Sound)
    (canonical : ∀ row ∈ after.table.storages, Path.Canonical row.mountPath)
    (keeps : state.Keeps after)
    (mounts : ∀ path number, after.registry.load path = some number →
      state.registry.load path = some number ∧
      ∀ row ∈ state.table.storages, row.mountPath = path → ∃ kept ∈ after.table.storages,
        kept.id = row.id ∧ kept.mountPath = row.mountPath ∧ kept.driver = row.driver) :
    after.Sound where
  table := table
  canonical := canonical
  backed := by
    intro path number found
    obtain ⟨before,rows⟩ := mounts path number found
    obtain ⟨made,place,row,member,id,here,driver⟩ := sound.backed before
    obtain ⟨still,same⟩ := keeps number made
    obtain ⟨kept,inside,keptId,keptPath,keptDriver⟩ := rows row member here
    refine ⟨still,same ▸ place,kept,inside,?_,keptPath.trans here,?_⟩
    · rw [keptId,id,same]
    · rw [keptDriver,driver,same]

/-- The table stays, nothing new is mounted, and drivers keep their storages. -/
theorem same_table (sound : state.Sound) (table : after.table = state.table)
    (keeps : state.Keeps after)
    (mounts : ∀ path number, after.registry.load path = some number →
      state.registry.load path = some number) : after.Sound :=
  sound.keep (table ▸ sound.table) (table ▸ sound.canonical) keeps fun path number found =>
    ⟨mounts path number found,fun row member _ => ⟨row,table ▸ member,rfl,rfl,rfl⟩⟩

theorem same_drivers (sound : state.Sound) (table : after.table = state.table)
    (drivers : after.drivers = state.drivers) (registry : after.registry = state.registry) :
    after.Sound :=
  sound.same_table table (keeps_of_drivers_eq drivers) fun _ _ found => registry ▸ found

theorem note (sound : state.Sound) (event : Event) : (state.note event).Sound :=
  sound.same_drivers rfl rfl rfl

theorem made (sound : state.Sound) (kind : DriverKind) : (state.made kind).Sound :=
  sound.same_table rfl (keeps_made state kind) fun _ _ found => found

theorem restart (sound : state.Sound) : state.restart.Sound :=
  sound.same_table rfl (keeps_of_drivers_eq rfl) fun _ _ found => nomatch found

theorem vacated (sound : state.Sound) (path : String) : (state.vacated path).Sound :=
  sound.same_table rfl (keeps_of_drivers_eq rfl) fun other number found => by
    rw [load_vacated] at found
    split at found
    · cases found
    · exact found

theorem released (sound : state.Sound) {outside : Outside} {done : Except DriverError Unit}
    {held : Driver} (released : (state.driver number).shutdown outside = (done,held)) :
    (state.released number held).Sound := by
  have same := Driver.storage_of_shutdown released
  exact sound.same_table rfl (keeps_released same) fun _ _ found => found

/-- A driver is bound to a row and mounted there, if it is mounted nowhere else. -/
theorem mount (sound : state.Sound) {held : Driver} (made : number < state.drivers.length)
    (holds : held.storage = storage) (row : storage ∈ state.table.storages)
    (only : ∀ path, state.registry.load path = some number → path = storage.mountPath) :
    (state.seated number storage held lines).Sound where
  table := sound.table
  canonical := sound.canonical
  backed := by
    intro path other found
    rw [load_seated] at found
    split at found
    · rename_i here
      obtain rfl := Option.some.inj found
      have bound : ((state.seated number storage held lines).driver number).storage = storage := by
        rw [driver_seated _ _ _ made,if_pos rfl,holds]
      refine ⟨?_,?_,storage,row,?_,here,?_⟩
      · rw [seated_drivers,List.length_set]
        exact made
      · rw [bound,here]
      · rw [bound]
      · rw [bound]
    · rename_i elsewhere
      have different : other ≠ number := by
        rintro rfl
        exact elsewhere (only path found).symm
      obtain ⟨there,place,kept,inside,facts⟩ := sound.backed found
      have same : (state.seated number storage held lines).driver other = state.driver other := by
        rw [driver_seated _ _ _ made,if_neg different]
      refine ⟨?_,?_,kept,inside,?_⟩
      · rw [seated_drivers,List.length_set]
        exact there
      · rw [same]
        exact place
      · rw [same]
        exact facts

/-- A row takes a new configuration of the same id and driver type. Where its mount path
changes, nothing is mounted at the old one any more. -/
theorem rewrite (sound : state.Sound) {changed : Table} (present : old ∈ state.table.storages)
    (id : old.id = storage.id) (driver : old.driver = storage.driver)
    (canonical : Path.Canonical storage.mountPath)
    (updated : state.table.update storage = .ok changed) (table : after.table = changed)
    (keeps : state.Keeps after)
    (mounts : ∀ path number, after.registry.load path = some number →
      state.registry.load path = some number ∧ (old.mountPath = path → storage.mountPath = path)) :
    after.Sound := by
  subst table
  refine sound.keep (sound.table.update updated) ?_ keeps ?_
  · intro row member
    rcases (Table.mem_update updated).mp member with rfl | ⟨before,_⟩
    · exact canonical
    · exact sound.canonical row before
  · intro path number found
    obtain ⟨before,stays⟩ := mounts path number found
    refine ⟨before,fun row member here => ?_⟩
    by_cases same : row.id = storage.id
    · obtain rfl := sound.table.eq_of_id member present (same.trans id.symm)
      exact ⟨storage,(Table.mem_update updated).mpr (.inl rfl),id.symm,(stays here).trans here.symm,
        driver.symm⟩
    · exact ⟨row,(Table.mem_update updated).mpr (.inr ⟨member,same⟩),rfl,rfl,rfl⟩

end Sound
end State

open State

theorem Mounting.sound {step : String} {reply : Except StorageError Unit}
    (mounting : Mounting world step lines number storage state reply after) (sound : state.Sound)
    (made : number < state.drivers.length) (row : storage ∈ state.table.storages)
    (only : ∀ path, state.registry.load path = some number → path = storage.mountPath) :
    after.Sound := by
  cases mounting with
  | unbound => exact sound.note _
  | done bound => exact sound.mount made (Driver.storage_of_init_ok bound) row only

theorem State.Sound.load_ne_length (sound : state.Sound) (path : String) :
    state.registry.load path ≠ some state.drivers.length := by
  intro found
  have made := (sound.backed found).made
  omega

/-- The live copy of a mounted driver has its path in the one spelling. -/
theorem State.Sound.canonical_live (sound : state.Sound)
    (found : state.registry.load path = some number) :
    Path.Canonical (state.driver number).storage.mountPath := by
  obtain ⟨_,place,row,member,_,here,_⟩ := sound.backed found
  rw [place,← here]
  exact sound.canonical row member

/-- An update does not make away with the driver that it has let go. -/
theorem State.Sound.made_released (sound : state.Sound)
    (found : state.registry.load path = some number) (changed : Table) (held : Driver) :
    number < ((state.rewritten old storage changed).released number held).drivers.length := by
  rw [released_drivers,List.length_set,rewritten_drivers]
  exact (sound.backed found).made

theorem State.Sound.driver_released (sound : state.Sound)
    (found : state.registry.load path = some number) {changed : Table} {held : Driver} :
    ((state.rewritten old storage changed).released number held).driver number = held := by
  rw [State.driver_released,if_pos rfl]
  rw [rewritten_drivers]
  exact (sound.backed found).made

theorem Created.sound {reply : Except StorageError StorageId}
    (created : Created world catalog storage state reply after) (sound : state.Sound)
    (canonical : Path.Canonical storage.mountPath) : after.Sound := by
  cases created with
  | unsupported => exact sound
  | unwritten => exact (sound.made _).note _
  | @written kind id changed _ _ known created mounting =>
    have kept := World.ok_of_answers created
    have grown : ((state.made kind).written (.create storage) changed).Sound := by
      refine sound.keep (sound.table.create kept) ?_ (keeps_made state kind) ?_
      · intro row member
        rcases (Table.mem_create kept).mp member with before | rfl
        · exact sound.canonical row before
        · exact canonical
      · intro path number found
        exact ⟨found,fun row member _ =>
          ⟨row,(Table.mem_create kept).mpr (.inl member),rfl,rfl,rfl⟩⟩
    apply mounting.sound grown
    · simp
    · exact (Table.mem_create kept).mpr (.inr rfl)
    · exact fun path found => absurd found (sound.load_ne_length path)

theorem Rewriting.sound {changed : Table} (rewriting : Rewriting world old storage state changed)
    (sound : state.Sound) (canonical : Path.Canonical storage.mountPath) :
    (state.rewritten old storage changed).Sound := by
  obtain ⟨present,id⟩ := rewriting.present
  refine sound.rewrite present id rewriting.sameDriver canonical rewriting.updated
    (rewritten_table changed) (keeps_of_drivers_eq (rewritten_drivers changed)) ?_
  intro path number found
  rw [rewritten,load_left] at found
  split at found
  · cases found
  · rename_i stays
    refine ⟨found,fun here => ?_⟩
    by_contra moved
    exact stays ⟨here,fun same => moved (same.symm.trans here)⟩

theorem Updated.sound {reply : Except StorageError Unit}
    (updated : Updated world storage state reply after) (sound : state.Sound)
    (canonical : Path.Canonical storage.mountPath) : after.Sound := by
  cases updated with
  | unread => exact sound.note _
  | otherDriver => exact sound.note _
  | unwritten => exact (sound.note _).note _
  | unmounted rewriting => exact rewriting.sound sound canonical
  | unreleased rewriting => exact (rewriting.sound sound canonical).note _
  | @released old changed number held _ _ rewriting found done mounting =>
    have rewritten := rewriting.sound sound canonical
    rw [← driver_rewritten changed number] at done
    apply mounting.sound (rewritten.released done)
    · exact sound.made_released found changed held
    · rw [released_table,rewritten_table]
      exact (Table.mem_update rewriting.updated).mpr (.inl rfl)
    · -- The driver was mounted at the old path alone, and is gone from there if it moves.
      intro path mounted
      rw [released_registry,State.rewritten,load_left] at mounted
      split at mounted
      · cases mounted
      · rename_i stays
        have here : old.mountPath = path :=
          (sound.backed found).place.symm.trans (sound.backed mounted).place
        by_contra moved
        exact stays ⟨here,fun same => moved (here.symm.trans same)⟩

theorem Deleted.sound {id : StorageId} {reply : Except StorageError Unit}
    (deleted : Deleted world id state reply after) (sound : state.Sound) : after.Sound := by
  cases deleted with
  | unread => exact sound.note _
  | unmounted => exact sound.note _
  | unreleased => exact (sound.note _).note _
  | undeleted _ _ done => exact ((sound.note _).released done).note _
  | @done storage number held changed read found done deleted =>
    obtain ⟨present,same⟩ := Table.mem_of_get_eq_ok (World.ok_of_answers read)
    have gone := World.ok_of_answers deleted
    have kept := Driver.storage_of_shutdown done
    apply Sound.note
    refine sound.keep (sound.table.delete gone) ?_ (keeps_released kept) ?_
    · exact fun row member => sound.canonical row ((Table.mem_delete gone).mp member).1
    · intro path other mounted
      rw [load_vacated] at mounted
      split at mounted
      · cases mounted
      · rename_i elsewhere
        refine ⟨mounted,fun row member here => ⟨row,?_,rfl,rfl,rfl⟩⟩
        refine (Table.mem_delete gone).mpr ⟨member,fun rowId => elsewhere ?_⟩
        rw [← here,sound.table.eq_of_id member present (rowId.trans same.symm)]

theorem Saved.sound {reply : Except StorageError Unit}
    (saved : Saved world number state reply after) (sound : state.Sound)
    (mounted : state.registry.load path = some number) : after.Sound := by
  cases saved with
  | unserialized => exact sound.note _
  | unwritten => exact (sound.note _).note _
  | @done addition changed given written =>
    have canonical : Path.Canonical (state.live number addition).mountPath :=
      sound.canonical_live mounted
    obtain ⟨_,place,row,member,id,here,driver⟩ := sound.backed mounted
    have live : (state.live number addition).mountPath = row.mountPath := place.trans here.symm
    have sameId : row.id = (state.live number addition).id := id
    refine sound.rewrite member sameId driver canonical (World.ok_of_answers written) rfl
      (keeps_of_drivers_eq rfl) ?_
    exact fun other _ found => ⟨found,fun same => live.trans same⟩

theorem Loaded.sound {well : Bool} (loaded : Loaded world catalog storage state well after)
    (sound : state.Sound) (row : storage ∈ state.table.storages) : after.Sound := by
  have mounted {kind : DriverKind} {reply : Except StorageError Unit} {middle : State}
      (mounting : Mounting world "failed init storage" [] state.drivers.length storage
        (state.made kind) reply middle) : middle.Sound := by
    apply mounting.sound (sound.made kind)
    · simp
    · exact row
    · exact fun path found => absurd found (sound.load_ne_length path)
  cases loaded with
  | unsupported => exact sound.note _
  | unbound _ mounting => exact (mounted mounting).note _
  | done _ mounting => exact mounted mounting

theorem LetGo.sound (letGo : LetGo world path number state after) (sound : state.Sound) :
    after.Sound := by
  cases letGo with
  | unreleased => exact ((sound.note _).note _).vacated path
  | released done => exact (sound.released done).vacated path

theorem stepInvariant_sound (world : World) (catalog : Catalog) :
    StepInvariant world catalog State.Sound where
  short sound := sound.table.length_lt
  noted _ sound := sound.note _
  turned _ sound := sound.same_drivers rfl rfl rfl
  created canonical sound created := created.sound sound canonical
  updated canonical sound updated := updated.sound sound canonical
  deleted sound deleted := deleted.sound sound
  saved mounted sound saved := saved.sound sound mounted
  loaded row sound loaded := loaded.sound sound row
  letGo sound letGo := letGo.sound sound
  restarted sound := sound.restart

namespace State

theorem sound_run (name : String) (steps : List Step) :
    ((start { name }).run steps).Sound :=
  StepInvariant.run stepInvariant_sound (sound_start name) steps

theorem mem_mounted {mounted : Mounted} :
    mounted ∈ state.mounted ↔ state.registry.load mounted.key = some mounted.driver ∧
      mounted.storage = (state.driver mounted.driver).storage := by
  rw [State.mounted,List.mem_map]
  constructor
  · rintro ⟨⟨path,number⟩,member,rfl⟩
    exact ⟨(state.registry.mem_entries_iff path number).mp member,rfl⟩
  · rintro ⟨found,same⟩
    refine ⟨(mounted.key,mounted.driver),(state.registry.mem_entries_iff _ _).mpr found,?_⟩
    rw [← same]

theorem nodup_key (state : State) : (state.mounted.map Mounted.key).Nodup := by
  have keys := state.registry.nodup
  rw [State.mounted,List.map_map]
  exact keys

/-- Mounts have paths of their own. -/
theorem Sound.nodup_mountPath (sound : state.Sound) :
    (state.mounted.map fun mounted => mounted.storage.mountPath).Nodup := by
  have places : (state.mounted.map fun mounted => mounted.storage.mountPath) =
      state.mounted.map Mounted.key := by
    apply List.map_congr_left
    intro mounted member
    obtain ⟨found,same⟩ := mem_mounted.mp member
    rw [same]
    exact (sound.backed found).place
  rw [places]
  exact state.nodup_key

theorem Sound.key_eq (sound : state.Sound) {first second : Mounted} (one : first ∈ state.mounted)
    (two : second ∈ state.mounted)
    (shared : first.driver = second.driver ∨ first.storage.id = second.storage.id) :
    first.key = second.key := by
  obtain ⟨firstFound,firstSame⟩ := mem_mounted.mp one
  obtain ⟨secondFound,secondSame⟩ := mem_mounted.mp two
  have firstBacked := sound.backed firstFound
  have secondBacked := sound.backed secondFound
  rcases shared with driver | id
  · rw [← firstBacked.place,← secondBacked.place,driver]
  · obtain ⟨firstRow,firstMember,firstId,firstPath,_⟩ := firstBacked.row
    obtain ⟨secondRow,secondMember,secondId,secondPath,_⟩ := secondBacked.row
    have same : firstRow.id = secondRow.id := by
      rw [firstId,secondId,← firstSame,← secondSame,id]
    rw [← firstPath,← secondPath,sound.table.eq_of_id firstMember secondMember same]

/-- Along every run over a new table, whatever fails on the way: a driver is mounted at the
path that it is bound to, and the table has a row for it, with its id, at that path and of its
driver type; no driver and no id is mounted twice; rows have their paths in the one spelling,
and no two of them share a path or an id. -/
theorem mounted_backed (name : String) (steps : List Step) :
    let state := (start { name }).run steps
    (∀ mounted ∈ state.mounted, mounted.storage.mountPath = mounted.key ∧
      ∃ row, state.table.get mounted.storage.id = .ok row ∧ row.mountPath = mounted.key ∧
        row.driver = mounted.storage.driver) ∧
    (∀ first ∈ state.mounted, ∀ second ∈ state.mounted,
      first.driver = second.driver ∨ first.storage.id = second.storage.id →
        first.key = second.key) ∧
    (∀ row ∈ state.table.rows, Path.Canonical row.mountPath) ∧
    (state.table.rows.map (·.mountPath)).Nodup ∧ (state.table.rows.map (·.id)).Nodup := by
  intro state
  have sound := sound_run name steps
  refine ⟨?_,fun first one second two => sound.key_eq one two,?_,?_,?_⟩
  · intro mounted member
    obtain ⟨found,same⟩ := mem_mounted.mp member
    obtain ⟨_,place,row,inside,id,here,driver⟩ := sound.backed found
    rw [same]
    exact ⟨place,row,id ▸ sound.table.get_of_mem inside,here,driver⟩
  · exact fun row member => sound.canonical row.storage (List.mem_map_of_mem member)
  · have paths := sound.table.paths
    rw [Table.storages,List.map_map] at paths
    exact paths
  · have ids := sound.table.ids
    rw [Table.storages,List.map_map] at ids
    refine List.Nodup.of_map (fun key : Int64 => StorageId.mk key.toUInt64) ?_
    rw [List.map_map]
    exact ids

end State
end MountHub
