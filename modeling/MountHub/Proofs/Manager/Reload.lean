import MountHub.Proofs.Manager.Paging
import MountHub.Proofs.Manager.Settled

/-! Restarts. A new manager that loads the rows shows what the old one showed: both have
mounted every row, and nothing else. -/
namespace MountHub

variable {world : World} {catalog : Catalog} {storage : Storage} {state after : State}
  {lines : List LogRecord}

/-- The storages that drivers took, of those that they were to be bound to. -/
def taken (done : List (Storage × Except DriverError Unit)) : List Storage :=
  (done.filter fun init => init.2.isOk).map Prod.fst

theorem mem_taken {done : List (Storage × Except DriverError Unit)} :
    storage ∈ taken done ↔ (storage,.ok ()) ∈ done := by
  rw [taken,List.mem_map]
  constructor
  · rintro ⟨⟨_,_ | _⟩,member,rfl⟩
    · cases (List.mem_filter.mp member).2
    · exact (List.mem_filter.mp member).1
  · exact fun member => ⟨_,List.mem_filter.mpr ⟨member,rfl⟩,rfl⟩

theorem taken_append (done more : List (Storage × Except DriverError Unit)) :
    taken (done ++ more) = taken done ++ taken more := by
  rw [taken,List.filter_append,List.map_append]
  rfl

namespace State

/-- What is mounted are these storages, each by a driver bound to it in every field. -/
structure Mirrors (state : State) (rows : List Storage) : Prop where
  inside : ∀ row ∈ rows, row ∈ state.table.storages
  mounted : ∀ row ∈ rows, ∃ number, state.registry.load row.mountPath = some number ∧
    (state.driver number).storage = row
  others : ∀ {path number}, state.registry.load path = some number →
    ∃ row ∈ rows, row.mountPath = path

theorem mirrors_nil (empty : ∀ path, state.registry.load path = none) : state.Mirrors [] where
  inside := by simp
  mounted := by simp
  others := by
    intro path number found
    rw [empty] at found
    cases found

theorem Mirrors.same_mounts {rows : List Storage} (mirrors : state.Mirrors rows) (sound : state.Sound)
    (keeps : state.Keeps after) (table : after.table = state.table)
    (registry : after.registry = state.registry) : after.Mirrors rows where
  inside := by
    rw [table]
    exact mirrors.inside
  mounted := by
    intro row member
    obtain ⟨number,found,holds⟩ := mirrors.mounted row member
    refine ⟨number,registry ▸ found,?_⟩
    rw [(keeps number (sound.backed found).made).2]
    exact holds
  others := by
    rw [registry]
    exact mirrors.others

theorem Mirrors.note {rows : List Storage} (mirrors : state.Mirrors rows) (event : Event) :
    (state.note event).Mirrors rows :=
  ⟨mirrors.inside,mirrors.mounted,mirrors.others⟩

/-- One more row is mounted by a new driver. -/
theorem Mirrors.mount {rows : List Storage} (mirrors : state.Mirrors rows) (sound : state.Sound)
    {number : Nat} {held : Driver} (made : number < state.drivers.length)
    (fresh : ∀ path, state.registry.load path ≠ some number) (holds : held.storage = storage)
    (member : storage ∈ state.table.storages) :
    (state.seated number storage held lines).Mirrors (rows ++ [storage]) where
  inside := by
    intro row inside
    rcases List.mem_append.mp inside with before | last
    · exact mirrors.inside row before
    · rw [List.mem_singleton.mp last]
      exact member
  mounted := by
    intro row inside
    by_cases here : storage.mountPath = row.mountPath
    · have same : row = storage := by
        rcases List.mem_append.mp inside with before | last
        · exact sound.table.eq_of_path (mirrors.inside row before) member here.symm
        · exact List.mem_singleton.mp last
      subst same
      refine ⟨number,?_,?_⟩
      · rw [load_seated,if_pos rfl]
      · rw [driver_seated _ _ _ made,if_pos rfl,holds]
    · have before : row ∈ rows := by
        refine (List.mem_append.mp inside).resolve_right fun last => here ?_
        rw [List.mem_singleton.mp last]
      obtain ⟨other,found,bound⟩ := mirrors.mounted row before
      have different : other ≠ number := by
        rintro rfl
        exact fresh _ found
      refine ⟨other,?_,?_⟩
      · rw [load_seated,if_neg here]
        exact found
      · rw [driver_seated _ _ _ made,if_neg different]
        exact bound
  others := by
    intro path other found
    rw [load_seated] at found
    split at found
    · rename_i here
      exact ⟨storage,by simp,here⟩
    · obtain ⟨row,inside,same⟩ := mirrors.others found
      exact ⟨row,by simp [inside],same⟩

/-- Where every row is mounted, by a driver whose storage looks like it, the mounts look like the
rows. -/
theorem Sound.mounted_perm {α : Type} (sound : state.Sound) (look : Storage → α)
    (all : ∀ row ∈ state.table.storages, ∃ number,
      state.registry.load row.mountPath = some number ∧
        look (state.driver number).storage = look row) :
    (state.mounted.map fun mounted => (mounted.key,look mounted.storage)).Perm
      (state.table.storages.map fun row => (row.mountPath,look row)) := by
  rw [List.perm_ext_iff_of_nodup]
  · intro shown
    rw [List.mem_map,List.mem_map]
    constructor
    · rintro ⟨mounted,member,rfl⟩
      obtain ⟨found,same⟩ := mem_mounted.mp member
      obtain ⟨row,inside,_,here,_⟩ := (sound.backed found).row
      obtain ⟨number,there,holds⟩ := all row inside
      rw [here,found] at there
      obtain rfl := Option.some.inj there
      exact ⟨row,inside,by rw [same,holds,here]⟩
    · rintro ⟨row,inside,rfl⟩
      obtain ⟨number,found,holds⟩ := all row inside
      refine ⟨⟨row.mountPath,number,(state.driver number).storage⟩,mem_mounted.mpr ⟨found,rfl⟩,?_⟩
      rw [holds]
  · refine List.Nodup.of_map Prod.fst ?_
    rw [List.map_map]
    exact state.nodup_key
  · refine List.Nodup.of_map Prod.fst ?_
    rw [List.map_map]
    exact sound.table.paths

theorem Settled.mounted_perm (settled : state.Settled catalog) (sound : state.Sound) :
    (state.mounted.map Mounted.bare).Perm
      (state.table.storages.map fun row => ⟨row.mountPath,0,row.bare⟩) := by
  have looks := (sound.mounted_perm Storage.bare settled.mounted).map
    fun shown => (⟨shown.1,0,shown.2⟩ : Mounted)
  rw [List.map_map,List.map_map] at looks
  exact looks

theorem Settled.keys_perm (settled : state.Settled catalog) (sound : state.Sound) :
    state.registry.keys.Perm (state.table.rows.map (·.mountPath)) := by
  have keys := (settled.mounted_perm sound).map Mounted.key
  rw [State.mounted,Table.storages,List.map_map,List.map_map,List.map_map,List.map_map] at keys
  exact keys

/-- Managers over the same rows that have mounted them all show the same. -/
theorem Settled.views_eq {other : Catalog} (settled : state.Settled catalog) (sound : state.Sound)
    (again : after.Settled other) (soundAgain : after.Sound) (table : after.table = state.table) :
    after.mounts = state.mounts ∧
      (∀ path, after.virtualChildren path = state.virtualChildren path) ∧
      ∀ path, (after.storagesByPath path).map Mounted.bare =
        (state.storagesByPath path).map Mounted.bare := by
  apply Mounted.views_eq_of_perm
  · have rows := again.mounted_perm soundAgain
    rw [table] at rows
    exact rows.trans (settled.mounted_perm sound).symm
  · exact soundAgain.nodup_mountPath

end State

/-- A row comes to be mounted exactly if its driver takes it. -/
theorem Loaded.mirrors {well : Bool} {rows : List Storage}
    (loaded : Loaded world catalog storage state well after) (sound : state.Sound)
    (row : storage ∈ state.table.storages) (mirrors : state.Mirrors rows) :
    ∃ done, after.inits = state.inits ++ done ∧ after.Mirrors (rows ++ taken done) := by
  have made (kind : DriverKind) : (state.made kind).Mirrors rows :=
    mirrors.same_mounts sound (State.keeps_made state kind) rfl rfl
  cases loaded with
  | unsupported =>
    refine ⟨[],?_,?_⟩
    · rw [State.inits_note]
      rfl
    · rw [taken,List.filter_nil,List.map_nil,List.append_nil]
      exact mirrors.note _
  | unbound _ mounting =>
    cases mounting with
    | @unbound cause _ refused =>
      refine ⟨[(storage,.error cause)],?_,?_⟩
      · rw [State.inits_note,State.inits_note]
        exact List.append_nil _
      · change State.Mirrors _ (rows ++ [])
        rw [List.append_nil]
        exact ((made _).note _).note _
  | @done kind _ _ mounting =>
    cases mounting with
    | done bound =>
      refine ⟨[(storage,.ok ())],State.inits_seated _ _,
        (made kind).mount (sound.made kind) ?_ ?_ (Driver.storage_of_init_ok bound) row⟩
      · simp
      · exact fun path => sound.load_ne_length path

theorem loadInvariant_taken (world : World) (catalog : Catalog) (start : State) (table : Table) :
    LoadInvariant world catalog table fun passed count state => state.Sound ∧
      ∃ done, Tally catalog passed start count state done ∧ state.Mirrors (taken done) where
  page := by
    rintro passed count state page size _ ⟨sound,done,tally,mirrors⟩
    exact ⟨sound.note _,done,tally.congr ((State.Alike.refl state).listing page size),
      mirrors.note _⟩
  row := by
    rintro passed count storage state well after same member ⟨sound,done,tally,mirrors⟩ loaded
    rw [← same] at member
    obtain ⟨all,next⟩ := tally.row loaded
    obtain ⟨more,inits,mounted⟩ := loaded.mirrors sound member mirrors
    -- The tally and the mounts tell of the same stretch, so what they add is the same.
    obtain rfl : all = done ++ more := by
      rw [next.inits,tally.inits,List.append_assoc] at inits
      exact List.append_cancel_left inits
    exact ⟨loaded.sound sound member,_,next,by rw [taken_append]; exact mounted⟩

namespace State

instance (state : State) : Decidable state.Calm :=
  inferInstanceAs (Decidable (∀ event ∈ state.events, event.isFailure = false))

theorem calm_of_load {size : UInt64} {reply : Except StorageError Nat} (sound : state.table.Sound)
    (ends : Operation.Ends (Operation.load world catalog size) state reply after)
    (calm : after.Calm) : state.Calm := by
  have invariant : LoadInvariant world catalog state.table fun _ _ after => after.Calm → state.Calm :=
    { page := fun _ holds calm => holds (calm_note.mp calm).2
      row := fun _ _ holds loaded calm => holds (loaded.calm calm) }
  obtain ⟨_,_,middle,_,holds,⟨_,_,rfl⟩ | ⟨_,rfl,_⟩⟩ := invariant.load sound.length_lt id ends
  · exact holds (calm_note.mp calm).2
  · exact holds calm

theorem Mirrors.settled (mirrors : state.Mirrors state.table.shown)
    (known : ∀ row ∈ state.table.storages, catalog.find? row.driver ≠ none) :
    state.Settled catalog where
  known := known
  mounted := by
    intro row member
    obtain ⟨number,found,holds⟩ := mirrors.mounted row (Table.mem_shown.mpr member)
    exact ⟨number,found,by rw [holds]⟩

/-- A load while nothing is mounted mounts the rows that drivers take, whatever comes of the
others. If it is not refused a page, it has passed them all. -/
theorem load_taken {size : UInt64} {reply : Except StorageError Nat} (sound : state.Sound)
    (empty : ∀ path, state.registry.load path = none)
    (ends : Operation.Ends (Operation.load world catalog size) state reply after) :
    ∃ done, after.inits = state.inits ++ done ∧ after.table = state.table ∧ after.Sound ∧
      (taken done).Sublist state.table.shown ∧ after.Mirrors (taken done) ∧
      ((∀ events page size, (world events).refusesCall (.list page size) = none) →
        reply = .ok (taken done).length ∧
        done.map Prod.fst = state.table.shown.filter fun row => catalog.contains row.driver) := by
  have start : state.Sound ∧ ∃ done, Tally catalog [] state 0 state done ∧
      state.Mirrors (taken done) :=
    ⟨sound,[],⟨(List.append_nil _).symm,rfl,rfl,fun _ _ => rfl⟩,mirrors_nil empty⟩
  have among {passed : List Storage} {done : List (Storage × Except DriverError Unit)}
      (known : done.map Prod.fst = passed.filter fun row => catalog.contains row.driver)
      (first : passed <+: state.table.shown) : (taken done).Sublist state.table.shown := by
    have some : (taken done).Sublist (done.map Prod.fst) := List.filter_sublist.map _
    rw [known] at some
    exact some.trans (List.filter_sublist.trans first.sublist)
  obtain ⟨passed,count,middle,table,⟨loaded,done,tally,mirrors⟩,rest⟩ :=
    (loadInvariant_taken world catalog state state.table).load sound.table.length_lt start ends
  rcases rest with ⟨rfl,rfl,rfl⟩ | ⟨first,rfl,_,_,_,refused,_⟩
  · refine ⟨done,?_,table,loaded.note _,among tally.known (List.prefix_refl _),mirrors.note _,
      fun _ => ⟨?_,tally.known⟩⟩
    · rw [inits_note,tally.inits]
      exact List.append_nil _
    · rw [tally.count,List.countP_eq_length_filter,taken,List.length_map]
  · refine ⟨done,tally.inits,table,loaded,among tally.known first,mirrors,fun listed => ?_⟩
    rw [listed] at refused
    cases refused

theorem Calm.ok_of_inits (calm : state.Calm) {reply : Except DriverError Unit}
    (member : (storage,reply) ∈ state.inits) : reply.isOk = true := by
  obtain ⟨event,happened,init⟩ := List.mem_filterMap.mp (List.mem_reverse.mp member)
  have well := calm event happened
  cases event with
  | init number kind held done =>
    obtain ⟨_,rfl⟩ := Prod.mk.inj (Option.some.inj init)
    cases done with
    | error => cases well
    | ok => rfl
  | table | shutdown | addition | logged => cases init

/-- A load that is not refused a page and in which no driver refuses its row mounts the rows
and nothing else. -/
theorem load_mirrors {size : UInt64} {reply : Except StorageError Nat} (sound : state.Sound)
    (known : ∀ row ∈ state.table.storages, catalog.find? row.driver ≠ none)
    (listed : ∀ events page size, (world events).refusesCall (.list page size) = none)
    (ends : Operation.Ends (Operation.load world catalog size) state.restart reply after)
    (calm : after.Calm) :
    reply = .ok state.table.rows.length ∧ after.table = state.table ∧ after.Sound ∧
      after.Mirrors state.table.shown := by
  obtain ⟨done,inits,table,loaded,_,mirrors,rest⟩ := load_taken sound.restart (fun _ => rfl) ends
  obtain ⟨rfl,passed⟩ := rest listed
  have all : taken done = state.table.shown := by
    rw [taken,List.filter_eq_self.mpr,passed,List.filter_eq_self.mpr]
    · rfl
    · intro row member
      exact Option.isSome_iff_ne_none.mpr (known row (Table.mem_shown.mp member))
    · intro init member
      exact calm.ok_of_inits (inits ▸ List.mem_append_right _ member)
  rw [all] at mirrors
  exact ⟨by rw [all,Table.length_shown],table,loaded,mirrors⟩

/-- After a run in which no driver refused anything, a new manager that loads the rows, in
pages of any size, while the table lists them and no driver refuses its row, mounts every row
by a driver bound to it in every field, and shows what the old manager showed: the same
mounts, the same storages for every path, and the same folders below every path. -/
theorem restart_load (name : String) {steps : List Step} (size : UInt64)
    (plain : ∀ step ∈ steps, step.catalog = catalog ∧ step.request.isPlain = true)
    (listed : ∀ events page size, (world events).refusesCall (.list page size) = none)
    (calm : ((Operation.load world catalog size).run.run
      ((start { name }).run steps).restart).2.Calm) :
    let state := (start { name }).run steps
    let reply := ((Operation.load world catalog size).run.run state.restart).1
    let after := ((Operation.load world catalog size).run.run state.restart).2
    reply = .ok state.table.rows.length ∧ after.table = state.table ∧
      after.mounts = state.mounts ∧
      (∀ path, (after.storagesByPath path).map (fun found =>
          (found.storage.id,found.storage.mountPath)) =
        (state.storagesByPath path).map fun found => (found.storage.id,found.storage.mountPath)) ∧
      (∀ path, after.virtualChildren path = state.virtualChildren path) ∧
      state.registry.keys.Perm (state.table.rows.map (·.mountPath)) ∧
      after.registry.keys.Perm (state.table.rows.map (·.mountPath)) ∧
      ∀ mounted ∈ after.mounted, state.table.get mounted.storage.id = .ok mounted.storage := by
  intro state reply after
  have sound : state.Sound := sound_run name steps
  have ends : Operation.Ends (Operation.load world catalog size) state.restart reply after :=
    Operation.ends_run _ _
  have ran : state.restart.Calm := calm_of_load sound.restart.table ends calm
  have settled := settled_run name plain ran
  obtain ⟨all,table,soundAgain,mirrors⟩ := load_mirrors sound settled.known listed ends calm
  have again : after.Settled catalog := by
    apply Mirrors.settled
    · rw [table]
      exact mirrors
    · rw [table]
      exact settled.known
  obtain ⟨mounts,children,found⟩ := settled.views_eq sound again soundAgain table
  refine ⟨all,table,mounts,fun path => ?_,children,settled.keys_perm sound,?_,?_⟩
  · have seen := congrArg (List.map fun found : Mounted =>
      (found.storage.id,found.storage.mountPath)) (found path)
    rw [List.map_map,List.map_map] at seen
    exact seen
  · have keys := again.keys_perm soundAgain
    rw [table] at keys
    exact keys
  · intro mounted member
    obtain ⟨number,holds⟩ := mem_mounted.mp member
    obtain ⟨row,inside,here⟩ := mirrors.others number
    obtain ⟨other,there,bound⟩ := mirrors.mounted row inside
    rw [here,number] at there
    obtain rfl := Option.some.inj there
    rw [holds,bound]
    exact sound.table.get_of_mem (Table.mem_shown.mp inside)

theorem restart_load_renamed :
    let world : World := fun _ =>
      { context := .live
        session := "token"
        folder := fun _ => .interrupted
        refusesInit := fun _ => none
        refusesShutdown := fun _ => none
        addition := fun _ => .error "nothing"
        now := 7
        refusesCall := fun _ => none }
    let steps : List Step := [
      ⟨world,.builtin,.create { mountPath := "/d/", driver := "memory" }⟩,
      ⟨world,.builtin,.update { id := ⟨1⟩, mountPath := "e", driver := "memory" }⟩,
      ⟨world,.builtin,.sync "/e"⟩]
    let state := (start { name := "storages" }).run steps
    let ended := (Operation.load world .builtin 3).run.run state.restart
    (∀ step ∈ steps, step.catalog = .builtin ∧ step.request.isPlain = true) ∧
      (∀ events page size, (world events).refusesCall (.list page size) = none) ∧
      ended.2.Calm ∧ state.table.rows.length = 1 ∧ ended.1 = .ok 1 ∧
      ended.2.mounts = state.mounts := by
  intro world steps state ended
  have plain : ∀ step ∈ steps, step.catalog = .builtin ∧ step.request.isPlain = true := by decide
  have listed : ∀ events page size, (world events).refusesCall (.list page size) = none :=
    fun _ _ _ => rfl
  have calm : ended.2.Calm := by decide +kernel
  have one : state.table.rows.length = 1 := by decide +kernel
  obtain ⟨all,_,mounts,_⟩ := restart_load "storages" 3 plain listed calm
  exact ⟨plain,listed,calm,one,one ▸ all,mounts⟩

end State
end MountHub
