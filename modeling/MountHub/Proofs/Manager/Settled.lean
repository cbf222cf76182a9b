import MountHub.Proofs.Manager.Soundness
import MountHub.Proofs.Registry.View

/-! Runs in which no driver refuses anything. In every state that a manager comes to, each
row is mounted as it stands, whatever else is refused. -/
namespace MountHub

variable {world : World} {catalog : Catalog} {storage old : Storage} {state after : State}
  {number : Nat} {path : String} {lines : List LogRecord}

/-- Whether a driver has refused to be bound or to let go. -/
def Event.isFailure : Event → Bool
  | .init _ _ _ (.error _) | .shutdown _ _ _ (.error _) => true
  | _ => false

namespace State

/-- No driver has refused anything. -/
def Calm (state : State) : Prop := ∀ event ∈ state.events, event.isFailure = false

/-- Every row is mounted by a driver bound to it, but for the addition, and of a type that
the catalog knows. -/
structure Settled (catalog : Catalog) (state : State) : Prop where
  known : ∀ row ∈ state.table.storages, catalog.find? row.driver ≠ none
  mounted : ∀ row ∈ state.table.storages, ∃ number,
    state.registry.load row.mountPath = some number ∧
      (state.driver number).storage.bare = row.bare

@[simp] theorem calm_note {event : Event} :
    (state.note event).Calm ↔ event.isFailure = false ∧ state.Calm := by
  simp [Calm]

@[simp] theorem calm_written {call : TableCall} {table : Table} :
    (state.written call table).Calm ↔ state.Calm := by
  simp [Calm,Event.isFailure]

@[simp] theorem calm_seated {held : Driver} :
    (state.seated number storage held lines).Calm ↔ state.Calm := by
  simp [Calm,seated,Event.isFailure,or_imp,forall_and]

@[simp] theorem calm_released {held : Driver} : (state.released number held).Calm ↔ state.Calm := by
  simp [Calm,Event.isFailure]

@[simp] theorem calm_made {kind : DriverKind} : (state.made kind).Calm ↔ state.Calm := Iff.rfl

@[simp] theorem calm_vacated : (state.vacated path).Calm ↔ state.Calm := Iff.rfl

@[simp] theorem calm_rewritten {changed : Table} :
    (state.rewritten old storage changed).Calm ↔ state.Calm := by
  simp [Calm,rewritten,Event.isFailure]

theorem settled_start (catalog : Catalog) (name : String) : (start { name }).Settled catalog := by
  constructor <;> simp [start,Table.storages]

namespace Settled

/-- Rows are none but the old ones, and what is mounted at them stays so, bound to the same. -/
theorem keep (settled : state.Settled catalog) (sound : state.Sound) (keeps : state.Keeps after)
    (rows : ∀ row ∈ after.table.storages, row ∈ state.table.storages ∧
      after.registry.load row.mountPath = state.registry.load row.mountPath) :
    after.Settled catalog where
  known row member := settled.known row (rows row member).1
  mounted := by
    intro row member
    obtain ⟨before,same⟩ := rows row member
    obtain ⟨number,found,bound⟩ := settled.mounted row before
    refine ⟨number,same.trans found,?_⟩
    rw [(keeps number (sound.backed found).made).2]
    exact bound

theorem same_mounts (settled : state.Settled catalog) (sound : state.Sound)
    (keeps : state.Keeps after) (table : after.table = state.table)
    (registry : after.registry = state.registry) : after.Settled catalog := by
  refine settled.keep sound keeps fun row member => ?_
  rw [table] at member
  rw [registry]
  exact ⟨member,rfl⟩

theorem note (settled : state.Settled catalog) (event : Event) :
    (state.note event).Settled catalog :=
  ⟨settled.known,settled.mounted⟩

/-- Rows are mounted by other drivers than one that has just been made. -/
theorem others_made (settled : state.Settled catalog) (sound : state.Sound) (kind : DriverKind)
    {row : Storage} (member : row ∈ state.table.storages) :
    ∃ other, other ≠ state.drivers.length ∧ state.registry.load row.mountPath = some other ∧
      ((state.made kind).driver other).storage.bare = row.bare := by
  obtain ⟨other,found,holds⟩ := settled.mounted row member
  have made := (sound.backed found).made
  refine ⟨other,made.ne,found,?_⟩
  rw [driver_made,if_neg made.ne]
  exact holds

end Settled

/-- A driver is bound to a row and mounted there, while all other rows have drivers of their
own. -/
theorem settled_mount {held : Driver} (table : state.table.Sound)
    (known : ∀ row ∈ state.table.storages, catalog.find? row.driver ≠ none)
    (made : number < state.drivers.length) (holds : held.storage = storage)
    (row : storage ∈ state.table.storages)
    (others : ∀ row ∈ state.table.storages, row ≠ storage → ∃ other, other ≠ number ∧
      state.registry.load row.mountPath = some other ∧
        (state.driver other).storage.bare = row.bare) :
    (state.seated number storage held lines).Settled catalog where
  known := known
  mounted := by
    intro other member
    by_cases same : other = storage
    · subst same
      refine ⟨number,?_,?_⟩
      · rw [load_seated,if_pos rfl]
      · rw [driver_seated _ _ _ made,if_pos rfl,holds]
    · obtain ⟨holder,different,found,bound⟩ := others other member same
      refine ⟨holder,?_,?_⟩
      · rw [load_seated,if_neg fun here => same (table.eq_of_path member row here.symm)]
        exact found
      · rw [driver_seated _ _ _ made,if_neg different]
        exact bound

end State

open State

theorem Created.settled {reply : Except StorageError StorageId}
    (created : Created world catalog storage state reply after) (sound : state.Sound)
    (settled : state.Settled catalog) (calm : after.Calm) : after.Settled catalog := by
  cases created with
  | unsupported => exact settled
  | unwritten => exact (settled.same_mounts sound (keeps_made _ _) rfl rfl).note _
  | @written kind id changed _ _ known created mounting =>
    have kept := World.ok_of_answers created
    cases mounting with
    | unbound => simp [Event.isFailure] at calm
    | @done held bound =>
      apply settled_mount (sound.table.create kept)
      · intro row member
        rcases (Table.mem_create kept).mp member with before | rfl
        · exact settled.known row before
        · rw [known]
          exact Option.some_ne_none kind
      · simp
      · exact Driver.storage_of_init_ok bound
      · exact (Table.mem_create kept).mpr (.inr rfl)
      · exact fun row member different => settled.others_made sound kind
          (((Table.mem_create kept).mp member).resolve_right different)

theorem Rewriting.others {changed : Table} (rewriting : Rewriting world old storage state changed)
    (sound : state.Sound) (settled : state.Settled catalog)
    (found : state.registry.load old.mountPath = some number) {row : Storage}
    (member : row ∈ changed.storages) (different : row ≠ storage) :
    ∃ other, other ≠ number ∧
      (state.rewritten old storage changed).registry.load row.mountPath = some other ∧
        ((state.rewritten old storage changed).driver other).storage.bare = row.bare := by
  obtain ⟨present,id⟩ := rewriting.present
  obtain ⟨before,otherId⟩ :=
    ((Table.mem_update rewriting.updated).mp member).resolve_left different
  obtain ⟨other,mounted,holds⟩ := settled.mounted row before
  have elsewhere : old.mountPath ≠ row.mountPath := by
    intro here
    rw [sound.table.eq_of_path before present here.symm] at otherId
    exact otherId id
  refine ⟨other,?_,?_,?_⟩
  · rintro rfl
    exact elsewhere ((sound.backed found).place.symm.trans (sound.backed mounted).place)
  · rw [State.rewritten,load_left,if_neg fun moved => elsewhere moved.1]
    exact mounted
  · rw [driver_rewritten]
    exact holds

theorem Updated.settled {reply : Except StorageError Unit}
    (updated : Updated world storage state reply after) (sound : state.Sound)
    (canonical : Path.Canonical storage.mountPath) (settled : state.Settled catalog)
    (calm : after.Calm) : after.Settled catalog := by
  cases updated with
  | unread => exact settled.note _
  | otherDriver => exact settled.note _
  | unwritten => exact (settled.note _).note _
  | unmounted rewriting absent =>
    -- The row that was read is mounted.
    obtain ⟨number,found,_⟩ := settled.mounted _ rewriting.present.1
    rw [absent] at found
    cases found
  | unreleased => simp [Event.isFailure] at calm
  | @released old changed number held _ _ rewriting found done mounting =>
    cases mounting with
    | unbound => simp [Event.isFailure] at calm
    | done bound =>
      have written := rewriting.updated
      have rewritten := rewriting.sound sound canonical
      have kept := Driver.storage_of_shutdown done
      rw [← driver_rewritten changed number] at kept
      have table : ((state.rewritten old storage changed).released number held).table = changed :=
        rewritten_table changed
      apply settled_mount
      · rw [table]
        exact sound.table.update written
      · intro row member
        rw [table] at member
        rcases (Table.mem_update written).mp member with rfl | ⟨before,_⟩
        · rw [← rewriting.sameDriver]
          exact settled.known old rewriting.present.1
        · exact settled.known row before
      · exact sound.made_released found changed held
      · exact Driver.storage_of_init_ok bound
      · rw [table]
        exact (Table.mem_update written).mpr (.inl rfl)
      · intro row member different
        rw [table] at member
        obtain ⟨other,apart,mounted,holds⟩ := rewriting.others sound settled found member different
        refine ⟨other,apart,mounted,?_⟩
        rw [← holds]
        exact congrArg Storage.bare (keeps_released kept other (rewritten.backed mounted).made).2

theorem Deleted.settled {id : StorageId} {reply : Except StorageError Unit}
    (deleted : Deleted world id state reply after) (sound : state.Sound)
    (settled : state.Settled catalog) : after.Settled catalog := by
  cases deleted with
  | unread => exact settled.note _
  | unmounted => exact settled.note _
  | unreleased => exact (settled.note _).note _
  | @undeleted _ number _ _ _ _ done =>
    have kept := Driver.storage_of_shutdown done
    exact (settled.same_mounts sound (keeps_freed id kept) rfl rfl).note _
  | @done storage number held changed read found done deleted =>
    obtain ⟨present,same⟩ := Table.mem_of_get_eq_ok (World.ok_of_answers read)
    have gone := World.ok_of_answers deleted
    have kept := Driver.storage_of_shutdown done
    apply Settled.note
    refine settled.keep sound (keeps_released kept) fun row member => ?_
    obtain ⟨before,otherId⟩ := (Table.mem_delete gone).mp member
    refine ⟨before,?_⟩
    rw [load_vacated,if_neg]
    · rfl
    · intro here
      rw [sound.table.eq_of_path before present here.symm] at otherId
      exact otherId same

theorem Saved.settled {reply : Except StorageError Unit}
    (saved : Saved world number state reply after) (sound : state.Sound)
    (settled : state.Settled catalog) (mounted : state.registry.load path = some number) :
    after.Settled catalog := by
  cases saved with
  | unserialized => exact settled.note _
  | unwritten => exact (settled.note _).note _
  | @done addition changed given written =>
    have updated := World.ok_of_answers written
    obtain ⟨_,place,row,member,_,_,driver⟩ := sound.backed mounted
    constructor
    · intro other inside
      rcases (Table.mem_update updated).mp inside with rfl | ⟨before,_⟩
      · have known := settled.known row member
        rw [driver] at known
        exact known
      · exact settled.known other before
    · intro other inside
      rcases (Table.mem_update updated).mp inside with rfl | ⟨before,_⟩
      · have here : (state.live number addition).mountPath = path := place
        exact ⟨number,here ▸ mounted,rfl⟩
      · exact settled.mounted other before

theorem Loaded.settled {well : Bool} (loaded : Loaded world catalog storage state well after)
    (sound : state.Sound) (settled : state.Settled catalog)
    (row : storage ∈ state.table.storages) : after.Settled catalog := by
  cases loaded with
  | unsupported => exact settled.note _
  | @unbound kind _ _ _ mounting =>
    cases mounting
    exact ((settled.same_mounts sound (keeps_made state kind) rfl rfl).note _).note _
  | @done kind _ _ mounting =>
    cases mounting with
    | done bound =>
      have table : (state.made kind).table.Sound := sound.table
      apply settled_mount table settled.known
      · simp
      · exact Driver.storage_of_init_ok bound
      · exact row
      · exact fun _ member _ => settled.others_made sound kind member

theorem Mounting.calm {step : String} {reply : Except StorageError Unit}
    (mounting : Mounting world step lines number storage state reply after) (calm : after.Calm) :
    state.Calm := by
  cases mounting with
  | unbound => exact (calm_note.mp calm).2
  | done => exact calm_seated.mp calm

theorem Created.calm {reply : Except StorageError StorageId}
    (created : Created world catalog storage state reply after) (calm : after.Calm) :
    state.Calm := by
  cases created with
  | unsupported => exact calm
  | unwritten => exact (calm_note.mp calm).2
  | written _ _ mounting => exact calm_made.mp (calm_written.mp (mounting.calm calm))

theorem Updated.calm {reply : Except StorageError Unit}
    (updated : Updated world storage state reply after) (calm : after.Calm) : state.Calm := by
  cases updated with
  | unread => exact (calm_note.mp calm).2
  | otherDriver => exact (calm_note.mp calm).2
  | unwritten => exact (calm_note.mp (calm_note.mp calm).2).2
  | unmounted => exact calm_rewritten.mp calm
  | unreleased => exact calm_rewritten.mp (calm_note.mp calm).2
  | released _ _ _ mounting => exact calm_rewritten.mp (calm_released.mp (mounting.calm calm))

theorem Deleted.calm {id : StorageId} {reply : Except StorageError Unit}
    (deleted : Deleted world id state reply after) (calm : after.Calm) : state.Calm := by
  cases deleted <;> simp_all [State.freed]

theorem Saved.calm {reply : Except StorageError Unit}
    (saved : Saved world number state reply after) (calm : after.Calm) : state.Calm := by
  cases saved <;> simp_all [State.asked]

theorem Loaded.calm {well : Bool} (loaded : Loaded world catalog storage state well after)
    (calm : after.Calm) : state.Calm := by
  cases loaded with
  | unsupported => exact (calm_note.mp calm).2
  | unbound _ mounting => exact mounting.calm (calm_note.mp calm).2
  | done _ mounting => exact mounting.calm calm

theorem plainInvariant_settled (world : World) (catalog : Catalog) :
    PlainInvariant world catalog fun state =>
      state.Sound ∧ (state.Calm → state.Settled catalog) where
  short holds := holds.1.table.length_lt
  noted _ holds := ⟨holds.1.note _,fun calm => (holds.2 (calm_note.mp calm).2).note _⟩
  turned _ holds := ⟨holds.1.same_drivers rfl rfl rfl,fun calm =>
    (holds.2 calm).same_mounts holds.1 (keeps_of_drivers_eq rfl) rfl rfl⟩
  created canonical holds created := ⟨created.sound holds.1 canonical,fun calm =>
    created.settled holds.1 (holds.2 (created.calm calm)) calm⟩
  updated canonical holds updated := ⟨updated.sound holds.1 canonical,fun calm =>
    updated.settled holds.1 canonical (holds.2 (updated.calm calm)) calm⟩
  deleted holds deleted := ⟨deleted.sound holds.1,fun calm =>
    deleted.settled holds.1 (holds.2 (deleted.calm calm))⟩
  saved mounted holds saved := ⟨saved.sound holds.1 mounted,fun calm =>
    saved.settled holds.1 (holds.2 (saved.calm calm)) mounted⟩
  loaded row holds loaded := ⟨loaded.sound holds.1 row,fun calm =>
    loaded.settled holds.1 (holds.2 (loaded.calm calm)) row⟩

/-- As long as no driver refuses anything, every row is mounted. -/
theorem State.settled_run (name : String) {steps : List Step}
    (plain : ∀ step ∈ steps, step.catalog = catalog ∧ step.request.isPlain = true)
    (calm : ((start { name }).run steps).Calm) :
    ((start { name }).run steps).Settled catalog := by
  have holds : ((start { name }).run steps).Sound ∧
      (((start { name }).run steps).Calm → ((start { name }).run steps).Settled catalog) := by
    refine @run_invariant (start { name })
      (fun state => state.Sound ∧ (state.Calm → state.Settled catalog)) steps ?_ ?_
    · intro step member state holds
      obtain ⟨rfl,kind⟩ := plain step member
      exact (plainInvariant_settled step.world step.catalog).step kind holds
    · exact ⟨sound_start name,fun _ => settled_start catalog name⟩
  exact holds.2 calm

end MountHub
