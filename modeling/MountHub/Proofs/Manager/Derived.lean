import MountHub.Proofs.Driver.Addition
import MountHub.Proofs.Manager.Saving

/-! What drivers have derived survives. A sync writes it into the row, and from then on every
driver that is bound to the row derives the same: after any requests that do not change the
addition of the row, and after any number of restarts. -/
namespace MountHub
open Operation Call

variable {world : World} {catalog : Catalog} {storage old row : Storage} {state after : State}
  {path name : String} {number : Nat} {id : StorageId} {derived : Derived} {held driver : Driver}

theorem Driver.Rests.derived?_eq (rests : driver.Rests held)
    (has : driver.derived? = some derived) : held.derived? = some derived := by
  cases rests with
  | same => exact has
  | released released => exact Driver.derived?_of_shutdown released has

theorem Driver.Rests.completes (rests : driver.Rests held) (completes : driver.Completes) :
    held.Completes := by
  cases rests with
  | same => exact completes
  | released released => exact Driver.completes_of_shutdown released completes

namespace State

/-- Every driver that is mounted has what its storage says. -/
def Complete (state : State) : Prop :=
  ∀ path number, state.registry.load path = some number → (state.driver number).Completes

theorem Complete.of_origin (complete : state.Complete)
    (origin : state.Origin catalog after path number) : (after.driver number).Completes := by
  cases origin with
  | kept before rests => exact rests.completes (complete path number before)
  | fresh _ _ bound => exact Driver.completes_of_init_ok bound
  | rebound _ _ _ _ bound => exact Driver.completes_of_init_ok bound

/-- The id has been handed out; a row that has it says what has been derived, and so has every
driver that is mounted for that row. -/
structure Remembers (id : StorageId) (name : String) (derived : Derived) (state : State) :
    Prop where
  handedOut : id.raw.toNat ≤ state.table.lastId
  rows : ∀ row ∈ state.table.storages, row.id = id →
    row.driver = name ∧ row.addition = derived.text
  drivers : ∀ path number, state.registry.load path = some number →
    (state.driver number).storage.id = id → (state.driver number).derived? = some derived

/-- Drivers that have been bound derive from the rows they were bound to, so it is enough that
those rows say the same. -/
theorem Remembers.of_origin (remembers : state.Remembers id name derived)
    (known : ∀ kind, catalog.find? name = some kind → kind = derived.kind)
    (origin : ∀ {path number}, after.registry.load path = some number →
      state.Origin catalog after path number)
    (handedOut : id.raw.toNat ≤ after.table.lastId)
    (rows : ∀ row ∈ after.table.storages, row.id = id →
      row.driver = name ∧ row.addition = derived.text) :
    after.Remembers id name derived := by
  refine ⟨handedOut,rows,fun path number found same => ?_⟩
  have derives {driver : Driver} {outside : Outside} {row : Storage}
      (member : row ∈ after.table.storages)
      (bound : driver.init outside row = (.ok (),after.driver number))
      (kind : row.driver = name → driver.kind = derived.kind) :
      (after.driver number).derived? = some derived := by
    have holds := Driver.storage_of_init_ok bound
    obtain ⟨driverName,text⟩ := rows row member (holds ▸ same)
    have kept := Driver.kind_init outside row driver
    rw [bound] at kept
    exact (Driver.completes_of_init_ok bound).derived?_eq (kept.trans (kind driverName))
      (holds ▸ text)
  cases origin found with
  | kept before rests =>
    exact rests.derived?_eq (remembers.drivers path number before (rests.storage_eq ▸ same))
  | fresh member found bound =>
    refine derives member bound fun driverName => ?_
    rw [Driver.kind_fresh]
    exact known _ (driverName ▸ found)
  | @rebound old row outside held member before sameId rests bound =>
    refine derives member bound fun _ => ?_
    have was : (state.driver number).storage.id = id := by
      rw [sameId,← same,Driver.storage_of_init_ok bound]
    exact rests.kind_eq.trans
      (Driver.kind_of_derived? (remembers.drivers old.mountPath number before was))

theorem Remembers.same_mounts (remembers : state.Remembers id name derived)
    (table : after.table = state.table) (drivers : after.drivers = state.drivers)
    (mounts : ∀ path number, after.registry.load path = some number →
      state.registry.load path = some number) : after.Remembers id name derived := by
  refine ⟨table ▸ remembers.handedOut,table ▸ remembers.rows,fun path number found same => ?_⟩
  rw [driver_congr drivers] at same ⊢
  exact remembers.drivers path number (mounts path number found) same

end State

theorem Created.remembers {reply : Except StorageError StorageId}
    (created : Created world catalog storage state reply after) (sound : state.Sound)
    (known : ∀ kind, catalog.find? name = some kind → kind = derived.kind)
    (remembers : state.Remembers id name derived) : after.Remembers id name derived := by
  have origin {path : String} {number : Nat} (found : after.registry.load path = some number) :
      state.Origin catalog after path number := created.origin sound found
  have handedOut := remembers.handedOut
  cases created with
  | unsupported | unwritten =>
    exact remembers.of_origin known origin handedOut remembers.rows
  | @written kind new changed _ _ _ created mounting =>
    obtain ⟨next,_,_,_,last⟩ := Table.create_eq_ok (World.ok_of_answers created)
    have table : after.table = changed := mounting.table_eq
    rw [← table] at last
    refine remembers.of_origin known origin (by omega) fun row member same => ?_
    rw [table] at member
    rcases (Table.mem_create (World.ok_of_answers created)).mp member with was | rfl
    · exact remembers.rows row was same
    · rw [← same] at handedOut
      simp only at handedOut
      omega

theorem Updated.remembers {reply : Except StorageError Unit}
    (updated : Updated world storage state reply after) (sound : state.Sound)
    (known : ∀ kind, catalog.find? name = some kind → kind = derived.kind)
    (text : storage.id = id → ¬ Unwritten world storage state → storage.addition = derived.text)
    (remembers : state.Remembers id name derived) : after.Remembers id name derived := by
  have origin {path : String} {number : Nat} (found : after.registry.load path = some number) :
      state.Origin catalog after path number := updated.origin sound catalog found
  have rewritten {old : Storage} {changed : Table}
      (rewriting : Rewriting world old storage state changed) (table : after.table = changed) :
      after.Remembers id name derived := by
    obtain ⟨present,sameId⟩ := rewriting.present
    have last := (Table.update_eq_ok rewriting.updated).2.2.2
    rw [← table] at last
    refine remembers.of_origin known origin (last ▸ remembers.handedOut) fun row member same => ?_
    rw [table] at member
    rcases (Table.mem_update rewriting.updated).mp member with rfl | ⟨was,_⟩
    · rw [← rewriting.sameDriver]
      exact ⟨(remembers.rows old present (sameId.trans same)).1,
        text same rewriting.not_unwritten⟩
    · exact remembers.rows row was same
  cases updated with
  | unread | otherDriver | unwritten =>
    exact remembers.of_origin known origin remembers.handedOut remembers.rows
  | unmounted rewriting => exact rewritten rewriting (State.rewritten_table _)
  | unreleased rewriting => exact rewritten rewriting (State.rewritten_table _)
  | released rewriting _ _ mounting =>
    exact rewritten rewriting (mounting.table_eq.trans (State.rewritten_table _))

theorem Deleted.remembers {reply : Except StorageError Unit} {other : StorageId}
    (deleted : Deleted world other state reply after)
    (known : ∀ kind, catalog.find? name = some kind → kind = derived.kind)
    (remembers : state.Remembers id name derived) : after.Remembers id name derived := by
  have origin {path : String} {number : Nat} (found : after.registry.load path = some number) :
      state.Origin catalog after path number := deleted.origin catalog found
  cases deleted with
  | unread | unmounted | unreleased | undeleted =>
    exact remembers.of_origin known origin remembers.handedOut remembers.rows
  | done _ _ _ deleted =>
    have gone := World.ok_of_answers deleted
    refine remembers.of_origin known origin ?_ fun row member same => ?_
    · exact (Table.delete_eq_ok gone).2.2.symm ▸ remembers.handedOut
    · exact remembers.rows row ((Table.mem_delete gone).mp member).1 same

/-- A sync of the driver that is mounted for the row writes again what the row says. -/
theorem Saved.remembers {reply : Except StorageError Unit}
    (saved : Saved world number state reply after) (sound : state.Sound)
    (known : ∀ kind, catalog.find? name = some kind → kind = derived.kind)
    (mounted : state.registry.load path = some number)
    (remembers : state.Remembers id name derived) : after.Remembers id name derived := by
  have origin {path : String} {number : Nat} (found : after.registry.load path = some number) :
      state.Origin catalog after path number := saved.origin catalog found
  cases saved with
  | unserialized | unwritten =>
    exact remembers.of_origin known origin remembers.handedOut remembers.rows
  | @done addition changed given written =>
    have updated := World.ok_of_answers written
    refine remembers.of_origin known origin ?_ fun row member same => ?_
    · exact (Table.update_eq_ok updated).2.2.2.symm ▸ remembers.handedOut
    · rcases (Table.mem_update updated).mp member with rfl | ⟨was,_⟩
      · have has := remembers.drivers path number mounted same
        obtain ⟨row,inside,rowId,_,driver⟩ := (sound.backed mounted).row
        rw [Driver.addition_of_derived? has] at given
        refine ⟨driver.symm.trans (remembers.rows row inside (rowId.trans same)).1,?_⟩
        rw [State.live,← Except.ok.inj given]
        rfl
      · exact remembers.rows row was same

theorem Loaded.remembers {well : Bool} (loaded : Loaded world catalog storage state well after)
    (sound : state.Sound) (member : storage ∈ state.table.storages)
    (known : ∀ kind, catalog.find? name = some kind → kind = derived.kind)
    (remembers : state.Remembers id name derived) : after.Remembers id name derived := by
  have table := loaded.table_eq
  refine remembers.of_origin known (loaded.origin sound member) ?_ ?_
  · exact table ▸ remembers.handedOut
  · exact table ▸ remembers.rows

theorem LetGo.remembers (letGo : LetGo world path number state after)
    (known : ∀ kind, catalog.find? name = some kind → kind = derived.kind)
    (remembers : state.Remembers id name derived) : after.Remembers id name derived := by
  have table := letGo.table_eq
  refine remembers.of_origin known (letGo.origin catalog) ?_ ?_
  · exact table ▸ remembers.handedOut
  · exact table ▸ remembers.rows

/-- A request that leaves the addition of a row alone in the state that it comes to: an update of
the row is not written, or has the same addition. The driver type of the row stands for the same
kind of driver. -/
structure Step.Spares (step : Step) (state : State) (row : Storage) (derived : Derived) : Prop where
  known : ∀ kind, step.catalog.find? row.driver = some kind → kind = derived.kind
  update : ∀ given, step.request = .update given → given.id = row.id →
    ¬ Unwritten step.world (step.world.row state given) state → given.addition = row.addition

/-- A run of requests, each of which leaves the addition of a row alone. -/
def State.Spared (row : Storage) (derived : Derived) : State → List Step → Prop
  | _,[] => True
  | state,step :: more => step.Spares state row derived ∧ (step.after state).Spared row derived more

theorem requestInvariant_remembers {step : Step}
    (known : ∀ kind, step.catalog.find? row.driver = some kind → kind = derived.kind)
    (noUpdate : ∀ given, step.request ≠ .update given) :
    RequestInvariant step fun state =>
      state.Sound ∧ state.Remembers row.id row.driver derived where
  short holds := holds.1.table.length_lt
  noted _ holds := ⟨holds.1.note _,holds.2.same_mounts rfl rfl fun _ _ found => found⟩
  turned _ holds :=
    ⟨holds.1.same_drivers rfl rfl rfl,holds.2.same_mounts rfl rfl fun _ _ found => found⟩
  created _ holds created :=
    ⟨created.sound holds.1 (Path.canonical_standardize _),
      created.remembers holds.1 known holds.2⟩
  updated asked _ _ := absurd asked (noUpdate _)
  deleted _ holds deleted := ⟨deleted.sound holds.1,deleted.remembers known holds.2⟩
  saved _ mounted holds saved :=
    ⟨saved.sound holds.1 mounted,saved.remembers holds.1 known mounted holds.2⟩
  loaded _ member holds loaded :=
    ⟨loaded.sound holds.1 member,loaded.remembers holds.1 member known holds.2⟩
  letGo _ _ holds letGo := ⟨letGo.sound holds.1,letGo.remembers known holds.2⟩
  restarted _ holds :=
    ⟨holds.1.restart,holds.2.same_mounts rfl rfl fun _ _ found => nomatch found⟩

namespace State

theorem Remembers.step {step : Step} (remembers : state.Remembers row.id row.driver derived)
    (sound : state.Sound) (text : row.addition = derived.text)
    (spares : step.Spares state row derived) :
    (step.after state).Sound ∧ (step.after state).Remembers row.id row.driver derived := by
  -- Whether an update is written depends on the state, so no invariant of the request tells of it.
  by_cases asked : ∃ given, step.request = .update given
  · obtain ⟨given,asked⟩ := asked
    have after : step.after state = ((update step.world given).run.run state).2 := by
      rw [Step.after,asked]
    have updated := updated_of_ends (ends_run (update step.world given) state)
    rw [after]
    refine ⟨updated.sound sound (Path.canonical_standardize _),
      updated.remembers sound spares.known (fun same written => ?_) remembers⟩
    exact (spares.update given asked same written).trans text
  · exact (requestInvariant_remembers spares.known (not_exists.mp asked)).step ⟨sound,remembers⟩

theorem Remembers.run {steps : List Step} (remembers : state.Remembers row.id row.driver derived)
    (sound : state.Sound) (text : row.addition = derived.text)
    (spared : state.Spared row derived steps) :
    (state.run steps).Remembers row.id row.driver derived := by
  induction steps generalizing state with
  | nil => exact remembers
  | cons step more ih =>
    obtain ⟨spares,rest⟩ := spared
    obtain ⟨soundNext,next⟩ := remembers.step sound text spares
    exact ih next soundNext rest

end State

/-- A load in which nothing stands in the way of the row: it is not refused a page, its context is
live, and the folder that is asked for is one. -/
structure Step.Resumes (step : Step) (row : Storage) (derived : Derived) : Prop where
  request : ∃ size, step.request = .load size
  listed : ∀ events page size, (step.world events).refusesCall (.list page size) = none
  known : step.catalog.find? row.driver = some derived.kind
  live : ∀ events, (step.world events).context.isCancelled = false
  folder : ∀ root, derived = .folder root → ∀ events, ∃ canonical,
    (step.world events).folder root = .finishes (.ok (.directory canonical))

namespace Step.Resumes

variable {step : Step}

theorem accepts (resumes : step.Resumes row derived) (text : row.addition = derived.text)
    (named : derived ≠ .folder "") : step.world.Accepts derived.kind row := by
  refine World.accepts_of_bound fun events => ?_
  have live := resumes.live events
  cases derived with
  | session token =>
    have read : MemoryAddition.read? row.addition = .ok { session := some token } := by
      rw [text]
      exact MemoryAddition.read?_field token
    exact ⟨_,.memory live read⟩
  | folder root =>
    have read : FolderAddition.read? row.addition = .ok { rootFolder := root } := by
      rw [text]
      exact FolderAddition.read?_field root
    obtain ⟨canonical,found⟩ := resumes.folder root rfl events
    exact ⟨_,.folder read (fun empty => named (congrArg Derived.folder empty)) live found⟩

theorem serves (resumes : step.Resumes row derived) (text : row.addition = derived.text)
    (named : derived ≠ .folder "") (sound : state.Sound)
    (kept : state.table.get row.id = .ok row) :
    (step.after state).Sound ∧ (step.after state).Serves row := by
  obtain ⟨size,request⟩ := resumes.request
  have same : step.after state =
      ((Operation.load step.world step.catalog size).run.run state).2 := by
    rw [Step.after,request]
  rw [same]
  exact (load_serves sound kept resumes.known (resumes.accepts text named) resumes.listed
    (ends_run (Operation.load step.world step.catalog size) state)).2

theorem invariant (resumes : step.Resumes row derived) :
    RequestInvariant step fun state =>
      state.Sound ∧ state.Remembers row.id row.driver derived := by
  apply requestInvariant_remembers
  · intro kind found
    rw [resumes.known] at found
    exact (Option.some.inj found).symm
  · intro given asked
    obtain ⟨size,request⟩ := resumes.request
    rw [request] at asked
    cases asked

end Step.Resumes

namespace State

/-- The state after restarts, each of them followed by a load. -/
def resumed (state : State) (loads : List Step) : State :=
  loads.foldl (fun state load => load.after state.restart) state

/-- What a load mounts for the row derives what the row says, at every restart. -/
theorem Remembers.resumed {loads : List Step} (some : loads ≠ [])
    (resumes : ∀ load ∈ loads, load.Resumes row derived) (text : row.addition = derived.text)
    (named : derived ≠ .folder "") (sound : state.Sound)
    (kept : state.table.get row.id = .ok row)
    (remembers : state.Remembers row.id row.driver derived) :
    (state.resumed loads).Sound ∧ (state.resumed loads).Serves row ∧
      (state.resumed loads).Remembers row.id row.driver derived := by
  induction loads generalizing state with
  | nil => exact absurd rfl some
  | cons load more ih =>
    have resumesFirst := resumes load (by simp)
    have restarted : state.restart.Remembers row.id row.driver derived :=
      remembers.same_mounts rfl rfl fun _ _ found => nomatch found
    obtain ⟨soundNext,remembersNext⟩ := resumesFirst.invariant.step ⟨sound.restart,restarted⟩
    have serves := (resumesFirst.serves text named sound.restart kept).2
    by_cases last : more = []
    · subst last
      exact ⟨soundNext,serves,remembersNext⟩
    · exact ih last (fun other member => resumes other (by simp [member])) soundNext serves.kept
        remembersNext

/-- What a sync would write is the row as it stands. -/
theorem live_eq (holds : (state.driver number).storage = row)
    (text : row.addition = derived.text) : state.live number derived.toJson = row := by
  rw [live,holds]
  change { row with addition := derived.text } = row
  rw [← text]

/-- A sync of a driver that holds its row, addition and all, leaves the rows as they are. -/
theorem storages_sync (sound : state.Sound) (kept : state.table.get row.id = .ok row)
    (holds : (state.driver number).storage = row)
    (has : (state.driver number).derived? = some derived) (text : row.addition = derived.text)
    (world : World) :
    ((sync world number).run state).2.table.storages = state.table.storages ∧
      (world.Works → ∃ done, Ends (save world number) state (.ok ()) done) := by
  have live := live_eq holds text
  have given : (state.driver number).addition (world state.events).toOutside =
    .ok derived.toJson := Driver.addition_of_derived? has
  constructor
  · rcases (writes_sync world number state).table with same | ⟨addition,asked,updated⟩
    · rw [same]
    · rw [given] at asked
      rw [← Except.ok.inj asked,live] at updated
      rw [(Table.update_eq_ok updated).2.2.1]
      refine (List.map_congr_left fun other inside => ?_).trans (List.map_id _)
      split_ifs with same
      · exact sound.table.eq_of_id (Table.mem_of_get_eq_ok kept).1 inside same.symm
      · rfl
  · intro works
    obtain ⟨reply,done,ends⟩ := exists_ends (save world number) state
    have free := sound.table.free_of_get kept rfl
    obtain ⟨changed,written⟩ := Table.update_of_free kept free
    have saved := saved_of_ends ends
    cases saved with
    | unserialized refused =>
      rw [given] at refused
      cases refused
    | unwritten asked refused =>
      rw [given] at asked
      rw [works.answers_eq,← Except.ok.inj asked,live,written] at refused
      cases refused
    | done => exact ⟨_,ends⟩

/-- The row keeps what has been derived, as long as no update writes another addition; and however
many times a new manager takes over and loads the rows, a driver that derives the same is mounted
for the row as it stands, and a sync of it writes the row again. -/
structure Persists (state : State) (row : Storage) (derived : Derived) : Prop where
  kept : state.table.get row.id = .ok row
  spared : ∀ {steps : List Step}, state.Spared row derived steps →
    (∀ other ∈ (state.run steps).table.storages, other.id = row.id →
      other.addition = row.addition) ∧
    ∀ mounted ∈ (state.run steps).mounted, mounted.storage.id = row.id →
      ((state.run steps).driver mounted.driver).derived? = some derived
  resumed : ∀ {loads : List Step}, loads ≠ [] → (∀ load ∈ loads, load.Resumes row derived) →
    (state.resumed loads).table.get row.id = .ok row ∧
    ∃ number, (state.resumed loads).registry.load row.mountPath = some number ∧
      ((state.resumed loads).driver number).storage = row ∧
      ((state.resumed loads).driver number).derived? = some derived ∧
      ∀ world, ((sync world number).run (state.resumed loads)).2.table.storages =
          (state.resumed loads).table.storages ∧
        (world.Works → ∃ done, Ends (save world number) (state.resumed loads) (.ok ()) done)

theorem Remembers.persists (remembers : state.Remembers row.id row.driver derived)
    (sound : state.Sound) (kept : state.table.get row.id = .ok row)
    (named : derived ≠ .folder "") : state.Persists row derived where
  kept := kept
  spared := by
    intro steps spares
    obtain ⟨present,_⟩ := Table.mem_of_get_eq_ok kept
    have text := (remembers.rows row present rfl).2
    have later := remembers.run sound text spares
    refine ⟨fun other inside same => ?_,fun mounted inside same => ?_⟩
    · exact (later.rows other inside same).2.trans text.symm
    · obtain ⟨found,live⟩ := mem_mounted.mp inside
      exact later.drivers mounted.key mounted.driver found (live ▸ same)
  resumed := by
    intro loads some resumes
    obtain ⟨present,_⟩ := Table.mem_of_get_eq_ok kept
    have text := (remembers.rows row present rfl).2
    obtain ⟨soundLater,serves,later⟩ := remembers.resumed some resumes text named sound kept
    obtain ⟨number,found,holds,_⟩ := serves.mounted
    have has := later.drivers _ number found (congrArg Storage.id holds)
    exact ⟨serves.kept,number,found,holds,has,
      fun world => storages_sync soundLater serves.kept holds has text world⟩

/-- What a sync writes that succeeds. -/
theorem Sound.get_of_save (sound : state.Sound) {path : String}
    (mounted : state.registry.load path = some number)
    (ends : Ends (save world number) state (.ok ()) after) :
    ∃ addition, (state.driver number).addition (world state.events).toOutside = .ok addition ∧
      after.drivers = state.drivers ∧ after.registry = state.registry ∧ after.Sound ∧
      after.table.get (state.driver number).storage.id = .ok (state.live number addition) := by
  have saved := saved_of_ends ends
  have soundAfter := saved.sound sound mounted
  generalize reached : (Except.ok () : Except StorageError Unit) = reply at saved
  cases saved with
  | unserialized | unwritten => cases reached
  | done given written =>
    exact ⟨_,given,rfl,rfl,soundAfter,soundAfter.table.get_of_mem
      ((Table.mem_update (World.ok_of_answers written)).mpr (.inl rfl))⟩

/-- After a sync, the row of the driver says what the driver has derived. -/
theorem Sound.remembers_of_save (sound : state.Sound)
    (mounted : state.registry.load path = some number)
    (has : (state.driver number).derived? = some derived)
    (ends : Ends (save world number) state (.ok ()) after) :
    ∃ row, row.id = (state.driver number).storage.id ∧ row.addition = derived.text ∧
      after.Sound ∧ after.table.get row.id = .ok row ∧
      after.Remembers row.id row.driver derived := by
  obtain ⟨addition,given,drivers,registry,soundAfter,kept⟩ := sound.get_of_save mounted ends
  rw [Driver.addition_of_derived? has] at given
  obtain rfl := Except.ok.inj given
  obtain ⟨present,_⟩ := Table.mem_of_get_eq_ok kept
  refine ⟨state.live number derived.toJson,rfl,rfl,soundAfter,kept,
    (soundAfter.table.handedOut _ present).2,fun row inside same => ?_,
    fun place other found same => ?_⟩
  · rw [soundAfter.table.eq_of_id inside present same]
    exact ⟨rfl,rfl⟩
  · rw [registry] at found
    rw [driver_congr drivers] at same ⊢
    obtain rfl := sound.path_eq_of_id found mounted same
    obtain rfl := Option.some.inj (found.symm.trans mounted)
    exact has

end State

theorem stepInvariant_complete (world : World) (catalog : Catalog) :
    StepInvariant world catalog fun state => state.Sound ∧ state.Complete where
  short holds := holds.1.table.length_lt
  noted _ holds := ⟨holds.1.note _,holds.2⟩
  turned _ holds := ⟨holds.1.same_drivers rfl rfl rfl,holds.2⟩
  created canonical holds created :=
    ⟨created.sound holds.1 canonical,fun _ _ found =>
      holds.2.of_origin (created.origin holds.1 found)⟩
  updated canonical holds updated :=
    ⟨updated.sound holds.1 canonical,fun _ _ found =>
      holds.2.of_origin (updated.origin holds.1 catalog found)⟩
  deleted holds deleted :=
    ⟨deleted.sound holds.1,fun _ _ found =>
      holds.2.of_origin (deleted.origin catalog found)⟩
  saved mounted holds saved :=
    ⟨saved.sound holds.1 mounted,fun _ _ found =>
      holds.2.of_origin (saved.origin catalog found)⟩
  loaded member holds loaded :=
    ⟨loaded.sound holds.1 member,fun _ _ found =>
      holds.2.of_origin (loaded.origin holds.1 member found)⟩
  letGo holds letGo :=
    ⟨letGo.sound holds.1,fun _ _ found =>
      holds.2.of_origin (letGo.origin catalog found)⟩
  restarted holds := ⟨holds.1.restart,fun _ _ found => nomatch found⟩

theorem Call.sync_of_save (ends : Ends (save world number) state (.ok ()) after) :
    ((sync world number).run state).2 = after := by
  have reached : (save world number).run.run state = (.ok (),after) := ends
  rw [sync,run_bind,reached]
  rfl

namespace State

theorem complete_run (name : String) (steps : List Step) :
    ((start { name }).run steps).Complete :=
  (StepInvariant.run stepInvariant_complete
    ⟨sound_start name,fun _ _ found => nomatch found⟩ steps).2

/-- Whatever has failed before: a memory or folder driver that is mounted has derived something
from its addition, namely the session that the addition names, if it names one. Once a sync has
succeeded, the addition in the row reads back as that of the driver, and persists. -/
theorem derived_persists (name : String) (steps : List Step) {mounted : Mounted}
    (member : mounted ∈ ((start { name }).run steps).mounted)
    (built : (((start { name }).run steps).driver mounted.driver).kind ≠ .external) :
    let state := (start { name }).run steps
    let driver := state.driver mounted.driver
    ∃ derived, driver.derived? = some derived ∧
      (∀ given token, driver.kind = .memory →
        MemoryAddition.read? mounted.storage.addition = .ok given → given.session = some token →
          derived = .session token) ∧
      ∀ {world after}, Ends (save world mounted.driver) state (.ok ()) after →
        ((sync world mounted.driver).run state).2 = after ∧
        ∃ row, row.id = mounted.storage.id ∧ driver.ReadsBack row.addition ∧
          after.Persists row derived := by
  intro state driver
  have sound : state.Sound := sound_run name steps
  obtain ⟨found,live⟩ := mem_mounted.mp member
  have completes : driver.Completes := complete_run name steps _ _ found
  obtain ⟨derived,has⟩ := completes.exists_derived built
  refine ⟨derived,has,?_,fun {world after} ends => ⟨sync_of_save ends,?_⟩⟩
  · intro given token kind read session
    rw [live] at read
    exact Option.some.inj (has.symm.trans (completes.derived?_of_session kind read session))
  · obtain ⟨row,id,text,soundAfter,kept,remembers⟩ := sound.remembers_of_save found has ends
    refine ⟨row,live ▸ id,text ▸ Driver.readsBack_of_derived? has,?_⟩
    exact remembers.persists soundAfter kept (completes.ne_folder_empty has)

/-- A session of a quote, a backslash and a control is there again after a sync and two restarts. -/
theorem derived_persists_escaped :
    let token := "\"\\\x00"
    let given : Storage :=
      { mountPath := "/a", driver := "memory", addition := (Derived.session token).text }
    let row : Storage := { given with id := ⟨1⟩, modified := 7 }
    let mounted : Mounted := ⟨"/a",0,row⟩
    let load : Step := ⟨.willing .live,.builtin,.load 10⟩
    let state := (start { name := "storages" }).run [⟨.willing .live,.builtin,.create given⟩]
    let ended := (save (.willing .live) mounted.driver).run.run state
    mounted ∈ state.mounted ∧ (state.driver mounted.driver).kind = .memory ∧ ended.1 = .ok () ∧
      load.Resumes row (.session token) ∧
      ∃ number, (ended.2.resumed [load,load]).registry.load "/a" = some number ∧
        ((ended.2.resumed [load,load]).driver number).derived? = some (.session token) := by
  intro token given row mounted load state ended
  have member : mounted ∈ state.mounted := by decide +kernel
  have kind : (state.driver mounted.driver).kind = .memory := by decide +kernel
  have built : (state.driver mounted.driver).kind ≠ .external := by rw [kind]; decide
  have done : ended.1 = .ok () := by decide +kernel
  have kept : ended.2.table.get ⟨1⟩ = .ok row := by decide +kernel
  have resumes : load.Resumes row (.session token) :=
    ⟨⟨10,rfl⟩,fun _ _ _ => rfl,rfl,fun _ => rfl,fun _ wrong => nomatch wrong⟩
  have read : MemoryAddition.read? mounted.storage.addition = .ok { session := some token } :=
    MemoryAddition.read?_field token
  have persists :=
    derived_persists "storages" [⟨.willing .live,.builtin,.create given⟩] member built
  have run : (start { name := "storages" }).run [⟨.willing .live,.builtin,.create given⟩] = state :=
    rfl
  have reached : (save (.willing .live) mounted.driver).run.run state = ended := rfl
  rw [run] at persists
  clear_value ended state
  have ends : Ends (save (.willing .live) mounted.driver) state (.ok ()) ended.2 :=
    reached.trans (Prod.ext done rfl)
  obtain ⟨derived,_,names,saves⟩ := persists
  obtain rfl := names { session := some token } token kind read rfl
  obtain ⟨_,other,id,_,persists⟩ := saves ends
  have same := persists.kept
  rw [id] at same
  obtain rfl := Except.ok.inj (kept.symm.trans same)
  have both : ∀ each ∈ [load,load], each.Resumes row (.session token) := by
    rintro each (_ | ⟨_,_ | ⟨_,⟨⟩⟩⟩) <;> exact resumes
  obtain ⟨_,number,found,_,has,_⟩ := persists.resumed (List.cons_ne_nil _ _) both
  exact ⟨member,kind,done,resumes,number,found,has⟩

end State
end MountHub
