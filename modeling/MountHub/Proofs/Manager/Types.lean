import MountHub.Proofs.Manager.Retired
import MountHub.Proofs.Manager.Saving

/-! Driver types. A row has the driver type that it was created with for as long as it exists,
and the drivers that are mounted for it were made as what a catalog had for that type. Only a
creation brings a new type into the rows, and only under an id that was not handed out before. -/
namespace MountHub
open Operation

variable {world : World} {catalog : Catalog} {storage old : Storage} {state middle after : State}
  {path : String} {number : Nat} {wanted : String → Prop} {lines : List LogRecord}

namespace Table

variable {table changed : Table} {id : StorageId}

/-- Each row was there before, with its id and its driver type. -/
def KeepsTypes (table changed : Table) : Prop :=
  ∀ row ∈ changed.storages, ∃ old ∈ table.storages, old.id = row.id ∧ old.driver = row.driver

theorem KeepsTypes.refl (table : Table) : table.KeepsTypes table :=
  fun row member => ⟨row,member,rfl,rfl⟩

theorem keepsTypes_update (updated : table.update storage = .ok changed)
    (present : old ∈ table.storages) (id : old.id = storage.id)
    (type : old.driver = storage.driver) : table.KeepsTypes changed := by
  intro row member
  rcases (mem_update updated).mp member with rfl | ⟨before,_⟩
  · exact ⟨old,present,id,type⟩
  · exact ⟨row,before,rfl,rfl⟩

theorem keepsTypes_delete (deleted : table.delete id = .ok changed) : table.KeepsTypes changed :=
  fun row member => ⟨row,((mem_delete deleted).mp member).1,rfl,rfl⟩

theorem Change.lastId_le (change : table.Change changed) : table.lastId ≤ changed.lastId := by
  cases change with
  | none => exact le_rfl
  | created created =>
    have last := (create_eq_ok created).2.2.2.2
    omega
  | updated updated => exact (update_eq_ok updated).2.2.2.ge
  | deleted deleted => exact (delete_eq_ok deleted).2.2.ge

end Table

namespace State

/-- The driver was mounted before, as the same kind of driver and for the same driver type. -/
structure Kept (state after : State) (number : Nat) : Prop where
  mounted : ∃ path, state.registry.load path = some number
  type : (after.driver number).storage.driver = (state.driver number).storage.driver
  kind : (after.driver number).kind = (state.driver number).kind

/-- The driver is new, and the catalog has its kind for the driver type. -/
structure New (catalog : Catalog) (state after : State) (number : Nat) : Prop where
  beyond : state.drivers.length ≤ number
  known : catalog.find? (after.driver number).storage.driver = some (after.driver number).kind

/-- Driver types stay as they are, but for those that new rows and new drivers bring along. -/
structure Retains (catalog : Catalog) (wanted : String → Prop) (state after : State) : Prop where
  grown : state.drivers.length ≤ after.drivers.length
  handedOut : state.table.lastId ≤ after.table.lastId
  rows : ∀ row ∈ after.table.storages,
    (∃ old ∈ state.table.storages, old.id = row.id ∧ old.driver = row.driver) ∨
      wanted row.driver ∧ state.table.lastId < row.id.raw.toNat
  mounts : ∀ path number, after.registry.load path = some number →
    state.Kept after number ∨ New catalog state after number

/-- The rows and the drivers stay, and nothing new is mounted. -/
theorem Retains.of_eq (table : after.table = state.table) (drivers : after.drivers = state.drivers)
    (mounts : ∀ path number, after.registry.load path = some number →
      state.registry.load path = some number) : Retains catalog wanted state after where
  grown := drivers ▸ le_rfl
  handedOut := table ▸ le_rfl
  rows row member := .inl ⟨row,table ▸ member,rfl,rfl⟩
  mounts path number found := by
    have same := driver_congr drivers number
    exact .inl ⟨⟨path,mounts path number found⟩,by rw [same],by rw [same]⟩

theorem Retains.trans (first : Retains catalog wanted state middle)
    (second : Retains catalog wanted middle after) : Retains catalog wanted state after where
  grown := first.grown.trans second.grown
  handedOut := first.handedOut.trans second.handedOut
  rows row member := by
    rcases second.rows row member with ⟨old,inside,id,type⟩ | ⟨wanted,later⟩
    · rw [← id,← type]
      exact first.rows old inside
    · exact .inr ⟨wanted,first.handedOut.trans_lt later⟩
  mounts path number found := by
    rcases second.mounts path number found with ⟨⟨place,before⟩,type,kind⟩ | ⟨beyond,known⟩
    · rcases first.mounts place number before with ⟨mounted,was,made⟩ | ⟨beyond,known⟩
      · exact .inl ⟨mounted,type.trans was,kind.trans made⟩
      · exact .inr ⟨beyond,by rw [type,kind]; exact known⟩
    · exact .inr ⟨first.grown.trans beyond,known⟩

/-- A driver that is mounted for a row is of the type of the row, so it stays of its type when
rows do. -/
theorem Origin.kept_of_types (origin : state.Origin {} after path number) (sound : state.Sound)
    (types : state.table.KeepsTypes after.table) : state.Kept after number := by
  cases origin with
  | kept before rests =>
    exact ⟨⟨path,before⟩,congrArg Storage.driver rests.storage_eq,rests.kind_eq⟩
  | fresh _ known => cases known
  | @rebound old row _ held member before id rests bound =>
    obtain ⟨was,inside,same,type⟩ := types row member
    obtain ⟨live,present,liveId,_,liveType⟩ := (sound.backed before).row
    obtain rfl := sound.table.eq_of_id inside present ((same.trans id.symm).trans liveId.symm)
    refine ⟨⟨_,before⟩,?_,(Driver.kind_of_init bound).trans rests.kind_eq⟩
    rw [Driver.storage_of_init_ok bound,← type,liveType]

theorem Retains.of_origin (sound : state.Sound) (types : state.table.KeepsTypes after.table)
    (handedOut : state.table.lastId ≤ after.table.lastId)
    (grown : state.drivers.length ≤ after.drivers.length)
    (origin : ∀ {path number}, after.registry.load path = some number →
      state.Origin {} after path number) : Retains catalog wanted state after where
  grown := grown
  handedOut := handedOut
  rows row member := .inl (types row member)
  mounts _ _ found := .inl ((origin found).kept_of_types sound types)

end State

/-- A new driver that is mounted was made as what the catalog has for the type of its row. -/
theorem Mounting.mounts {words : String} {reply : Except StorageError Unit} {kind : DriverKind}
    (mounting : Mounting world words lines state.drivers.length storage middle reply after)
    (known : catalog.find? storage.driver = some kind) (sound : state.Sound)
    (drivers : middle.drivers = (state.made kind).drivers)
    (registry : middle.registry = state.registry) (found : after.registry.load path = some number) :
    state.Kept after number ∨ State.New catalog state after number := by
  have driver (each : Nat) : middle.driver each =
      if each = state.drivers.length then Driver.fresh kind else state.driver each :=
    (State.driver_congr drivers each).trans (State.driver_made state kind each)
  have made : state.drivers.length < middle.drivers.length := by simp [drivers]
  rcases mounting.origin made found with ⟨before,stays⟩ | ⟨rfl,bound⟩
  · rw [registry] at before
    rw [driver,if_neg (sound.backed before).made.ne] at stays
    exact .inl ⟨⟨path,before⟩,by rw [stays],by rw [stays]⟩
  · rw [driver,if_pos rfl] at bound
    refine .inr ⟨le_rfl,?_⟩
    rw [Driver.storage_of_init_ok bound,Driver.kind_of_init bound,Driver.kind_fresh]
    exact known

theorem Created.retains {reply : Except StorageError StorageId}
    (created : Created world catalog storage state reply after) (sound : state.Sound)
    (asked : wanted storage.driver) : state.Retains catalog wanted after := by
  cases created with
  | unsupported => exact .of_eq rfl rfl fun _ _ found => found
  | @unwritten kind =>
    refine ⟨by simp,le_rfl,fun row member => .inl ⟨row,member,rfl,rfl⟩,?_⟩
    intro path number found
    have stays : (state.made kind).driver number = state.driver number :=
      (State.driver_made state kind number).trans (if_neg (sound.backed found).made.ne)
    exact .inl ⟨⟨path,found⟩,congrArg (·.storage.driver) stays,congrArg Driver.kind stays⟩
  | @written kind id changed _ _ known created mounting =>
    have kept := World.ok_of_answers created
    refine ⟨?_,?_,?_,fun path number found => mounting.mounts known sound rfl rfl found⟩
    · rw [mounting.length_drivers]
      simp
    · rw [mounting.table_eq]
      exact (Table.Change.created kept).lastId_le
    · intro row member
      rw [mounting.table_eq] at member
      rcases (Table.mem_create kept).mp member with before | rfl
      · exact .inl ⟨row,before,rfl,rfl⟩
      · have next := (Table.create_eq_ok kept).1
        exact .inr ⟨asked,by simp only; omega⟩

theorem Updated.keepsTypes {reply : Except StorageError Unit}
    (updated : Updated world storage state reply after) : state.table.KeepsTypes after.table := by
  have rewritten {old : Storage} {changed : Table}
      (rewriting : Rewriting world old storage state changed) :
      state.table.KeepsTypes (state.rewritten old storage changed).table := by
    obtain ⟨present,id⟩ := rewriting.present
    rw [State.rewritten_table]
    exact Table.keepsTypes_update rewriting.updated present id rewriting.sameDriver
  cases updated with
  | unread | otherDriver | unwritten => exact .refl _
  | unmounted rewriting | unreleased rewriting => exact rewritten rewriting
  | released rewriting _ _ mounting =>
    rw [mounting.table_eq]
    exact rewritten rewriting

theorem Updated.length_drivers {reply : Except StorageError Unit}
    (updated : Updated world storage state reply after) :
    after.drivers.length = state.drivers.length := by
  cases updated with
  | unread | otherDriver | unwritten => rfl
  | unmounted => simp
  | unreleased => simp
  | released _ _ _ mounting =>
    rw [mounting.length_drivers]
    simp

theorem Updated.retains {reply : Except StorageError Unit}
    (updated : Updated world storage state reply after) (sound : state.Sound) :
    state.Retains catalog wanted after :=
  .of_origin sound updated.keepsTypes updated.table_change.lastId_le updated.length_drivers.ge
    (updated.origin sound {})

theorem Deleted.keepsTypes {id : StorageId} {reply : Except StorageError Unit}
    (deleted : Deleted world id state reply after) : state.table.KeepsTypes after.table := by
  cases deleted with
  | unread | unmounted | unreleased | undeleted => exact .refl _
  | done _ _ _ deleted => exact Table.keepsTypes_delete (World.ok_of_answers deleted)

theorem Deleted.length_drivers {id : StorageId} {reply : Except StorageError Unit}
    (deleted : Deleted world id state reply after) :
    after.drivers.length = state.drivers.length := by
  cases deleted <;> simp [State.freed]

theorem Deleted.retains {id : StorageId} {reply : Except StorageError Unit}
    (deleted : Deleted world id state reply after) (sound : state.Sound) :
    state.Retains catalog wanted after :=
  .of_origin sound deleted.keepsTypes deleted.table_change.lastId_le deleted.length_drivers.ge
    (deleted.origin {})

/-- What a driver holds is of the type of its row. -/
theorem Saved.keepsTypes {reply : Except StorageError Unit}
    (saved : Saved world number state reply after) (sound : state.Sound)
    (mounted : state.registry.load path = some number) :
    state.table.KeepsTypes after.table := by
  cases saved with
  | unserialized | unwritten => exact .refl _
  | done _ written =>
    obtain ⟨live,present,id,_,type⟩ := (sound.backed mounted).row
    exact Table.keepsTypes_update (World.ok_of_answers written) present id type

theorem Saved.retains {reply : Except StorageError Unit}
    (saved : Saved world number state reply after) (sound : state.Sound)
    (mounted : state.registry.load path = some number) : state.Retains catalog wanted after :=
  .of_origin sound (saved.keepsTypes sound mounted) saved.table_change.lastId_le
    (congrArg List.length saved.writes.drivers).ge (saved.origin {})

theorem Loaded.retains {well : Bool} (loaded : Loaded world catalog storage state well after)
    (sound : state.Sound) : state.Retains catalog wanted after := by
  have mounted {kind : DriverKind} {reply : Except StorageError Unit} {middle : State}
      (known : catalog.find? storage.driver = some kind)
      (mounting : Mounting world "failed init storage" [] state.drivers.length storage
        (state.made kind) reply middle) : state.Retains catalog wanted middle := by
    refine ⟨?_,mounting.table_eq ▸ le_rfl,fun row member => .inl ⟨row,?_,rfl,rfl⟩,
      fun path number found => mounting.mounts known sound rfl rfl found⟩
    · rw [mounting.length_drivers]
      simp
    · rwa [mounting.table_eq] at member
  cases loaded with
  | unsupported => exact .of_eq rfl rfl fun _ _ found => found
  | unbound known mounting =>
    exact (mounted known mounting).trans (.of_eq rfl rfl fun _ _ found => found)
  | done known mounting => exact mounted known mounting

theorem LetGo.length_drivers (letGo : LetGo world path number state after) :
    after.drivers.length = state.drivers.length := by
  cases letGo <;> simp

theorem LetGo.retains (letGo : LetGo world path number state after) (sound : state.Sound) :
    state.Retains catalog wanted after :=
  .of_origin sound (letGo.table_eq ▸ .refl _) (letGo.table_eq ▸ le_rfl)
    letGo.length_drivers.ge (letGo.origin {})

namespace Step

/-- The request asks for a new storage of this driver type. -/
def Creates (step : Step) (type : String) : Prop :=
  ∃ given : Storage, step.request = .create given ∧ given.driver = type

theorem requestInvariant_retains (step : Step) (begun : State) : RequestInvariant step fun state =>
    state.Sound ∧ begun.Retains step.catalog step.Creates state where
  short holds := holds.1.table.length_lt
  noted _ holds := ⟨holds.1.note _,holds.2.trans (.of_eq rfl rfl fun _ _ found => found)⟩
  turned _ holds :=
    ⟨holds.1.same_drivers rfl rfl rfl,holds.2.trans (.of_eq rfl rfl fun _ _ found => found)⟩
  created asked holds created :=
    ⟨created.sound holds.1 (Path.canonical_standardize _),
      holds.2.trans (created.retains holds.1 ⟨_,asked,rfl⟩)⟩
  updated _ holds updated :=
    ⟨updated.sound holds.1 (Path.canonical_standardize _),holds.2.trans (updated.retains holds.1)⟩
  deleted _ holds deleted := ⟨deleted.sound holds.1,holds.2.trans (deleted.retains holds.1)⟩
  saved _ mounted holds saved :=
    ⟨saved.sound holds.1 mounted,holds.2.trans (saved.retains holds.1 mounted)⟩
  loaded _ row holds loaded := ⟨loaded.sound holds.1 row,holds.2.trans (loaded.retains holds.1)⟩
  letGo _ _ holds letGo := ⟨letGo.sound holds.1,holds.2.trans (letGo.retains holds.1)⟩
  restarted _ holds :=
    ⟨holds.1.restart,holds.2.trans (.of_eq rfl rfl fun _ _ found => nomatch found)⟩

end Step

theorem State.Sound.retains_after (sound : state.Sound) (step : Step) :
    state.Retains step.catalog step.Creates (step.after state) :=
  ((step.requestInvariant_retains state).step
    ⟨sound,.of_eq rfl rfl fun _ _ found => found⟩).2

variable {begun : State} {steps : List Step} {step : Step} {id : StorageId} {type : String}
  {kind : DriverKind}

/-- Among the steps is the creation of a storage of this driver type, which gave a new row the
id, whether its driver could be mounted or not. -/
def Assigned (begun : State) (steps : List Step) (id : StorageId) (type : String) : Prop :=
  ∃ first step rest, steps = first ++ step :: rest ∧ step.Creates type ∧
    (∀ row ∈ (begun.run first).table.storages, row.id ≠ id) ∧
    ∃ row ∈ (begun.run (first ++ [step])).table.storages, row.id = id ∧ row.driver = type

/-- Among the steps is one in which the driver was made, as what its catalog had for the driver
type. -/
def Built (begun : State) (steps : List Step) (number : Nat) (type : String) (kind : DriverKind) :
    Prop :=
  ∃ first step rest, steps = first ++ step :: rest ∧
    (begun.run first).drivers.length ≤ number ∧
    number < (begun.run (first ++ [step])).drivers.length ∧
    ((begun.run (first ++ [step])).driver number).kind = kind ∧
    step.catalog.find? type = some kind

theorem Assigned.snoc (assigned : Assigned begun steps id type) (step : Step) :
    Assigned begun (steps ++ [step]) id type := by
  obtain ⟨first,maker,rest,rfl,facts⟩ := assigned
  exact ⟨first,maker,rest ++ [step],by simp,facts⟩

theorem Built.snoc (built : Built begun steps number type kind) (step : Step) :
    Built begun (steps ++ [step]) number type kind := by
  obtain ⟨first,maker,rest,rfl,facts⟩ := built
  exact ⟨first,maker,rest ++ [step],by simp,facts⟩

/-- The id was given by an earlier step, or by the last one. -/
theorem Assigned.cases_snoc (assigned : Assigned begun (steps ++ [step]) id type) :
    Assigned begun steps id type ∨
      ∃ row ∈ (begun.run (steps ++ [step])).table.storages, row.id = id ∧ row.driver = type := by
  obtain ⟨first,maker,rest,split,creates,absent,present⟩ := assigned
  rcases List.eq_nil_or_concat rest with rfl | ⟨rest,last,rfl⟩
  · exact .inr (split ▸ present)
  · rw [List.concat_eq_append,← List.cons_append,← List.append_assoc] at split
    obtain ⟨rfl,_⟩ := List.append_inj' split rfl
    exact .inl ⟨first,maker,rest,rfl,creates,absent,present⟩

/-- Rows have the types that their ids were given for, and mounted drivers were made for the
types that they have. -/
structure Typed (begun : State) (steps : List Step) : Prop where
  rows : ∀ row ∈ (begun.run steps).table.storages, Assigned begun steps row.id row.driver
  types : ∀ id type, Assigned begun steps id type →
    id.raw.toNat ≤ (begun.run steps).table.lastId ∧
      ∀ row ∈ (begun.run steps).table.storages, row.id = id → row.driver = type
  mounts : ∀ path number, (begun.run steps).registry.load path = some number →
    Built begun steps number ((begun.run steps).driver number).storage.driver
      ((begun.run steps).driver number).kind

theorem typed_start (name : String) : Typed (.start { name }) [] where
  rows _ member := nomatch member
  types _ _ assigned := by
    obtain ⟨first,step,rest,split,_⟩ := assigned
    simp at split
  mounts _ _ found := nomatch found

/-- A new row has an id beyond all that were given, so the rows that were there stay the only
ones with their ids. -/
theorem Typed.snoc (typed : Typed begun steps) (step : Step) (sound : (begun.run steps).Sound)
    (kept : (begun.run (steps ++ [step])).Sound) : Typed begun (steps ++ [step]) := by
  have retains := sound.retains_after step
  rw [← State.run_snoc] at retains
  refine ⟨fun row member => ?_,fun id type assigned => ?_,fun path number found => ?_⟩
  · rcases retains.rows row member with ⟨old,inside,sameId,sameType⟩ | ⟨creates,later⟩
    · rw [← sameId,← sameType]
      exact (typed.rows old inside).snoc step
    · refine ⟨steps,step,[],rfl,creates,fun old inside same => ?_,row,member,rfl,rfl⟩
      have bound := (sound.table.handedOut old inside).2
      rw [same] at bound
      omega
  · rcases assigned.cases_snoc with before | ⟨only,present,rfl,rfl⟩
    · obtain ⟨bound,types⟩ := typed.types id type before
      refine ⟨bound.trans retains.handedOut,fun row member same => ?_⟩
      rcases retains.rows row member with ⟨old,inside,sameId,sameType⟩ | ⟨_,later⟩
      · exact sameType.symm.trans (types old inside (sameId.trans same))
      · rw [same] at later
        omega
    · refine ⟨(kept.table.handedOut only present).2,fun row member same => ?_⟩
      rw [kept.table.eq_of_id member present same]
  · rcases retains.mounts path number found with ⟨⟨place,before⟩,sameType,sameKind⟩ | ⟨beyond,known⟩
    · rw [sameType,sameKind]
      exact (typed.mounts place number before).snoc step
    · exact ⟨steps,step,[],rfl,beyond,(kept.backed found).made,rfl,known⟩

theorem typed_run (name : String) (steps : List Step) : Typed (.start { name }) steps := by
  induction steps using List.reverseRecOn with
  | nil => exact typed_start name
  | append_singleton steps step before =>
    exact before.snoc step (State.sound_run name steps) (State.sound_run name (steps ++ [step]))

/-- A creation that succeeds gives the id that it returns to a row of the type asked for. -/
theorem assigned_of_create (name : String) (first rest : List Step) {given : Storage}
    (asked : step.request = .create given)
    (ends : Ends (create step.world step.catalog given) ((State.start { name }).run first) (.ok id)
      after) : Assigned (.start { name }) (first ++ step :: rest) id given.driver := by
  have sound := State.sound_run name first
  have left : after = (State.start { name }).run (first ++ [step]) := by
    rw [State.run_snoc,Step.after,asked]
    exact (congrArg Prod.snd ends).symm
  have created := (created_of_ends ends).create_eq
  have next := (Table.create_eq_ok created).1
  have present := (Table.mem_create created).mpr (.inr rfl)
  rw [left] at present
  refine ⟨first,step,rest,rfl,⟨given,asked,rfl⟩,fun row member same => ?_,_,present,rfl,rfl⟩
  have bound := (sound.table.handedOut row member).2
  rw [same] at bound
  omega

namespace State

/-- Along every run, whatever fails on the way: the id of each row was given by a creation, as was
each id that a creation has returned. In every state the row with an id is of the driver type that
was asked for in that creation, if there is such a row. All drivers that are mounted for it hold
that type, and were made as what the catalog had for it. -/
theorem driver_type_kept (name : String) (steps : List Step) :
    let begun := start { name }
    let state := begun.run steps
    (∀ row ∈ state.table.storages, ∃ type, Assigned begun steps row.id type) ∧
    (∀ first step rest given id after, steps = first ++ step :: rest →
      step.request = .create given →
      Ends (create step.world step.catalog given) (begun.run first) (.ok id) after →
      Assigned begun steps id given.driver) ∧
    ∀ id type, Assigned begun steps id type →
      (∀ row ∈ state.table.storages, row.id = id → row.driver = type) ∧
      ∀ mounted ∈ state.mounted, mounted.storage.id = id → mounted.storage.driver = type ∧
        Built begun steps mounted.driver type (state.driver mounted.driver).kind := by
  intro begun state
  have typed : Typed begun steps := typed_run name steps
  refine ⟨fun row member => ⟨row.driver,typed.rows row member⟩,?_,fun id type assigned => ?_⟩
  · rintro first step rest given id after rfl asked ends
    exact assigned_of_create name first rest asked ends
  · have types := (typed.types id type assigned).2
    refine ⟨types,fun mounted member same => ?_⟩
    obtain ⟨found,live⟩ := mem_mounted.mp member
    obtain ⟨row,inside,rowId,_,rowType⟩ := ((sound_run name steps).backed found).row
    have held : (state.driver mounted.driver).storage.driver = type :=
      rowType.symm.trans (types row inside (rowId.trans (live ▸ same)))
    exact ⟨live ▸ held,held ▸ typed.mounts _ _ found⟩

end State
end MountHub
