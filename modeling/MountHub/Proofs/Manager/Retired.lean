import MountHub.Proofs.Manager.Attempt
import MountHub.Proofs.Manager.Residue
import MountHub.Proofs.Registry.Rotation

/-! Deleted storages. The id of a row that is deleted is retired: it was handed out, and no
row has it. What a request comes to changes the rows at most once, and gives none a retired id.
So nothing shows a deleted storage again, and nothing can be done with it. -/
namespace MountHub
open Operation

variable {world : World} {catalog : Catalog} {storage : Storage} {state after : State}
  {id : StorageId}

namespace Table

variable {table changed : Table}

/-- The rows stay, or they take one change. -/
inductive Change (table : Table) : Table → Prop
  | none : Change table table
  | created {storage : Storage} {id : StorageId} {changed : Table}
      (created : table.create storage = .ok (id,changed)) : Change table changed
  | updated {storage : Storage} {changed : Table}
      (updated : table.update storage = .ok changed) : Change table changed
  | deleted {id : StorageId} {changed : Table}
      (deleted : table.delete id = .ok changed) : Change table changed

structure Retired (table : Table) (id : StorageId) : Prop where
  handedOut : id.raw.toNat ≤ table.lastId
  absent : ∀ row ∈ table.storages, row.id ≠ id

theorem Sound.retired (sound : table.Sound) (deleted : table.delete id = .ok changed) :
    changed.Retired id := by
  obtain ⟨⟨old,present,rfl⟩,_,last⟩ := delete_eq_ok deleted
  refine ⟨?_,fun row member => ((mem_delete deleted).mp member).2⟩
  rw [last]
  exact (sound.handedOut old present).2

namespace Retired

/-- A new row gets an id beyond the last one. -/
theorem ne_of_create {new : StorageId} (retired : table.Retired id)
    (created : table.create storage = .ok (new,changed)) : new ≠ id := by
  have next := (create_eq_ok created).1
  have bound := retired.handedOut
  rintro rfl
  omega

theorem change (retired : table.Retired id) (change : table.Change changed) :
    changed.Retired id := by
  have handedOut := retired.handedOut
  cases change with
  | none => exact retired
  | created created =>
    have last := (create_eq_ok created).2.2.2.2
    refine ⟨by omega,fun row member => ?_⟩
    rcases (mem_create created).mp member with before | rfl
    · exact retired.absent row before
    · exact retired.ne_of_create created
  | updated updated =>
    obtain ⟨⟨old,present,same⟩,_,_,last⟩ := update_eq_ok updated
    refine ⟨by omega,fun row member => ?_⟩
    rcases (mem_update updated).mp member with rfl | ⟨before,_⟩
    · rw [← same]
      exact retired.absent old present
    · exact retired.absent row before
  | deleted deleted =>
    have last := (delete_eq_ok deleted).2.2
    exact ⟨by omega,fun row member => retired.absent row ((mem_delete deleted).mp member).1⟩

theorem get_eq (retired : table.Retired id) : table.get id = .error (.notFound id) := by
  have missing (row : Storage) : table.get id ≠ .ok row := by
    intro found
    obtain ⟨member,same⟩ := mem_of_get_eq_ok found
    exact retired.absent row member same
  unfold get at missing ⊢
  split
  · rename_i row hit
    rw [hit] at missing
    exact absurd rfl (missing row.storage)
  · rfl

end Retired
end Table

/-- A creation that succeeds leaves the rows as the table creates the new one. -/
theorem Created.create_eq {new : StorageId}
    (created : Created world catalog storage state (.ok new) after) :
    state.table.create storage = .ok (new,after.table) := by
  generalize ended : (Except.ok new : Except StorageError StorageId) = reply at created
  cases created with
  | unsupported | unwritten => cases ended
  | @written kind id changed reply after known created mounting =>
    cases reply with
    | error => cases ended
    | ok =>
      obtain rfl := Except.ok.inj ended
      rw [mounting.table_eq]
      exact World.ok_of_answers created

theorem Created.of_ok {new : StorageId}
    (created : Created world catalog storage state (.ok new) after) :
    ∃ changed, state.table.create storage = .ok (new,changed) :=
  ⟨after.table,created.create_eq⟩

theorem Created.table_change {reply : Except StorageError StorageId}
    (created : Created world catalog storage state reply after) :
    state.table.Change after.table := by
  cases created with
  | unsupported | unwritten => exact .none
  | written _ created mounting =>
    rw [mounting.table_eq]
    exact .created (World.ok_of_answers created)

theorem Updated.table_change {reply : Except StorageError Unit}
    (updated : Updated world storage state reply after) : state.table.Change after.table := by
  have change {old : Storage} {changed : Table}
      (rewriting : Rewriting world old storage state changed) :
      state.table.Change (state.rewritten old storage changed).table := by
    rw [State.rewritten_table]
    exact .updated rewriting.updated
  cases updated with
  | unread | otherDriver | unwritten => exact .none
  | unmounted rewriting => exact change rewriting
  | unreleased rewriting => exact change rewriting
  | released rewriting _ _ mounting =>
    rw [mounting.table_eq]
    exact change rewriting

theorem Deleted.table_change {reply : Except StorageError Unit}
    (deleted : Deleted world id state reply after) : state.table.Change after.table := by
  cases deleted with
  | unread | unmounted | unreleased | undeleted => exact .none
  | done _ _ _ deleted => exact .deleted (World.ok_of_answers deleted)

theorem Saved.table_change {number : Nat} {reply : Except StorageError Unit}
    (saved : Saved world number state reply after) : state.table.Change after.table := by
  cases saved with
  | unserialized | unwritten => exact .none
  | done _ written => exact .updated (World.ok_of_answers written)

/-- A retired id stays retired. -/
theorem stepInvariant_retired (world : World) (catalog : Catalog) (id : StorageId) :
    StepInvariant world catalog fun state => state.Sound ∧ state.table.Retired id where
  short holds := holds.1.table.length_lt
  noted _ holds := ⟨holds.1.note _,holds.2⟩
  turned _ holds := ⟨holds.1.same_drivers rfl rfl rfl,holds.2⟩
  created canonical holds created :=
    ⟨created.sound holds.1 canonical,holds.2.change created.table_change⟩
  updated canonical holds updated :=
    ⟨updated.sound holds.1 canonical,holds.2.change updated.table_change⟩
  deleted holds deleted := ⟨deleted.sound holds.1,holds.2.change deleted.table_change⟩
  saved mounted holds saved := ⟨saved.sound holds.1 mounted,holds.2.change saved.table_change⟩
  loaded row holds loaded := ⟨loaded.sound holds.1 row,loaded.table_eq ▸ holds.2⟩
  letGo holds letGo := ⟨letGo.sound holds.1,letGo.table_eq ▸ holds.2⟩
  restarted holds := ⟨holds.1.restart,holds.2⟩

/-- Nothing that a state shows has the id: no row, no mount, and no answer to a path. -/
structure State.Unseen (state : State) (id : StorageId) : Prop where
  row : ∀ row ∈ state.table.storages, row.id ≠ id
  listed : ∀ {world page size rows total after},
    Ends (Operation.list world page size) state (.ok (rows,total)) after →
      ∀ row ∈ rows, row.id ≠ id
  mounted : ∀ mounted ∈ state.mounted, mounted.storage.id ≠ id
  summary : ∀ summary ∈ state.mounts, summary.id ≠ id
  serving : ∀ path, ∀ mounted ∈ state.storagesByPath path, mounted.storage.id ≠ id
  chosen : ∀ {path mounted}, ((Call.balanced path).run state).1 = some mounted →
    mounted.storage.id ≠ id
  routed : ∀ {path mounted relative after},
    Ends (route path) state (.ok (mounted,relative)) after → mounted.storage.id ≠ id

theorem Operation.balanced_of_route {path relative : String} {mounted : Mounted}
    (ends : Ends (route path) state (.ok (mounted,relative)) after) :
    ((Call.balanced (Path.standardize path)).run state).1 = some mounted := by
  unfold route at ends
  rw [ends_bind_lift] at ends
  split at ends
  · rename_i chosen found
    obtain ⟨same,_⟩ := Prod.mk.inj (Except.ok.inj (ends_pure.mp ends).1)
    rw [found,same]
  · cases (ends_throw.mp ends).1

namespace Table.Retired

theorem unseen (retired : state.table.Retired id) (sound : state.Sound) : state.Unseen id := by
  have mounted : ∀ mounted ∈ state.mounted, mounted.storage.id ≠ id := by
    intro mounted member
    obtain ⟨found,same⟩ := State.mem_mounted.mp member
    obtain ⟨row,inside,rowId,_⟩ := (sound.backed found).row
    rw [same,← rowId]
    exact retired.absent row inside
  have chosen {path : String} {some : Mounted}
      (found : ((Call.balanced path).run state).1 = .some some) : some.storage.id ≠ id :=
    mounted some (Cursors.mem_of_select found)
  refine ⟨retired.absent,?_,mounted,?_,?_,chosen,fun ends => chosen (balanced_of_route ends)⟩
  · intro world page size rows total after ends row member
    exact retired.absent row (Table.mem_of_list (listed_of_ends ends) member)
  · intro summary member
    obtain ⟨storage,inside,rfl⟩ := List.mem_map.mp member
    obtain ⟨held,there,rfl⟩ := List.mem_map.mp (List.mem_mergeSort.mp inside)
    exact mounted held there
  · exact fun path held member => mounted held (Mounted.mem_resolve.mp member).1

/-- A row with a retired id is never read. -/
theorem answers_ne_ok (retired : state.table.Retired id) :
    world.answers state.events (.get id) (state.table.get id) ≠ .ok storage := by
  intro read
  have found := World.ok_of_answers read
  rw [retired.get_eq] at found
  cases found

end Table.Retired

/-- What comes of a change to a row that is not there: it fails and leaves everything as it
was. It fails for that reason, unless the table refuses to be read. -/
structure Missing (world : World) (step : String) (id : StorageId) (state : State)
    (reply : Except StorageError Unit) (after : State) : Prop where
  failed : ∃ cause, reply = .error (.ofTable step cause)
  missing : (world state.events).refusesCall (.get id) = none →
    reply = .error (.notFound (step ++ ": storage " ++ toString id.raw))
  intact : state.Intact after

theorem Table.Retired.missing {step : String} {cause : TableError}
    (retired : state.table.Retired id)
    (refused : world.answers state.events (.get id) (state.table.get id) = .error cause) :
    Missing world step id state (.error (.ofTable step cause)) (state.note (.table (.get id))) := by
  refine ⟨⟨cause,rfl⟩,fun answers => ?_,⟨rfl,rfl,rfl,rfl⟩⟩
  rw [World.answers,answers,retired.get_eq] at refused
  obtain rfl := Except.error.inj refused
  rfl

theorem Updated.missing {reply : Except StorageError Unit}
    (updated : Updated world storage state reply after)
    (retired : state.table.Retired storage.id) :
    Missing world "failed get old storage" storage.id state reply after := by
  cases updated with
  | unread refused => exact retired.missing refused
  | otherDriver read | unwritten read => exact absurd read retired.answers_ne_ok
  | unmounted rewriting | unreleased rewriting | released rewriting =>
    exact absurd rewriting.read retired.answers_ne_ok

theorem Deleted.missing {reply : Except StorageError Unit}
    (deleted : Deleted world id state reply after) (retired : state.table.Retired id) :
    Missing world "failed get storage" id state reply after := by
  cases deleted with
  | unread refused => exact retired.missing refused
  | unmounted read | unreleased read | undeleted read | done read =>
    exact absurd read retired.answers_ne_ok

namespace State

/-- Once a storage has been deleted, then whatever is done later and whatever of it fails: no
row, no mount and no answer has its id, no creation gives the id out again, and changing or
deleting it fails and leaves everything as it was. -/
theorem delete_retires (name : String) (steps : List Step) {gone : State}
    (deleted : Ends (Operation.delete world id) ((start { name }).run steps) (.ok ()) gone)
    (more : List Step) :
    let later := gone.run more
    later.Unseen id ∧
    (∀ {world catalog given new after}, Ends (create world catalog given) later (.ok new) after →
      new ≠ id) ∧
    (∀ {world given reply after}, given.id = id → Ends (update world given) later reply after →
      Missing world "failed get old storage" id later reply after) ∧
    ∀ {world reply after}, Ends (Operation.delete world id) later reply after →
      Missing world "failed get storage" id later reply after := by
  intro later
  have sound : ((start { name }).run steps).Sound := sound_run name steps
  have deletion := deleted_of_ends deleted
  have goneRetired : gone.table.Retired id := by
    obtain ⟨_,_,changed,_⟩ := deletion.of_ok
    exact sound.table.retired changed
  obtain ⟨soundLater,retired⟩ : later.Sound ∧ later.table.Retired id :=
    StepInvariant.run (fun world catalog => stepInvariant_retired world catalog id)
      ⟨deletion.sound sound,goneRetired⟩ more
  refine ⟨retired.unseen soundLater,?_,?_,?_⟩
  · intro world catalog given new after ends
    obtain ⟨changed,created⟩ := (created_of_ends ends).of_ok
    exact retired.ne_of_create created
  · intro world given reply after same ends
    subst same
    exact (updated_of_ends ends).missing retired
  · exact fun ends => (deleted_of_ends ends).missing retired

/-- A storage that is created with a deleted id, at the deleted path, gets the next id, and
that is what a later load mounts. -/
theorem delete_retires_recreated :
    let given : Storage := { id := ⟨1⟩, mountPath := "/d", driver := "memory" }
    let state := (start { name := "storages" }).run [⟨.willing .live,.builtin,.create given⟩]
    let ended := (Operation.delete (.willing .live) ⟨1⟩).run.run state
    let later := ended.2.run [⟨.willing .live,.builtin,.create given⟩,
      ⟨.willing .live,.builtin,.restart⟩,⟨.willing .live,.builtin,.load 0⟩]
    let changed := (update (.willing .live) given).run.run later
    state.registry.load "/d" = some 0 ∧ ended.1 = .ok () ∧
      (later.mounted.map fun mounted => mounted.storage.id) = [⟨2⟩] ∧ later.Unseen ⟨1⟩ ∧
      changed.1 = .error (.notFound "failed get old storage: storage 1") ∧
      later.Intact changed.2 := by
  intro given state ended later changed
  have mounted : state.registry.load "/d" = some 0 := by decide +kernel
  have well : ended.1 = .ok () := by decide +kernel
  have second : (later.mounted.map fun mounted => mounted.storage.id) = [⟨2⟩] := by
    decide +kernel
  have deletion : Ends (Operation.delete (.willing .live) ⟨1⟩) state (.ok ()) ended.2 := by
    rw [← well]
    exact ends_run (Operation.delete (.willing .live) ⟨1⟩) state
  obtain ⟨unseen,_,updates,_⟩ := delete_retires "storages"
    [⟨.willing .live,.builtin,.create given⟩] deletion
    [⟨.willing .live,.builtin,.create given⟩,⟨.willing .live,.builtin,.restart⟩,
      ⟨.willing .live,.builtin,.load 0⟩]
  have missing : Missing (.willing .live) "failed get old storage" ⟨1⟩ later changed.1 changed.2 :=
    updates rfl (ends_run (update (.willing .live) given) later)
  change later.Unseen ⟨1⟩ at unseen
  have reply : changed.1 =
      .error (.notFound ("failed get old storage: storage " ++ toString (1 : UInt64))) :=
    missing.missing rfl
  exact ⟨mounted,well,second,unseen,reply,missing.intact⟩

end State
end MountHub
