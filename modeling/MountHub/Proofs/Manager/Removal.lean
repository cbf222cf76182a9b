import MountHub.Proofs.Manager.Retired
import MountHub.Proofs.Manager.Stranded

/-! Which rows can be deleted: those that something is mounted at. A row that nothing is mounted
at is kept, whoever asks for its deletion, until a load has mounted it. -/
namespace MountHub
open Operation

variable {world : World} {state after : State} {row : Storage}

namespace State

/-- What stays of a row that is gone: nothing. No row has its id, nothing is mounted at its
path, and a creation there is not told that the path is taken. -/
structure Cleared (state : State) (row : Storage) : Prop where
  gone : state.table.get row.id = .error (.notFound row.id)
  unmounted : state.registry.load row.mountPath = none
  free : ∀ {world catalog given reply after}, world.Works →
    Path.standardize given.mountPath = row.mountPath →
    Ends (create world catalog given) state reply after →
    ∀ step name, reply ≠ .error (.persistence step (.pathTaken name))

/-- Every row but one is kept as it was, and that one is gone. -/
structure Clears (state : State) (row : Storage) (after : State) : Prop where
  others : after.table.storages = state.table.storages.filter fun other => other.id ≠ row.id
  cleared : after.Cleared row

end State

/-- A creation at a path that no row has is not told that the path is taken. -/
theorem Created.ne_pathTaken {catalog : Catalog} {storage : Storage}
    {reply : Except StorageError StorageId}
    (created : Created world catalog storage state reply after) (works : world.Works)
    (free : ∀ other ∈ state.table.storages, other.mountPath ≠ storage.mountPath)
    (step name : String) : reply ≠ .error (.persistence step (.pathTaken name)) := by
  intro taken
  cases created with
  | unsupported => cases taken
  | @unwritten _ cause _ refused =>
    rw [works.answers_eq] at refused
    cases cause with
    | pathTaken other => exact Table.create_ne_pathTaken free refused
    | notFound | pageOutOfRange | database | io => cases taken
  | written _ _ mounting => cases mounting <;> cases taken

/-- A deletion that ends well clears its row. -/
theorem Deleted.clears (deleted : Deleted world row.id state (.ok ()) after)
    (sound : state.Sound) (kept : state.table.get row.id = .ok row) : state.Clears row after := by
  obtain ⟨old,read,gone,registry⟩ := deleted.of_ok
  obtain rfl := Except.ok.inj (kept.symm.trans read)
  have present := (Table.mem_of_get_eq_ok kept).1
  refine ⟨(Table.delete_eq_ok gone).2.1,(sound.table.retired gone).get_eq,?_,?_⟩
  · rw [registry,Registry.load_delete,if_pos rfl]
  · intro world catalog given reply done works path ends step name
    refine (created_of_ends ends).ne_pathTaken works (fun other member same => ?_) step name
    -- Another row with the path would have had it beside the deleted one.
    obtain ⟨before,different⟩ := (Table.mem_delete gone).mp member
    exact different (congrArg Storage.id (sound.table.eq_of_path before present (same.trans path)))

namespace State

/-- A row whose path something is mounted at is deleted, if nothing stands in the way. -/
theorem Sound.delete (sound : state.Sound) (works : world.Works)
    (kept : state.table.get row.id = .ok row)
    (mounted : state.registry.load row.mountPath ≠ none) :
    ∃ done, Ends (Operation.delete world row.id) state (.ok ()) done ∧ state.Clears row done := by
  obtain ⟨number,found⟩ := Option.ne_none_iff_exists'.mp mounted
  obtain ⟨other,inside,id,path,_⟩ := (sound.backed found).row
  obtain rfl := sound.table.eq_of_path inside (Table.mem_of_get_eq_ok kept).1 path
  obtain ⟨reply,done,ends⟩ := exists_ends (Operation.delete world other.id) state
  obtain rfl := (deleted_of_ends ends).eq_ok sound works found id.symm
  exact ⟨done,ends,(deleted_of_ends ends).clears sound kept⟩

/-- Whatever has failed before, and with nothing in the way of the deletion: a row that
something is mounted at is deleted, and it is gone then, its path unmounted and free for a new
row; the deletion of a row that nothing is mounted at fails for want of a mount, and leaves
everything as it was. Once a load has come to that row and its driver has taken it, it is deleted
like any other. -/
theorem delete_row (name : String) (steps : List Step) :
    let state := (start { name }).run steps
    ∀ row ∈ state.table.storages, ∀ {world : World}, world.Works →
      (state.registry.load row.mountPath ≠ none →
        ∃ done, Ends (Operation.delete world row.id) state (.ok ()) done ∧
          state.Clears row done) ∧
      (state.registry.load row.mountPath = none →
        ∃ done, Ends (Operation.delete world row.id) state
          (.error (.notMounted row.mountPath)) done ∧ state.Intact done) ∧
      ∀ {loading : World} {catalog : Catalog} {kind : DriverKind} {size : UInt64},
        catalog.find? row.driver = some kind → loading.Accepts kind row →
        (∀ events page size, (loading events).refusesCall (.list page size) = none) →
        ∃ count loaded done, Ends (Operation.load loading catalog size) state (.ok count) loaded ∧
          Ends (Operation.delete world row.id) loaded (.ok ()) done ∧ loaded.Clears row done := by
  intro state row member world works
  have sound : state.Sound := sound_run name steps
  have kept := sound.table.get_of_mem member
  refine ⟨sound.delete works kept,?_,?_⟩
  · intro unmounted
    obtain ⟨reply,done,ends⟩ := exists_ends (Operation.delete world row.id) state
    obtain ⟨rfl,intact⟩ := (deleted_of_ends ends).of_stranded works ⟨kept,unmounted⟩
    exact ⟨done,ends,intact⟩
  · intro loading catalog kind size known accepts listed
    obtain ⟨reply,loaded,ends⟩ := exists_ends (Operation.load loading catalog size) state
    obtain ⟨⟨count,rfl⟩,again,serves⟩ := load_serves sound kept known accepts listed ends
    obtain ⟨number,mounted,_⟩ := serves.mounted
    obtain ⟨done,deleted,clears⟩ :=
      again.delete works serves.kept (Option.ne_none_iff_exists'.mpr ⟨number,mounted⟩)
    exact ⟨count,loaded,done,ends,deleted,clears⟩

/-- Of two rows the second was created under a cancelled context. The first is deleted, the
second only after a load. -/
theorem delete_row_loaded :
    let state := (start { name := "storages" }).run
      [⟨.willing .live,.builtin,.create { mountPath := "/a", driver := "memory" }⟩,
        ⟨.willing (.root true),.builtin,.create { mountPath := "/d", driver := "memory" }⟩]
    let first : Storage := { id := ⟨1⟩, mountPath := "/a", driver := "memory", modified := 7 }
    let second : Storage := { id := ⟨2⟩, mountPath := "/d", driver := "memory", modified := 7 }
    let deleted := (Operation.delete (.willing .live) ⟨1⟩).run.run state
    let refused := (Operation.delete (.willing .live) ⟨2⟩).run.run state
    let loaded := (Operation.load (.willing .live) .builtin 10).run.run state
    let late := (Operation.delete (.willing .live) ⟨2⟩).run.run loaded.2
    state.table.storages = [first,second] ∧ deleted.1 = .ok () ∧ state.Clears first deleted.2 ∧
      refused.1 = .error (.notMounted "/d") ∧ state.Intact refused.2 ∧
      (∃ count, loaded.1 = .ok count) ∧ late.1 = .ok () ∧ loaded.2.Clears second late.2 := by
  intro state first second deleted refused loaded late
  have rows : state.table.storages = [first,second] := by decide +kernel
  have mounted : state.registry.load "/a" ≠ none := by decide +kernel
  have unmounted : state.registry.load "/d" = none := by decide +kernel
  have known : Catalog.builtin.find? "memory" = some .memory := by decide
  have each := delete_row "storages"
    [⟨.willing .live,.builtin,.create { mountPath := "/a", driver := "memory" }⟩,
      ⟨.willing (.root true),.builtin,.create { mountPath := "/d", driver := "memory" }⟩]
  have one : first ∈ state.table.storages := by simp [rows]
  have two : second ∈ state.table.storages := by simp [rows]
  have gone := (each first one (World.works_willing .live)).1 mounted
  obtain ⟨_,stays,after⟩ := each second two (World.works_willing .live)
  have stayed := stays unmounted
  have loads := @after (.willing .live) .builtin .memory 10 known (World.accepts_memory rfl rfl)
    fun _ _ _ => rfl
  change ∃ done, deleted = (.ok (),done) ∧ state.Clears first done at gone
  change ∃ done, refused = (.error (.notMounted "/d"),done) ∧ state.Intact done at stayed
  change ∃ count between done, loaded = (.ok count,between) ∧
    (Operation.delete (.willing .live) ⟨2⟩).run.run between = (.ok (),done) ∧
    between.Clears second done at loads
  obtain ⟨count,between,done,listed,ended,clears⟩ := loads
  have same : loaded.2 = between := congrArg Prod.snd listed
  have last : late = (.ok (),done) := by rw [← ended,← same]
  clear_value state first second deleted refused loaded late
  obtain ⟨_,rfl,cleared⟩ := gone
  obtain ⟨_,rfl,intact⟩ := stayed
  subst listed last
  exact ⟨rows,rfl,cleared,rfl,intact,⟨count,rfl⟩,rfl,clears⟩

/-- A row that was created under a cancelled context is not deleted, although nothing stands in
the way of the deletion, and keeps its path to itself. -/
theorem delete_row_refused :
    let given : Storage := { mountPath := "/d", driver := "memory" }
    let state := (start { name := "storages" }).run
      [⟨.willing (.root true),.builtin,.create given⟩]
    let deleted := (Operation.delete (.willing .live) ⟨1⟩).run.run state
    let again := (create (.willing .live) .builtin given).run.run deleted.2
    (World.willing .live).Works ∧
      state.table.storages = [{ id := ⟨1⟩, mountPath := "/d", driver := "memory", modified := 7 }] ∧
      deleted.1 = .error (.notMounted "/d") ∧
      deleted.2.table.storages = state.table.storages ∧
      again.1 =
        .error (.persistence "failed create storage in database" (.pathTaken "storages")) := by
  intro given state deleted again
  exact ⟨World.works_willing .live,by decide +kernel,by decide +kernel,by decide +kernel,
    by decide +kernel⟩

end State
end MountHub
