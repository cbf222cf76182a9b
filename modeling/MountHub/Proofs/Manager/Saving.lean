import MountHub.Proofs.Manager.Origin
import MountHub.Proofs.Manager.Retry
import MountHub.Proofs.Registry.View
import Mathlib.Data.List.Induction

/-! What a sync writes. It writes the live copy of a driver, and that is the row but for the
addition, unless an update has written the row and then failed in the driver. In that case the
index and the time of the change go back to what the driver holds. -/
namespace MountHub
open Operation Call

variable {world : World} {catalog : Catalog} {storage old row : Storage} {state after begun : State}
  {path : String} {number : Nat} {excused : Storage → Prop}

/-- Among the steps is an update that has written the row, and then has failed in the driver. -/
def Abandoned (begun : State) (steps : List Step) (row : Storage) : Prop :=
  ∃ first step rest given words cause after, steps = first ++ step :: rest ∧
    step.request = .update given ∧
    Ends (update step.world given) (begun.run first) (.error (.driverLifecycle words cause)) after ∧
    row = step.world.row (begun.run first) given

theorem Abandoned.snoc {steps : List Step} (abandoned : Abandoned begun steps row) (step : Step) :
    Abandoned begun (steps ++ [step]) row := by
  obtain ⟨first,failed,rest,given,words,cause,after,rfl,facts⟩ := abandoned
  exact ⟨first,failed,rest ++ [step],given,words,cause,after,by simp,facts⟩

theorem State.run_snoc (steps : List Step) (step : Step) :
    begun.run (steps ++ [step]) = step.after (begun.run steps) := by
  rw [State.run,List.foldl_append]
  rfl

namespace State

/-- Drivers that are mounted hold their rows but for the addition. Rows may be excused. -/
def Follows (excused : Storage → Prop) (state : State) : Prop :=
  ∀ path number, state.registry.load path = some number → ∀ row ∈ state.table.storages,
    row.id = (state.driver number).storage.id →
      row.bare = (state.driver number).storage.bare ∨ excused row

theorem Follows.mono {others : Storage → Prop} (follows : state.Follows excused)
    (more : ∀ row, excused row → others row) : state.Follows others :=
  fun path number found row member id =>
    (follows path number found row member id).imp_right (more row)

/-- A driver that has been bound holds its row, so only those that are still bound to what they
were bound to count, and of these only those whose rows have changed. -/
theorem Follows.of_origin (follows : state.Follows excused) (sound : after.Sound)
    (origin : ∀ {path number}, after.registry.load path = some number →
      state.Origin catalog after path number)
    (changed : ∀ {path number}, state.registry.load path = some number →
      (after.driver number).storage = (state.driver number).storage →
      ∀ row ∈ after.table.storages, row.id = (state.driver number).storage.id →
        row ∈ state.table.storages ∨ row.bare = (state.driver number).storage.bare ∨ excused row) :
    after.Follows excused := by
  intro path number found row member id
  have bound {held : Storage} (inside : held ∈ after.table.storages)
      (holds : (after.driver number).storage = held) :
      row.bare = (after.driver number).storage.bare := by
    rw [sound.table.eq_of_id member inside (holds ▸ id),holds]
  cases origin found with
  | kept before rests =>
    have stays := rests.storage_eq
    rw [stays] at id ⊢
    rcases changed before stays row member id with was | now
    · exact follows path number before row was id
    · exact now
  | fresh inside _ done => exact .inl (bound inside (Driver.storage_of_init_ok done))
  | rebound inside _ _ _ done => exact .inl (bound inside (Driver.storage_of_init_ok done))

end State

theorem Created.follows {reply : Except StorageError StorageId}
    (created : Created world catalog storage state reply after) (sound : state.Sound)
    (canonical : Path.Canonical storage.mountPath) (follows : state.Follows excused) :
    after.Follows excused := by
  refine follows.of_origin (created.sound sound canonical) (created.origin sound) ?_
  intro path number before _ row member id
  cases created with
  | unsupported | unwritten => exact .inl member
  | @written kind new changed _ _ _ created mounting =>
    have kept := World.ok_of_answers created
    rw [mounting.table_eq] at member
    refine .inl (((Table.mem_create kept).mp member).resolve_right ?_)
    -- The id of a new row is beyond those of the rows that drivers are mounted for.
    rintro rfl
    obtain ⟨held,inside,same,_⟩ := (sound.backed before).row
    have next := (Table.create_eq_ok kept).1
    have handedOut := (sound.table.handedOut held inside).2
    rw [same,← id] at handedOut
    simp only at handedOut
    omega

/-- Only an update that fails in the driver leaves a mounted driver with another configuration
than its row. -/
theorem Updated.follows {reply : Except StorageError Unit}
    (updated : Updated world storage state reply after) (sound : state.Sound)
    (canonical : Path.Canonical storage.mountPath) (follows : state.Follows excused) :
    after.Follows fun row => excused row ∨
      row = storage ∧ ∃ words cause, reply = .error (.driverLifecycle words cause) := by
  refine (follows.mono fun _ => .inl).of_origin (updated.sound sound canonical)
    (updated.origin sound .builtin) ?_
  intro path number before stays row member id
  have rewritten {old : Storage} {changed : Table}
      (rewriting : Rewriting world old storage state changed) (inside : row ∈ changed.storages) :
      row ∈ state.table.storages ∨ row = storage ∧ path = old.mountPath := by
    obtain ⟨present,same⟩ := rewriting.present
    rcases (Table.mem_update rewriting.updated).mp inside with rfl | ⟨was,_⟩
    · exact .inr ⟨rfl,(sound.id_eq_iff present before).mp (id.symm.trans same.symm)⟩
    · exact .inl was
  cases updated with
  | unread | otherDriver | unwritten => exact .inl member
  | unmounted rewriting absent =>
    rw [State.rewritten_table] at member
    rcases rewritten rewriting member with was | ⟨_,rfl⟩
    · exact .inl was
    · rw [absent] at before
      cases before
  | unreleased rewriting =>
    have inside : row ∈ (state.rewritten _ storage _).table.storages := member
    rw [State.rewritten_table] at inside
    exact (rewritten rewriting inside).imp_right fun new => .inr (.inr ⟨new.1,_,_,rfl⟩)
  | @released other changed asked held _ _ rewriting found done mounting =>
    rw [mounting.table_eq,State.released_table,State.rewritten_table] at member
    rcases rewritten rewriting member with was | ⟨rfl,rfl⟩
    · exact .inl was
    · obtain rfl := Option.some.inj (found.symm.trans before)
      cases mounting with
      | unbound => exact .inr (.inr (.inr ⟨rfl,_,_,rfl⟩))
      | @done again bound =>
        rw [State.driver_seated _ _ _ (sound.made_released before changed held),if_pos rfl,
          Driver.storage_of_init_ok bound] at stays
        exact .inr (.inl (congrArg Storage.bare stays))

theorem Deleted.follows {id : StorageId} {reply : Except StorageError Unit}
    (deleted : Deleted world id state reply after) (sound : state.Sound)
    (follows : state.Follows excused) : after.Follows excused := by
  refine follows.of_origin (deleted.sound sound) (deleted.origin .builtin)
    fun _ _ row member _ => .inl ?_
  cases deleted with
  | unread | unmounted | unreleased | undeleted => exact member
  | done _ _ _ deleted => exact ((Table.mem_delete (World.ok_of_answers deleted)).mp member).1

/-- A sync writes what the driver holds. -/
theorem Saved.follows {reply : Except StorageError Unit}
    (saved : Saved world number state reply after) (sound : state.Sound)
    (mounted : state.registry.load path = some number) (follows : state.Follows excused) :
    after.Follows excused := by
  refine follows.of_origin (saved.sound sound mounted) (saved.origin .builtin) ?_
  intro place other before _ row member id
  cases saved with
  | unserialized | unwritten => exact .inl member
  | @done addition changed given written =>
    rcases (Table.mem_update (World.ok_of_answers written)).mp member with rfl | ⟨was,_⟩
    · obtain rfl := sound.path_eq_of_id mounted before id
      obtain rfl := Option.some.inj (mounted.symm.trans before)
      exact .inr (.inl rfl)
    · exact .inl was

theorem Loaded.follows {well : Bool} (loaded : Loaded world catalog storage state well after)
    (sound : state.Sound) (member : storage ∈ state.table.storages)
    (follows : state.Follows excused) : after.Follows excused := by
  refine follows.of_origin (loaded.sound sound member) (loaded.origin sound member)
    fun _ _ row inside _ => .inl ?_
  exact loaded.table_eq ▸ inside

theorem LetGo.follows (letGo : LetGo world path number state after) (sound : state.Sound)
    (follows : state.Follows excused) : after.Follows excused := by
  refine follows.of_origin (letGo.sound sound) (letGo.origin .builtin)
    fun _ _ row inside _ => .inl ?_
  exact letGo.table_eq ▸ inside

/-- Nothing but the rows sets the second state apart from the first, and they at most by a write of
what the driver holds, with the addition that it gives. -/
structure Writes (world : World) (number : Nat) (state after : State) : Prop where
  registry : after.registry = state.registry
  drivers : after.drivers = state.drivers
  cursors : after.cursors = state.cursors
  table : after.table = state.table ∨
    ∃ addition, (state.driver number).addition (world state.events).toOutside = .ok addition ∧
      state.table.update (state.live number addition) = .ok after.table

theorem Saved.writes {reply : Except StorageError Unit}
    (saved : Saved world number state reply after) : Writes world number state after := by
  cases saved with
  | unserialized | unwritten => exact ⟨rfl,rfl,rfl,.inl rfl⟩
  | done given written => exact ⟨rfl,rfl,rfl,.inr ⟨_,given,World.ok_of_answers written⟩⟩

theorem Call.writes_sync (world : World) (number : Nat) (state : State) :
    Writes world number state ((sync world number).run state).2 := by
  obtain ⟨reply,middle,saved,same | ⟨line,same⟩⟩ := sync_cases world number state
  · rw [same]
    exact saved.writes
  · obtain ⟨registry,drivers,cursors,table⟩ := saved.writes
    rw [same]
    exact ⟨registry,drivers,cursors,table⟩

/-- The live copy of a mounted driver has the id, the path and the driver type of its row. -/
theorem State.Backed.live_eq (backed : state.Backed path number) :
    ∃ row ∈ state.table.storages, row.id = (state.driver number).storage.id ∧
      ∀ addition, state.live number addition = { row with
        index := (state.driver number).storage.index
        addition := addition.text
        modified := (state.driver number).storage.modified } := by
  obtain ⟨_,place,row,inside,id,here,driver⟩ := backed
  refine ⟨row,inside,id,fun addition => ?_⟩
  rw [live,id,here,driver,← place]

/-- A request that is no update leaves mounted drivers with their rows. -/
theorem requestInvariant_follows {step : Step} (other : ∀ given, step.request ≠ .update given) :
    RequestInvariant step fun state => state.Sound ∧ state.Follows excused where
  short holds := holds.1.table.length_lt
  noted _ holds := ⟨holds.1.note _,holds.2⟩
  turned _ holds := ⟨holds.1.same_drivers rfl rfl rfl,holds.2⟩
  created _ holds created :=
    ⟨created.sound holds.1 (Path.canonical_standardize _),
      created.follows holds.1 (Path.canonical_standardize _) holds.2⟩
  updated asked _ _ := absurd asked (other _)
  deleted _ holds deleted := ⟨deleted.sound holds.1,deleted.follows holds.1 holds.2⟩
  saved _ mounted holds saved :=
    ⟨saved.sound holds.1 mounted,saved.follows holds.1 mounted holds.2⟩
  loaded _ row holds loaded := ⟨loaded.sound holds.1 row,loaded.follows holds.1 row holds.2⟩
  letGo _ _ holds letGo := ⟨letGo.sound holds.1,letGo.follows holds.1 holds.2⟩
  restarted _ holds := ⟨holds.1.restart,fun _ _ found => nomatch found⟩

namespace State

/-- The rows of mounted drivers are what the drivers hold, but for those that an update has
abandoned. -/
theorem follows_run (name : String) (steps : List Step) :
    ((start { name }).run steps).Follows (Abandoned (start { name }) steps) := by
  induction steps using List.reverseRecOn with
  | nil => exact fun _ _ found => nomatch found
  | append_singleton steps step ih =>
    have sound := sound_run name steps
    rw [run_snoc]
    have before := ih.mono fun row abandoned => abandoned.snoc step
    by_cases updates : ∃ given, step.request = .update given
    · obtain ⟨given,asked⟩ := updates
      have ends := ends_run (update step.world given) ((start { name }).run steps)
      have same : step.after ((start { name }).run steps) =
          ((update step.world given).run.run ((start { name }).run steps)).2 := by
        rw [Step.after,asked]
      rw [same]
      refine ((updated_of_ends ends).follows sound (Path.canonical_standardize _) before).mono ?_
      rintro row (abandoned | ⟨rfl,words,cause,failed⟩)
      · exact abandoned
      · rw [failed] at ends
        exact ⟨steps,step,[],given,words,cause,_,rfl,asked,ends,rfl⟩
    · have other (given : Storage) : step.request ≠ .update given :=
        fun asked => updates ⟨given,asked⟩
      exact ((requestInvariant_follows other).step ⟨sound,before⟩).2

/-- Along every run, whatever fails on the way, and in every world: a sync of a driver that is
mounted leaves mounts, drivers and cursors as they were, and all rows but the one that the driver
is mounted for. That row takes the addition that the driver gives, and the index and the time of
the live copy. Those are its own, unless an update has abandoned it. -/
theorem sync_row (name : String) (steps : List Step) (world : World) {mounted : Mounted}
    (member : mounted ∈ ((start { name }).run steps).mounted) :
    let state := (start { name }).run steps
    let after := ((sync world mounted.driver).run state).2
    after.registry = state.registry ∧ after.drivers = state.drivers ∧
      after.cursors = state.cursors ∧ after.table.lastId = state.table.lastId ∧
      ∃ row, state.table.get mounted.storage.id = .ok row ∧
        (after.table = state.table ∨
          ∃ addition, (state.driver mounted.driver).addition (world state.events).toOutside =
              .ok addition ∧
            after.table.storages = state.table.storages.map fun other =>
              if other = row then { row with
                index := mounted.storage.index
                addition := addition.text
                modified := mounted.storage.modified }
              else other) ∧
        (row.index = mounted.storage.index ∧ row.modified = mounted.storage.modified ∨
          Abandoned (start { name }) steps row) := by
  intro state after
  have sound : state.Sound := sound_run name steps
  obtain ⟨found,live⟩ := mem_mounted.mp member
  obtain ⟨row,inside,id,written⟩ := (sound.backed found).live_eq
  obtain ⟨registry,drivers,cursors,table⟩ := writes_sync world mounted.driver state
  refine ⟨registry,drivers,cursors,?_,row,?_,?_,?_⟩
  · rcases table with same | ⟨addition,_,updated⟩
    · exact congrArg Table.lastId same
    · exact (Table.update_eq_ok updated).2.2.2
  · rw [live,← id]
    exact sound.table.get_of_mem inside
  · rcases table with same | ⟨addition,given,updated⟩
    · exact .inl same
    · refine .inr ⟨addition,given,?_⟩
      rw [(Table.update_eq_ok updated).2.2.1,written,live]
      refine List.map_congr_left fun other present => ?_
      have one : other.id = row.id ↔ other = row :=
        ⟨sound.table.eq_of_id present inside,congrArg Storage.id⟩
      simp only [one]
      rfl
  · rw [live]
    refine (follows_run name steps _ _ found row inside id).imp_left fun same => ?_
    obtain ⟨_,_,index,_,_,modified⟩ := Storage.mk.inj same
    exact ⟨index,modified⟩

/-- An update that is cancelled while the driver is bound anew abandons its row. -/
theorem sync_row_abandoned :
    let given : Storage := { mountPath := "/a", driver := "memory" }
    let row : Storage := { given with id := ⟨1⟩, index := 5, modified := 7 }
    let mounted : Mounted := ⟨"/a",0,{ row with index := 0 }⟩
    let steps : List Step := [⟨.willing .live,.builtin,.create given⟩,
      ⟨.willing (.root true),.builtin,.update { given with id := ⟨1⟩, index := 5 }⟩]
    let state := (start { name := "storages" }).run steps
    let after := ((sync (.willing .live) mounted.driver).run state).2
    mounted ∈ state.mounted ∧ state.table.get ⟨1⟩ = .ok row ∧ after.registry = state.registry ∧
      after.drivers = state.drivers ∧ Abandoned (start { name := "storages" }) steps row := by
  intro given row mounted steps state after
  have kept : state.table.get ⟨1⟩ = .ok row := by decide +kernel
  have member : mounted ∈ state.mounted := by decide +kernel
  have written := sync_row "storages" steps (.willing .live) member
  have run : (start { name := "storages" }).run steps = state := rfl
  rw [run] at written
  clear_value state
  obtain ⟨registry,drivers,_,_,other,found,_,agrees⟩ := written
  obtain rfl := Except.ok.inj (kept.symm.trans found)
  exact ⟨member,kept,registry,drivers,agrees.resolve_left fun same => absurd same.1 (by decide)⟩

/-- A sync after such an update takes the new index back. -/
theorem sync_takes_back :
    let given : Storage := { mountPath := "/a", driver := "memory" }
    let state := (start { name := "storages" }).run [⟨.willing .live,.builtin,.create given⟩,
      ⟨.willing (.root true),.builtin,.update { given with id := ⟨1⟩, index := 5 }⟩]
    let after := ((sync (.willing .live) 0).run state).2
    state.registry.load "/a" = some 0 ∧ (state.driver 0).storage.id = ⟨1⟩ ∧
      (state.table.get ⟨1⟩).map Storage.index = .ok 5 ∧
      (after.table.get ⟨1⟩).map Storage.index = .ok 0 := by
  intro given state after
  exact ⟨by decide +kernel,by decide +kernel,by decide +kernel,by decide +kernel⟩

end State
end MountHub
