import MountHub.Proofs.Manager.Turn
import MountHub.Proofs.Registry.Longest

/-! What an update that succeeds leaves. Its row has the new configuration, and the driver that
was mounted for it has let go once, has been bound once to the row, and is mounted at the path
that the row has now. All other rows, mounts and drivers are as they were, and so are the answers
for paths that lie outside of where the mount was and of where it is. -/
namespace MountHub
open Operation

variable {world : World} {storage old : Storage} {state after : State} {number : Nat}

/-- Where a driver that is mounted for a storage is found. -/
def Storage.location (storage : Storage) : String :=
  Mounted.location ⟨storage.mountPath,0,storage⟩

theorem Mounted.location_of_mountPath {mounted : Mounted}
    (same : mounted.storage.mountPath = storage.mountPath) :
    mounted.location = storage.location := by
  rw [Storage.location,Mounted.location,Mounted.location,Storage.actualPath,Storage.actualPath,same]

/-- The driver with this number is mounted for a storage in place of an old one. -/
structure Moved (old storage : Storage) (number : Nat) (state after : State) : Prop where
  row : after.table.get storage.id = .ok storage
  rows : after.table.storages =
    state.table.storages.map fun row => if row.id = storage.id then storage else row
  lastId : after.table.lastId = state.table.lastId
  entered : after.registry.load storage.mountPath = some number
  left : old.mountPath ≠ storage.mountPath →
    after.registry.load old.mountPath = none ∧ state.registry.load storage.mountPath = none
  mounts : ∀ path, path ≠ old.mountPath → path ≠ storage.mountPath →
    after.registry.load path = state.registry.load path
  bound : (after.driver number).storage = storage ∧ (after.driver number).isInitialized = true
  course : after.course number =
    .init number (state.driver number).kind storage (.ok ()) ::
      .shutdown number (state.driver number).kind (state.driver number).storage (.ok ()) ::
        state.course number
  others : ∀ other, other ≠ number →
    after.driver other = state.driver other ∧ after.course other = state.course other
  cursors : after.cursors = state.cursors
  resolves : ∀ path, ¬ Path.Within old.location path → ¬ Path.Within storage.location path →
    after.storagesByPath path = state.storagesByPath path

namespace State.Sound

/-- One driver is mounted elsewhere, for another storage. Paths that it serves neither before nor
after are answered as before. -/
theorem storagesByPath_eq (sound : state.Sound)
    (found : state.registry.load old.mountPath = some number)
    (mounts : ∀ path, after.registry.load path =
      if storage.mountPath = path then some number
      else if old.mountPath = path then none else state.registry.load path)
    (live : (after.driver number).storage = storage)
    (others : ∀ other, other ≠ number → after.driver other = state.driver other) {path : String}
    (outside : ¬ Path.Within old.location path) (apart : ¬ Path.Within storage.location path) :
    after.storagesByPath path = state.storagesByPath path := by
  refine Mounted.resolve_congr state.nodup_key.of_map after.nodup_key.of_map
    sound.nodup_mountPath fun mounted within => ?_
  rw [mem_mounted,mem_mounted,mounts]
  constructor
  · -- What serves the path lies at neither of the two paths, and so is another driver's.
    rintro ⟨before,same⟩
    have place : mounted.storage.mountPath = mounted.key := same ▸ (sound.backed before).place
    have new : storage.mountPath ≠ mounted.key := fun here =>
      apart (Mounted.location_of_mountPath (place.trans here.symm) ▸ within)
    have was : old.mountPath ≠ mounted.key := fun here =>
      outside (Mounted.location_of_mountPath (place.trans here.symm) ▸ within)
    have different : mounted.driver ≠ number := by
      rintro rfl
      exact was (sound.path_eq found before)
    rw [if_neg new,if_neg was,others _ different]
    exact ⟨before,same⟩
  · rintro ⟨there,same⟩
    split_ifs at there with new was
    · obtain rfl := Option.some.inj there
      rw [live] at same
      exact absurd within (Mounted.location_of_mountPath (congrArg Storage.mountPath same) ▸ apart)
    · have different : mounted.driver ≠ number := by
        intro same
        exact was (sound.path_eq found (same ▸ there))
      rw [others _ different] at same
      exact ⟨there,same⟩

end State.Sound

namespace Rewriting

variable {changed : Table} {held again : Driver} {outside later : Outside}

/-- The driver lets go, and is bound to the row that has been rewritten. -/
theorem moved (rewriting : Rewriting world old storage state changed) (sound : state.Sound)
    (found : state.registry.load old.mountPath = some number)
    (done : (state.driver number).shutdown outside = (.ok (),held))
    (bound : held.init later storage = (.ok (),again)) :
    Moved old storage number state (state.rebound old storage number changed held again) := by
  obtain ⟨_,_,rows,last⟩ := Table.update_eq_ok rewriting.updated
  have touches : state.Touches (state.rebound old storage number changed held again) number again
      [.init number again.kind storage (.ok ()),.shutdown number held.kind held.storage (.ok ())] :=
    State.touches_rebound (sound.backed found).made changed held again
  have mounts (path : String) :
      (state.rebound old storage number changed held again).registry.load path =
        if storage.mountPath = path then some number
        else if old.mountPath = path then none else state.registry.load path :=
    State.load_rebound changed held again path
  have table : (state.rebound old storage number changed held again).table = changed :=
    State.rewritten_table changed
  have cursors : (state.rebound old storage number changed held again).cursors = state.cursors :=
    State.left_cursors _ _
  have self : (state.rebound old storage number changed held again).driver number = again :=
    State.driver_rebound (sound.backed found).made changed held again
  generalize state.rebound old storage number changed held again = after at *
  have others (other : Nat) (different : other ≠ number) :
      after.driver other = state.driver other := by
    rw [touches.driver,if_neg different]
  have live : (after.driver number).storage = storage := self ▸ Driver.storage_of_init_ok bound
  refine
    { row := table ▸ rewriting.get_eq sound
      rows := table ▸ rows
      lastId := table ▸ last
      entered := by rw [mounts,if_pos rfl]
      left := fun moved => ⟨?_,rewriting.load_eq_none sound moved⟩
      mounts := fun path apart away => ?_
      bound := ⟨live,self ▸ Driver.isInitialized_of_init_ok bound⟩
      course := ?_
      others := fun other different => ⟨others other different,?_⟩
      cursors := cursors
      resolves := fun path outside apart =>
        sound.storagesByPath_eq found mounts live others outside apart }
  · rw [mounts,if_neg (Ne.symm moved),if_pos rfl]
  · rw [mounts,if_neg (Ne.symm away),if_neg (Ne.symm apart)]
  · have kind := Driver.kind_of_shutdown done
    rw [touches.course,if_pos rfl,(Driver.kind_of_init bound).trans kind,kind,
      Driver.storage_of_shutdown done]
    rfl
  · rw [touches.course,if_neg different]

end Rewriting

theorem Updated.moved (updated : Updated world storage state (.ok ()) after) (sound : state.Sound) :
    ∃ old number, state.table.get storage.id = .ok old ∧
      state.registry.load old.mountPath = some number ∧ Moved old storage number state after := by
  obtain ⟨old,number,changed,held,again,_,_,rewriting,found,done,bound,rfl⟩ := updated.of_ok sound
  exact ⟨old,number,World.ok_of_answers rewriting.read,found,
    rewriting.moved sound found done bound⟩

namespace State

/-- Whatever has failed before: an update that succeeds was of a row whose driver was mounted, and
has moved it. The row has the new configuration, in its one spelling and with the new time. -/
theorem update_moves (name : String) (steps : List Step) {given : Storage}
    (done : Ends (update world given) ((start { name }).run steps) (.ok ()) after) :
    let state := (start { name }).run steps
    let storage := world.row state given
    ∃ old number, state.table.get given.id = .ok old ∧
      state.registry.load old.mountPath = some number ∧ Moved old storage number state after :=
  (updated_of_ends done).moved (sound_run name steps)

/-- A mount is renamed next to another one. -/
theorem update_moves_renamed :
    let given : Storage := { id := ⟨1⟩, mountPath := "e", driver := "memory" }
    let state := (start { name := "storages" }).run
      [⟨.willing .live,.builtin,.create { mountPath := "/d/", driver := "memory" }⟩,
        ⟨.willing .live,.builtin,.create { mountPath := "/x", driver := "memory" }⟩]
    let ended := (update (.willing .live) given).run.run state
    ended.1 = .ok () ∧ state.registry.load "/d" = some 0 ∧
      ended.2.table.get ⟨1⟩ = .ok { given with mountPath := "/e", modified := 7 } ∧
      ended.2.registry.load "/d" = none ∧ ended.2.registry.load "/e" = some 0 ∧
      ended.2.registry.load "/x" = state.registry.load "/x" ∧
      ended.2.storagesByPath "/x/y" = state.storagesByPath "/x/y" := by
  intro given state ended
  have well : ended.1 = .ok () := by decide +kernel
  have before : state.table.get ⟨1⟩ = .ok { given with mountPath := "/d", modified := 7 } := by
    decide +kernel
  have row : (World.willing .live).row state given =
      { given with mountPath := "/e", modified := 7 } := by decide +kernel
  have mounted : state.registry.load "/d" = some 0 := by decide +kernel
  have outside : ¬ Path.Within (Storage.location { given with mountPath := "/d", modified := 7 })
      "/x/y" := by decide +kernel
  have apart : ¬ Path.Within (Storage.location { given with mountPath := "/e", modified := 7 })
      "/x/y" := by decide +kernel
  have ends : Ends (update (.willing .live) given) state (.ok ()) ended.2 := Prod.ext well rfl
  have moves := update_moves "storages" _ ends
  change ∃ old number, state.table.get ⟨1⟩ = .ok old ∧
    state.registry.load old.mountPath = some number ∧
      Moved old ((World.willing .live).row state given) number state ended.2 at moves
  rw [row] at moves
  clear_value state ended
  obtain ⟨old,number,read,there,moved⟩ := moves
  obtain rfl := Except.ok.inj (before.symm.trans read)
  obtain rfl := Option.some.inj (mounted.symm.trans there)
  exact ⟨well,mounted,moved.row,(moved.left (by decide)).1,moved.entered,
    moved.mounts "/x" (by decide) (by decide),moved.resolves "/x/y" outside apart⟩

end State
end MountHub
