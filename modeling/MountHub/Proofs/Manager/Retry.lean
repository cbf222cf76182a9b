import MountHub.Proofs.Manager.Stranded

/-! Calling an operation again that has failed in the driver. An update that kept its path ends
well at the second call, if nothing stands in its way any more. A creation and a change of path
do not: they have left a row that nothing is mounted at, and such a row is for a load to mount. -/
namespace MountHub
open Operation Call

variable {world : World} {catalog : Catalog} {storage old : Storage} {state after : State}
  {step : String} {cause : DriverError}

/-- An update that fails in the driver has found the mount of its row. -/
theorem Updated.mounted_of_lifecycle
    (updated : Updated world storage state (.error (.driverLifecycle step cause)) after) :
    ∃ old number, state.table.get storage.id = .ok old ∧
      state.registry.load old.mountPath = some number := by
  generalize ended : (Except.error (.driverLifecycle step cause) : Except StorageError Unit) = reply
    at updated
  cases updated with
  | unread | unwritten =>
    exact absurd (Except.error.inj ended) (StorageError.driverLifecycle_ne_ofTable _ _ _ _)
  | otherDriver | unmounted => cases ended
  | unreleased rewriting found => exact ⟨_,_,World.ok_of_answers rewriting.read,found⟩
  | released rewriting found => exact ⟨_,_,World.ok_of_answers rewriting.read,found⟩

theorem Updated.residue_of_lifecycle
    (updated : Updated world storage state (.error (.driverLifecycle step cause)) after)
    (sound : state.Sound) :
    ∃ old number, state.table.get storage.id = .ok old ∧ old.driver = storage.driver ∧
      state.registry.load old.mountPath = some number ∧ Residue old storage state after := by
  obtain ⟨old,number,found,mounted⟩ := updated.mounted_of_lifecycle
  rcases updated.of_error sound with ⟨_,_,notMount,_⟩ | ⟨other,changed,rewriting,_,residue⟩
  · exact absurd (.driverLifecycle step cause) notMount
  · obtain rfl := rewriting.old_eq found
    exact ⟨other,number,found,rewriting.sameDriver,mounted,residue⟩

theorem Created.stranded_of_lifecycle
    (created : Created world catalog storage state (.error (.driverLifecycle step cause)) after)
    (sound : state.Sound) (canonical : Path.Canonical storage.mountPath) :
    ∃ id, after.Stranded { storage with id } := by
  obtain ⟨registry,_,_,⟨neither,_⟩ | ⟨_,id,next,rows,_⟩⟩ := created.of_error
  · exact absurd rfl (neither step cause)
  have present : { storage with id } ∈ after.table.storages := by simp [rows]
  refine ⟨id,(created.sound sound canonical).table.get_of_mem present,?_⟩
  rw [registry]
  -- The path was free when the row was created, so nothing was mounted there.
  refine sound.load_eq_none fun row member same => ?_
  have paths := (created.sound sound canonical).table.paths
  rw [rows,List.map_append,List.nodup_append] at paths
  exact paths.2.2 row.mountPath (List.mem_map_of_mem member) storage.mountPath (by simp) same

/-- The same storage in another configuration: id, driver type and path stay. -/
structure Storage.Amends (again given : Storage) : Prop where
  id : again.id = given.id
  driver : again.driver = given.driver
  path : Path.standardize again.mountPath = Path.standardize given.mountPath

namespace State

variable {given again row : Storage} {mended : World}

/-- A row that nothing is mounted at takes a new configuration, but nothing is mounted by that. -/
theorem Stranded.update (stranded : state.Stranded row) (sound : state.Sound)
    (amends : again.Amends row) (works : mended.Works) :
    ∃ done, Ends (Operation.update mended again) state (.error (.notMounted row.mountPath)) done ∧
      done.Stranded (mended.row state again) := by
  obtain ⟨reply,done,ends⟩ := exists_ends (Operation.update mended again) state
  have found : state.table.get again.id = .ok row := amends.id ▸ stranded.kept
  have canonical := sound.canonical row (Table.mem_of_get_eq_ok found).1
  have stays : row.mountPath = Path.standardize again.mountPath :=
    canonical.symm.trans amends.path.symm
  obtain ⟨rfl,still⟩ := (updated_of_ends ends).stranded sound
    (works.not_unwritten found amends.driver.symm (sound.table.free_of_get found stays)) stranded
    amends.id.symm stays
  exact ⟨done,ends,still⟩

/-- An update that kept the path and failed in the driver ends well, once nothing stands in its
way. -/
theorem retry_inPlace {number : Nat} (residue : Residue old storage state after)
    (sound : after.Sound) (mounted : state.registry.load old.mountPath = some number)
    (stays : old.mountPath = storage.mountPath) (canonical : Path.Canonical storage.mountPath)
    (amends : again.Amends storage) (works : mended.Works)
    (accepts : ∀ now, mended.Accepts (after.driver number).kind
      { again with mountPath := Path.standardize again.mountPath, modified := now }) :
    ∃ done, Ends (Operation.update mended again) after (.ok ()) done ∧
      done.Serves (mended.row after again) := by
  obtain ⟨reply,done,ends⟩ := exists_ends (Operation.update mended again) after
  have found : after.table.get again.id = .ok storage := amends.id ▸ residue.row
  have place : after.registry.load storage.mountPath = some number := by
    rw [residue.inPlace stays,← stays]
    exact mounted
  have path : storage.mountPath = Path.standardize again.mountPath :=
    canonical.symm.trans amends.path.symm
  obtain ⟨rfl,serves⟩ := (updated_of_ends ends).serves sound works
    (works.not_unwritten found amends.driver.symm (sound.table.free_of_get found path)) found
    place (accepts _)
  exact ⟨done,ends,serves⟩

/-- Whatever has failed before. An update that has failed in the driver is called again, with a
configuration that the driver takes and with nothing in its way. If the first call kept the path
of the row, it ends well and leaves the row mounted; if not, the row takes the configuration, but
the call fails for want of a mount. A creation that has failed in the driver leaves a row that
nothing is mounted at, and a second one is refused its path. Such a row takes a new configuration
in the same way as after a change of path, and a load mounts it. -/
theorem lifecycle_retry (name : String) (steps : List Step) :
    let state := (start { name }).run steps
    (∀ {world given step cause after},
      Ends (update world given) state (.error (.driverLifecycle step cause)) after →
      ∃ old number, state.table.get given.id = .ok old ∧
        state.registry.load old.mountPath = some number ∧
        ∀ {mended : World} {again : Storage}, again.Amends given → mended.Works →
          (∀ now, mended.Accepts (after.driver number).kind
            { again with mountPath := Path.standardize again.mountPath, modified := now }) →
          ∃ reply done, Ends (update mended again) after reply done ∧
            if old.mountPath = Path.standardize given.mountPath then
              reply = .ok () ∧ done.Serves (mended.row after again)
            else reply = .error (.notMounted (Path.standardize given.mountPath)) ∧
              done.Stranded (mended.row after again)) ∧
    (∀ {world catalog given step cause after},
      Ends (create world catalog given) state (.error (.driverLifecycle step cause)) after →
      (∃ id, after.Stranded { given with
        id
        mountPath := Path.standardize given.mountPath
        modified := (world state.events).now }) ∧
      ∀ {mended : World} {catalog : Catalog} (again : Storage),
        Path.standardize again.mountPath = Path.standardize given.mountPath → mended.Works →
        catalog.find? again.driver ≠ none →
        ∃ cause done, Ends (create mended catalog again) after
            (.error (.persistence "failed create storage in database" cause)) done ∧
          (after.table.lastId + 1 < Table.idLimit → cause = .pathTaken after.table.name) ∧
          done.table = after.table ∧ done.registry = after.registry) ∧
    ∀ row, state.Stranded row →
      (∀ {mended : World} {again : Storage}, again.Amends row → mended.Works →
        ∃ done, Ends (update mended again) state (.error (.notMounted row.mountPath)) done ∧
          done.Stranded (mended.row state again)) ∧
      ∀ {mended : World} {catalog : Catalog} {kind : DriverKind} {size : UInt64},
        catalog.find? row.driver = some kind → mended.Accepts kind row →
        (∀ events page size, (mended events).refusesCall (.list page size) = none) →
        ∃ count done, Ends (Operation.load mended catalog size) state (.ok count) done ∧
          done.Serves row := by
  intro state
  have sound : state.Sound := sound_run name steps
  refine ⟨?_,?_,?_⟩
  · intro world given step cause after failed
    have canonical := Path.canonical_standardize given.mountPath
    have updated := updated_of_ends failed
    have soundAfter := updated.sound sound canonical
    obtain ⟨old,number,found,_,mounted,residue⟩ := updated.residue_of_lifecycle sound
    refine ⟨old,number,found,mounted,?_⟩
    intro mended again amends works accepts
    have same : again.Amends (world.row state given) :=
      ⟨amends.id,amends.driver,amends.path.trans canonical.symm⟩
    split_ifs with stays
    · obtain ⟨done,ends,serves⟩ :=
        retry_inPlace residue soundAfter mounted stays canonical same works accepts
      exact ⟨_,done,ends,rfl,serves⟩
    · have left : after.Stranded (world.row state given) := ⟨residue.row,(residue.moved stays).2.1⟩
      obtain ⟨done,ends,still⟩ := left.update soundAfter same works
      exact ⟨_,done,ends,rfl,still⟩
  · intro world catalog given step cause after failed
    obtain ⟨id,left⟩ := (created_of_ends failed).stranded_of_lifecycle sound
      (Path.canonical_standardize given.mountPath)
    refine ⟨⟨id,left⟩,?_⟩
    intro mended catalog again path works known
    obtain ⟨reply,done,ends⟩ := exists_ends (create mended catalog again) after
    obtain ⟨cause,rfl,taken,table,registry,_⟩ := (created_of_ends ends).of_taken works known
      (Table.mem_of_get_eq_ok left.kept).1 path.symm
    exact ⟨cause,done,ends,taken,table,registry⟩
  · intro row left
    refine ⟨fun amends works => left.update sound amends works,?_⟩
    intro mended catalog kind size known accepts listed
    obtain ⟨reply,done,ends⟩ := exists_ends (Operation.load mended catalog size) state
    obtain ⟨⟨count,rfl⟩,_,serves⟩ := load_serves sound left.kept known accepts listed ends
    exact ⟨count,done,ends,serves⟩

/-- A mount whose context is cancelled while it is bound anew is back after a second call. A
creation that meets the same leaves its row; changed and loaded, the row is mounted. -/
theorem lifecycle_retry_mended :
    let given : Storage := { id := ⟨1⟩, mountPath := "/d", index := 4, driver := "memory" }
    let state := (start { name := "storages" }).run [⟨.willing .live,.builtin,.create given⟩]
    let failed := (update (.willing (.root true)) given).run.run state
    let retried := (update (.willing .live) given).run.run failed.2
    let other := (create (.willing (.root true)) .builtin { driver := "memory" }).run.run state
    let refused := (create (.willing .live) .builtin { driver := "memory" }).run.run other.2
    failed.1 = .error (.driverLifecycle "failed init storage" .cancelled) ∧
      (failed.2.driver 0).isInitialized = false ∧ retried.1 = .ok () ∧
      retried.2.Serves { given with modified := 7 } ∧
      other.1 = .error (.driverLifecycle "failed init storage but storage is already created"
        .cancelled) ∧
      ∃ cause, refused.1 = .error (.persistence "failed create storage in database" cause) := by
  intro given state failed retried other refused
  have unbound : failed.1 = .error (.driverLifecycle "failed init storage" .cancelled) := by
    decide +kernel
  have idle : (failed.2.driver 0).isInitialized = false := by decide +kernel
  have before : state.table.get ⟨1⟩ = .ok { given with modified := 7 } := by decide +kernel
  have mounted : state.registry.load "/d" = some 0 := by decide +kernel
  have kind : (failed.2.driver 0).kind = .memory := by decide +kernel
  have place : Path.standardize "/d" = "/d" := by decide +kernel
  have known : Catalog.builtin.find? "memory" ≠ none := by decide
  have kept : other.1 = .error
      (.driverLifecycle "failed init storage but storage is already created" .cancelled) := by
    decide +kernel
  have accepts (now : UInt64) : (World.willing .live).Accepts .memory
      { given with mountPath := Path.standardize "/d", modified := now } :=
    World.accepts_memory rfl rfl
  have attempt : Ends (update (.willing (.root true)) given) state
      (.error (.driverLifecycle "failed init storage" .cancelled)) failed.2 :=
    Prod.ext unbound rfl
  have creation : Ends (create (.willing (.root true)) .builtin { driver := "memory" }) state
      (.error (.driverLifecycle "failed init storage but storage is already created" .cancelled))
      other.2 :=
    Prod.ext kept rfl
  obtain ⟨updates,creations,_⟩ :=
    lifecycle_retry "storages" [⟨.willing .live,.builtin,.create given⟩]
  obtain ⟨old,number,found,there,again⟩ := updates attempt
  have taken := (creations creation).2 { driver := "memory" } rfl (World.works_willing .live) known
  obtain rfl := Except.ok.inj (before.symm.trans found)
  obtain rfl := Option.some.inj (mounted.symm.trans there)
  have ended := again ⟨rfl,rfl,rfl⟩ (World.works_willing .live) (kind ▸ accepts)
  change ∃ reply done, retried = (reply,done) ∧ if "/d" = Path.standardize "/d" then
    reply = .ok () ∧ done.Serves { given with mountPath := Path.standardize "/d", modified := 7 }
    else _ at ended
  change ∃ cause done, refused = (.error (.persistence "failed create storage in database" cause),
    done) ∧ _ at taken
  clear_value state failed retried other refused
  obtain ⟨reply,done,rfl,ended⟩ := ended
  obtain ⟨cause,_,rfl,_⟩ := taken
  simp only [place,if_pos] at ended
  exact ⟨unbound,idle,ended.1,ended.2,kept,cause,rfl⟩

/-- A creation that has failed because its context was cancelled fails again, and so does a
change of path, although nothing stands in the way of the second call. -/
theorem lifecycle_retry_refused :
    let given : Storage := { mountPath := "/d", driver := "memory" }
    let failed := (create (.willing (.root true)) .builtin given).run.run
      (start { name := "storages" })
    let again := (create (.willing .live) .builtin given).run.run failed.2
    let state := (start { name := "storages" }).run [⟨.willing .live,.builtin,.create given⟩]
    let moving : Storage := { id := ⟨1⟩, mountPath := "/e", driver := "memory" }
    let moved := (update (.willing (.root true)) moving).run.run state
    let retried := (update (.willing .live) moving).run.run moved.2
    (World.willing .live).Works ∧
      (∀ now, (World.willing .live).Accepts .memory { given with modified := now }) ∧
      (∀ now, (World.willing .live).Accepts .memory { moving with modified := now }) ∧
      failed.1 = .error (.driverLifecycle "failed init storage but storage is already created"
        .cancelled) ∧
      again.1 = .error (.persistence "failed create storage in database" (.pathTaken "storages")) ∧
      again.2.registry.load "/d" = none ∧
      moved.1 = .error (.driverLifecycle "failed init storage" .cancelled) ∧
      retried.1 = .error (.notMounted "/e") ∧ retried.2.registry.load "/e" = none := by
  intro given failed again state moving moved retried
  exact ⟨World.works_willing .live,fun _ => World.accepts_memory rfl rfl,
    fun _ => World.accepts_memory rfl rfl,by decide +kernel,by decide +kernel,by decide +kernel,
    by decide +kernel,by decide +kernel,by decide +kernel⟩

end State
end MountHub
