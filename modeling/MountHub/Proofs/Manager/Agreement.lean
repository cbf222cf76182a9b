import MountHub.Proofs.Manager.Derived

/-! Whether the live copy of a driver agrees with its row after a sync. The sync writes the
addition that the driver has now into the row, and not into the live copy, so they agree exactly
if the live copy has it already. What is read from the driver, changed and passed to an update
carries the addition of the live copy. -/
namespace MountHub
open Operation Call

variable {world : World} {storage old : Storage} {state after : State} {number : Nat}

theorem Operation.stamped_of_canonical {now : UInt64}
    (canonical : Path.Canonical storage.mountPath) :
    stamped now storage = { storage with modified := now } := by
  have path : Path.standardize storage.mountPath = storage.mountPath := canonical
  rw [stamped,path]

/-- An update that ends well has bound the driver that was mounted for the row. -/
theorem Updated.rebound (updated : Updated world storage state (.ok ()) after)
    (sound : state.Sound) (found : state.table.get storage.id = .ok old)
    (mounted : state.registry.load old.mountPath = some number) :
    ∃ held events, (state.driver number).Rests held ∧
      held.init (world events).toOutside storage = (.ok (),after.driver number) := by
  obtain ⟨other,asked,changed,held,again,_,later,rewriting,there,done,bound,rfl⟩ :=
    updated.of_ok sound
  obtain rfl := rewriting.old_eq found
  obtain rfl := Option.some.inj (there.symm.trans mounted)
  refine ⟨held,later,.released done,?_⟩
  rw [State.driver_rebound (sound.backed mounted).made]
  exact bound

/-- A memory driver that is bound to its live copy again has the session that the addition of this
copy names, or a new one. It is the same as before, if the addition is what the driver writes. -/
theorem Driver.Completes.rebound {driver held later : Driver} {outside given : Outside}
    {addition : Json.Value} (completes : driver.Completes) (memory : driver.kind = .memory)
    (written : driver.addition given = .ok addition) (rests : driver.Rests held)
    (bound : held.init outside storage = (.ok (),later))
    (text : storage.addition = driver.storage.addition) :
    ∃ read, MemoryAddition.read? driver.storage.addition = .ok read ∧
      later.derived? = some (.session (read.session.getD outside.session)) ∧
      (driver.storage.addition = addition.text ∨ read.session ≠ none →
        later.derived? = driver.derived?) := by
  obtain ⟨read,reads⟩ := completes.exists_read memory
  have session := derived?_of_init_memory bound (rests.kind_eq.trans memory) (text ▸ reads)
  have names : driver.storage.addition = addition.text ∨ read.session ≠ none →
      read.session ≠ none := by
    rintro (same | names)
    · obtain ⟨derived,has⟩ := completes.exists_derived (by rw [memory]; decide)
      have writes := (addition_of_derived? has).symm.trans written
      rw [same,← Except.ok.inj writes] at reads
      exact session_ne_none has memory reads
    · exact names
  refine ⟨read,reads,session,fun agrees => ?_⟩
  obtain ⟨token,same⟩ := Option.ne_none_iff_exists'.mp (names agrees)
  rw [session,same,completes.derived?_of_session memory reads same]
  rfl

namespace State

/-- What is read from a mounted driver, given another index and passed to an update is mounted
again, if the driver accepts it. -/
theorem Sound.update_live (sound : state.Sound) {path : String} {live : Storage}
    (found : state.registry.load path = some number) (holds : (state.driver number).storage = live)
    (index : Int32) (works : world.Works)
    (accepts : ∀ now,
      world.Accepts (state.driver number).kind { live with index, modified := now }) :
    ∃ done now held events, Ends (update world { live with index }) state (.ok ()) done ∧
      done.Serves { live with index, modified := now } ∧ (state.driver number).Rests held ∧
      held.init (world events).toOutside { live with index, modified := now } =
        (.ok (),done.driver number) := by
  obtain ⟨_,place,row,inside,id,here,driver⟩ := sound.backed found
  have canonical := sound.canonical_live found
  rw [holds] at place id driver canonical
  have stored : state.table.get live.id = .ok row := id ▸ sound.table.get_of_mem inside
  have mounted : state.registry.load row.mountPath = some number := here.symm ▸ found
  have stamp (now : UInt64) : stamped now { live with index } =
      { live with index, modified := now } :=
    stamped_of_canonical canonical
  obtain ⟨reply,done,ends⟩ := exists_ends (update world { live with index }) state
  have updated := updated_of_ends ends
  rw [stamp] at updated
  obtain ⟨rfl,serves⟩ := updated.serves sound works
    (works.not_unwritten stored driver (sound.table.free_of_get stored (here.trans place.symm)))
    stored mounted (accepts _)
  obtain ⟨held,events,rests,bound⟩ := updated.rebound sound stored mounted
  exact ⟨done,_,held,events,ends,serves,rests,bound⟩

/-- Whatever has failed before: after a sync that has succeeded, a driver is as it was, and its
row is the live copy with the addition that the driver has now. So they agree exactly if the live
copy has that addition. What an update makes of the live copy with another index has the addition
of the live copy, and the session of a memory driver is the one that this addition names, if it
names one, which is then the same as before; else it is a new one. -/
theorem sync_agrees (name : String) (steps : List Step) {mounted : Mounted} {world : World}
    {after : State} (member : mounted ∈ ((start { name }).run steps).mounted)
    (saved : Ends (save world mounted.driver) ((start { name }).run steps) (.ok ()) after) :
    let state := (start { name }).run steps
    let driver := state.driver mounted.driver
    ∃ addition, driver.addition (world state.events).toOutside = .ok addition ∧
      ((sync world mounted.driver).run state).2 = after ∧ after.drivers = state.drivers ∧
      after.table.get mounted.storage.id =
        .ok { mounted.storage with addition := addition.text } ∧
      (after.table.get mounted.storage.id = .ok mounted.storage ↔
        mounted.storage.addition = addition.text) ∧
      ∀ {later : World} (index : Int32), later.Works →
        (∀ now, later.Accepts driver.kind { mounted.storage with index, modified := now }) →
        ∃ done now, Ends (update later { mounted.storage with index }) after (.ok ()) done ∧
          done.Serves { mounted.storage with index, modified := now } ∧
          (driver.kind = .memory → ∃ given events,
            MemoryAddition.read? mounted.storage.addition = .ok given ∧
            (done.driver mounted.driver).derived? =
              some (.session (given.session.getD (later events).session)) ∧
            (mounted.storage.addition = addition.text ∨ given.session ≠ none →
              (done.driver mounted.driver).derived? = driver.derived?)) := by
  intro state driver
  have sound : state.Sound := sound_run name steps
  obtain ⟨found,live⟩ := mem_mounted.mp member
  have completes : driver.Completes := complete_run name steps _ _ found
  obtain ⟨addition,written,drivers,registry,soundAfter,row⟩ := sound.get_of_save found saved
  have kept : after.table.get mounted.storage.id =
      .ok { mounted.storage with addition := addition.text } := live ▸ row
  refine ⟨addition,written,sync_of_save saved,drivers,kept,?_,?_⟩
  · rw [kept,Except.ok.injEq]
    exact ⟨fun same => (congrArg Storage.addition same).symm,fun same => by rw [← same]⟩
  · intro later index works accepts
    have same : after.driver mounted.driver = driver := driver_congr drivers mounted.driver
    have there : after.registry.load mounted.key = some mounted.driver := registry ▸ found
    have text : mounted.storage.addition = driver.storage.addition := congrArg Storage.addition live
    obtain ⟨done,now,held,events,ends,serves,rests,bound⟩ := soundAfter.update_live there
      (same ▸ live.symm) index works (same.symm ▸ accepts)
    refine ⟨done,now,ends,serves,fun memory => ?_⟩
    obtain ⟨given,read,session,keeps⟩ :=
      completes.rebound memory written (same ▸ rests) bound text
    rw [← text] at read keeps
    exact ⟨given,events,read,session,keeps⟩

/-- A driver whose addition named its session agrees with its row, and keeps the session. -/
theorem sync_agrees_named :
    let given : Storage :=
      { mountPath := "/a", driver := "memory", addition := (Derived.session "s").text }
    let mounted : Mounted := ⟨"/a",0,{ given with id := ⟨1⟩, modified := 7 }⟩
    let state := (start { name := "storages" }).run [⟨.willing .live,.builtin,.create given⟩]
    let ended := (save (.willing .live) mounted.driver).run.run state
    mounted ∈ state.mounted ∧ ended.1 = .ok () ∧
      ended.2.table.get ⟨1⟩ = .ok mounted.storage ∧
      ∃ done, Ends (update (.willing .live) { mounted.storage with index := 5 }) ended.2 (.ok ())
          done ∧
        (done.driver 0).derived? = some (.session "s") := by
  intro given mounted state ended
  have member : mounted ∈ state.mounted := by decide +kernel
  have kind : (state.driver mounted.driver).kind = .memory := by decide +kernel
  have has : (state.driver mounted.driver).derived? = some (.session "s") := by decide +kernel
  have done : ended.1 = .ok () := by decide +kernel
  have kept : ended.2.table.get ⟨1⟩ = .ok mounted.storage := by decide +kernel
  have accepts (now : UInt64) : (World.willing .live).Accepts .memory
      { mounted.storage with index := 5, modified := now } := by
    have resumes : (⟨.willing .live,.builtin,.load 10⟩ : Step).Resumes
        { mounted.storage with index := 5, modified := now } (.session "s") :=
      ⟨⟨10,rfl⟩,fun _ _ _ => rfl,rfl,fun _ => rfl,fun _ wrong => nomatch wrong⟩
    exact resumes.accepts rfl nofun
  have run : (start { name := "storages" }).run [⟨.willing .live,.builtin,.create given⟩] = state :=
    rfl
  have reached : (save (.willing .live) mounted.driver).run.run state = ended := rfl
  have agrees := @sync_agrees "storages" [⟨.willing .live,.builtin,.create given⟩] mounted
    (.willing .live) ended.2 member
  rw [run] at agrees
  clear_value ended state
  obtain ⟨addition,written,_,_,_,same,changes⟩ := agrees (reached.trans (Prod.ext done rfl))
  obtain ⟨after,_,ends,_,session⟩ := changes 5 (World.works_willing .live) (kind ▸ accepts)
  obtain ⟨_,_,_,_,keeps⟩ := session kind
  exact ⟨member,done,kept,after,ends,(keeps (.inl (same.mp kept))).trans has⟩

/-- A session that is new is in the row after a sync, and not in the live copy. An update of the
live copy in another index makes another session. -/
theorem sync_disagrees :
    let later : World := fun events => { World.willing .live events with session := "again" }
    let state := (start { name := "storages" }).run
      [⟨.willing .live,.builtin,.create { mountPath := "/a", driver := "memory" }⟩]
    let ended := (save (.willing .live) 0).run.run state
    let updated := (update later { (ended.2.driver 0).storage with index := 5 }).run.run ended.2
    state.registry.load "/a" = some 0 ∧ ended.1 = .ok () ∧
      ended.2.table.get ⟨1⟩ ≠ .ok (ended.2.driver 0).storage ∧
      (ended.2.driver 0).derived? = some (.session "token") ∧ updated.1 = .ok () ∧
      (updated.2.driver 0).derived? = some (.session "again") := by
  intro later state ended updated
  exact ⟨by decide +kernel,by decide +kernel,by decide +kernel,by decide +kernel,
    by decide +kernel,by decide +kernel⟩

end State
end MountHub
