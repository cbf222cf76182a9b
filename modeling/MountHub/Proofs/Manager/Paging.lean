import MountHub.Command.Listing
import MountHub.Proofs.Manager.Run

/-! Pages and rows. A load that is not refused a page is a plain loop over the rows in listing
order, whatever the size of its pages is: it leaves the same mounts and drivers and has asked
and written the same, but for the pages that it read. The list of all storages does not depend
on the size of its pages either. -/
namespace MountHub
open Operation Call

variable {world : World} {catalog : Catalog} {storage : Storage} {state after : State}
  {lines : List LogRecord}

/-- Whether the table has been asked for a page. -/
def Event.isListing : Event → Bool
  | .table (.list _ _) => true
  | _ => false

/-- What a driver was bound to, if it was to be bound, and how that went. -/
def Event.init? : Event → Option (Storage × Except DriverError Unit)
  | .init _ _ storage done => some (storage,done)
  | _ => none

/-- The answers to drivers do not depend on the pages that have been read. -/
def World.Unpaged (world : World) : Prop :=
  ∀ events, (world events).toOutside =
    (world (events.filter fun event => !event.isListing)).toOutside

namespace State

/-- All that has happened but for the reading of pages, the latest first. -/
def work (state : State) : List Event := state.events.filter fun event => !event.isListing

/-- What drivers were to be bound to, and how it went, in its order. -/
def inits (state : State) : List (Storage × Except DriverError Unit) :=
  (state.events.filterMap Event.init?).reverse

/-- Nothing but the pages that have been read sets the states apart. -/
structure Alike (first second : State) : Prop where
  table : second.table = first.table
  registry : second.registry = first.registry
  drivers : second.drivers = first.drivers
  cursors : second.cursors = first.cursors
  work : second.work = first.work

@[simp] theorem inits_note (event : Event) :
    (state.note event).inits = state.inits ++ event.init?.toList := by
  rw [inits,note_events,List.filterMap_cons]
  cases event.init? <;> simp [inits]

@[simp] theorem inits_reported (lines : List LogRecord) :
    (state.reported lines).inits = state.inits := by
  have silent : (lines.map Event.logged).filterMap Event.init? = [] := by
    rw [List.filterMap_map]
    exact List.filterMap_eq_nil_iff.mpr fun _ _ => rfl
  rw [inits,reported_events,List.filterMap_append,silent]
  rfl

@[simp] theorem inits_seated (number : Nat) (held : Driver) :
    (state.seated number storage held lines).inits = state.inits ++ [(storage,.ok ())] := by
  change (((state.note (.init number held.kind storage (.ok ()))).reported
    (boundRecord? held).toList).reported lines).inits = _
  rw [inits_reported,inits_reported,inits_note]
  rfl

theorem work_note (event : Event) (state : State) :
    (state.note event).work = if event.isListing then state.work else event :: state.work := by
  rw [work,note_events,List.filter_cons]
  cases event.isListing <;> rfl

theorem filterMap_work (state : State) :
    state.work.filterMap Event.init? = state.events.filterMap Event.init? := by
  rw [work,List.filterMap_filter]
  congr 1
  funext event
  cases event with
  | table call => cases call <;> rfl
  | init | shutdown | addition | logged => rfl

namespace Alike

variable {one two : State}

theorem refl (state : State) : state.Alike state := ⟨rfl,rfl,rfl,rfl,rfl⟩

theorem inits (alike : one.Alike two) : two.inits = one.inits := by
  rw [State.inits,State.inits,← filterMap_work,← filterMap_work,alike.work]

theorem outside (alike : one.Alike two) (unpaged : world.Unpaged) :
    (world two.events).toOutside = (world one.events).toOutside := by
  have work := alike.work
  unfold State.work at work
  rw [unpaged one.events,unpaged two.events,work]

theorem note (alike : one.Alike two) (event : Event) : (one.note event).Alike (two.note event) := by
  refine ⟨alike.table,alike.registry,alike.drivers,alike.cursors,?_⟩
  rw [work_note,work_note,alike.work]

theorem listing (alike : one.Alike two) (page size : UInt64) :
    one.Alike (two.note (.table (.list page size))) :=
  ⟨alike.table,alike.registry,alike.drivers,alike.cursors,
    (work_note _ two).trans alike.work⟩

theorem made (alike : one.Alike two) (kind : DriverKind) : (one.made kind).Alike (two.made kind) :=
  ⟨alike.table,alike.registry,congrArg (· ++ [Driver.fresh kind]) alike.drivers,alike.cursors,
    alike.work⟩

theorem mounted (alike : one.Alike two) (number : Nat) (storage : Storage) (held : Driver)
    (lines : List LogRecord) :
    (one.seated number storage held lines).Alike (two.seated number storage held lines) := by
  refine ⟨alike.table,?_,?_,alike.cursors,?_⟩
  · exact congrArg (Registry.store · storage.mountPath number) alike.registry
  · exact congrArg (List.set · number held) alike.drivers
  · have work := alike.work
    unfold State.work at work ⊢
    simp only [seated,reported_events,entered_events,bound_events,List.filter_append,List.filter_cons,work]

end Alike
end State

section Alike

variable {first second : World} {one two done : State}

/-- A driver that is told the same is bound alike. -/
theorem Mounting.alike {step : String} {number : Nat} {reply other : Except StorageError Unit}
    (alike : one.Alike two)
    (outside : (second two.events).toOutside = (first one.events).toOutside)
    (mounting : Mounting first step lines number storage one reply after)
    (likewise : Mounting second step lines number storage two other done) :
    other = reply ∧ after.Alike done := by
  have driver : two.driver number = one.driver number := State.driver_congr alike.drivers number
  cases mounting with
  | unbound refused =>
    cases likewise with
    | unbound too =>
      rw [driver,outside,refused] at too
      obtain ⟨same,_⟩ := Prod.mk.inj too
      obtain rfl := Except.error.inj same
      rw [driver]
      exact ⟨rfl,alike.note _⟩
    | done bound =>
      rw [driver,outside,refused] at bound
      cases (Prod.mk.inj bound).1
  | done bound =>
    cases likewise with
    | unbound refused =>
      rw [driver,outside,bound] at refused
      cases (Prod.mk.inj refused).1
    | done too =>
      rw [driver,outside,bound] at too
      obtain ⟨_,rfl⟩ := Prod.mk.inj too
      exact ⟨rfl,alike.mounted number storage _ _⟩

theorem Loaded.alike {well too : Bool} (alike : one.Alike two)
    (outside : (second two.events).toOutside = (first one.events).toOutside)
    (loaded : Loaded first catalog storage one well after)
    (likewise : Loaded second catalog storage two too done) :
    too = well ∧ after.Alike done := by
  have mounted {kind other : DriverKind} {reply given : Except StorageError Unit}
      {middle between : State} (known : catalog.find? storage.driver = some kind)
      (knownToo : catalog.find? storage.driver = some other)
      (mounting : Mounting first "failed init storage" [] one.drivers.length storage
        (one.made kind) reply middle)
      (likewise : Mounting second "failed init storage" [] two.drivers.length storage
        (two.made other) given between) : given = reply ∧ middle.Alike between := by
    obtain rfl := Option.some.inj (known.symm.trans knownToo)
    rw [alike.drivers] at likewise
    exact mounting.alike (alike.made kind) outside likewise
  cases loaded with
  | unsupported unknown =>
    cases likewise with
    | unsupported => exact ⟨rfl,alike.note _⟩
    | unbound known => cases unknown.symm.trans known
    | done known => cases unknown.symm.trans known
  | unbound known mounting =>
    cases likewise with
    | unsupported unknown => cases unknown.symm.trans known
    | unbound knownToo likewise =>
      obtain ⟨same,middle⟩ := mounted known knownToo mounting likewise
      obtain rfl := Except.error.inj same
      exact ⟨rfl,middle.note _⟩
    | done knownToo likewise => cases (mounted known knownToo mounting likewise).1
  | done known mounting =>
    cases likewise with
    | unsupported unknown => cases unknown.symm.trans known
    | unbound knownToo likewise => cases (mounted known knownToo mounting likewise).1
    | done knownToo likewise => exact ⟨rfl,(mounted known knownToo mounting likewise).2⟩

end Alike

/-- The plain loop: rows are passed one after the other, each in the surroundings it meets. -/
inductive Passed (catalog : Catalog) (state : State) : List Storage → Nat → State → Prop
  | none : Passed catalog state [] 0 state
  | row {rows : List Storage} {count : Nat} {middle : State} {storage : Storage}
      {moment : Surroundings} {well : Bool} {after : State}
      (before : Passed catalog state rows count middle)
      (loaded : Loaded (fun _ => moment) catalog storage middle well after) :
      Passed catalog state (rows ++ [storage]) (if well then count + 1 else count) after

/-- How drivers were bound while rows were passed: one for each row of a driver type that is
known. The count is that of those that were bound, and nothing else changes what is mounted. -/
structure Tally (catalog : Catalog) (rows : List Storage) (state : State) (count : Nat)
    (after : State) (done : List (Storage × Except DriverError Unit)) : Prop where
  inits : after.inits = state.inits ++ done
  known : done.map Prod.fst = rows.filter fun row => catalog.contains row.driver
  count : count = done.countP fun init => init.2.isOk
  untouched : ∀ path, (∀ row, (row,.ok ()) ∈ done → row.mountPath ≠ path) →
    after.registry.load path = state.registry.load path

/-- Since then the table has been asked for pages alone, and for none but those it reaches. -/
def State.ReadsPages (state after : State) : Prop :=
  ∃ new, after.events = new ++ state.events ∧
    ∀ call, .table call ∈ new → ∃ page size, call = .list page size ∧ state.table.Reaches page size

theorem Tally.row {rows : List Storage} {count : Nat} {middle : State} {well : Bool}
    {done : List (Storage × Except DriverError Unit)}
    (tally : Tally catalog rows state count middle done)
    (loaded : Loaded world catalog storage middle well after) :
    ∃ done, Tally catalog (rows ++ [storage]) state (if well then count + 1 else count) after
      done := by
  have known {kind : DriverKind} (known : catalog.find? storage.driver = some kind)
      (reply : Except DriverError Unit) : (done ++ [(storage,reply)]).map Prod.fst =
        (rows ++ [storage]).filter fun row => catalog.contains row.driver := by
    have here : catalog.contains storage.driver = true := by rw [Catalog.contains,known]; rfl
    rw [List.map_append,List.filter_append,tally.known,List.filter_singleton,here]
    rfl
  cases loaded with
  | unsupported unknown =>
    refine ⟨done,?_,?_,tally.count,tally.untouched⟩
    · rw [State.inits_note,tally.inits]
      exact List.append_nil _
    · have here : catalog.contains storage.driver = false := by rw [Catalog.contains,unknown]; rfl
      rw [tally.known,List.filter_append,List.filter_singleton,here]
      exact (List.append_nil _).symm
  | @unbound kind error between found mounting =>
    cases mounting with
    | @unbound cause held refused =>
      refine ⟨done ++ [(storage,.error cause)],?_,known found _,?_,fun path others => ?_⟩
      · rw [State.inits_note,State.inits_note]
        change (middle.inits ++ [(storage,.error cause)]) ++ [] = _
        rw [List.append_nil,tally.inits,List.append_assoc]
      · rw [List.countP_append,← tally.count]
        rfl
      · exact tally.untouched path fun row member => others row (List.mem_append_left _ member)
  | @done kind _ found mounting =>
    cases mounting with
    | done bound =>
      refine ⟨done ++ [(storage,.ok ())],?_,known found _,?_,fun path others => ?_⟩
      · rw [State.inits_seated]
        change middle.inits ++ _ = _
        rw [tally.inits,List.append_assoc]
      · rw [List.countP_append,← tally.count]
        rfl
      · have here : storage.mountPath ≠ path := others storage (List.mem_append_right _ (by simp))
        rw [State.load_seated,if_neg here]
        exact tally.untouched path fun row member => others row (List.mem_append_left _ member)

theorem Passed.tally {rows : List Storage} {count : Nat}
    (passed : Passed catalog state rows count after) :
    ∃ done, Tally catalog rows state count after done := by
  induction passed with
  | none => exact ⟨[],(List.append_nil _).symm,rfl,rfl,fun _ _ => rfl⟩
  | row _ loaded ih =>
    obtain ⟨done,tally⟩ := ih
    exact tally.row loaded

/-- A row that fails leaves what is mounted at its path, if no other row has the path. -/
theorem Tally.failed {rows : List Storage} {count : Nat}
    {done : List (Storage × Except DriverError Unit)}
    (tally : Tally catalog rows state count after done)
    (paths : (rows.map (·.mountPath)).Nodup) (member : storage ∈ rows)
    (fails : (storage,.ok ()) ∉ done) :
    after.registry.load storage.mountPath = state.registry.load storage.mountPath := by
  apply tally.untouched
  intro row well same
  have inside : row ∈ rows := by
    have known : row ∈ done.map Prod.fst := List.mem_map_of_mem well
    rw [tally.known] at known
    exact List.mem_of_mem_filter known
  rw [List.inj_on_of_nodup_map paths inside member same] at well
  exact fails well

theorem Tally.congr {rows : List Storage} {count : Nat} {two : State}
    {done : List (Storage × Except DriverError Unit)}
    (tally : Tally catalog rows state count after done) (alike : after.Alike two) :
    Tally catalog rows state count two done := by
  refine ⟨alike.inits.trans tally.inits,tally.known,tally.count,fun path others => ?_⟩
  rw [alike.registry]
  exact tally.untouched path others

theorem Loaded.events {well : Bool} (loaded : Loaded world catalog storage state well after) :
    ∃ new, after.events = new ++ state.events ∧ ∀ call, .table call ∉ new := by
  have mounted {step : String} {number : Nat} {kind : DriverKind}
      {reply : Except StorageError Unit} {middle : State}
      (mounting : Mounting world step [] number storage (state.made kind) reply middle) :
      ∃ new, middle.events = new ++ state.events ∧ ∀ call, .table call ∉ new := by
    cases mounting with
    | unbound => exact ⟨[_],rfl,by simp⟩
    | done => exact ⟨_ ++ [_],(List.append_assoc _ [_] _).symm,by simp⟩
  cases loaded with
  | unsupported => exact ⟨[_],rfl,by simp [Storage.loadFailure]⟩
  | unbound _ mounting =>
    obtain ⟨new,events,none⟩ := mounted mounting
    refine ⟨_ :: new,congrArg (List.cons _) events,fun call => ?_⟩
    rw [List.mem_cons,not_or]
    exact ⟨nofun,none call⟩
  | done _ mounting => exact mounted mounting

namespace Call

theorem loadRows_append (count : Nat) (rows : List Storage) (storage : Storage) (state : State) :
    let passed := (loadRows world catalog count rows).run state
    let row := (loadRow world catalog storage).run passed.2
    (loadRows world catalog count (rows ++ [storage])).run state =
      (if row.1 then passed.1 + 1 else passed.1,row.2) := by
  induction rows generalizing count state with
  | nil => rfl
  | cons first more ih =>
    rw [List.cons_append,loadRows,loadRows,run_bind,run_bind]
    exact ih _ _

end Call

section Invariants

variable (world : World) (catalog : Catalog) (start : State)

theorem loadInvariant_passed (table : Table) :
    LoadInvariant world catalog table fun rows count state =>
      ∃ plain, Passed catalog start rows count plain ∧ plain.Alike state where
  page := by
    rintro rows count state page size _ ⟨plain,passed,alike⟩
    exact ⟨plain,passed,alike.listing page size⟩
  row := by
    rintro rows count storage state well after _ _ ⟨plain,passed,alike⟩ loaded
    -- The plain loop passes the row in the surroundings that the load meets here.
    have likewise := Call.loaded_of_run (fun _ => world state.events) catalog storage plain
    obtain ⟨rfl,next⟩ := likewise.alike alike rfl loaded
    exact ⟨_,.row passed likewise,next⟩

theorem loadInvariant_unpaged (table : Table) :
    LoadInvariant world catalog table fun rows count state => world.Unpaged →
      ((loadRows world catalog 0 rows).run start).1 = count ∧
        ((loadRows world catalog 0 rows).run start).2.Alike state where
  page := by
    intro rows count state page size _ holds unpaged
    obtain ⟨same,alike⟩ := holds unpaged
    exact ⟨same,alike.listing page size⟩
  row := by
    intro rows count storage state well after _ _ holds loaded unpaged
    obtain ⟨rfl,alike⟩ := holds unpaged
    have likewise := Call.loaded_of_run world catalog storage
      ((loadRows world catalog 0 rows).run start).2
    obtain ⟨rfl,next⟩ := likewise.alike alike (alike.outside unpaged) loaded
    rw [Call.loadRows_append]
    exact ⟨rfl,next⟩

theorem loadInvariant_readsPages :
    LoadInvariant world catalog start.table fun _ _ state => start.ReadsPages state where
  page := by
    rintro rows count state page size reached ⟨new,events,pages⟩
    refine ⟨_ :: new,congrArg (List.cons _) events,fun call member => ?_⟩
    rcases List.mem_cons.mp member with same | before
    · exact ⟨page,size,Event.table.inj same,reached⟩
    · exact pages call before
  row := by
    rintro rows count storage state well after _ _ ⟨new,events,pages⟩ loaded
    obtain ⟨more,later,none⟩ := loaded.events
    refine ⟨more ++ new,by rw [later,events,List.append_assoc],fun call member => ?_⟩
    rcases List.mem_append.mp member with last | before
    · exact absurd last (none call)
    · exact pages call before

end Invariants

section Reading

variable {size : UInt64} {skipped : Nat}

/-- A page that begins inside of the table is refused, or read as it stands. -/
theorem Operation.run_list (short : state.table.rows.length < Table.idLimit)
    (place : 0 < size.toNat) (within : skipped * size.toNat ≤ state.table.rows.length) :
    let page := UInt64.ofNat (skipped + 1)
    (Operation.list world page size).run.run state =
      (match (world state.events).refusesCall (.list page size) with
        | some cause => .error (.ofTable "failed get storages" cause)
        | none => .ok (state.table.page size skipped,state.table.rows.length),
      state.note (.table (.list page size))) := by
  intro page
  obtain ⟨told,same⟩ := eq_of_ends_list (ends_run (Operation.list world page size) state)
  refine Prod.ext (told.trans ?_) same
  rw [Table.list_eq short place within,World.answers]
  cases (world state.events).refusesCall (.list page size) <;> rfl

namespace Call

/-- One page of the list, and then the pages after it, if there are more. -/
theorem run_listPages (short : state.table.rows.length < Table.idLimit) (place : 0 < size.toNat)
    (within : skipped * size.toNat ≤ state.table.rows.length) (fuel : Nat) :
    let page := UInt64.ofNat (skipped + 1)
    let noted := state.note (.table (.list page size))
    let rows := state.table.page size skipped
    let more := (listPages world size fuel (UInt64.ofNat (skipped + 1 + 1))
      ((skipped + 1) * size.toNat)).run noted
    (listPages world size (fuel + 1) page (skipped * size.toNat)).run state =
      match (world state.events).refusesCall (.list page size) with
      | some cause => (⟨[],some (.ofTable "failed get storages" cause)⟩,noted)
      | none =>
        if state.table.rows.length ≤ (skipped + 1) * size.toNat then (⟨rows,none⟩,noted)
        else ({ more.1 with rows := rows ++ more.1.rows },more.2) := by
  intro page noted rows more
  have length := Table.length_page within
  have further : (skipped + 1) * size.toNat = skipped * size.toNat + size.toNat :=
    Nat.succ_mul skipped _
  rw [listPages,run_bind,Operation.run_list short place within]
  cases refusal : (world state.events).refusesCall (.list page size) with
  | some cause => rfl
  | none =>
    dsimp only
    split_ifs with empty complete complete last
    · rfl
    · rw [List.isEmpty_iff] at empty
      rw [empty,List.length_nil] at length
      omega
    · rfl
    · omega
    · omega
    · have next : page + 1 = UInt64.ofNat (skipped + 1 + 1) :=
        (UInt64.ofNat_add (skipped + 1) 1).symm
      have fetched : skipped * size.toNat + (state.table.page size skipped).length =
        (skipped + 1) * size.toNat := by omega
      rw [fetched,next]
      rfl

/-- From a page that is to be read on, the pages list the rows that are left, or those before a
page that is refused. -/
theorem listPages_cases (short : state.table.rows.length < Table.idLimit)
    (place : 0 < size.toNat) {fuel : Nat} (unread : state.table.Unread size skipped)
    (enough : state.table.rows.length + 1 ≤ fuel + skipped) :
    let left := state.table.shown.drop (skipped * size.toNat)
    let reading :=
      ((listPages world size fuel (UInt64.ofNat (skipped + 1)) (skipped * size.toNat)).run state).1
    reading = ⟨left,none⟩ ∨ ∃ pages events cause,
      (world events).refusesCall (.list (UInt64.ofNat (skipped + pages + 1)) size) = some cause ∧
      reading = ⟨left.take (pages * size.toNat),some (.ofTable "failed get storages" cause)⟩ := by
  induction fuel generalizing skipped state with
  | zero =>
    have few := unread.skipped_le place
    omega
  | succ fuel ih =>
    intro left reading
    have behind : state.table.shown.drop ((skipped + 1) * size.toNat) = left.drop size.toNat := by
      rw [Nat.succ_mul,← List.drop_drop]
    have run : reading = _ := congrArg Prod.fst (run_listPages short place unread.within fuel)
    rw [run]
    cases refusal : (world state.events).refusesCall
        (.list (UInt64.ofNat (skipped + 1)) size) with
    | some cause =>
      refine .inr ⟨0,state.events,cause,refusal,?_⟩
      rw [Nat.zero_mul,List.take_zero]
    | none =>
      dsimp only
      split_ifs with complete
      · have none : left.drop size.toNat = [] := by
          rw [← behind]
          exact List.drop_eq_nil_of_le (by rw [Table.length_shown]; exact complete)
        refine .inl (congrArg (Reading.mk · .none) ?_)
        exact List.take_of_length_le (List.drop_eq_nil_iff.mp none)
      · have rest := @ih (state.note (.table (.list (UInt64.ofNat (skipped + 1)) size)))
          (skipped + 1) short (.inr (by simp only [State.note_table]; omega))
          (by simp only [State.note_table]; omega)
        rw [State.note_table,behind] at rest
        rcases rest with same | ⟨pages,events,cause,refused,same⟩
        · rw [same]
          exact .inl (congrArg (Reading.mk · .none) (List.take_append_drop size.toNat left))
        · rw [same]
          have number : skipped + 1 + pages + 1 = skipped + (pages + 1) + 1 := by omega
          rw [number] at refused
          refine .inr ⟨pages + 1,events,cause,refused,congrArg (Reading.mk · _) ?_⟩
          rw [Nat.succ_mul,Nat.add_comm,List.take_add]
          rfl

/-- The list of all storages holds the rows as they are listed. A page that is refused puts an end
to it, after the rows of the pages before it. -/
theorem listPages_first (short : state.table.rows.length < Table.idLimit) {fuel : Nat}
    (enough : state.table.rows.length + 1 ≤ fuel) :
    let reading := ((listPages world (max size 1) fuel 1 0).run state).1
    reading = ⟨state.table.shown,none⟩ ∨ ∃ pages events cause,
      (world events).refusesCall (.list (UInt64.ofNat (pages + 1)) (max size 1)) = some cause ∧
      reading = ⟨state.table.shown.take (pages * (max size 1).toNat),
        some (.ofTable "failed get storages" cause)⟩ := by
  have first := @listPages_cases world state (max size 1) 0 short (toNat_max_pos size) fuel
    (.inl rfl) enough
  rw [Nat.zero_mul,List.drop_zero] at first
  simp only [Nat.zero_add] at first
  exact first

theorem listPages_all (short : state.table.rows.length < Table.idLimit)
    (listed : ∀ events page size, (world events).refusesCall (.list page size) = none)
    {fuel : Nat} (enough : state.table.rows.length + 1 ≤ fuel) :
    ((listPages world (max size 1) fuel 1 0).run state).1 = ⟨state.table.shown,none⟩ := by
  rcases listPages_first short enough with all | ⟨_,_,_,refused,_⟩
  · exact all
  · rw [listed] at refused
    cases refused

end Call

end Reading

namespace State

/-- Every load that is not refused a page comes to its end, however many pages it is allowed,
and asks the table for nothing but pages it reaches. It comes to what the plain loop over the
rows comes to, by index and id: the same mounts and drivers, and the same inits and lines in
the same order; the number is that of the rows whose drivers were bound, and a row that fails
leaves what is mounted at its path. Where the answers to drivers do not depend on the reading
of pages, the plain loop has them too, so that the size of the pages is of no account. The
pages of the list of all storages make up the same rows. -/
theorem load_plain (catalog : Catalog) (state : State)
    (short : state.table.rows.length < Table.idLimit)
    (listed : ∀ events page size, (world events).refusesCall (.list page size) = none) :
    let rows := state.table.shown
    (state.table.listed.Perm state.table.rows ∧ state.table.listed.Pairwise fun first second =>
      first.index < second.index ∨ first.index = second.index ∧ first.id ≤ second.id) ∧
    (∀ size, ∃ count middle plain done,
      Ends (load world catalog size) state (.ok count) (middle.note (loadedLine count)) ∧
      Passed catalog state rows count plain ∧ plain.Alike middle ∧
      Tally catalog rows state count middle done ∧
      ((rows.map (·.mountPath)).Nodup → ∀ row ∈ rows, (row,.ok ()) ∉ done →
        middle.registry.load row.mountPath = state.registry.load row.mountPath) ∧
      state.ReadsPages middle) ∧
    (world.Unpaged → ∀ size, ∃ middle,
      let plain := (loadRows world catalog 0 rows).run state
      Ends (load world catalog size) state (.ok plain.1) (middle.note (loadedLine plain.1)) ∧
      plain.2.Alike middle) ∧
    ∀ size fuel, rows.length + 1 ≤ fuel →
      (loadPages world catalog (max size 1) fuel 1 0 0).run.run state =
        (loadPages world catalog (max size 1) (rows.length + 1) 1 0 0).run.run state ∧
      ((listPages world (max size 1) fuel 1 0).run state).1 = ⟨rows,none⟩ ∧
      ((listAll world size).run state).1 = ⟨rows,none⟩ := by
  intro rows
  have count : rows.length = state.table.rows.length := Table.length_shown _
  have loads (size : UInt64) := (((loadInvariant_passed world catalog state state.table).and
    (loadInvariant_unpaged world catalog state state.table)).and
    (loadInvariant_readsPages world catalog state)).load_all short listed
    ⟨⟨⟨state,.none,.refl state⟩,fun _ => ⟨rfl,.refl state⟩⟩,[],rfl,nofun⟩ size
  refine ⟨⟨List.mergeSort_perm _ _,Table.pairwise_listed _⟩,fun size => ?_,fun unpaged size => ?_,
    fun size fuel enough => ⟨?_,?_,?_⟩⟩
  · obtain ⟨count,middle,_,⟨⟨⟨plain,passed,alike⟩,_⟩,reads⟩,ends⟩ := loads size
    obtain ⟨done,tally⟩ := passed.tally
    have tallied := tally.congr alike
    exact ⟨count,middle,plain,done,ends,passed,alike,tallied,
      fun paths row member fails => tallied.failed paths member fails,reads⟩
  · obtain ⟨count,middle,_,⟨⟨_,same⟩,_⟩,ends⟩ := loads size
    obtain ⟨rfl,alike⟩ := same unpaged
    exact ⟨middle,ends,alike⟩
  · rw [count]
    exact loadPages_enough short size (count ▸ enough)
  · exact listPages_all short listed (count ▸ enough)
  · exact listPages_all short listed le_rfl

/-- Three rows in pages of two, the first of a driver type that is not known. -/
theorem load_plain_unknown :
    let state : State := .start {
      name := "storages"
      rows := [.ofStorage 1 { mountPath := "/a", driver := "ghost" },
        .ofStorage 2 { mountPath := "/b", driver := "memory" },
        .ofStorage 3 { mountPath := "/c", driver := "memory", index := 5 }]
      lastId := 3 }
    let plain := (loadRows (.willing .live) .builtin 0 state.table.storages).run state
    plain.1 = 2 ∧ plain.2.registry.keys = ["/b","/c"] ∧
      ((listAll (.willing .live) 2).run state).1 = ⟨state.table.storages,none⟩ ∧
      ∃ middle, Ends (load (.willing .live) .builtin 2) state (.ok 2)
        (middle.note (loadedLine 2)) ∧ plain.2.Alike middle := by
  intro state plain
  have two : plain.1 = 2 := by decide +kernel
  have keys : plain.2.registry.keys = ["/b","/c"] := by decide +kernel
  have short : state.table.rows.length < Table.idLimit := by decide
  have order : state.table.shown = state.table.storages := by
    have sorted : state.table.rows.Pairwise fun first second => Row.listedBefore first second := by
      decide +kernel
    rw [Table.shown,Table.listed,List.mergeSort_of_pairwise sorted,Table.storages]
  have answers : ∀ events page size,
      (World.willing .live events).refusesCall (.list page size) = none := fun _ _ _ => rfl
  obtain ⟨_,_,loads,pages⟩ := load_plain .builtin state short answers
  obtain ⟨middle,ends,alike⟩ := loads (fun _ => rfl) 2
  have listed := (pages 2 _ le_rfl).2.2
  rw [order] at ends alike listed
  change Ends (load (.willing .live) .builtin 2) state (.ok plain.1)
    (middle.note (loadedLine plain.1)) at ends
  rw [two] at ends
  exact ⟨two,keys,listed,middle,ends,alike⟩

end State
end MountHub
