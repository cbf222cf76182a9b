import MountHub.Proofs.Manager.Ending
import MountHub.Proofs.Table.Page

/-! Loading. Whatever reading a page and mounting a row preserve, a whole load preserves,
whatever the size of its pages is; a load that is not refused a page passes every row. -/
namespace MountHub
open Operation Call

variable {world : World} {catalog : Catalog} {storage : Storage} {state after : State}
  {lines : List LogRecord}

/-- The line that tells of a row that is not mounted. -/
def Storage.loadFailure (storage : Storage) (error : StorageError) : Event :=
  .logged ⟨.manager,.error,"failed load storage: " ++ error.message,
    [("storage.id",toString storage.id.raw),("mount_path",storage.mountPath)]⟩

/-- The line that tells how many rows went well. -/
def loadedLine (count : Nat) : Event :=
  .logged ⟨.manager,.info,"loaded " ++ toString count ++ " storages",[]⟩

/-- A row is mounted, or else a line is written. -/
inductive Loaded (world : World) (catalog : Catalog) (storage : Storage) (state : State) :
    Bool → State → Prop
  | unsupported (unknown : catalog.find? storage.driver = none) :
      Loaded world catalog storage state false
        (state.note (storage.loadFailure (.unsupportedDriver storage.driver)))
  | unbound {kind : DriverKind} {error : StorageError} {middle : State}
      (known : catalog.find? storage.driver = some kind)
      (mounting : Mounting world "failed init storage" [] state.drivers.length storage
        (state.made kind) (.error error) middle) :
      Loaded world catalog storage state false (middle.note (storage.loadFailure error))
  | done {kind : DriverKind} {after : State}
      (known : catalog.find? storage.driver = some kind)
      (mounting : Mounting world "failed init storage" [] state.drivers.length storage
        (state.made kind) (.ok ()) after) :
      Loaded world catalog storage state true after

theorem Mounting.table_eq {step : String} {number : Nat} {reply : Except StorageError Unit}
    (mounting : Mounting world step lines number storage state reply after) :
    after.table = state.table := by
  cases mounting <;> rfl

theorem Mounting.length_drivers {step : String} {number : Nat} {reply : Except StorageError Unit}
    (mounting : Mounting world step lines number storage state reply after) :
    after.drivers.length = state.drivers.length := by
  cases mounting with
  | unbound => rfl
  | done => simp

theorem Loaded.table_eq {well : Bool} (loaded : Loaded world catalog storage state well after) :
    after.table = state.table := by
  cases loaded with
  | unsupported => rfl
  | unbound _ mounting => exact mounting.table_eq
  | done _ mounting => exact mounting.table_eq

namespace Call

theorem loaded_of_run (world : World) (catalog : Catalog) (storage : Storage) (state : State) :
    Loaded world catalog storage state ((loadRow world catalog storage).run state).1
      ((loadRow world catalog storage).run state).2 := by
  unfold loadRow
  rw [run_bind]
  rcases ends : (mountNew world catalog storage.mountPath storage).run.run state with
    ⟨error | _,middle⟩
  · change Loaded world catalog storage state false (middle.note (storage.loadFailure error))
    rcases mountNew_cases ends with ⟨unknown,refused,rfl⟩ | ⟨kind,known,mounting⟩
    · rw [Except.error.inj refused]
      exact .unsupported unknown
    · exact .unbound known mounting
  · change Loaded world catalog storage state true middle
    rcases mountNew_cases ends with ⟨_,refused,_⟩ | ⟨kind,known,mounting⟩
    · cases refused
    · exact .done known mounting

theorem table_loadRows (world : World) (catalog : Catalog) (count : Nat) (rows : List Storage)
    (state : State) : ((loadRows world catalog count rows).run state).2.table = state.table := by
  induction rows generalizing count state with
  | nil => rfl
  | cons storage more ih =>
    rw [loadRows,run_bind,ih]
    exact (loaded_of_run world catalog storage state).table_eq

end Call

namespace Operation

variable {size : UInt64} {skipped : Nat}

/-- A page that begins inside of the table is refused, or read as it stands. -/
theorem ends_bind_page {β : Type} {step : String} {next : List Storage × Nat → Operation β}
    {reply : Except StorageError β} (short : state.table.rows.length < Table.idLimit)
    (place : 0 < size.toNat) (within : skipped * size.toNat ≤ state.table.rows.length)
    (ends : Ends (table step (listRows world (UInt64.ofNat (skipped + 1)) size) >>= next) state
      reply after) :
    let page := UInt64.ofNat (skipped + 1)
    let noted := state.note (.table (.list page size))
    (∃ cause, (world state.events).refusesCall (.list page size) = some cause ∧
      reply = .error (.ofTable step cause) ∧ after = noted) ∨
    (world state.events).refusesCall (.list page size) = none ∧
      Ends (next (state.table.page size skipped,state.table.rows.length)) noted reply after := by
  intro page noted
  have listed := Table.list_eq short place within
  rcases ends_bind_listRows ends with ⟨cause,refused,rest⟩ | ⟨given,answered,rest⟩
  · rw [listed] at refused
    exact .inl ⟨cause,World.refuses_of_answers_ok refused,rest⟩
  · rw [listed] at answered
    obtain rfl := Except.ok.inj (World.ok_of_answers answered)
    exact .inr ⟨World.willing_of_answers_ok answered,rest⟩

/-- One page of a load: its rows are passed, and then the load is at its end, or goes on with
the page after it. A page without rows lies behind the last one. -/
theorem run_loadPages (short : state.table.rows.length < Table.idLimit) (place : 0 < size.toNat)
    (within : skipped * size.toNat ≤ state.table.rows.length) (fuel count : Nat) :
    let page := UInt64.ofNat (skipped + 1)
    let noted := state.note (.table (.list page size))
    let passed := (loadRows world catalog count (state.table.page size skipped)).run noted
    (loadPages world catalog size (fuel + 1) page (skipped * size.toNat) count).run.run state =
      match (world state.events).refusesCall (.list page size) with
      | some cause => (.error (.ofTable "failed get storages" cause),noted)
      | none =>
        if state.table.rows.length ≤ (skipped + 1) * size.toNat then (.ok passed.1,passed.2)
        else (loadPages world catalog size fuel (UInt64.ofNat (skipped + 1 + 1))
          ((skipped + 1) * size.toNat) passed.1).run.run passed.2 := by
  intro page noted passed
  have length := Table.length_page within
  have further : (skipped + 1) * size.toNat = skipped * size.toNat + size.toNat :=
    Nat.succ_mul skipped _
  obtain ⟨reply,after,ends⟩ := exists_ends
    (loadPages world catalog size (fuel + 1) page (skipped * size.toNat) count) state
  refine Eq.trans ends ?_
  rw [loadPages] at ends
  rcases ends_bind_page short place within ends with ⟨cause,refused,rfl,rfl⟩ | ⟨willing,rest⟩
  · rw [refused]
  · rw [willing]
    dsimp only at rest ⊢
    split at rest
    · rename_i empty
      obtain ⟨rfl,rfl⟩ := ends_pure.mp rest
      rw [List.isEmpty_iff] at empty
      rw [empty,List.length_nil] at length
      rw [if_pos (by omega)]
      simp only [passed,empty]
      rfl
    · rw [ends_bind_lift] at rest
      split at rest
      · obtain ⟨rfl,rfl⟩ := ends_pure.mp rest
        rw [if_pos (by omega)]
      · have next : page + 1 = UInt64.ofNat (skipped + 1 + 1) :=
          (UInt64.ofNat_add (skipped + 1) 1).symm
        have fetched : skipped * size.toNat + (state.table.page size skipped).length =
          (skipped + 1) * size.toNat := by omega
        rw [fetched,next] at rest
        rw [if_neg (by omega)]
        exact rest.symm

/-- A load comes to its end: any two numbers of pages that are as many as the rows that are
left, and one, are as good as each other. -/
theorem loadPages_fuel (short : state.table.rows.length < Table.idLimit) (place : 0 < size.toNat)
    {first second count : Nat} (unread : state.table.Unread size skipped)
    (enough : state.table.rows.length + 1 ≤ first + skipped)
    (likewise : state.table.rows.length + 1 ≤ second + skipped) :
    let page := UInt64.ofNat (skipped + 1)
    (loadPages world catalog size first page (skipped * size.toNat) count).run.run state =
      (loadPages world catalog size second page (skipped * size.toNat) count).run.run state := by
  intro page
  induction first generalizing second skipped count state with
  | zero =>
    have few := unread.skipped_le place
    omega
  | succ first ih =>
    have few := unread.skipped_le place
    obtain ⟨second,rfl⟩ : ∃ fewer, second = fewer + 1 := ⟨second - 1,by omega⟩
    rw [run_loadPages short place unread.within,run_loadPages short place unread.within]
    split
    · rfl
    · split
      · rfl
      · have kept := table_loadRows world catalog count (state.table.page size skipped)
          (state.note (.table (.list page size)))
        generalize (loadRows world catalog count (state.table.page size skipped)).run
          (state.note (.table (.list page size))) = passed at kept ⊢
        rw [State.note_table] at kept
        have further : passed.2.table.Unread size (skipped + 1) := .inr (by rw [kept]; omega)
        rw [← kept] at short enough likewise
        exact ih short further (by omega) (by omega)

theorem toNat_max_pos (size : UInt64) : 0 < (max size 1).toNat := by
  have larger : max size 1 = if size ≤ 1 then 1 else size := rfl
  rw [larger]
  split_ifs with small
  · decide
  · rw [UInt64.le_iff_toNat_le] at small
    exact Nat.lt_of_lt_of_le Nat.one_pos (Nat.le_of_not_le small)

theorem loadPages_enough (short : state.table.rows.length < Table.idLimit) (size : UInt64)
    {fuel : Nat} (enough : state.table.rows.length + 1 ≤ fuel) :
    (loadPages world catalog (max size 1) fuel 1 0 0).run.run state =
      (loadPages world catalog (max size 1) (state.table.rows.length + 1) 1 0 0).run.run state := by
  have same := @loadPages_fuel world catalog state (max size 1) 0 short (toNat_max_pos size)
    fuel (state.table.rows.length + 1) 0 (.inl rfl) enough le_rfl
  rw [Nat.zero_mul] at same
  exact same

end Operation

/-- A property of the rows passed so far, of the number of those that went well, and of the
state, that survives reading a page and passing one more row. -/
structure LoadInvariant (world : World) (catalog : Catalog) (table : Table)
    (holds : List Storage → Nat → State → Prop) : Prop where
  page : ∀ {passed count state page size}, table.Reaches page size → holds passed count state →
    holds passed count (state.note (.table (.list page size)))
  row : ∀ {passed count storage state well after}, state.table = table → storage ∈ table.storages →
    holds passed count state → Loaded world catalog storage state well after →
    holds (passed ++ [storage]) (if well then count + 1 else count) after

namespace LoadInvariant

variable {table : Table} {holds : List Storage → Nat → State → Prop} {passed : List Storage}
  {count : Nat} {size : UInt64}

theorem loadRows (invariant : LoadInvariant world catalog table holds) {rows : List Storage}
    (inside : ∀ storage ∈ rows, storage ∈ table.storages) (start : holds passed count state)
    (same : state.table = table) :
    holds (passed ++ rows) ((loadRows world catalog count rows).run state).1
      ((loadRows world catalog count rows).run state).2 := by
  induction rows generalizing passed count state with
  | nil =>
    rw [List.append_nil]
    exact start
  | cons storage more ih =>
    have loaded := loaded_of_run world catalog storage state
    rw [Call.loadRows,run_bind]
    have next := invariant.row same (inside storage (by simp)) start loaded
    have rest := ih (fun other member => inside other (by simp [member])) next
      (loaded.table_eq.trans same)
    rw [List.append_assoc] at rest
    exact rest

/-- The pages up to a page hold the rows up to its end. -/
theorem loadPages (invariant : LoadInvariant world catalog table holds)
    (short : table.rows.length < Table.idLimit) (place : 0 < size.toNat) (fuel skipped : Nat)
    {reply : Except StorageError Nat} (unread : table.Unread size skipped)
    (enough : table.rows.length + 1 ≤ fuel + skipped) (same : state.table = table)
    (start : holds (table.shown.take (skipped * size.toNat)) count state)
    (ends : Ends (loadPages world catalog size fuel (UInt64.ofNat (skipped + 1))
      (skipped * size.toNat) count) state reply after) :
    after.table = table ∧ ∃ passed count, holds passed count after ∧
      ((passed = table.shown ∧ reply = .ok count) ∨
        passed <+: table.shown ∧ ∃ events page cause,
          (world events).refusesCall (.list page size) = some cause ∧
          reply = .error (.ofTable "failed get storages" cause)) := by
  induction fuel generalizing skipped count state with
  | zero =>
    have few := unread.skipped_le place
    omega
  | succ fuel ih =>
    subst same
    have within := unread.within
    have noted := invariant.page (Table.reaches_ofNat short place within) start
    unfold Ends at ends
    rw [run_loadPages short place within] at ends
    split at ends
    · rename_i cause refused
      obtain ⟨rfl,rfl⟩ := Prod.mk.inj ends
      exact ⟨rfl,_,count,noted,.inr ⟨List.take_prefix _ _,_,_,cause,refused,rfl⟩⟩
    · have kept := table_loadRows world catalog count (state.table.page size skipped)
        (state.note (.table (.list (UInt64.ofNat (skipped + 1)) size)))
      have inside : ∀ row ∈ state.table.page size skipped, row ∈ state.table.storages :=
        fun _ => Table.mem_of_mem_page
      have passes := invariant.loadRows inside noted rfl
      rw [Table.take_append_page] at passes
      split at ends
      · rename_i complete
        obtain ⟨rfl,rfl⟩ := Prod.mk.inj ends
        have all : state.table.shown.take ((skipped + 1) * size.toNat) = state.table.shown :=
          List.take_of_length_le (by rw [Table.length_shown]; exact complete)
        exact ⟨kept,_,_,passes,.inl ⟨all,rfl⟩⟩
      · exact ih (skipped + 1) (.inr (by omega)) (by omega) kept passes ends

/-- A load passes all rows, unless it is refused a page. -/
theorem load (invariant : LoadInvariant world catalog state.table holds)
    (short : state.table.rows.length < Table.idLimit) {reply : Except StorageError Nat}
    (start : holds [] 0 state)
    (ends : Ends (load world catalog size) state reply after) :
    ∃ passed count middle, middle.table = state.table ∧ holds passed count middle ∧
      ((passed = state.table.shown ∧ reply = .ok count ∧ after = middle.note (loadedLine count)) ∨
        passed <+: state.table.shown ∧ after = middle ∧ ∃ events page cause,
          (world events).refusesCall (.list page (max size 1)) = some cause ∧
          reply = .error (.ofTable "failed get storages" cause)) := by
  unfold Operation.load at ends
  rw [ends_bind_get] at ends
  -- The first page is the one that skips none.
  have pages {reply : Except StorageError Nat} {middle : State}
      (first : Ends (Operation.loadPages world catalog (max size 1) (state.table.rows.length + 1)
        1 0 0) state reply middle) :=
    invariant.loadPages short (toNat_max_pos size) (state.table.rows.length + 1) 0 (.inl rfl)
      (Nat.le_add_right _ _) rfl (by rw [Nat.zero_mul]; exact start)
      (by rw [Nat.zero_mul]; exact first)
  rcases ends_bind.mp ends with ⟨error,first,rfl⟩ | ⟨total,middle,first,rest⟩
  · obtain ⟨kept,passed,count,passes,⟨_,wrong⟩ | ⟨inside,refusal⟩⟩ := pages first
    · cases wrong
    · exact ⟨passed,count,after,kept,passes,.inr ⟨inside,rfl,refusal⟩⟩
  · obtain ⟨kept,passed,count,passes,⟨all,same⟩ | ⟨_,_,_,_,_,wrong⟩⟩ := pages first
    · obtain rfl := Except.ok.inj same
      rw [ends_bind_lift,run_record] at rest
      obtain ⟨rfl,rfl⟩ := ends_pure.mp rest
      exact ⟨passed,total,middle,kept,passes,.inl ⟨all,rfl,rfl⟩⟩
    · cases wrong

/-- A load that is not refused a page counts the rows that went well, and tells of them. -/
theorem load_all (invariant : LoadInvariant world catalog state.table holds)
    (short : state.table.rows.length < Table.idLimit)
    (listed : ∀ events page size, (world events).refusesCall (.list page size) = none)
    (start : holds [] 0 state) (size : UInt64) :
    ∃ count middle, middle.table = state.table ∧ holds state.table.shown count middle ∧
      Ends (Operation.load world catalog size) state (.ok count)
        (middle.note (loadedLine count)) := by
  obtain ⟨reply,after,ends⟩ := exists_ends (Operation.load world catalog size) state
  obtain ⟨passed,count,middle,kept,passes,⟨rfl,rfl,rfl⟩ | ⟨_,_,_,_,_,refused,_⟩⟩ :=
    invariant.load short start ends
  · exact ⟨count,middle,kept,passes,ends⟩
  · rw [listed] at refused
    cases refused

theorem and {others : List Storage → Nat → State → Prop}
    (first : LoadInvariant world catalog table holds)
    (second : LoadInvariant world catalog table others) :
    LoadInvariant world catalog table fun passed count state =>
      holds passed count state ∧ others passed count state where
  page reached both := ⟨first.page reached both.1,second.page reached both.2⟩
  row same member both loaded :=
    ⟨first.row same member both.1 loaded,second.row same member both.2 loaded⟩

end LoadInvariant
end MountHub
