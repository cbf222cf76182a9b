import MountHub.Proofs.Table.Storages

/-! Pages of a table: there are too few rows for a position to leave the signed numbers, so a
page is what its number and size say. A table that handed out its own ids is so short. -/
namespace MountHub.Table

variable {table : Table} {size : UInt64} {skipped : Nat}

/-- Ids are distinct and not beyond the last one, and so the rows are no more than that. -/
theorem Sound.length_le (sound : table.Sound) : table.rows.length ≤ table.lastId := by
  have distinct : (table.storages.map fun storage => storage.id.raw.toNat).Nodup := by
    have numbers := sound.ids.map (f := fun id : StorageId => id.raw.toNat) fun first second same => by
      exact congrArg StorageId.mk (UInt64.toNat_inj.mp same)
    rwa [List.map_map] at numbers
  have within : (table.storages.map fun storage => storage.id.raw.toNat) ⊆
      List.range' 1 table.lastId := by
    intro number member
    obtain ⟨storage,inside,rfl⟩ := List.mem_map.mp member
    have bounds := sound.handedOut storage inside
    rw [List.mem_range'_1]
    omega
  have short := distinct.length_le_of_subset within
  simpa [storages] using short

theorem Sound.length_lt (sound : table.Sound) : table.rows.length < idLimit :=
  Nat.lt_of_le_of_lt sound.length_le sound.limit

/-- The rows as storages in listing order. -/
def shown (table : Table) : List Storage := table.listed.map Row.storage

theorem mem_shown {storage : Storage} : storage ∈ table.shown ↔ storage ∈ table.storages := by
  simp [shown,storages,listed]

@[simp] theorem length_shown (table : Table) : table.shown.length = table.rows.length := by
  simp [shown,listed]

/-- Rows are listed by index, and by id where indices agree. -/
theorem pairwise_listed (table : Table) : table.listed.Pairwise fun first second =>
    first.index < second.index ∨ first.index = second.index ∧ first.id ≤ second.id := by
  have before (first second : Row) : Row.listedBefore first second = true ↔
      first.index < second.index ∨ first.index = second.index ∧ first.id ≤ second.id := by
    simp [Row.listedBefore]
  simp only [← before]
  apply List.pairwise_mergeSort
  · intro first second third one two
    rw [before] at one two ⊢
    rcases one with one | ⟨one,up⟩
    · rcases two with two | ⟨two,_⟩
      · exact .inl (Int32.lt_trans one two)
      · exact .inl (two ▸ one)
    · rcases two with two | ⟨two,further⟩
      · exact .inl (one ▸ two)
      · exact .inr ⟨one.trans two,Int64.le_trans up further⟩
  · intro first second
    rw [Bool.or_eq_true,before,before]
    rcases Int.lt_trichotomy first.index.toInt second.index.toInt with less | same | more
    · exact .inl (.inl (Int32.lt_iff_toInt_lt.mpr less))
    · rw [Int32.toInt_inj] at same
      rcases Int64.le_total first.id second.id with up | down
      · exact .inl (.inr ⟨same,up⟩)
      · exact .inr (.inr ⟨same.symm,down⟩)
    · exact .inr (.inl (Int32.lt_iff_toInt_lt.mpr more))

/-- A number read as signed is itself, unless it is in the upper half. -/
theorem toInt_toInt64 (number : UInt64) :
    number.toInt64.toInt = if number.toNat < idLimit then (number.toNat : Int)
      else (number.toNat : Int) - 0x10000000000000000 := by
  have bits : number.toInt64.toInt = number.toBitVec.toInt := rfl
  have whole : number.toBitVec.toNat = number.toNat := rfl
  have limit : idLimit = 9223372036854775808 := rfl
  rw [bits,BitVec.toInt_eq_toNat_cond,whole,limit]
  split_ifs with low half half <;> omega

/-- An offset in the upper half is no offset, and a limit there is none. There are not so many
rows that the latter could be told. -/
theorem window_eq {α : Type} {limit offset : UInt64} {rows : List α}
    (short : rows.length < idLimit) : window limit.toInt64 offset.toInt64 rows =
      (rows.drop (if offset.toNat < idLimit then offset.toNat else 0)).take limit.toNat := by
  have start : offset.toInt64.toInt.toNat =
      if offset.toNat < idLimit then offset.toNat else 0 := by
    have bound : offset.toNat < 18446744073709551616 := offset.toNat_lt
    rw [toInt_toInt64]
    split_ifs <;> omega
  have sign : limit.toInt64 < 0 ↔ limit.toInt64.toInt < 0 := Int64.lt_iff_toInt_lt
  have number := toInt_toInt64 limit
  unfold window
  rw [start]
  by_cases low : limit.toNat < idLimit
  · rw [if_pos low] at number
    rw [if_neg (by rw [sign]; omega),number]
    rfl
  · have bound : limit.toNat < 18446744073709551616 := limit.toNat_lt
    rw [if_neg low] at number
    rw [if_pos (by rw [sign]; omega),List.take_of_length_le]
    rw [List.length_drop]
    omega

/-- Where a page begins in the listing, over all numbers. Page 0 is page 1. -/
def position (page size : UInt64) : Nat := (page.toNat - 1) * size.toNat

/-- The pages before a page are one less than its number. -/
theorem toNat_before (page : UInt64) :
    (if page = 0 then 0 else page - 1).toNat = page.toNat - 1 := by
  split_ifs with first
  · simp [first]
  · have positive : page.toNat ≠ 0 := fun zero => first (UInt64.toNat_inj.mp zero)
    exact UInt64.toNat_sub_of_le _ _ (UInt64.le_iff_toNat_le.mpr (Nat.pos_of_ne_zero positive))

/-- The rows of a page, by how many pages lie before it. -/
def page (table : Table) (size : UInt64) (skipped : Nat) : List Storage :=
  (table.shown.drop (skipped * size.toNat)).take size.toNat

theorem mem_of_mem_page {storage : Storage} (member : storage ∈ table.page size skipped) :
    storage ∈ table.storages :=
  mem_shown.mp (List.mem_of_mem_drop (List.mem_of_mem_take member))

theorem take_append_page : table.shown.take (skipped * size.toNat) ++ table.page size skipped =
    table.shown.take ((skipped + 1) * size.toNat) := by
  rw [page,← List.take_add,← Nat.succ_mul]

theorem length_page (inside : skipped * size.toNat ≤ table.rows.length) :
    skipped * size.toNat + (table.page size skipped).length =
      min ((skipped + 1) * size.toNat) table.rows.length := by
  rw [page,List.length_take,List.length_drop,length_shown,Nat.succ_mul]
  omega

/-- A page that is to be read: the first one, or one that begins before the last row. -/
def Unread (table : Table) (size : UInt64) (skipped : Nat) : Prop :=
  skipped = 0 ∨ skipped * size.toNat < table.rows.length

theorem Unread.within (unread : table.Unread size skipped) :
    skipped * size.toNat ≤ table.rows.length := by
  rcases unread with rfl | inside
  · omega
  · exact Nat.le_of_lt inside

/-- There are no more pages than rows, but for the first one. -/
theorem Unread.skipped_le (unread : table.Unread size skipped) (place : 0 < size.toNat) :
    skipped ≤ table.rows.length :=
  Nat.le_trans (Nat.le_mul_of_pos_right skipped place) unread.within

/-- A page with room for rows that does not begin behind them all: there are not so many
rows that counting up to it could leave the numbers of 64 bits. -/
structure Reaches (table : Table) (page size : UInt64) : Prop where
  numbered : 0 < page.toNat
  place : 0 < size.toNat
  within : (page.toNat - 1) * size.toNat ≤ table.rows.length

/-- The number of the page that skips so many others. -/
theorem toNat_ofNat_succ (short : table.rows.length < idLimit) (place : 0 < size.toNat)
    (inside : skipped * size.toNat ≤ table.rows.length) :
    (UInt64.ofNat (skipped + 1)).toNat = skipped + 1 := by
  have room : table.rows.length < 9223372036854775808 := short
  have few : skipped ≤ skipped * size.toNat := Nat.le_mul_of_pos_right skipped place
  rw [UInt64.toNat_ofNat']
  omega

theorem reaches_ofNat (short : table.rows.length < idLimit) (place : 0 < size.toNat)
    (inside : skipped * size.toNat ≤ table.rows.length) :
    table.Reaches (UInt64.ofNat (skipped + 1)) size := by
  have page := toNat_ofNat_succ short place inside
  refine ⟨by omega,place,?_⟩
  rw [page,Nat.add_sub_cancel]
  exact inside

/-- A page is read from its position on as long as that is a number with a sign. Up to the end
of the numbers of 64 bits it is read from the start, and beyond there is no answer. -/
theorem list_eq_ite (short : table.rows.length < idLimit) (page size : UInt64) :
    table.list page size =
      if position page size < 0x8000000000000000 then
        .ok (table.page size (page.toNat - 1),table.rows.length)
      else if position page size < 0x10000000000000000 then .ok (table.page size 0,table.rows.length)
      else .error .pageOutOfRange := by
  have few : table.listed.length < idLimit := by simpa [listed] using short
  have limit : idLimit = 0x8000000000000000 := rfl
  unfold list position
  simp only [toNat_before]
  by_cases counted : (page.toNat - 1) * size.toNat < 0x10000000000000000
  · have offset : ((if page = 0 then 0 else page - 1) * size).toNat =
        (page.toNat - 1) * size.toNat := by
      rw [UInt64.toNat_mul,toNat_before,Nat.mod_eq_of_lt counted]
    have cut (skipped : Nat) :
        ((table.listed.drop (skipped * size.toNat)).take size.toNat).map Row.storage =
          table.page size skipped := by
      rw [List.map_take,List.map_drop]
      rfl
    rw [if_pos counted,window_eq few,offset,limit,if_pos counted]
    by_cases signed : (page.toNat - 1) * size.toNat < 0x8000000000000000
    · rw [if_pos signed,if_pos signed,cut]
    · have start := cut 0
      rw [Nat.zero_mul] at start
      rw [if_neg signed,if_neg signed,start]
  · rw [if_neg counted,if_neg counted,if_neg (by omega)]

/-- A page that begins inside of the table holds the rows from its beginning on, as many
as it has places for. -/
theorem list_eq (short : table.rows.length < idLimit) (place : 0 < size.toNat)
    (inside : skipped * size.toNat ≤ table.rows.length) :
    table.list (UInt64.ofNat (skipped + 1)) size =
      .ok (table.page size skipped,table.rows.length) := by
  have room : table.rows.length < 9223372036854775808 := short
  have page := toNat_ofNat_succ short place inside
  have begins : position (UInt64.ofNat (skipped + 1)) size = skipped * size.toNat := by
    rw [position,page,Nat.add_sub_cancel]
  rw [list_eq_ite short,begins,if_pos (by omega),page,Nat.add_sub_cancel]

/-- Whatever the position of a page is, it is cut out of the listing. -/
theorem sublist_of_list {page : UInt64} {rows : List Storage} {total : Nat}
    (listed : table.list page size = .ok (rows,total)) : rows.Sublist table.shown := by
  unfold list at listed
  generalize (if page = 0 then 0 else page - 1) = skipped at listed
  dsimp only at listed
  split at listed
  · obtain ⟨rfl,_⟩ := Prod.mk.inj (Except.ok.inj listed)
    refine List.Sublist.map Row.storage ?_
    unfold window
    split
    · exact List.drop_sublist _ _
    · exact (List.take_sublist _ _).trans (List.drop_sublist _ _)
  · cases listed

theorem total_of_list {page : UInt64} {rows : List Storage} {total : Nat}
    (listed : table.list page size = .ok (rows,total)) : table.rows.length = total := by
  unfold list at listed
  generalize (if page = 0 then 0 else page - 1) = skipped at listed
  dsimp only at listed
  split_ifs at listed
  exact (Prod.mk.inj (Except.ok.inj listed)).2

theorem mem_of_list {page : UInt64} {rows : List Storage} {total : Nat} {storage : Storage}
    (listed : table.list page size = .ok (rows,total)) (member : storage ∈ rows) :
    storage ∈ table.storages :=
  mem_shown.mp ((sublist_of_list listed).subset member)

end MountHub.Table
