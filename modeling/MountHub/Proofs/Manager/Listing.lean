import MountHub.Proofs.Manager.Soundness
import MountHub.Proofs.Table.Contents

/-! Pages of a listing, over all numbers and sizes. The rows that a page is to hold follow from its
number and size alone. It holds them as long as its position is a number with a sign; behind that
the position is lost, and then out of range. -/
namespace MountHub

namespace Table

variable {table : Table} {page size : UInt64} {skipped : Nat}

/-- A page holds what stands in the listing from its position on and before that of the next. -/
theorem extract_eq_page (numbered : 0 < page.toNat) :
    table.shown.extract (position page size) (page.toNat * size.toNat) =
      table.page size (page.toNat - 1) := by
  obtain ⟨before,number⟩ : ∃ before, page.toNat = before + 1 := ⟨page.toNat - 1,by omega⟩
  rw [position,number,Nat.add_sub_cancel,Nat.succ_mul,List.extract_eq_take_drop,
    Nat.add_sub_cancel_left]
  rfl

theorem page_eq_nil_iff :
    table.page size skipped = [] ↔ size.toNat = 0 ∨ table.rows.length ≤ skipped * size.toNat := by
  rw [page,List.take_eq_nil_iff,List.drop_eq_nil_iff,length_shown]

/-- Of two pages the earlier one ends where the later one begins, or before that. -/
theorem Sound.disjoint_page (sound : table.Sound) {one two : Nat} (apart : one ≠ two) :
    (table.page size one).Disjoint (table.page size two) := by
  have before {first second : Nat} (less : first < second) :
      (table.page size first).Disjoint (table.page size second) := by
    have ends : (first + 1) * size.toNat ≤ second * size.toNat := Nat.mul_le_mul_right _ less
    have earlier : table.page size first ⊆ table.shown.take ((first + 1) * size.toNat) := by
      rw [← take_append_page]
      exact List.subset_append_right _ _
    exact List.disjoint_of_subset_left earlier <| List.disjoint_of_subset_right
      (List.take_subset _ _) (List.disjoint_take_drop sound.nodup_shown ends)
  rcases Nat.lt_or_gt_of_ne apart with less | more
  · exact before less
  · exact (List.disjoint_comm).mp (before more)

/-- The rows of a page are told exactly as long as its position is a number with a sign. Behind
that they are told only where there are none at all, up to the end of the numbers of 64 bits. -/
theorem list_eq_page_iff (short : table.rows.length < idLimit) (page size : UInt64) :
    table.list page size = .ok (table.page size (page.toNat - 1),table.rows.length) ↔
      position page size < 0x8000000000000000 ∨
        position page size < 0x10000000000000000 ∧ table.rows = [] := by
  have limit : idLimit = 0x8000000000000000 := rfl
  rw [list_eq_ite short]
  split_ifs with signed counted
  · simp [signed]
  · have beyond : table.page size (page.toNat - 1) = [] :=
      page_eq_nil_iff.mpr (.inr (by unfold position at signed; omega))
    have place : size.toNat ≠ 0 := by
      intro none
      rw [position,none] at signed
      omega
    rw [beyond]
    simp [signed,counted,page_eq_nil_iff,place]
  · simp [signed,counted]

end Table

/-- Over every table, and all numbers and sizes of 64 bits: a page is told just as its number and
size say, over all numbers, exactly as long as its position is a number with a sign, or there are
no rows. Between that and the end of the numbers of 64 bits the answer is the first page, and
beyond there is none. Pages that are told as they are to be share no row, and behind the last row
they are empty. A manager that is not refused the call answers the same. -/
theorem Table.list_by_position {table : Table} (sound : table.Sound) (page size : UInt64)
    (numbered : 0 < page.toNat) :
    let first := position page size
    let wanted := table.shown.extract first (page.toNat * size.toNat)
    let total := table.rows.length
    (table.shown.Perm table.storages ∧ Ordered table.shown) ∧
      (table.list page size = .ok (wanted,total) ↔
        first < 0x8000000000000000 ∨ first < 0x10000000000000000 ∧ table.rows = []) ∧
      (0x8000000000000000 ≤ first → first < 0x10000000000000000 →
        table.list page size = table.list 1 size) ∧
      (0x10000000000000000 ≤ first → table.list page size = .error .pageOutOfRange) ∧
      (total ≤ first → wanted = []) ∧
      (∀ other rows, 0 < other.toNat → other ≠ page → position other size < 0x8000000000000000 →
        table.list other size = .ok (rows,total) → wanted.Disjoint rows) ∧
      ∀ (world : World) (state : State), state.table = table →
        (world state.events).refusesCall (.list page size) = none →
        ((Operation.list world page size).run.run state).1 =
          (table.list page size).mapError (.ofTable "failed get storages") := by
  intro first wanted total
  have short := sound.length_lt
  have cut : wanted = table.page size (page.toNat - 1) := extract_eq_page numbered
  have told := list_eq_ite short page size
  have start : position 1 size = 0 := by simp [position]
  refine ⟨⟨(List.mergeSort_perm _ _).map _,sound.ordered_shown⟩,?_,?_,?_,?_,?_,?_⟩
  · rw [cut]
    exact list_eq_page_iff short page size
  · intro behind counted
    have beginning := list_eq_ite short 1 size
    rw [start,if_pos (by omega)] at beginning
    rw [told,if_neg (by omega),if_pos counted,beginning]
    rfl
  · intro beyond
    rw [told,if_neg (by omega),if_neg (by omega)]
  · intro behind
    rw [cut]
    exact page_eq_nil_iff.mpr (.inr behind)
  · intro other rows follows apart signed listed
    have given := (list_eq_page_iff short other size).mpr (.inl signed)
    obtain rfl : table.page size (other.toNat - 1) = rows :=
      (Prod.mk.inj (Except.ok.inj (given.symm.trans listed))).1
    rw [cut]
    apply sound.disjoint_page
    intro same
    exact apart (UInt64.toNat_inj.mp (by omega))
  · rintro world state rfl willing
    rw [(Operation.eq_of_ends_list (Operation.ends_run _ state)).1,World.answers,willing]

/-- Two rows, a page each, and pages of so many places that the second one is behind all rows. -/
theorem Table.list_by_position_two :
    let near : Storage := { mountPath := "/b", driver := "memory", index := 1 }
    let far : Storage := { mountPath := "/a", driver := "memory", index := 2 }
    let state := (State.start { name := "storages" }).run [⟨.willing .live,.builtin,.create near⟩,
      ⟨.willing .live,.builtin,.create far⟩]
    let table := state.table
    let row (id : StorageId) (storage : Storage) : Storage := { storage with id, modified := 7 }
    table.list 1 1 = .ok ([row ⟨1⟩ near],2) ∧ table.list 2 1 = .ok ([row ⟨2⟩ far],2) ∧
      [row ⟨1⟩ near].Disjoint [row ⟨2⟩ far] ∧
      ((Operation.list (.willing .live) 2 1).run.run state).1 = .ok ([row ⟨2⟩ far],2) ∧
      table.list 2 0x8000000000000000 = table.list 1 0x8000000000000000 ∧
      table.list 3 0x8000000000000000 = .error .pageOutOfRange := by
  intro near far state table row
  have sound : table.Sound := (State.sound_run "storages" _).table
  have shown : table.shown = [row ⟨1⟩ near,row ⟨2⟩ far] := by
    have rows : table.rows = [Row.ofStorage 1 (row ⟨1⟩ near),Row.ofStorage 2 (row ⟨2⟩ far)] := by
      decide +kernel
    rw [Table.shown,Table.listed,rows,List.mergeSort_of_pairwise (by decide)]
    decide +kernel
  have total : table.rows.length = 2 := by decide +kernel
  obtain ⟨_,first,_,_,_,apart,_⟩ := list_by_position sound 1 1 (by decide)
  obtain ⟨_,second,_,_,_,_,asked⟩ := list_by_position sound 2 1 (by decide)
  obtain ⟨_,_,behind,_⟩ := list_by_position sound 2 0x8000000000000000 (by decide)
  obtain ⟨_,_,_,beyond,_⟩ := list_by_position sound 3 0x8000000000000000 (by decide)
  have one := first.mpr (.inl (by decide))
  have two := second.mpr (.inl (by decide))
  have disjoint := apart 2 _ (by decide) (by decide) (by decide) two
  have answer := asked (.willing .live) state rfl rfl
  rw [two] at answer
  rw [shown] at disjoint
  rw [shown,total] at one two answer
  exact ⟨one,two,disjoint,answer,behind (by decide) (by decide),beyond (by decide)⟩

/-- One row, and pages of so many places that only the first of them is to hold it. The second one
begins behind the sign and holds it again, and the third one is out of range. -/
theorem Table.list_behind_sign :
    let state := (State.start { name := "storages" }).run
      [⟨.willing .live,.builtin,.create { mountPath := "/a", driver := "memory" }⟩]
    let size : UInt64 := 0x8000000000000000
    let row : Storage := { id := ⟨1⟩, mountPath := "/a", driver := "memory", modified := 7 }
    state.table.shown.extract ((2 - 1) * size.toNat) (2 * size.toNat) = [] ∧
      state.table.list 1 size = .ok ([row],1) ∧ state.table.list 2 size = .ok ([row],1) ∧
      ((Operation.list (.willing .live) 2 size).run.run state).1 = .ok ([row],1) ∧
      state.table.list 3 size = .error .pageOutOfRange := by
  decide +kernel

end MountHub
