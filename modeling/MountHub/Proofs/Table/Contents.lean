import MountHub.Proofs.Table.Page
import Mathlib.Logic.Function.Basic

/-! The table as a finite map from ids to storages. Each call that succeeds changes the map
at one id at most, and a page is a list of storages from it, in strict order. -/
namespace MountHub.Table

variable {table changed : Table} {storage row : Storage} {id : StorageId}

/-- What is kept under an id. -/
def contents (table : Table) (id : StorageId) : Option Storage := (table.get id).toOption

theorem contents_empty (name : String) : contents { name } = fun _ => none := rfl

theorem contents_eq_some_iff_get : table.contents id = some row ↔ table.get id = .ok row := by
  unfold contents
  cases table.get id <;> simp [Except.toOption]

theorem get_of_contents_eq_none (absent : table.contents id = none) :
    table.get id = .error (.notFound id) := by
  unfold contents at absent
  unfold get at absent ⊢
  split at absent
  · cases absent
  · rfl

theorem Sound.contents_eq_some_iff (sound : table.Sound) :
    table.contents id = some row ↔ row ∈ table.storages ∧ row.id = id := by
  rw [contents_eq_some_iff_get]
  constructor
  · exact mem_of_get_eq_ok
  · rintro ⟨member,rfl⟩
    exact sound.get_of_mem member

theorem Sound.contents_of_mem (sound : table.Sound) (member : row ∈ table.storages) :
    table.contents row.id = some row :=
  sound.contents_eq_some_iff.mpr ⟨member,rfl⟩

theorem Sound.contents_eq_none_iff (sound : table.Sound) :
    table.contents id = none ↔ ∀ row ∈ table.storages, row.id ≠ id := by
  rw [Option.eq_none_iff_forall_ne_some]
  simp only [ne_eq,sound.contents_eq_some_iff,not_and]

/-- Two tables keep the same map where they have the same rows. -/
theorem Sound.contents_eq (sound : changed.Sound) {map : StorageId → Option Storage}
    (rows : ∀ id row, row ∈ changed.storages ∧ row.id = id ↔ map id = some row) :
    changed.contents = map := by
  funext id
  apply Option.ext
  intro row
  exact sound.contents_eq_some_iff.trans (rows id row)

/-- A new storage is kept under its id with all that was given but the id. -/
theorem Sound.contents_create (sound : table.Sound)
    (created : table.create storage = .ok (id,changed)) :
    changed.contents = Function.update table.contents id (some { storage with id }) := by
  have unused (row : Storage) (member : row ∈ table.storages) : row.id ≠ id := by
    have bound := (sound.handedOut row member).2
    have next := (create_eq_ok created).1
    rintro rfl
    omega
  apply (sound.create created).contents_eq
  intro other row
  rw [mem_create created,Function.update_apply]
  split_ifs with same
  · subst same
    constructor
    · rintro ⟨before | rfl,key⟩
      · exact absurd key (unused row before)
      · rfl
    · rintro ⟨⟩
      exact ⟨.inr rfl,rfl⟩
  · rw [sound.contents_eq_some_iff]
    constructor
    · rintro ⟨before | rfl,rfl⟩
      · exact ⟨before,rfl⟩
      · exact absurd rfl same
    · rintro ⟨before,key⟩
      exact ⟨.inl before,key⟩

theorem Sound.contents_update (sound : table.Sound) (updated : table.update storage = .ok changed) :
    changed.contents = Function.update table.contents storage.id (some storage) := by
  apply (sound.update updated).contents_eq
  intro other row
  rw [mem_update updated,Function.update_apply]
  split_ifs with same
  · subst same
    constructor
    · rintro ⟨rfl | ⟨_,different⟩,key⟩
      · rfl
      · exact absurd key different
    · rintro ⟨⟩
      exact ⟨.inl rfl,rfl⟩
  · rw [sound.contents_eq_some_iff]
    constructor
    · rintro ⟨rfl | ⟨before,_⟩,rfl⟩
      · exact absurd rfl same
      · exact ⟨before,rfl⟩
    · rintro ⟨before,rfl⟩
      exact ⟨.inr ⟨before,same⟩,rfl⟩

theorem Sound.contents_delete (sound : table.Sound) (deleted : table.delete id = .ok changed) :
    changed.contents = Function.update table.contents id none := by
  apply (sound.delete deleted).contents_eq
  intro other row
  rw [mem_delete deleted,Function.update_apply]
  split_ifs with same
  · subst same
    simp only [iff_false]
    rintro ⟨⟨_,different⟩,key⟩
    exact different key
  · rw [sound.contents_eq_some_iff]
    constructor
    · rintro ⟨⟨before,_⟩,key⟩
      exact ⟨before,key⟩
    · rintro ⟨before,rfl⟩
      exact ⟨⟨before,same⟩,rfl⟩

/-- A row that does not exist is neither replaced nor removed, whatever else is the case. -/
theorem update_of_contents_eq_none (absent : table.contents storage.id = none) :
    table.update storage = .error (.notFound storage.id) := by
  have missing := get_of_contents_eq_none absent
  unfold get at missing
  split at missing
  · cases missing
  · rename_i lost
    rw [update,lost]
    rfl

theorem delete_of_contents_eq_none (absent : table.contents id = none) :
    table.delete id = .error (.notFound id) := by
  have missing := get_of_contents_eq_none absent
  unfold get at missing
  split at missing
  · cases missing
  · rename_i lost
    rw [delete,lost]
    rfl

/-- As many ids have a storage. -/
def Counts (table : Table) (total : Nat) : Prop :=
  ∃ ids : List StorageId, ids.Nodup ∧ (∀ id, id ∈ ids ↔ table.contents id ≠ none) ∧
    ids.length = total

theorem Sound.counts (sound : table.Sound) : table.Counts table.rows.length := by
  refine ⟨table.storages.map (·.id),sound.ids,fun id => ?_,by simp [storages]⟩
  rw [ne_eq,sound.contents_eq_none_iff,List.mem_map]
  push Not
  rfl

/-- Each storage has its own id and its own path. -/
structure Unique (table : Table) : Prop where
  ids : ∀ id row, table.contents id = some row → row.id = id
  paths : ∀ first second one two, table.contents first = some one →
    table.contents second = some two → one.mountPath = two.mountPath → first = second

theorem Sound.unique (sound : table.Sound) : table.Unique where
  ids _ _ kept := (sound.contents_eq_some_iff.mp kept).2
  paths first second one two kept stays same := by
    obtain ⟨inside,rfl⟩ := sound.contents_eq_some_iff.mp kept
    obtain ⟨within,rfl⟩ := sound.contents_eq_some_iff.mp stays
    rw [sound.eq_of_path inside within same]

/-- Storages in listing order, no two of which are in the same place. -/
def Ordered (rows : List Storage) : Prop :=
  rows.Pairwise fun first second =>
    first.index < second.index ∨ first.index = second.index ∧ first.id.raw < second.id.raw

/-- Ids that are handed out are below the sign, and mean the same inside of the rows as
outside of them. -/
theorem Sound.toInt_id {row : Row} (sound : table.Sound) (member : row ∈ table.rows) :
    row.id.toInt = row.storage.id.raw.toNat := by
  have bounds := sound.handedOut row.storage (List.mem_map_of_mem member)
  have limit := sound.limit
  have number := toInt_toInt64 row.storage.id.raw
  rwa [if_pos (by omega),show row.storage.id.raw.toInt64 = row.id by simp [Row.storage]] at number

theorem Sound.ordered_shown (sound : table.Sound) : Ordered table.shown := by
  have distinct : table.listed.Pairwise fun first second =>
      first.storage.id ≠ second.storage.id := by
    have ids : (table.shown.map (·.id)).Nodup := by
      have same : table.shown.Perm table.storages := (List.mergeSort_perm _ _).map _
      exact (same.map _).nodup_iff.mpr sound.ids
    rw [shown,List.map_map] at ids
    exact List.pairwise_map.mp ids
  rw [Ordered,shown,List.pairwise_map]
  refine (table.pairwise_listed.and distinct).imp_of_mem ?_
  rintro first second inside within ⟨before | ⟨same,up⟩,differ⟩
  · exact .inl before
  · have one := sound.toInt_id (List.mem_mergeSort.mp inside)
    have two := sound.toInt_id (List.mem_mergeSort.mp within)
    have apart : first.storage.id.raw.toNat ≠ second.storage.id.raw.toNat := by
      intro equal
      exact differ (congrArg StorageId.mk (UInt64.toNat_inj.mp equal))
    rw [Int64.le_iff_toInt_le,one,two] at up
    exact .inr ⟨same,UInt64.lt_iff_toNat_lt.mpr (by omega)⟩

theorem Sound.nodup_shown (sound : table.Sound) : table.shown.Nodup := by
  refine sound.ordered_shown.imp ?_
  rintro first second before rfl
  rcases before with less | ⟨_,less⟩
  · exact Int32.lt_irrefl less
  · exact UInt64.lt_irrefl _ less

end MountHub.Table
