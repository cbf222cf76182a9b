import MountHub.Table.Page
import Mathlib.Data.List.Nodup

/-! The table as a list of storages. Each call that succeeds is one change of that
list, and no change makes two storages share an id or a mount path. -/
namespace MountHub

theorem Row.storage_id_eq_iff {row : Row} {id : StorageId} : row.storage.id = id ↔ row.id = id.key := by
  obtain ⟨raw⟩ := id
  simp only [Row.storage,StorageId.key,StorageId.mk.injEq]
  constructor
  · rintro rfl
    simp
  · intro same
    simp [same]

namespace Table

variable {table changed : Table} {storage : Storage} {id : StorageId}

/-- The rows as storages, in the order in which they were added. -/
def storages (table : Table) : List Storage := table.rows.map Row.storage

/-- Ids are handed out once and not beyond the last; no two rows share an id or a path. -/
structure Sound (table : Table) : Prop where
  ids : (table.storages.map (·.id)).Nodup
  paths : (table.storages.map (·.mountPath)).Nodup
  handedOut : ∀ storage ∈ table.storages,
    0 < storage.id.raw.toNat ∧ storage.id.raw.toNat ≤ table.lastId
  limit : table.lastId < idLimit

theorem sound_empty (name : String) : Sound { name } := by
  constructor <;> simp [storages,idLimit]

theorem Sound.eq_of_id (sound : table.Sound) {first second : Storage}
    (one : first ∈ table.storages) (two : second ∈ table.storages) (same : first.id = second.id) :
    first = second :=
  List.inj_on_of_nodup_map sound.ids one two same

theorem Sound.eq_of_path (sound : table.Sound) {first second : Storage}
    (one : first ∈ table.storages) (two : second ∈ table.storages)
    (same : first.mountPath = second.mountPath) : first = second :=
  List.inj_on_of_nodup_map sound.paths one two same

theorem mem_of_get_eq_ok (found : table.get id = .ok storage) :
    storage ∈ table.storages ∧ storage.id = id := by
  unfold get at found
  split at found
  · rename_i row hit
    obtain rfl := Except.ok.inj found
    have key : row.id = id.key := by simpa using List.find?_some hit
    exact ⟨List.mem_map_of_mem (List.mem_of_find?_eq_some hit),Row.storage_id_eq_iff.mpr key⟩
  · contradiction

/-- Every row is found by its id. -/
theorem Sound.get_of_mem (sound : table.Sound) (member : storage ∈ table.storages) :
    table.get storage.id = .ok storage := by
  cases found : table.get storage.id with
  | ok other =>
    obtain ⟨inside,same⟩ := mem_of_get_eq_ok found
    rw [sound.eq_of_id inside member same]
  | error cause =>
    obtain ⟨row,inside,rfl⟩ := List.mem_map.mp member
    unfold get at found
    split at found
    · cases found
    · rename_i missing
      have differs := List.find?_eq_none.mp missing row inside
      exact absurd (Row.storage_id_eq_iff.mp rfl) (by simpa using differs)

theorem exists_row_of_find? (found : ¬ (table.find? id).isNone) :
    ∃ storage ∈ table.storages, storage.id = id := by
  obtain ⟨row,hit⟩ := Option.ne_none_iff_exists'.mp (by simpa using found)
  have key : row.id = id.key := by simpa using List.find?_some hit
  exact ⟨row.storage,List.mem_map_of_mem (List.mem_of_find?_eq_some hit),
    Row.storage_id_eq_iff.mpr key⟩

theorem create_eq_ok (created : table.create storage = .ok (id,changed)) :
    id.raw.toNat = table.lastId + 1 ∧ table.lastId + 1 < idLimit ∧
      (∀ other ∈ table.storages, other.mountPath ≠ storage.mountPath) ∧
      changed.storages = table.storages ++ [{ storage with id }] ∧
      changed.lastId = table.lastId + 1 := by
  unfold create at created
  split at created
  · rename_i room
    split at created
    · contradiction
    · rename_i free
      obtain ⟨rfl,rfl⟩ := Prod.mk.inj (Except.ok.inj created)
      refine ⟨?_,room,?_,by simp [storages],rfl⟩
      · have bound : table.lastId + 1 < 9223372036854775808 := room
        simp only [Int64.toUInt64_ofNat']
        simp
        omega
      · intro other member same
        obtain ⟨row,inside,rfl⟩ := List.mem_map.mp member
        exact free (List.any_eq_true.mpr ⟨row,inside,beq_iff_eq.mpr same⟩)
  · contradiction

theorem takenByOther_iff {mountPath : String} : table.takenByOther id mountPath = true ↔
    ∃ other ∈ table.storages, other.id ≠ id ∧ other.mountPath = mountPath := by
  have kept (row : Row) : row.storage.mountPath = row.mountPath := rfl
  simp [takenByOther,storages,Row.storage_id_eq_iff,kept]

theorem update_eq_ok (updated : table.update storage = .ok changed) :
    (∃ old ∈ table.storages, old.id = storage.id) ∧
      (∀ other ∈ table.storages, other.id ≠ storage.id → other.mountPath ≠ storage.mountPath) ∧
      changed.storages =
        (table.storages.map fun other => if other.id = storage.id then storage else other) ∧
      changed.lastId = table.lastId := by
  unfold update at updated
  split at updated
  · contradiction
  · rename_i found
    split at updated
    · contradiction
    · rename_i free
      obtain rfl := Except.ok.inj updated
      refine ⟨exists_row_of_find? found,?_,?_,rfl⟩
      · intro other member different same
        exact free (takenByOther_iff.mpr ⟨other,member,different,same⟩)
      · simp only [storages,List.map_map]
        apply List.map_congr_left
        intro row _
        simp only [Function.comp_apply,Row.storage_id_eq_iff,beq_iff_eq]
        split
        · rename_i key
          simp [key,StorageId.key]
        · rfl

theorem delete_eq_ok (deleted : table.delete id = .ok changed) :
    (∃ old ∈ table.storages, old.id = id) ∧
      changed.storages = (table.storages.filter fun other => other.id ≠ id) ∧
      changed.lastId = table.lastId := by
  unfold delete at deleted
  split at deleted
  · contradiction
  · rename_i found
    obtain rfl := Except.ok.inj deleted
    refine ⟨exists_row_of_find? found,?_,rfl⟩
    simp only [storages,List.filter_map]
    congr 1
    apply List.filter_congr
    intro row _
    rw [Bool.eq_iff_iff]
    simp [Row.storage_id_eq_iff]

/-- A path that a row has is refused, as long as there are ids left. -/
theorem create_of_taken {row : Storage} (member : row ∈ table.storages)
    (taken : row.mountPath = storage.mountPath) :
    table.create storage = .error (if table.lastId + 1 < idLimit then .pathTaken table.name
      else .database "database or disk is full") := by
  obtain ⟨stored,inside,rfl⟩ := List.mem_map.mp member
  have present : (table.rows.any fun row => row.mountPath == storage.mountPath) = true :=
    List.any_eq_true.mpr ⟨stored,inside,beq_iff_eq.mpr taken⟩
  rw [create,if_pos present]
  split_ifs <;> rfl

theorem create_ne_pathTaken {name : String}
    (free : ∀ other ∈ table.storages, other.mountPath ≠ storage.mountPath) :
    table.create storage ≠ .error (.pathTaken name) := by
  unfold create
  split_ifs with room present
  · obtain ⟨row,inside,same⟩ := List.any_eq_true.mp present
    exact absurd (beq_iff_eq.mp same) (free row.storage (List.mem_map_of_mem inside))
  · nofun
  · nofun

/-- A row that is found takes any storage whose path no other row has. -/
theorem update_of_free {old : Storage} (found : table.get storage.id = .ok old)
    (free : ∀ other ∈ table.storages, other.id ≠ storage.id →
      other.mountPath ≠ storage.mountPath) :
    ∃ changed, table.update storage = .ok changed := by
  unfold get at found
  split at found
  · rename_i row hit
    have unclaimed : ¬ (table.takenByOther storage.id storage.mountPath = true) := by
      intro taken
      obtain ⟨other,member,different,same⟩ := takenByOther_iff.mp taken
      exact free other member different same
    exact ⟨_,by rw [update,hit,if_neg (by simp),if_neg unclaimed]⟩
  · cases found

/-- A row that is found does not take the path of another one. -/
theorem update_of_taken {old row : Storage} (found : table.get storage.id = .ok old)
    (member : row ∈ table.storages) (different : row.id ≠ storage.id)
    (taken : row.mountPath = storage.mountPath) :
    table.update storage = .error (.pathTaken table.name) := by
  unfold get at found
  split at found
  · rename_i stored hit
    rw [update,hit,if_neg (by simp),
      if_pos (takenByOther_iff.mpr ⟨row,member,different,taken⟩)]
  · cases found

/-- A row that is found can be deleted. -/
theorem delete_of_get (found : table.get id = .ok storage) : ∃ changed, table.delete id = .ok changed := by
  unfold get at found
  split at found
  · rename_i row hit
    exact ⟨_,by rw [delete,hit]; rfl⟩
  · cases found

theorem mem_update (updated : table.update storage = .ok changed) {other : Storage} :
    other ∈ changed.storages ↔
      other = storage ∨ other ∈ table.storages ∧ other.id ≠ storage.id := by
  obtain ⟨⟨old,present,key⟩,_,rows,_⟩ := update_eq_ok updated
  rw [rows,List.mem_map]
  constructor
  · rintro ⟨before,inside,rfl⟩
    split_ifs with same
    · exact .inl rfl
    · exact .inr ⟨inside,same⟩
  · rintro (rfl | ⟨inside,different⟩)
    · exact ⟨old,present,if_pos key⟩
    · exact ⟨other,inside,if_neg different⟩

theorem mem_create (created : table.create storage = .ok (id,changed)) {other : Storage} :
    other ∈ changed.storages ↔ other ∈ table.storages ∨ other = { storage with id } := by
  rw [(create_eq_ok created).2.2.2.1,List.mem_append,List.mem_singleton]

theorem mem_delete (deleted : table.delete id = .ok changed) {other : Storage} :
    other ∈ changed.storages ↔ other ∈ table.storages ∧ other.id ≠ id := by
  rw [(delete_eq_ok deleted).2.1,List.mem_filter,decide_eq_true_iff]

theorem Sound.create (sound : table.Sound) (created : table.create storage = .ok (id,changed)) :
    changed.Sound := by
  obtain ⟨next,room,free,rows,last⟩ := create_eq_ok created
  refine ⟨?_,?_,?_,by omega⟩
  · rw [rows,List.map_append,List.map_singleton,List.nodup_append]
    refine ⟨sound.ids,by simp,?_⟩
    intro before member fresh single same
    obtain ⟨other,inside,rfl⟩ := List.mem_map.mp member
    rw [List.mem_singleton.mp single] at same
    have bound := (sound.handedOut other inside).2
    rw [same] at bound
    simp only at bound
    omega
  · rw [rows,List.map_append,List.map_singleton,List.nodup_append]
    refine ⟨sound.paths,by simp,?_⟩
    intro before member fresh single same
    obtain ⟨other,inside,rfl⟩ := List.mem_map.mp member
    exact free other inside (same.trans (List.mem_singleton.mp single))
  · intro other member
    rw [last]
    rcases (mem_create created).mp member with before | rfl
    · have bounds := sound.handedOut other before
      omega
    · simp only
      omega

theorem Sound.update (sound : table.Sound) (updated : table.update storage = .ok changed) :
    changed.Sound := by
  obtain ⟨⟨old,present,key⟩,free,rows,last⟩ := update_eq_ok updated
  have ids : changed.storages.map (·.id) = table.storages.map (·.id) := by
    rw [rows,List.map_map]
    apply List.map_congr_left
    intro other _
    simp only [Function.comp_apply]
    split_ifs with same
    · exact same.symm
    · rfl
  have distinct : (changed.storages.map (·.id)).Nodup := ids ▸ sound.ids
  refine ⟨distinct,?_,?_,last ▸ sound.limit⟩
  · apply distinct.of_map.map_on
    intro first one second two same
    rcases (mem_update updated).mp one with rfl | ⟨oneBefore,oneOther⟩
    · rcases (mem_update updated).mp two with rfl | ⟨twoBefore,twoOther⟩
      · rfl
      · exact absurd same.symm (free second twoBefore twoOther)
    · rcases (mem_update updated).mp two with rfl | ⟨twoBefore,_⟩
      · exact absurd same (free first oneBefore oneOther)
      · exact sound.eq_of_path oneBefore twoBefore same
  · intro other member
    rw [last]
    rcases (mem_update updated).mp member with rfl | ⟨before,_⟩
    · rw [← key]
      exact sound.handedOut old present
    · exact sound.handedOut other before

theorem Sound.delete (sound : table.Sound) (deleted : table.delete id = .ok changed) :
    changed.Sound := by
  obtain ⟨_,rows,last⟩ := delete_eq_ok deleted
  have kept : changed.storages.Sublist table.storages := rows ▸ List.filter_sublist
  refine ⟨sound.ids.sublist (kept.map _),sound.paths.sublist (kept.map _),?_,last ▸ sound.limit⟩
  intro other member
  rw [last]
  exact sound.handedOut other (kept.subset member)

end Table
end MountHub
