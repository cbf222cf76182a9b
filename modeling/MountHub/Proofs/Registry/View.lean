import MountHub.Proofs.Registry.Longest
import MountHub.Registry.Children

/-! What is shown of the mounts. Neither the order of the mounts nor their drivers nor the
additions of their storages have a part in it. -/
namespace MountHub

/-- A storage without what its driver writes into it. -/
def Storage.bare (storage : Storage) : Storage := { storage with addition := "" }

namespace Storage

variable {first second third : Storage}

theorem listedBefore_iff :
    first.listedBefore second = true ↔ first.index.toInt < second.index.toInt ∨
      first.index.toInt = second.index.toInt ∧ first.mountPath ≤ second.mountPath := by
  simp [listedBefore,Int32.lt_iff_toInt_lt,Int32.toInt_inj]

theorem listedBefore_trans (one : first.listedBefore second = true)
    (two : second.listedBefore third = true) : first.listedBefore third = true := by
  rw [listedBefore_iff] at one two ⊢
  rcases one with one | ⟨one,up⟩
  · rcases two with two | ⟨two,_⟩ <;> exact .inl (by omega)
  · rcases two with two | ⟨two,further⟩
    · exact .inl (by omega)
    · exact .inr ⟨one.trans two,Std.le_trans up further⟩

theorem listedBefore_total (first second : Storage) :
    (first.listedBefore second || second.listedBefore first) = true := by
  rw [Bool.or_eq_true,listedBefore_iff,listedBefore_iff]
  rcases lt_trichotomy first.index.toInt second.index.toInt with less | same | more
  · exact .inl (.inl less)
  · rcases Std.le_total (a := first.mountPath) (b := second.mountPath) with up | down
    · exact .inl (.inr ⟨same,up⟩)
    · exact .inr (.inr ⟨same.symm,down⟩)
  · exact .inr (.inl more)

theorem listedBefore_self (storage : Storage) : storage.listedBefore storage = true := by
  simpa using listedBefore_total storage storage

/-- Only storages with one mount path come before each other. -/
theorem mountPath_eq_of_listedBefore (up : first.listedBefore second = true)
    (down : second.listedBefore first = true) : first.mountPath = second.mountPath := by
  rw [listedBefore_iff] at up down
  rcases up with up | ⟨_,up⟩
  · omega
  · rcases down with down | ⟨_,down⟩
    · omega
    · exact Std.le_antisymm up down

/-- What is sorted by the storages that it holds is in their listing order. -/
theorem pairwise_sorted {α : Type} (held : α → Storage) (items : List α) :
    (items.mergeSort fun first second => (held first).listedBefore (held second)).Pairwise
      fun first second => (held first).listedBefore (held second) = true := by
  apply List.pairwise_mergeSort
  · intro first second third
    exact listedBefore_trans
  · intro first second
    exact listedBefore_total _ _

/-- Where the mount paths differ there is one listing order. -/
theorem eq_of_perm {α : Type} (held : α → Storage) {items others : List α}
    (same : items.Perm others) (distinct : (items.map fun item => (held item).mountPath).Nodup)
    (ordered : items.Pairwise fun first second => (held first).listedBefore (held second) = true)
    (again : others.Pairwise fun first second => (held first).listedBefore (held second) = true) :
    items = others := by
  apply List.Perm.eq_of_pairwise _ ordered again same
  intro one other oneMember otherMember up down
  exact List.inj_on_of_nodup_map distinct oneMember (same.mem_iff.mpr otherMember)
    (mountPath_eq_of_listedBefore up down)

end Storage

namespace Mounted

variable {first second all : List Mounted}

/-- A mount without its driver and what that writes. -/
def bare (mounted : Mounted) : Mounted := { mounted with driver := 0, storage := mounted.storage.bare }

theorem pairwise_listed (all : List Mounted) :
    (listed all).Pairwise fun first second => first.listedBefore second = true :=
  Storage.pairwise_sorted id _

/-- Mounts with paths of their own have one listing order. -/
theorem listed_eq_of_perm (same : first.Perm second)
    (distinct : (first.map fun mounted => mounted.storage.mountPath).Nodup) :
    listed first = listed second := by
  have sorted (all : List Mounted) : (listed all).Perm (all.map (·.storage)) :=
    List.mergeSort_perm _ _
  have paths : ((listed first).map (·.mountPath)).Nodup := by
    rw [((sorted first).map _).nodup_iff,List.map_map]
    exact distinct
  exact Storage.eq_of_perm id ((sorted first).trans ((same.map _).trans (sorted second).symm)) paths
    (pairwise_listed first) (pairwise_listed second)

theorem listed_map_bare (all : List Mounted) :
    listed (all.map bare) = (listed all).map Storage.bare := by
  have storages : (all.map bare).map (·.storage) = (all.map (·.storage)).map Storage.bare := by
    rw [List.map_map,List.map_map]
    rfl
  rw [listed,listed,storages,List.map_mergeSort]
  exact fun _ _ _ _ => rfl

theorem summaries_map_bare (all : List Mounted) : summaries (all.map bare) = summaries all := by
  rw [summaries,listed_map_bare,List.map_map]
  rfl

theorem children_map_bare (all : List Mounted) (path : String) :
    children (all.map bare) path = children all path := by
  rw [children,listed_map_bare,List.filterMap_map]
  rfl

theorem resolve_map_bare (all : List Mounted) (path : String) :
    resolve (all.map bare) path = (resolve all path).map bare := by
  have longest (location : String) :
      Longest (all.map bare) path location ↔ Longest all path location := by
    rw [Longest,Longest,List.forall_mem_map]
    rfl
  rw [resolve_eq,resolve_eq,List.filter_map]
  simp only [longest]
  symm
  apply List.map_mergeSort
  exact fun _ _ _ _ => rfl

/-- Mounts that are the same but for their order, their drivers and what those write look
the same in every view. -/
theorem views_eq_of_perm (same : (first.map bare).Perm (second.map bare))
    (distinct : (first.map fun mounted => mounted.storage.mountPath).Nodup) :
    summaries first = summaries second ∧ (∀ path, children first path = children second path) ∧
      ∀ path, (resolve first path).map bare = (resolve second path).map bare := by
  have paths : ((first.map bare).map fun mounted => mounted.storage.mountPath).Nodup := by
    rw [List.map_map]
    exact distinct
  have order := listed_eq_of_perm same paths
  refine ⟨?_,?_,?_⟩
  · rw [← summaries_map_bare first,← summaries_map_bare second,summaries,summaries,order]
  · intro path
    rw [← children_map_bare first,← children_map_bare second,children,children,order]
  · intro path
    rw [← resolve_map_bare,← resolve_map_bare]
    exact (resolve_eq_of_perm same paths path).symm

end Mounted
end MountHub
