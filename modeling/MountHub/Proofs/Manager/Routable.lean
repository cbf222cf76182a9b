import MountHub.Proofs.Manager.Soundness
import MountHub.Proofs.Path.Ancestor
import MountHub.Proofs.Registry.Rotation

/-! Which mounts can be reached. A mount answers at its logical path, if that is in its one
spelling, and it comes up while as many calls are made as there are mounts in its group. If the
logical path is not in its one spelling, no path that has been standardized lies below it, and
nothing leads to the mount. -/
namespace MountHub
open Call MountHub.Path

variable {all : List Mounted} {mounted : Mounted} {path : String} {state : State}

namespace Mounted

theorem location_eq (mounted : Mounted) : mounted.location =
    if mounted.storage.actualPath = "/" then "" else mounted.storage.actualPath := rfl

/-- A mount serves its logical path, and no other location is longer. -/
theorem longest_actualPath (all : List Mounted) (mounted : Mounted) :
    Longest all mounted.storage.actualPath mounted.location := by
  rw [location_eq]
  split_ifs with top
  · rw [top]
    refine ⟨by decide,fun other _ within => ?_⟩
    rcases within with same | below
    · -- The top itself is the location of no mount.
      rw [location_eq] at same
      split_ifs at same with here
      · exact absurd same (by decide)
      · exact absurd same.symm here
    · have short := below.length_le
      simp at short
      simp [short]
  · refine ⟨.inl rfl,fun other _ within => ?_⟩
    have shorter := within.prefix.length_le
    rw [String.length_toList,String.length_toList] at shorter
    exact shorter

theorem canonical_actualPath (canonical : Canonical mounted.storage.mountPath)
    (spelled : Canonical path) (within : Within mounted.location path) :
    Canonical mounted.storage.actualPath := by
  rw [location_eq] at within
  split_ifs at within with top
  · rw [top]
    decide
  · rcases within with same | below
    · exact same ▸ spelled
    · exact spelled.of_below below canonical.actual_ne_empty

/-- A mount is found at some path in its one spelling exactly if its logical path is in its one
spelling, and then it is found there. -/
theorem mem_resolve_actualPath (member : mounted ∈ all)
    (canonical : Canonical mounted.storage.mountPath) :
    mounted ∈ resolve all (standardize mounted.storage.actualPath) ↔
      Canonical mounted.storage.actualPath := by
  constructor
  · intro found
    exact canonical_actualPath canonical (canonical_standardize _) (mem_resolve.mp found).2.1
  · intro spelled
    have same : standardize mounted.storage.actualPath = mounted.storage.actualPath := spelled
    rw [same]
    exact mem_resolve.mpr ⟨member,longest_actualPath all mounted⟩

end Mounted

namespace Cursors
open Mounted

theorem map_fst_calls (cursors : Cursors) (paths : List String) :
    (calls all cursors paths).map (·.1) = paths := by
  induction paths generalizing cursors with
  | nil => rfl
  | cons path more ih => exact congrArg (path :: ·) (ih _)

theorem mem_resolve_of_calls {cursors : Cursors} {paths : List String}
    (called : (path,some mounted) ∈ calls all cursors paths) :
    mounted ∈ resolve all (standardize path) := by
  induction paths generalizing cursors with
  | nil => cases called
  | cons asked more ih =>
    rcases List.mem_cons.mp called with first | later
    · obtain ⟨rfl,chosen⟩ := Prod.mk.inj first
      exact mem_resolve_of_select chosen.symm
    · exact ih later

/-- As many calls for one path as there are mounts for it choose each of them. -/
theorem mem_calls_replicate (canonical : ∀ mounted ∈ all, Canonical mounted.storage.mountPath)
    (found : mounted ∈ resolve all (standardize path)) (cursors : Cursors) :
    some mounted ∈ (calls all cursors
      (List.replicate (resolve all (standardize path)).length path)).map (·.2) := by
  have group := resolve_eq_siblings canonical found
  by_cases many : 2 ≤ (resolve all (standardize path)).length
  · have reached : ∀ call ∈ calls all cursors
        (List.replicate (resolve all (standardize path)).length path),
        (resolve all (standardize call.1) == siblings all mounted.storage.actualPath) = true := by
      intro call inside
      have asked : call.1 ∈ List.replicate (resolve all (standardize path)).length path :=
        map_fst_calls cursors (List.replicate _ path) ▸ List.mem_map_of_mem inside
      rw [List.eq_of_mem_replicate asked,group]
      exact beq_self_eq_true _
    have picked := picks_eq canonical (group ▸ many) cursors
      (List.replicate (resolve all (standardize path)).length path)
    rw [picks,List.filter_eq_self.mpr reached] at picked
    rw [picked,List.countP_replicate,if_pos (by simp [group]),group]
    exact (range_turn_perm _ _).mem_iff.mpr (List.mem_map_of_mem (group ▸ found))
  · obtain ⟨only,shape⟩ : ∃ only, resolve all (standardize path) = [only] := by
      have positive := List.length_pos_of_mem found
      exact List.length_eq_one_iff.mp (by omega)
    rw [shape] at found
    rw [shape,List.mem_singleton.mp found]
    simp [calls,select,shape]

end Cursors

/-- Calls that are made one after the other, over mounts that stay as they are. -/
theorem Call.run_mapM_balanced (paths : List String) (state : State) :
    ((paths.mapM balanced).run state).1 =
      (Cursors.calls state.mounted state.cursors paths).map (·.2) := by
  induction paths generalizing state with
  | nil => rfl
  | cons path more ih =>
    rw [List.mapM_cons,run_bind,run_bind,ih]
    rfl

namespace State

/-- Along every run, whatever fails on the way: a mount is found at its logical path, and chosen
within as many calls as there are mounts in its group, exactly if the logical path is in its one
spelling. If it is not, no path leads to the mount. It is, if it is the top or the last piece of it
names a step down. -/
theorem routable (name : String) (steps : List Step) {mounted : Mounted}
    (member : mounted ∈ ((start { name }).run steps).mounted) :
    let state := (start { name }).run steps
    let logical := mounted.storage.actualPath
    let path := standardize logical
    let group := state.storagesByPath path
    (mounted ∈ group ↔ Canonical logical) ∧
      (some mounted ∈ (((List.replicate group.length path).mapM balanced).run state).1 ↔
        Canonical logical) ∧
      (∀ asked, ¬ Canonical logical → mounted ∉ state.storagesByPath (standardize asked) ∧
        ((balanced asked).run state).1 ≠ some mounted) ∧
      (Canonical logical ↔ logical = "/" ∨ Proper (lastPiece logical)) := by
  intro state logical path group
  have sound : state.Sound := sound_run name steps
  have canonical : ∀ each ∈ state.mounted, Canonical each.storage.mountPath := by
    intro each inside
    obtain ⟨found,live⟩ := mem_mounted.mp inside
    rw [live]
    exact sound.canonical_live found
  have own := canonical mounted member
  have again : standardize path = path := canonical_standardize logical
  have nowhere (asked : String) (bent : ¬ Canonical logical) :
      mounted ∉ state.storagesByPath (standardize asked) := by
    intro found
    exact bent (Mounted.canonical_actualPath own (canonical_standardize asked)
      (Mounted.mem_resolve.mp found).2.1)
  refine ⟨Mounted.mem_resolve_actualPath member own,?_,fun asked bent => ⟨nowhere asked bent,?_⟩,
    own.prefix_iff (start_actual _) own.actual_ne_empty⟩
  · rw [run_mapM_balanced]
    constructor
    · intro chosen
      obtain ⟨⟨asked,_⟩,called,rfl⟩ := List.mem_map.mp chosen
      by_contra bent
      exact nowhere asked bent (Cursors.mem_resolve_of_calls called)
    · intro spelled
      have found : mounted ∈ Mounted.resolve state.mounted (standardize path) := by
        rw [again]
        exact (Mounted.mem_resolve_actualPath member own).mpr spelled
      have answers := Cursors.mem_calls_replicate canonical found state.cursors
      rw [again] at answers
      exact answers
  · intro chosen
    exact nowhere asked bent (Cursors.mem_resolve_of_select chosen)

/-- The second member of a group comes up within as many calls as there are members. -/
theorem routable_shared :
    let primary : Storage := { mountPath := "/m", driver := "memory" }
    let spare : Storage := { mountPath := "/m.balance2", driver := "memory" }
    let steps : List Step := [⟨.willing .live,.builtin,.create primary⟩,
      ⟨.willing .live,.builtin,.create spare⟩]
    let state := (start { name := "storages" }).run steps
    let mounted : Mounted := ⟨"/m.balance2",1,{ spare with id := ⟨2⟩, modified := 7 }⟩
    let path := standardize mounted.storage.actualPath
    let group := state.storagesByPath path
    state.mounted.length = 2 ∧ mounted ∈ state.mounted ∧ path = "/m" ∧ mounted ∈ group ∧
      some mounted ∈ (((List.replicate group.length path).mapM balanced).run state).1 := by
  intro primary spare steps state mounted path group
  have member : mounted ∈ state.mounted := by decide +kernel
  have spelled : Canonical mounted.storage.actualPath := by decide +kernel
  have place : path = "/m" := by decide +kernel
  have size : state.mounted.length = 2 := by decide +kernel
  have reached := routable "storages" steps member
  exact ⟨size,member,place,reached.1.mpr spelled,reached.2.1.mpr spelled⟩

/-- A marker that stands alone in its segment leaves a slash at the end of the logical path, and
nothing leads to the mount. -/
theorem unroutable :
    let state := (start { name := "storages" }).run
      [⟨.willing .live,.builtin,.create { mountPath := "/a/.balance", driver := "memory" }⟩]
    let logical := (state.driver 0).storage.actualPath
    state.registry.load "/a/.balance" = some 0 ∧ standardize logical = "/a" ∧
      state.storagesByPath "/a" = [] ∧ ((balanced logical).run state).1 = none := by
  intro state logical
  exact ⟨by decide +kernel,by decide +kernel,by decide +kernel,by decide +kernel⟩

end State
end MountHub
