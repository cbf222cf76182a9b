import MountHub.Proofs.Path.Standard
import MountHub.Proofs.Registry.Longest
import MountHub.Registry.Balance
import Mathlib.Data.List.Rotate

/-! Rotation over balance groups. While mounts stay as they are, the calls that reach
one group pass its members in turn, whatever other calls come between them. -/
namespace MountHub

namespace Mounted
open MountHub.Path

variable {all : List Mounted}

/-- The mounts that share a logical path, in the order of their mount paths. -/
def siblings (all : List Mounted) (logical : String) : List Mounted :=
  (all.filter fun mounted => mounted.storage.actualPath == logical).mergeSort pathBefore

theorem mem_siblings {logical : String} {mounted : Mounted} :
    mounted ∈ siblings all logical ↔ mounted ∈ all ∧ mounted.storage.actualPath = logical := by
  simp [siblings]

/-- Two texts stand for the top as a location, but only one of them is absolute. -/
theorem actualPath_eq {mounted : Mounted} (canonical : Canonical mounted.storage.mountPath) :
    mounted.storage.actualPath = if mounted.location = "" then "/" else mounted.location := by
  have filled : mounted.storage.actualPath ≠ "" := canonical.actual_ne_empty
  unfold location
  split_ifs <;> simp_all

theorem group_eq_siblings (canonical : ∀ mounted ∈ all, Canonical mounted.storage.mountPath)
    {mounted : Mounted} (member : mounted ∈ all) :
    group all mounted.location = siblings all mounted.storage.actualPath := by
  rw [group,siblings]
  congr 1
  apply List.filter_congr
  intro other inside
  rw [Bool.eq_iff_iff,beq_iff_eq,beq_iff_eq]
  constructor
  · intro same
    rw [actualPath_eq (canonical other inside),actualPath_eq (canonical mounted member),same]
  · intro same
    rw [location,location,same]

theorem resolve_eq_siblings (canonical : ∀ mounted ∈ all, Canonical mounted.storage.mountPath)
    {path : String} {mounted : Mounted} (member : mounted ∈ resolve all path) :
    resolve all path = siblings all mounted.storage.actualPath := by
  rw [resolve_eq_group member,group_eq_siblings canonical (mem_resolve.mp member).1]

end Mounted

namespace Cursors
open Mounted MountHub.Path

variable {all : List Mounted} {logical path : String}

theorem next_put (cursors : Cursors) (position size : Nat) :
    (cursors.put logical position).next logical size = (position + 1) % size := by
  simp [next,find?_put]

theorem next_lt (cursors : Cursors) {size : Nat} (positive : 0 < size) :
    cursors.next logical size < size := by
  unfold next
  split
  · exact positive
  · exact Nat.mod_lt _ positive

theorem next_eq_of_find? {first second : Cursors} (same : first.find? logical = second.find? logical)
    (size : Nat) : first.next logical size = second.next logical size := by
  rw [next,next,same]

/-- All that a call comes to. Fewer than two mounts leave no choice and take no turn. -/
theorem select_cases (cursors : Cursors) (all : List Mounted) (path : String) :
    (resolve all (standardize path)).length < 2 ∧
      cursors.select all path = ((resolve all (standardize path)).head?,cursors) ∨
    ∃ first position, (resolve all (standardize path)).head? = some first ∧
      2 ≤ (resolve all (standardize path)).length ∧
      position = cursors.next first.storage.actualPath (resolve all (standardize path)).length ∧
      cursors.select all path = ((resolve all (standardize path))[position]?,
        cursors.put first.storage.actualPath position) := by
  unfold select
  split
  · rename_i shape
    exact .inl (by simp [shape])
  · rename_i shape
    exact .inl (by simp [shape])
  · rename_i first second more shape
    rw [shape]
    exact .inr ⟨first,_,rfl,by simp,rfl,rfl⟩

theorem select_of_siblings (cursors : Cursors)
    (reached : resolve all (standardize path) = siblings all logical)
    (many : 2 ≤ (siblings all logical).length) :
    cursors.select all path =
      ((siblings all logical)[cursors.next logical (siblings all logical).length]?,
        cursors.put logical (cursors.next logical (siblings all logical).length)) := by
  rcases cursors.select_cases all path with ⟨few,_⟩ | ⟨first,_,head,_,rfl,chosen⟩
  · rw [reached] at few
    omega
  · rw [reached] at head chosen
    have shared : first.storage.actualPath = logical :=
      (mem_siblings.mp (List.mem_of_head? head)).2
    rw [chosen,shared]

theorem mem_resolve_of_select {cursors : Cursors} {mounted : Mounted}
    (chosen : (cursors.select all path).1 = some mounted) :
    mounted ∈ resolve all (standardize path) := by
  rcases cursors.select_cases all path with ⟨_,same⟩ | ⟨_,_,_,_,_,same⟩
  · rw [same] at chosen
    exact List.mem_of_head? chosen
  · rw [same] at chosen
    exact List.mem_of_getElem? chosen

/-- A path is left without a mount only if none serves it. -/
theorem select_eq_none_iff {cursors : Cursors} :
    (cursors.select all path).1 = none ↔ resolve all (standardize path) = [] := by
  rcases cursors.select_cases all path with ⟨_,same⟩ | ⟨first,position,_,many,rfl,same⟩
  · rw [same,List.head?_eq_none_iff]
  · have bound : cursors.next first.storage.actualPath _ < _ :=
      cursors.next_lt (Nat.zero_lt_of_lt many)
    rw [same,List.getElem?_eq_none_iff,← List.length_eq_zero_iff]
    omega

theorem mem_of_select {cursors : Cursors} {mounted : Mounted}
    (chosen : (cursors.select all path).1 = some mounted) : mounted ∈ all :=
  (mem_resolve.mp (mem_resolve_of_select chosen)).1

/-- A call that does not reach a group leaves its cursor alone. -/
theorem find?_select_of_ne (cursors : Cursors)
    (canonical : ∀ mounted ∈ all, Canonical mounted.storage.mountPath)
    (elsewhere : resolve all (standardize path) ≠ siblings all logical) :
    (cursors.select all path).2.find? logical = cursors.find? logical := by
  rcases cursors.select_cases all path with ⟨_,same⟩ | ⟨first,_,head,_,_,same⟩
  · rw [same]
  · rw [same,find?_put,if_neg]
    intro shared
    apply elsewhere
    rw [resolve_eq_siblings canonical (List.mem_of_head? head),shared]

/-- Calls for paths one after the other, each with the mount chosen for it. -/
def calls (all : List Mounted) : Cursors → List String → List (String × Option Mounted)
  | _,[] => []
  | cursors,path :: more =>
    let (chosen,next) := cursors.select all path
    (path,chosen) :: calls all next more

/-- What the calls choose that reach the group of a logical path. -/
def picks (all : List Mounted) (logical : String) (cursors : Cursors) (paths : List String) :
    List (Option Mounted) :=
  ((calls all cursors paths).filter fun call =>
    resolve all (standardize call.1) == siblings all logical).map (·.2)

theorem picks_cons_of_reached (cursors : Cursors) (more : List String)
    (reached : resolve all (standardize path) = siblings all logical) :
    picks all logical cursors (path :: more) =
      (cursors.select all path).1 :: picks all logical (cursors.select all path).2 more := by
  simp [picks,calls,reached]

theorem picks_cons_of_elsewhere (cursors : Cursors) (more : List String)
    (elsewhere : resolve all (standardize path) ≠ siblings all logical) :
    picks all logical cursors (path :: more) =
      picks all logical (cursors.select all path).2 more := by
  simp [picks,calls,elsewhere]

/-- The member that a group of a certain standing is to answer with after some turns. -/
def turn (members : List Mounted) (start count : Nat) : Option Mounted :=
  members[(start + count) % members.length]?

theorem picks_eq (canonical : ∀ mounted ∈ all, Canonical mounted.storage.mountPath)
    (many : 2 ≤ (siblings all logical).length) (cursors : Cursors) (paths : List String) :
    picks all logical cursors paths =
      (List.range (paths.countP fun path =>
        resolve all (standardize path) == siblings all logical)).map
          (turn (siblings all logical) (cursors.next logical (siblings all logical).length)) := by
  induction paths generalizing cursors with
  | nil => rfl
  | cons path more ih =>
    by_cases reached : resolve all (standardize path) = siblings all logical
    · have bound : cursors.next logical (siblings all logical).length <
          (siblings all logical).length := cursors.next_lt (by omega)
      rw [picks_cons_of_reached cursors more reached,select_of_siblings cursors reached many,ih,
        List.countP_cons_of_pos (by simpa using reached),List.range_succ_eq_map,List.map_cons,
        List.map_map,next_put]
      congr 1
      · rw [turn,Nat.add_zero,Nat.mod_eq_of_lt bound]
      · apply List.map_congr_left
        intro count _
        simp only [turn,Function.comp_apply,Nat.mod_add_mod]
        congr 2
        omega
    · rw [picks_cons_of_elsewhere cursors more reached,ih,
        List.countP_cons_of_neg (by simpa using reached),
        next_eq_of_find? (cursors.find?_select_of_ne canonical reached)]

theorem range_turn_perm (members : List Mounted) (start : Nat) :
    ((List.range members.length).map (turn members start)).Perm (members.map some) := by
  have rotated : (List.range members.length).map (turn members start) =
      (members.rotate start).map some := by
    apply List.ext_getElem
    · simp
    · intro i left right
      have bound : i < members.length := by simpa using left
      have position : (start + i) % members.length < members.length := Nat.mod_lt _ (by omega)
      simp [turn,List.getElem_rotate,List.getElem?_eq_getElem position,Nat.add_comm i start]
  rw [rotated]
  exact (List.rotate_perm members start).map some

/-- As many turns in a row as there are members pass each member once. -/
theorem window_turn_perm (members : List Mounted) (start : Nat) {skipped count : Nat}
    (enough : skipped + members.length ≤ count) :
    ((((List.range count).map (turn members start)).drop skipped).take members.length).Perm
      (members.map some) := by
  have shifted : (((List.range count).map (turn members start)).drop skipped).take members.length =
      (List.range members.length).map (turn members (start + skipped)) := by
    apply List.ext_getElem
    · simp only [List.length_take,List.length_drop,List.length_map,List.length_range]
      omega
    · intro i left right
      simp [turn,Nat.add_assoc]
  rw [shifted]
  exact range_turn_perm members (start + skipped)

/-- The calls that reach a group of two or more members answer with them in turn,
from the first one or from the one after the last cursor. As many of them in a row
as there are members pass each member once, and no other call disturbs the cursor. -/
theorem picks_rotate (all : List Mounted)
    (canonical : ∀ mounted ∈ all, Canonical mounted.storage.mountPath) (logical : String)
    (many : 2 ≤ (siblings all logical).length) (cursors : Cursors) (paths : List String) :
    (picks all logical cursors paths =
      (List.range (paths.countP fun path =>
        resolve all (standardize path) == siblings all logical)).map fun count =>
          (siblings all logical)[
            ((match cursors.find? logical with
              | none => 0
              | some cursor => (cursor + 1) % (siblings all logical).length) + count) %
                (siblings all logical).length]?) ∧
    (∀ skipped, skipped + (siblings all logical).length ≤ (picks all logical cursors paths).length →
      (((picks all logical cursors paths).drop skipped).take (siblings all logical).length).Perm
        ((siblings all logical).map some)) ∧
    ∀ path, resolve all (standardize path) ≠ siblings all logical →
      (cursors.select all path).2.find? logical = cursors.find? logical := by
  have rotation := picks_eq canonical many cursors paths
  refine ⟨rotation,?_,fun path elsewhere => cursors.find?_select_of_ne canonical elsewhere⟩
  intro skipped enough
  rw [rotation,List.length_map,List.length_range] at enough
  rw [rotation]
  exact window_turn_perm _ _ enough

theorem picks_rotate_stale :
    let primary : Mounted := ⟨"/g",0,{ mountPath := "/g" }⟩
    let spare : Mounted := ⟨"/g.balance",1,{ mountPath := "/g.balance" }⟩
    let all := [spare,primary]
    let stale := Cursors.empty.put "/g" 6
    (∀ mounted ∈ all, Canonical mounted.storage.mountPath) ∧ 2 ≤ (siblings all "/g").length ∧
      0 + (siblings all "/g").length ≤ (picks all "/g" stale ["/g/x","g//y/"]).length ∧
      (((picks all "/g" stale ["/g/x","g//y/"]).drop 0).take (siblings all "/g").length).Perm
        ((siblings all "/g").map some) ∧
      resolve all (standardize "/h") ≠ siblings all "/g" ∧
      (stale.select all "/h").2.find? "/g" = stale.find? "/g" := by
  intro primary spare all stale
  have canonical : ∀ mounted ∈ all, Canonical mounted.storage.mountPath := by decide
  have size : (siblings all "/g").length = 2 := by
    rw [siblings,List.length_mergeSort]
    decide
  have reached : ∀ path ∈ ["/g/x","g//y/"],
      resolve all (standardize path) = siblings all "/g" := by
    have found : ∀ path ∈ ["/g/x","g//y/"], Longest all (standardize path) primary.location := by
      decide
    have logical : primary.storage.actualPath = "/g" := by decide
    intro path member
    rw [← logical]
    exact resolve_eq_siblings canonical (mem_resolve.mpr ⟨by decide,found path member⟩)
  have elsewhere : resolve all (standardize "/h") ≠ siblings all "/g" := by
    have inside : primary ∈ siblings all "/g" := mem_siblings.mpr ⟨by decide,by decide⟩
    have outside : ¬ Longest all (standardize "/h") primary.location := by decide
    intro same
    exact outside (mem_resolve.mp (same ▸ inside)).2
  have shown := picks_rotate all canonical "/g" (by omega) stale ["/g/x","g//y/"]
  have enough : 0 + (siblings all "/g").length ≤ (picks all "/g" stale ["/g/x","g//y/"]).length := by
    rw [shown.1,List.length_map,List.length_range,
      List.countP_eq_length.mpr fun path member => beq_iff_eq.mpr (reached path member),size]
    decide
  exact ⟨canonical,by omega,enough,shown.2.1 0 enough,elsewhere,shown.2.2 "/h" elsewhere⟩

end Cursors
end MountHub
