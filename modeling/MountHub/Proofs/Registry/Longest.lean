import MountHub.Proofs.Path.Within
import Mathlib.Data.List.Nodup
import Mathlib.Order.Lattice

/-! Resolving a path. One walk over the mounts compares slashes only, and yet keeps
exactly the mounts at the longest location that the path lies within, in an order
that does not depend on the order of the walk. -/
namespace MountHub.Mounted
open MountHub.Path

variable {all : List Mounted} {path : String}

/-- No mount has a longer location that the path lies within. -/
def Longest (all : List Mounted) (path location : String) : Prop :=
  Within location path ∧
    ∀ other ∈ all, Within other.location path → other.location.length ≤ location.length

instance (all : List Mounted) (path location : String) : Decidable (Longest all path location) :=
  inferInstanceAs (Decidable (_ ∧ _))

def deepest (all : List Mounted) : Nat := all.foldr (fun mounted level => max mounted.depth level) 0

/-- The greatest depth among mounts, and the mounts of that depth. -/
def bottom (all : List Mounted) : Nat × List Mounted :=
  (deepest all,all.filter fun mounted => mounted.depth == deepest all)

theorem deepest_le_iff {level : Nat} : deepest all ≤ level ↔ ∀ mounted ∈ all, mounted.depth ≤ level := by
  induction all with
  | nil => simp [deepest]
  | cons first more ih =>
    rw [deepest,List.foldr_cons,Nat.max_le,List.forall_mem_cons]
    exact and_congr_right fun _ => ih

theorem depth_le_deepest {mounted : Mounted} (member : mounted ∈ all) : mounted.depth ≤ deepest all :=
  deepest_le_iff.mp le_rfl mounted member

theorem deepest_append_singleton (all : List Mounted) (mounted : Mounted) :
    deepest (all ++ [mounted]) = max (deepest all) mounted.depth := by
  apply le_antisymm
  · rw [deepest_le_iff]
    intro other member
    rcases List.mem_append.mp member with before | last
    · exact (depth_le_deepest before).trans (le_max_left _ _)
    · rw [List.mem_singleton.mp last]
      exact le_max_right _ _
  · apply max_le
    · exact deepest_le_iff.mpr fun other member => depth_le_deepest (by simp [member])
    · exact depth_le_deepest (by simp)

theorem bottom_append_singleton (serving : List Mounted) (mounted : Mounted) :
    bottom (serving ++ [mounted]) =
      if mounted.depth < deepest serving then bottom serving
      else if deepest serving < mounted.depth then (mounted.depth,[mounted])
      else (deepest serving,(bottom serving).2 ++ [mounted]) := by
  simp only [bottom,deepest_append_singleton,List.filter_append]
  rcases lt_trichotomy mounted.depth (deepest serving) with shallow | level | deep
  · rw [if_pos shallow,max_eq_left shallow.le]
    simp [shallow.ne]
  · rw [if_neg (by omega),if_neg (by omega),level,max_self]
    simp [level]
  · rw [if_neg (by omega),if_pos deep,max_eq_right deep.le]
    -- Whatever was held is shallower than the new mount.
    have replaced : serving.filter (fun other => other.depth == mounted.depth) = [] := by
      rw [List.filter_eq_nil_iff]
      intro other member
      have bound := depth_le_deepest member
      simp only [beq_iff_eq]
      omega
    simp [replaced]

/-- The loop invariant: what the walk holds is the bottom of the serving mounts that
it has passed. -/
theorem foldl_gather (path : String) (more passed : List Mounted) :
    more.foldl (gather path) (bottom (passed.filter (serves path))) =
      bottom ((passed ++ more).filter (serves path)) := by
  induction more generalizing passed with
  | nil => simp
  | cons mounted more ih =>
    have step : gather path (bottom (passed.filter (serves path))) mounted =
        bottom ((passed ++ [mounted]).filter (serves path)) := by
      cases served : mounted.serves path with
      | false => simp [gather,served]
      | true =>
        rw [List.filter_append,List.filter_cons_of_pos served,List.filter_nil,
          bottom_append_singleton]
        simp [gather,served,bottom]
    rw [List.foldl_cons,step,ih,List.append_assoc]
    rfl

theorem longest_iff_depth {mounted : Mounted} :
    Longest all path mounted.location ↔
      mounted.serves path = true ∧ deepest (all.filter (serves path)) ≤ mounted.depth := by
  rw [Longest,← liesIn_iff]
  refine and_congr_right fun served => ?_
  have within := liesIn_iff.mp served
  rw [deepest_le_iff]
  constructor
  · intro longest other member
    obtain ⟨inside,otherServed⟩ := List.mem_filter.mp member
    have otherWithin := liesIn_iff.mp otherServed
    exact (otherWithin.length_le_iff within).mp (longest other inside otherWithin)
  · intro deep other inside otherWithin
    have member : other ∈ all.filter (serves path) :=
      List.mem_filter.mpr ⟨inside,liesIn_iff.mpr otherWithin⟩
    exact (otherWithin.length_le_iff within).mpr (deep other member)

theorem bottom_serving (path : String) (all : List Mounted) :
    (bottom (all.filter (serves path))).2 =
      all.filter fun mounted => decide (Longest all path mounted.location) := by
  rw [bottom,List.filter_filter]
  apply List.filter_congr
  intro mounted member
  rw [Bool.eq_iff_iff,Bool.and_eq_true,beq_iff_eq,decide_eq_true_iff,longest_iff_depth,and_comm]
  refine and_congr_right fun served => ?_
  have bound := depth_le_deepest (List.mem_filter.mpr ⟨member,served⟩)
  omega

theorem resolve_eq (all : List Mounted) (path : String) :
    resolve all path = (all.filter fun mounted =>
      decide (Longest all path mounted.location)).mergeSort pathBefore := by
  rw [← bottom_serving,resolve]
  exact congrArg (fun found => found.2.mergeSort pathBefore) (foldl_gather path all [])

theorem mem_resolve {mounted : Mounted} :
    mounted ∈ resolve all path ↔ mounted ∈ all ∧ Longest all path mounted.location := by
  rw [resolve_eq,List.mem_mergeSort,List.mem_filter,decide_eq_true_iff]

theorem Longest.eq {first second : String} (one : Longest all path first)
    (two : Longest all path second) (firstOf : ∃ mounted ∈ all, mounted.location = first)
    (secondOf : ∃ mounted ∈ all, mounted.location = second) : first = second := by
  obtain ⟨mounted,member,rfl⟩ := firstOf
  obtain ⟨other,otherMember,rfl⟩ := secondOf
  have up := two.2 mounted member one.1
  have down := one.2 other otherMember two.1
  exact one.1.eq_of_depth_eq two.1
    (le_antisymm ((one.1.length_le_iff two.1).mp up) ((two.1.length_le_iff one.1).mp down))

/-- The mounts at one location, in the order of their mount paths. -/
def group (all : List Mounted) (location : String) : List Mounted :=
  (all.filter fun mounted => mounted.location == location).mergeSort pathBefore

/-- A path that resolves at all resolves to one whole group. -/
theorem resolve_eq_group {mounted : Mounted} (member : mounted ∈ resolve all path) :
    resolve all path = group all mounted.location := by
  obtain ⟨inside,longest⟩ := mem_resolve.mp member
  rw [resolve_eq,group]
  congr 1
  apply List.filter_congr
  intro other otherInside
  rw [Bool.eq_iff_iff,beq_iff_eq,decide_eq_true_iff]
  constructor
  · exact fun otherLongest => otherLongest.eq longest ⟨other,otherInside,rfl⟩ ⟨mounted,inside,rfl⟩
  · intro same
    rw [same]
    exact longest

theorem pairwise_mergeSort_pathBefore (all : List Mounted) :
    (all.mergeSort pathBefore).Pairwise
      fun first second => first.storage.mountPath ≤ second.storage.mountPath := by
  have sorted : (all.mergeSort pathBefore).Pairwise (pathBefore · ·) := List.pairwise_mergeSort
    (fun first second third one two => by
      simp only [pathBefore,decide_eq_true_eq] at one two ⊢
      exact Std.le_trans one two)
    (fun first second => by
      simp only [pathBefore,Bool.or_eq_true,decide_eq_true_eq]
      exact Std.le_total) all
  exact sorted.imp fun ordered => by simpa [pathBefore] using ordered

/-- Mounts with paths of their own have one order. -/
theorem mergeSort_pathBefore_eq {first second : List Mounted} (same : first.Perm second)
    (distinct : (first.map fun mounted => mounted.storage.mountPath).Nodup) :
    first.mergeSort pathBefore = second.mergeSort pathBefore := by
  apply List.Perm.eq_of_pairwise _ (pairwise_mergeSort_pathBefore first)
    (pairwise_mergeSort_pathBefore second)
    (((first.mergeSort_perm _).trans same).trans (second.mergeSort_perm _).symm)
  intro one other oneMember otherMember up down
  rw [List.mem_mergeSort] at oneMember otherMember
  exact List.inj_on_of_nodup_map distinct oneMember (same.mem_iff.mpr otherMember)
    (Std.le_antisymm up down)

theorem resolve_eq_of_perm {first second : List Mounted} (same : first.Perm second)
    (distinct : (first.map fun mounted => mounted.storage.mountPath).Nodup) (path : String) :
    resolve second path = resolve first path := by
  have longest (location : String) : Longest second path location ↔ Longest first path location := by
    simp only [Longest,same.mem_iff]
  rw [resolve_eq,resolve_eq]
  simp only [longest]
  exact (mergeSort_pathBefore_eq (same.filter _)
    (distinct.sublist (List.filter_sublist.map _))).symm

/-- Only mounts that serve a path have a part in resolving it. -/
theorem resolve_filter_serves (all : List Mounted) (path : String) :
    resolve (all.filter (serves path)) path = resolve all path := by
  have longest (location : String) :
      Longest (all.filter (serves path)) path location ↔ Longest all path location := by
    refine and_congr_right fun _ => forall_congr' fun other => ?_
    rw [List.mem_filter,serves,liesIn_iff]
    exact ⟨fun bound inside within => bound ⟨inside,within⟩ within,
      fun bound member within => bound member.1 within⟩
  rw [resolve_eq,resolve_eq,List.filter_filter]
  congr 1
  apply List.filter_congr
  intro mounted _
  rw [Bool.eq_iff_iff,Bool.and_eq_true,decide_eq_true_iff,decide_eq_true_iff,longest,serves,
    liesIn_iff]
  exact and_iff_left_of_imp fun found => found.1

/-- Where the same mounts serve a path, it resolves to the same. -/
theorem resolve_congr {first second : List Mounted} (one : first.Nodup) (two : second.Nodup)
    (distinct : (first.map fun mounted => mounted.storage.mountPath).Nodup)
    (same : ∀ mounted, Within mounted.location path → (mounted ∈ first ↔ mounted ∈ second)) :
    resolve second path = resolve first path := by
  rw [← resolve_filter_serves first,← resolve_filter_serves second]
  refine resolve_eq_of_perm ?_ (distinct.sublist (List.filter_sublist.map _)) path
  rw [List.perm_ext_iff_of_nodup (one.filter _) (two.filter _)]
  intro mounted
  rw [List.mem_filter,List.mem_filter,serves,liesIn_iff]
  exact and_congr_left fun within => same mounted within

end MountHub.Mounted
