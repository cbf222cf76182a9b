import MountHub.Proofs.Registry.Browse
import MountHub.Proofs.Registry.View
import Mathlib.Data.List.Dedup

/-! Folders as branches. What lies below a path branches by the segment that comes next. One walk
in listing order that takes each name where it meets it first makes one folder for each branch, in
the order of the storages that come first on their branches. So neither the members of balance
groups nor the mounts elsewhere, nor the order of the mounts, nor the spelling of the path leave a
trace in the listing of a folder. -/
namespace MountHub
open MountHub.Path

/-- A storage below a path, and the segment that leads on to it. -/
structure Way where
  next : Segment
  storage : Storage
deriving DecidableEq

namespace Way

variable {ways others : List Way} {way other : Way} {path asked : String} {storage : Storage}
  {seen : List String}

/-- The way from a path to a storage, if the storage lies below by a segment or more. -/
def of? (path : String) (storage : Storage) : Option Way :=
  ((place path).isPrefixOf? (place storage.mountPath)).bind fun further =>
    further.head?.map (⟨·,storage⟩)

/-- By index, and by mount path where indices agree. -/
def before (first second : Way) : Bool :=
  decide (first.storage.index.toInt < second.storage.index.toInt ∨
    first.storage.index.toInt = second.storage.index.toInt ∧
      first.storage.mountPath ≤ second.storage.mountPath)

/-- The folder that a way begins with, under the time of the storage that it leads to. -/
def folder (way : Way) : Entry where
  name := String.ofList way.next
  size := 0
  modified := way.storage.modified
  isFolder := true

/-- The ways by the segments that they begin with. -/
def branches (ways : List Way) : List (List Way) :=
  (ways.map (·.next)).dedup.map fun next => ways.filter (·.next == next)

/-- The way whose storage is listed first. -/
def first? (ways : List Way) : Option Way := ways.find? fun way => ways.all way.before

/-- One folder for each branch, with the segment of the branch as its name and the time of the
storage that is listed first on it. These storages give the order of the folders. -/
def folders (ways : List Way) : List Entry :=
  (((branches ways).filterMap first?).mergeSort before).map folder

/-- No way with the same segment is listed before this one. -/
def Leads (ways : List Way) (way : Way) : Prop :=
  ∀ other ∈ ways, other.next = way.next → way.before other = true

instance (ways : List Way) (way : Way) : Decidable (Leads ways way) :=
  inferInstanceAs (Decidable (∀ other ∈ ways, _ → _))

/-- Ways to different mount paths. -/
def Distinct (ways : List Way) : Prop := (ways.map fun way => way.storage.mountPath).Nodup

theorem of?_eq_some_iff : of? path storage = some way ↔
    way.storage = storage ∧ ∃ more, place storage.mountPath = place path ++ way.next :: more := by
  obtain ⟨next,held⟩ := way
  simp only [of?,Option.bind_eq_some_iff,List.isPrefixOf?_eq_some_iff_append_eq,
    Option.map_eq_some_iff,Way.mk.injEq]
  constructor
  · rintro ⟨further,reached,segment,first,rfl,rfl⟩
    obtain ⟨more,rfl⟩ := List.head?_eq_some_iff.mp first
    exact ⟨rfl,more,reached.symm⟩
  · rintro ⟨rfl,more,reached⟩
    exact ⟨next :: more,reached.symm,next,rfl,rfl,rfl⟩

theorem before_eq :
    before = fun first second => first.storage.listedBefore second.storage := by
  funext first second
  rw [Bool.eq_iff_iff,before,decide_eq_true_iff,Storage.listedBefore_iff]

theorem before_self (way : Way) : way.before way = true := by
  rw [before_eq]
  exact Storage.listedBefore_self _

theorem mountPath_eq_of_before (up : way.before other = true) (down : other.before way = true) :
    way.storage.mountPath = other.storage.mountPath := by
  rw [before_eq] at up down
  exact Storage.mountPath_eq_of_listedBefore up down

theorem name_folder (way : Way) : way.folder.name = String.ofList way.next := rfl

theorem name_eq_iff : way.folder.name = other.folder.name ↔ way.next = other.next := by
  rw [name_folder,name_folder,← String.toList_inj,String.toList_ofList,String.toList_ofList]

theorem pairwise_sorted (ways : List Way) :
    (ways.mergeSort before).Pairwise fun first second => first.before second = true := by
  rw [before_eq]
  exact Storage.pairwise_sorted Way.storage ways

/-- Where the mount paths differ there is one order of the ways. -/
theorem Distinct.eq_of_perm (distinct : Distinct ways) (same : ways.Perm others)
    (ordered : ways.Pairwise fun first second => first.before second = true)
    (again : others.Pairwise fun first second => first.before second = true) : ways = others := by
  rw [before_eq] at ordered again
  exact Storage.eq_of_perm Way.storage same distinct ordered again

theorem before_of_first? (first : first? ways = some way) :
    way ∈ ways ∧ ∀ other ∈ ways, way.before other = true := by
  unfold first? at first
  have least := List.find?_some first
  exact ⟨List.mem_of_find?_eq_some first,List.all_eq_true.mp least⟩

theorem exists_first? (member : way ∈ ways) : ∃ first, first? ways = some first := by
  have same (other : Way) : other ∈ ways.mergeSort before ↔ other ∈ ways := List.mem_mergeSort
  have ordered := pairwise_sorted ways
  cases sorted : ways.mergeSort before with
  | nil =>
    rw [← same,sorted] at member
    cases member
  | cons least more =>
    rw [sorted] at same ordered
    rw [← Option.isSome_iff_exists,first?,List.find?_isSome]
    refine ⟨least,(same least).mp (List.mem_cons_self ..),List.all_eq_true.mpr fun other inside => ?_⟩
    rcases List.mem_cons.mp ((same other).mpr inside) with rfl | later
    · exact before_self _
    · exact (List.pairwise_cons.mp ordered).1 other later

theorem Distinct.eq_of_before (distinct : Distinct ways) (one : way ∈ ways) (two : other ∈ ways)
    (up : way.before other = true) (down : other.before way = true) : way = other :=
  List.inj_on_of_nodup_map distinct one two (mountPath_eq_of_before up down)

/-- What comes first on its branch is what leads. -/
theorem Distinct.mem_firsts_iff (distinct : Distinct ways) :
    way ∈ (branches ways).filterMap first? ↔ way ∈ ways ∧ Leads ways way := by
  simp only [branches,List.mem_filterMap,List.mem_map,List.mem_dedup,exists_exists_and_eq_and]
  constructor
  · rintro ⟨origin,_,first⟩
    obtain ⟨member,least⟩ := before_of_first? first
    obtain ⟨inside,same⟩ := List.mem_filter.mp member
    refine ⟨inside,fun other within next => least other (List.mem_filter.mpr ⟨within,?_⟩)⟩
    rw [next]
    exact same
  · rintro ⟨inside,leads⟩
    have own : way ∈ ways.filter (·.next == way.next) :=
      List.mem_filter.mpr ⟨inside,beq_self_eq_true _⟩
    obtain ⟨first,found⟩ := exists_first? own
    obtain ⟨member,least⟩ := before_of_first? found
    obtain ⟨within,same⟩ := List.mem_filter.mp member
    have only : way = first :=
      distinct.eq_of_before inside within (leads first within (beq_iff_eq.mp same)) (least way own)
    exact ⟨way,inside,only ▸ found⟩

theorem nodup_firsts (ways : List Way) : ((branches ways).filterMap first?).Nodup := by
  rw [branches,List.filterMap_map]
  refine List.Nodup.filterMap ?_ (List.nodup_dedup _)
  intro next later way one two
  have here := (List.mem_filter.mp (before_of_first? one).1).2
  have there := (List.mem_filter.mp (before_of_first? two).1).2
  exact (beq_iff_eq.mp here).symm.trans (beq_iff_eq.mp there)

/-- A walk over ways in listing order takes those that lead, but for names that it has seen. -/
theorem Distinct.firstOfName_eq (distinct : Distinct ways)
    (ordered : ways.Pairwise fun first second => first.before second = true) (seen : List String) :
    Mounted.firstOfName seen (ways.map folder) =
      (ways.filter fun way => decide (Leads ways way ∧ way.folder.name ∉ seen)).map folder := by
  induction ways generalizing seen with
  | nil => rfl
  | cons way more ih =>
    obtain ⟨first,ordered⟩ := List.pairwise_cons.mp ordered
    have rest : Distinct more := (List.nodup_cons.mp distinct).2
    -- What comes later in the walk is not listed before what came.
    have late : ∀ other ∈ more, other.before way ≠ true := by
      intro other member down
      have same := mountPath_eq_of_before (first other member) down
      exact (List.nodup_cons.mp distinct).1 (List.mem_map.mpr ⟨other,member,same.symm⟩)
    have leads : Leads (way :: more) way := by
      intro other member _
      rcases List.mem_cons.mp member with rfl | later
      · exact before_self _
      · exact first other later
    have further : ∀ other ∈ more,
        (Leads (way :: more) other ↔ Leads more other ∧ other.next ≠ way.next) := by
      intro other member
      constructor
      · intro leads
        exact ⟨fun third inside => leads third (List.mem_cons_of_mem _ inside),
          fun same => late other member (leads way (List.mem_cons_self ..) same.symm)⟩
      · rintro ⟨leads,different⟩ third inside next
        rcases List.mem_cons.mp inside with rfl | later
        · exact absurd next.symm different
        · exact leads third later next
    rw [List.map_cons,Mounted.firstOfName]
    by_cases old : way.folder.name ∈ seen
    · rw [if_pos old,List.filter_cons_of_neg (by simp [old]),ih rest ordered]
      congr 1
      apply List.filter_congr
      intro other member
      rw [decide_eq_decide,further other member,and_assoc]
      refine and_congr_right fun _ => (and_iff_right_of_imp fun fresh => ?_).symm
      exact fun same => fresh (name_eq_iff.mpr same ▸ old)
    · rw [if_neg old,List.filter_cons_of_pos (by simp [leads,old]),List.map_cons,ih rest ordered]
      congr 2
      apply List.filter_congr
      intro other member
      rw [decide_eq_decide,further other member,and_assoc,List.mem_cons,not_or,name_eq_iff]

end Way

namespace Mounted

variable {all others : List Mounted} {path asked : String} {storage : Storage} {entry : Entry}
  {way : Way}

/-- The way from a path to a storage below it that no marker tells apart. -/
def way? (path : String) (storage : Storage) : Option Way :=
  if storage.isBalance then none else Way.of? path storage

def ways (all : List Mounted) (path : String) : List Way :=
  (all.map (·.storage)).filterMap (way? path)

/-- The ways in the listing order of their storages. -/
def walk (all : List Mounted) (path : String) : List Way := (listed all).filterMap (way? path)

theorem way?_eq_some_iff : way? path storage = some way ↔ storage.isBalance = false ∧
    way.storage = storage ∧ ∃ more, place storage.mountPath = place path ++ way.next :: more := by
  rw [way?,← Way.of?_eq_some_iff]
  cases storage.isBalance <;> simp

theorem child?_eq (canonical : Canonical storage.mountPath) :
    child? (folderStart path) storage = (way? path storage).map Way.folder := by
  apply Option.ext
  intro entry
  rw [child?_eq_some_iff canonical,Option.map_eq_some_iff]
  constructor
  · rintro ⟨plain,segment,more,reached,rfl⟩
    exact ⟨⟨segment,storage⟩,way?_eq_some_iff.mpr ⟨plain,rfl,more,reached⟩,rfl⟩
  · rintro ⟨way,found,rfl⟩
    obtain ⟨plain,rfl,more,reached⟩ := way?_eq_some_iff.mp found
    exact ⟨plain,way.next,more,reached,rfl⟩

theorem children_eq_walk (canonical : ∀ mounted ∈ all, Canonical mounted.storage.mountPath)
    (path : String) : children all path = firstOfName [] ((walk all path).map Way.folder) := by
  rw [children,walk,List.map_filterMap]
  congr 1
  apply List.filterMap_congr
  intro storage member
  rw [listed,List.mem_mergeSort] at member
  obtain ⟨mounted,inside,rfl⟩ := List.mem_map.mp member
  exact child?_eq (canonical mounted inside)

theorem walk_perm (all : List Mounted) (path : String) : (walk all path).Perm (ways all path) :=
  (List.mergeSort_perm _ _).filterMap _

theorem pairwise_walk (all : List Mounted) (path : String) :
    (walk all path).Pairwise fun first second => first.before second = true := by
  rw [walk,List.pairwise_filterMap]
  refine (pairwise_listed all).imp fun {first second} up one found two further => ?_
  rw [Way.before_eq]
  beta_reduce
  rw [(way?_eq_some_iff.mp found).2.1,(way?_eq_some_iff.mp further).2.1]
  exact up

theorem distinct_ways (distinct : (all.map fun mounted => mounted.storage.mountPath).Nodup)
    (path : String) : Way.Distinct (ways all path) := by
  rw [Way.Distinct,ways,List.nodup_iff_pairwise_ne,List.pairwise_map,List.pairwise_filterMap,
    List.pairwise_map]
  refine (List.pairwise_map.mp distinct).imp fun {first second} differ one found two further => ?_
  rw [(way?_eq_some_iff.mp found).2.1,(way?_eq_some_iff.mp further).2.1]
  exact differ

theorem distinct_walk (distinct : (all.map fun mounted => mounted.storage.mountPath).Nodup)
    (path : String) : Way.Distinct (walk all path) :=
  ((walk_perm all path).map _).nodup_iff.mpr (distinct_ways distinct path)

/-- Where the ways are the same, the walks are. -/
theorem walk_eq_of_perm (distinct : (all.map fun mounted => mounted.storage.mountPath).Nodup)
    (same : (ways others asked).Perm (ways all path)) : walk others asked = walk all path :=
  ((distinct_walk distinct path).eq_of_perm
    ((walk_perm all path).trans (same.symm.trans (walk_perm others asked).symm))
    (pairwise_walk all path) (pairwise_walk others asked)).symm

theorem ways_congr (same : standardize asked = standardize path) :
    ways all asked = ways all path := by
  have places : place asked = place path := by
    rw [← place_standardize asked,same,place_standardize]
  unfold ways way? Way.of?
  rw [places]

/-- The walk takes for each name what comes first on a branch. -/
theorem children_eq_folders (canonical : ∀ mounted ∈ all, Canonical mounted.storage.mountPath)
    (distinct : (all.map fun mounted => mounted.storage.mountPath).Nodup) (path : String) :
    children all path = Way.folders (ways all path) := by
  have apart := distinct_ways distinct path
  have led : ((walk all path).filter fun way => decide (Way.Leads (walk all path) way)).Perm
      (((Way.branches (ways all path)).filterMap Way.first?).mergeSort Way.before) := by
    refine .trans ?_ (List.mergeSort_perm _ _).symm
    rw [List.perm_ext_iff_of_nodup ((distinct_walk distinct path).of_map.filter _)
      (Way.nodup_firsts _)]
    intro way
    simp only [apart.mem_firsts_iff,List.mem_filter,decide_eq_true_iff,Way.Leads,
      (walk_perm all path).mem_iff]
  have ordered : ((walk all path).filter fun way =>
      decide (Way.Leads (walk all path) way)).Pairwise
        fun first second => first.before second = true :=
    (pairwise_walk all path).filter _
  have taken := (distinct_walk distinct path).firstOfName_eq (pairwise_walk all path) []
  simp only [List.not_mem_nil,not_false_eq_true,and_true] at taken
  have least : Way.Distinct ((walk all path).filter fun way =>
      decide (Way.Leads (walk all path) way)) :=
    (distinct_walk distinct path).sublist (List.filter_sublist.map _)
  rw [children_eq_walk canonical,taken,Way.folders,
    least.eq_of_perm led ordered (Way.pairwise_sorted _)]

theorem nodup_names_firstOfName (seen : List String) (entries : List Entry) :
    ((firstOfName seen entries).map (·.name)).Nodup := by
  induction entries generalizing seen with
  | nil => exact List.nodup_nil
  | cons entry more ih =>
    rw [firstOfName]
    split_ifs with old
    · exact ih seen
    · rw [List.map_cons,List.nodup_cons,mem_names_firstOfName]
      exact ⟨fun later => later.1 (List.mem_cons_self ..),ih _⟩

/-- A listed name is a segment. -/
theorem proper_name (canonical : ∀ mounted ∈ all, Canonical mounted.storage.mountPath)
    (listed : entry ∈ children all path) : Proper entry.name.toList := by
  obtain ⟨storage,_,start⟩ := (mem_names_children canonical).mp (List.mem_map_of_mem listed)
  exact proper_of_prefix start _ (by simp)

/-- A folder is listed as its branches say: one folder for each segment that follows the path on the
way to a mount below it that no marker tells apart, with the time of the first of these mounts by
index and mount path, in the order of these first mounts. So names are segments, each listed once.
Neither the order of the mounts nor the spelling of the path has a part in it, nor do the members
of balance groups and the mounts that are not below the path: registries with the same ways from
the path list the same. -/
theorem children_by_branch (all : List Mounted)
    (canonical : ∀ mounted ∈ all, Canonical mounted.storage.mountPath)
    (distinct : (all.map fun mounted => mounted.storage.mountPath).Nodup) (path : String) :
    children all path = Way.folders (ways all path) ∧
    (∀ entry ∈ children all path, entry.name ≠ "" ∧ '/' ∉ entry.name.toList) ∧
    ((children all path).map (·.name)).Nodup ∧
    (∀ visited asked, all.Perm visited → standardize asked = standardize path →
      children visited asked = children all path) ∧
    ∀ others, (∀ mounted ∈ others, Canonical mounted.storage.mountPath) →
      (ways others path).Perm (ways all path) → children others path = children all path := by
  refine ⟨children_eq_folders canonical distinct path,?_,nodup_names_firstOfName _ _,?_,?_⟩
  · intro entry listed
    have segment := proper_name canonical listed
    refine ⟨fun none => segment.filled ?_,segment.whole⟩
    rw [none]
    rfl
  · intro visited asked same spelled
    have again : ∀ mounted ∈ visited, Canonical mounted.storage.mountPath :=
      fun mounted member => canonical mounted (same.mem_iff.mpr member)
    have met : (ways visited asked).Perm (ways all path) := by
      rw [ways_congr spelled]
      exact (same.symm.map _).filterMap _
    rw [children_eq_walk canonical,children_eq_walk again,walk_eq_of_perm distinct met]
  · intro others again met
    rw [children_eq_walk canonical,children_eq_walk again,walk_eq_of_perm distinct met]

/-- Two mounts share a folder, which has the time of the one with the lower index. -/
theorem children_by_branch_shared :
    let late : Mounted := ⟨"/s/x",0,{ mountPath := "/s/x", index := 5, modified := 100 }⟩
    let early : Mounted := ⟨"/s/y",1,{ mountPath := "/s/y", index := 1, modified := 200 }⟩
    let spare : Mounted := ⟨"/s/y.balance",2,{ mountPath := "/s/y.balance", modified := 300 }⟩
    let next : Mounted := ⟨"/sx",3,{ mountPath := "/sx", index := 3, modified := 400 }⟩
    let all := [late,spare,early,next]
    let shared : Entry := { name := "s", size := 0, modified := 200, isFolder := true }
    let single : Entry := { name := "sx", size := 0, modified := 400, isFolder := true }
    (∀ mounted ∈ all, Canonical mounted.storage.mountPath) ∧
      (all.map fun mounted => mounted.storage.mountPath).Nodup ∧
      children all "/" = [shared,single] ∧ shared.name ≠ "" ∧ standardize "x/..//" = standardize "/" ∧
      children all.reverse "x/..//" = children all "/" ∧
      children [early,late] "/s" = children all "/s" := by
  intro late early spare next all shared single
  have canonical : ∀ mounted ∈ all, Canonical mounted.storage.mountPath := by decide
  have distinct : (all.map fun mounted => mounted.storage.mountPath).Nodup := by decide
  have alike : standardize "x/..//" = standardize "/" := by decide
  obtain ⟨branches,names,_,anyhow,_⟩ := children_by_branch all canonical distinct "/"
  obtain ⟨_,_,_,_,only⟩ := children_by_branch all canonical distinct "/s"
  have firsts : (Way.branches (ways all "/")).filterMap Way.first? =
      [⟨['s'],early.storage⟩,⟨['s','x'],next.storage⟩] := by decide
  have folders : children all "/" = [shared,single] := by
    rw [branches,Way.folders,firsts,List.mergeSort_of_pairwise (by decide)]
    rfl
  refine ⟨canonical,distinct,folders,(names _ (by simp [folders])).1,alike,?_,?_⟩
  · exact anyhow all.reverse "x/..//" (List.reverse_perm all).symm alike
  · exact only [early,late] (by decide) (by decide)

end Mounted
end MountHub
