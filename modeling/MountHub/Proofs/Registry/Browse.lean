import MountHub.Proofs.Manager.Routable
import MountHub.Proofs.Path.Place

/-! Browsing. A name is listed in a folder exactly if a mount outside of balance groups lies at
that name or below it. So descending from the top through the names that are listed comes to the
folders on the way to such mounts and to the mounts themselves, to nothing else, and to an end. -/
namespace MountHub.Mounted
open MountHub.Path

variable {all : List Mounted} {path name : String} {entry : Entry} {storage : Storage}

theorem after?_folderStart_iff (canonical : Canonical storage.mountPath) {rest : List Char}
    (filled : rest ≠ []) : after? (folderStart path) storage.mountPath = some rest ↔
      ∃ segment more, place storage.mountPath = place path ++ segment :: more ∧
        rest = segment ++ more.flatMap fun piece => '/' :: piece := by
  have start : (folderStart path).toList =
      ((place path).flatMap fun piece => '/' :: piece) ++ ['/'] := by
    rw [← place_standardize path]
    exact (canonical_standardize path).toList_folder
  rw [after?_eq_some_iff,start,List.append_assoc,eq_comm]
  exact canonical.append_slash_iff (proper_place path) filled

/-- A path that begins with another one has more bytes exactly if something follows. -/
theorem utf8ByteSize_le_iff_of_after? {start : String} {rest : List Char}
    (found : after? start path = some rest) :
    path.utf8ByteSize ≤ start.utf8ByteSize ↔ rest = [] := by
  have split : path = start ++ String.ofList rest := by
    apply String.toList_injective
    rw [String.toList_append,String.toList_ofList]
    exact (after?_eq_some_iff.mp found).symm
  have none : (String.ofList rest).utf8ByteSize = 0 ↔ rest = [] := by
    rw [String.utf8ByteSize_eq_zero_iff,← String.toList_inj]
    simp
  rw [← none,split,String.utf8ByteSize_append]
  omega

theorem takeWhile_segment {segment : Segment} (whole : '/' ∉ segment) (more : List Segment) :
    (segment ++ more.flatMap fun piece => '/' :: piece).takeWhile (· ≠ '/') = segment := by
  rw [List.takeWhile_append_of_pos]
  · cases more <;> simp
  · intro c member
    have different : c ≠ '/' := fun slash => whole (slash ▸ member)
    simpa using different

/-- A storage implies a folder exactly if it is no member of a balance group and lies below. -/
theorem child?_eq_some_iff (canonical : Canonical storage.mountPath) :
    child? (folderStart path) storage = some entry ↔
      storage.isBalance = false ∧ ∃ segment more,
        place storage.mountPath = place path ++ segment :: more ∧
          entry = Entry.folder (String.ofList segment) storage.modified := by
  have whole {segment : Segment} {more : List Segment}
      (reached : place storage.mountPath = place path ++ segment :: more) : '/' ∉ segment :=
    (proper_place storage.mountPath segment (by simp [reached])).whole
  unfold child?
  cases marked : storage.isBalance with
  | true => simp
  | false =>
    rw [Bool.false_or]
    constructor
    · intro implied
      split at implied
      · cases implied
      · rename_i longer
        obtain ⟨rest,found,rfl⟩ := Option.map_eq_some_iff.mp implied
        rw [decide_eq_true_iff,utf8ByteSize_le_iff_of_after? found] at longer
        obtain ⟨segment,more,reached,rfl⟩ := (after?_folderStart_iff canonical longer).mp found
        exact ⟨rfl,segment,more,reached,by rw [takeWhile_segment (whole reached)]⟩
    · rintro ⟨_,segment,more,reached,rfl⟩
      have filled : segment ++ (more.flatMap fun piece => '/' :: piece) ≠ [] := by
        have some := (proper_place storage.mountPath segment (by simp [reached])).filled
        exact fun none => some (List.append_eq_nil_iff.mp none).1
      have found := (after?_folderStart_iff canonical filled).mpr ⟨segment,more,reached,rfl⟩
      rw [if_neg,found,Option.map_some,takeWhile_segment (whole reached)]
      rw [decide_eq_true_iff,utf8ByteSize_le_iff_of_after? found]
      exact filled

/-- Each name that entries have stays with one of them, but for those that have been seen. -/
theorem mem_names_firstOfName (seen : List String) (entries : List Entry) :
    name ∈ (firstOfName seen entries).map (·.name) ↔
      name ∉ seen ∧ name ∈ entries.map (·.name) := by
  induction entries generalizing seen with
  | nil => simp [firstOfName]
  | cons entry more ih =>
    rw [firstOfName]
    split_ifs with old
    · rw [ih,List.map_cons,List.mem_cons]
      refine and_congr_right fun fresh => ?_
      have different : name ≠ entry.name := fun same => fresh (same ▸ old)
      simp [different]
    · rw [List.map_cons,List.mem_cons,ih,List.map_cons,List.mem_cons,List.mem_cons]
      by_cases same : name = entry.name
      · simp [same,old]
      · simp [same]

/-- The storages of the mounts that are not told apart by a marker. -/
def primaries (all : List Mounted) : List Storage :=
  (all.map (·.storage)).filter fun storage => !storage.isBalance

theorem mem_primaries : storage ∈ primaries all ↔
    ∃ mounted ∈ all, mounted.storage = storage ∧ storage.isBalance = false := by
  rw [primaries,List.mem_filter,List.mem_map,Bool.not_eq_true']
  constructor
  · rintro ⟨⟨mounted,member,rfl⟩,plain⟩
    exact ⟨mounted,member,rfl,plain⟩
  · rintro ⟨mounted,member,rfl,plain⟩
    exact ⟨⟨mounted,member,rfl⟩,plain⟩

/-- Names are listed for the primaries that lie at them or below. -/
theorem mem_names_children (canonical : ∀ mounted ∈ all, Canonical mounted.storage.mountPath) :
    name ∈ (children all path).map (·.name) ↔
      ∃ storage ∈ primaries all, place path ++ [name.toList] <+: place storage.mountPath := by
  rw [children,mem_names_firstOfName]
  simp only [List.not_mem_nil,not_false_eq_true,true_and,List.mem_map,List.mem_filterMap,listed,
    List.mem_mergeSort]
  constructor
  · rintro ⟨entry,⟨_,⟨mounted,member,rfl⟩,implied⟩,rfl⟩
    obtain ⟨plain,segment,more,reached,rfl⟩ :=
      (child?_eq_some_iff (canonical mounted member)).mp implied
    refine ⟨mounted.storage,mem_primaries.mpr ⟨mounted,member,rfl,plain⟩,more,?_⟩
    simp [reached,Entry.folder]
  · rintro ⟨storage,member,more,reached⟩
    obtain ⟨mounted,inside,rfl,plain⟩ := mem_primaries.mp member
    refine ⟨Entry.folder name mounted.storage.modified,⟨mounted.storage,⟨mounted,inside,rfl⟩,?_⟩,rfl⟩
    rw [child?_eq_some_iff (canonical mounted inside)]
    exact ⟨plain,name.toList,more,by simp [← reached],by rw [String.ofList_toList]⟩

theorem children_ne_nil_iff (canonical : ∀ mounted ∈ all, Canonical mounted.storage.mountPath) :
    children all path ≠ [] ↔ ∃ storage ∈ primaries all, ∃ segment,
      place path ++ [segment] <+: place storage.mountPath := by
  constructor
  · intro filled
    obtain ⟨entry,member⟩ := List.exists_mem_of_ne_nil _ filled
    obtain ⟨storage,inside,further⟩ :=
      (mem_names_children canonical).mp (List.mem_map_of_mem member)
    exact ⟨storage,inside,_,further⟩
  · rintro ⟨storage,inside,segment,further⟩ none
    have listed : String.ofList segment ∈ (children all path).map (·.name) :=
      (mem_names_children canonical).mpr ⟨storage,inside,by rwa [String.toList_ofList]⟩
    rw [none] at listed
    cases listed

/-- A name is listed for a primary at its path, or for one further below. -/
theorem mem_names_children_iff (canonical : ∀ mounted ∈ all, Canonical mounted.storage.mountPath)
    (spelled : Canonical path) (proper : Proper name.toList) :
    name ∈ (children all path).map (·.name) ↔
      (∃ storage ∈ primaries all, storage.mountPath = below path name) ∨
        children all (below path name) ≠ [] := by
  rw [mem_names_children canonical,children_ne_nil_iff canonical,spelled.place_below proper]
  constructor
  · rintro ⟨storage,member,more,reached⟩
    cases more with
    | nil =>
      obtain ⟨mounted,inside,rfl,_⟩ := mem_primaries.mp member
      refine .inl ⟨_,member,?_⟩
      rw [← (canonical mounted inside).ofPlace_place,spelled.below_eq,← reached,List.append_nil]
    | cons segment others =>
      exact .inr ⟨storage,member,segment,others,by simp [← reached]⟩
  · rintro (⟨storage,member,here⟩ | ⟨storage,member,segment,further⟩)
    · refine ⟨storage,member,?_⟩
      rw [here,spelled.place_below proper]
    · exact ⟨storage,member,(List.prefix_append _ _).trans further⟩

/-- Descending from the top, by one listed name after the other. -/
inductive Descends (all : List Mounted) : List String → String → Prop
  | top : Descends all [] "/"
  | down {names : List String} {path : String} {entry : Entry} (above : Descends all names path)
      (listed : entry ∈ children all path) :
      Descends all (names ++ [entry.name]) (below path entry.name)

theorem proper_of_prefix {segments : List Segment} (start : segments <+: place path) :
    ∀ segment ∈ segments, Proper segment :=
  fun segment member => proper_place path segment (start.subset member)

/-- The names of a descent are the place that it comes to, on the way to a primary. -/
theorem descends_iff (canonical : ∀ mounted ∈ all, Canonical mounted.storage.mountPath)
    (names : List String) : Descends all names path ↔
      path = ofPlace (names.map String.toList) ∧ (names = [] ∨
        ∃ storage ∈ primaries all, names.map String.toList <+: place storage.mountPath) := by
  have proper {names : List String} (towards : names = [] ∨
      ∃ storage ∈ primaries all, names.map String.toList <+: place storage.mountPath) :
      ∀ segment ∈ names.map String.toList, Proper segment := by
    rcases towards with rfl | ⟨storage,_,start⟩
    · simp
    · exact proper_of_prefix start
  constructor
  · intro descends
    induction descends with
    | top => exact ⟨rfl,.inl rfl⟩
    | @down names path entry above listed ih =>
      obtain ⟨rfl,towards⟩ := ih
      have here := place_ofPlace (proper towards)
      obtain ⟨storage,member,further⟩ :=
        (mem_names_children canonical).mp (List.mem_map_of_mem listed)
      rw [here] at further
      rw [(canonical_ofPlace (proper towards)).below_eq,here,List.map_append,List.map_singleton]
      exact ⟨rfl,.inr ⟨storage,member,further⟩⟩
  · rintro ⟨rfl,towards⟩
    induction names using List.reverseRecOn with
    | nil => exact .top
    | append_singleton names name ih =>
      obtain ⟨storage,member,further⟩ := towards.resolve_left (by simp)
      rw [List.map_append,List.map_singleton] at further ⊢
      have above : names = [] ∨ ∃ storage ∈ primaries all,
          names.map String.toList <+: place storage.mountPath :=
        .inr ⟨storage,member,(List.prefix_append _ _).trans further⟩
      have here := place_ofPlace (proper above)
      have listed : name ∈ (children all (ofPlace (names.map String.toList))).map (·.name) :=
        (mem_names_children canonical).mpr ⟨storage,member,by rwa [here]⟩
      obtain ⟨entry,inside,rfl⟩ := List.mem_map.mp listed
      have step := (ih above).down inside
      rwa [(canonical_ofPlace (proper above)).below_eq,here] at step

/-- What is reached by descending at least once is the way to a primary, from its first segment
on. -/
theorem reached_iff (canonical : ∀ mounted ∈ all, Canonical mounted.storage.mountPath) :
    (∃ names, names ≠ [] ∧ Descends all names path) ↔
      ∃ storage ∈ primaries all, ∃ count, 1 ≤ count ∧ count ≤ (place storage.mountPath).length ∧
        path = ofPlace ((place storage.mountPath).take count) := by
  constructor
  · rintro ⟨names,some,descends⟩
    obtain ⟨rfl,towards⟩ := (descends_iff canonical names).mp descends
    obtain ⟨storage,member,start⟩ := towards.resolve_left some
    have shorter := start.length_le
    rw [List.length_map] at shorter
    refine ⟨storage,member,names.length,List.length_pos_iff.mpr some,shorter,?_⟩
    have taken := List.prefix_iff_eq_take.mp start
    rw [List.length_map] at taken
    rw [← taken]
  · rintro ⟨storage,member,count,positive,bound,rfl⟩
    have spelled : (((place storage.mountPath).take count).map String.ofList).map String.toList =
        (place storage.mountPath).take count := by
      simp [Function.comp_def]
    refine ⟨((place storage.mountPath).take count).map String.ofList,?_,?_⟩
    · intro none
      have size := congrArg List.length none
      simp only [List.length_map,List.length_take,List.length_nil] at size
      omega
    · rw [descends_iff canonical,spelled]
      exact ⟨rfl,.inr ⟨storage,member,List.take_prefix _ _⟩⟩

/-- The length of the longest way to a primary. -/
def lowest (all : List Mounted) : Nat :=
  ((primaries all).map fun storage => (place storage.mountPath).length).max?.getD 0

theorem length_le_of_descends (canonical : ∀ mounted ∈ all, Canonical mounted.storage.mountPath)
    {names : List String} (descends : Descends all names path) : names.length ≤ lowest all := by
  rcases ((descends_iff canonical names).mp descends).2 with rfl | ⟨storage,member,start⟩
  · simp
  · have shorter := start.length_le
    rw [List.length_map] at shorter
    exact shorter.trans (List.le_max?_getD_of_mem (List.mem_map_of_mem member))

theorem place_ne_nil (canonical : Canonical path) (deeper : path ≠ "/") : place path ≠ [] := by
  intro top
  rw [← canonical.ofPlace_place,top] at deeper
  exact deeper rfl

/-- A name is listed in a folder exactly if a primary lies there, or something is listed in the
folder of that name. What is reached from the top by descending through listed names is what the
first segments of the path of a primary lead to, and no descent is longer than the longest of these
paths. Each primary is reached but for one at the top, and its path resolves to it. -/
theorem browse (all : List Mounted)
    (canonical : ∀ mounted ∈ all, Canonical mounted.storage.mountPath) :
    (∀ path name, Canonical path → Proper name.toList →
      (name ∈ (children all path).map (·.name) ↔
        (∃ storage ∈ primaries all, storage.mountPath = below path name) ∨
          children all (below path name) ≠ [])) ∧
    (∀ path, (∃ names, names ≠ [] ∧ Descends all names path) ↔
      ∃ storage ∈ primaries all, ∃ count, 1 ≤ count ∧ count ≤ (place storage.mountPath).length ∧
        path = ofPlace ((place storage.mountPath).take count)) ∧
    (∀ names path, Descends all names path → names.length ≤ lowest all) ∧
    (∀ storage ∈ primaries all, storage.mountPath ≠ "/" →
      ∃ names, names ≠ [] ∧ Descends all names storage.mountPath) ∧
    ∀ mounted ∈ all, mounted.storage.isBalance = false →
      mounted ∈ resolve all mounted.storage.mountPath := by
  refine ⟨fun path name => mem_names_children_iff canonical,fun path => reached_iff canonical,
    fun names path => length_le_of_descends canonical,?_,?_⟩
  · intro storage member deeper
    obtain ⟨mounted,inside,rfl,_⟩ := mem_primaries.mp member
    have spelled := canonical mounted inside
    have some := List.length_pos_iff.mpr (place_ne_nil spelled deeper)
    refine (reached_iff canonical).mpr ⟨_,member,_,some,le_rfl,?_⟩
    rw [List.take_length,spelled.ofPlace_place]
  · intro mounted member plain
    have logical : mounted.storage.actualPath = mounted.storage.mountPath :=
      actual_of_not_isBalance plain
    rw [← logical]
    exact mem_resolve.mpr ⟨member,longest_actualPath all mounted⟩

/-- A folder that nothing is mounted at is listed for what is mounted below it, and so the mount is
reached; its path resolves to it, beside the other member of its group. -/
theorem browse_folder :
    let primary : Mounted := ⟨"/a/b",0,{ mountPath := "/a/b" }⟩
    let spare : Mounted := ⟨"/a/b.balance1",1,{ mountPath := "/a/b.balance1" }⟩
    let top : Mounted := ⟨"/",2,{ mountPath := "/" }⟩
    let all := [spare,primary,top]
    (∀ mounted ∈ all, Canonical mounted.storage.mountPath) ∧ Canonical "/" ∧
      Proper "a".toList ∧ children all (below "/" "a") ≠ [] ∧
      "a" ∈ (children all "/").map (·.name) ∧
      (∃ names, names ≠ [] ∧ Descends all names "/a") ∧ primary.storage ∈ primaries all ∧
      (∃ names, names ≠ [] ∧ Descends all names "/a/b") ∧
      (∀ names path, Descends all names path → names.length ≤ 2) ∧
      primary.storage.isBalance = false ∧ primary ∈ resolve all "/a/b" := by
  intro primary spare top all
  have canonical : ∀ mounted ∈ all, Canonical mounted.storage.mountPath := by decide
  have segment : Proper "a".toList := ⟨by decide,by decide,by decide,by decide⟩
  have member : primary.storage ∈ primaries all := by decide
  have filled : children all (below "/" "a") ≠ [] := by
    rw [children_ne_nil_iff canonical]
    exact ⟨primary.storage,member,['b'],by decide⟩
  have deep : lowest all = 2 := by decide
  obtain ⟨names,reached,short,whole,served⟩ := browse all canonical
  refine ⟨canonical,by decide,segment,filled,?_,?_,member,?_,?_,by decide,?_⟩
  · exact (names "/" "a" (by decide) segment).mpr (.inr filled)
  · exact (reached "/a").mpr ⟨primary.storage,member,1,by decide,by decide,by decide⟩
  · exact whole primary.storage member (by decide)
  · exact fun names path descends => deep ▸ short names path descends
  · exact served primary (by decide) (by decide)

end MountHub.Mounted
