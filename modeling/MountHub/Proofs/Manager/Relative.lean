import MountHub.Proofs.Manager.Routable
import MountHub.Proofs.Path.Place

/-! Paths as seen from a mount. What a mount that serves a path sees of it leads on from the logical
path of the mount to the place that was asked for. The members of a group see the same, whichever of
them is chosen. -/
namespace MountHub
open Operation Call MountHub.Path

variable {all : List Mounted} {mounted : Mounted} {path : String} {state : State}

namespace Mounted

theorem reduce_of_proper {segments : List Segment} (proper : ∀ segment ∈ segments, Proper segment) :
    reduce segments = segments := by
  rw [reduce,foldl_walk_proper proper]
  simp

/-- What follows the logical path of a mount that serves a path are the segments that lead on from
there. -/
theorem exists_further (canonical : Canonical mounted.storage.mountPath)
    (spelled : Canonical path) (within : Within mounted.location path) :
    ∃ rest segments, after? mounted.storage.actualPath path = some rest ∧
      place path = place mounted.storage.actualPath ++ segments ∧
      standardize (String.ofList rest) = ofPlace segments := by
  have logical := canonical_actualPath canonical spelled within
  rw [location_eq] at within
  split_ifs at within with top
  · -- The slash of the top belongs to the path, so that all its segments follow.
    obtain ⟨rest,absolute⟩ := spelled.toList_eq
    refine ⟨rest,place path,?_,?_,?_⟩
    · rw [top,after?_eq_some_iff,absolute]
      rfl
    · rw [top]
      rfl
    · have same : place (String.ofList rest) = place path := by
        rw [place,place,absolute,String.toList_ofList,pieces_slash,reduce,reduce,List.foldl_cons,
          walk_empty]
      rw [standardize,same,ofPlace]
  · rcases within with same | below
    · refine ⟨[],[],?_,?_,by decide⟩
      · rw [after?_eq_some_iff,same,List.append_nil]
      · rw [same,List.append_nil]
    · obtain ⟨more,found⟩ := below
      have split : path.toList = mounted.storage.actualPath.toList ++ '/' :: more := by
        rw [← found]
        simp
      have filled : mounted.storage.actualPath.toList ≠ [] := fun none =>
        canonical.actual_ne_empty (String.toList_eq_nil_iff.mp none)
      have read := spelled.pieces_eq (ne_top_of_split split (.inl filled))
      rw [split,pieces_append_cons_slash,logical.pieces_eq top,List.cons_append] at read
      have places : place path = place mounted.storage.actualPath ++ pieces more :=
        (List.cons.inj read).2.symm
      refine ⟨'/' :: more,pieces more,?_,places,?_⟩
      · rw [after?_eq_some_iff,split]
      · have proper : ∀ segment ∈ pieces more, Proper segment := fun segment member =>
          proper_place path segment (places ▸ List.mem_append_right _ member)
        have own : place (String.ofList ('/' :: more)) = pieces more := by
          rw [place,String.toList_ofList,pieces_slash]
          exact reduce_of_proper proper
        rw [standardize,own,ofPlace]

/-- What a mount sees of a path: it follows the logical path of the mount, and behind that it is the
path. -/
structure Seen (mounted : Mounted) (path relative : String) : Prop where
  spelled : Canonical relative
  whole : standardize (mounted.storage.actualPath ++ "/" ++ relative) = path
  follows : ∃ rest, after? mounted.storage.actualPath path = some rest ∧
    relative = standardize (String.ofList rest)

theorem seen_relative (canonical : Canonical mounted.storage.mountPath)
    (spelled : Canonical path) (within : Within mounted.location path) :
    mounted.Seen path (mounted.relative path) := by
  obtain ⟨rest,segments,found,places,seen⟩ := exists_further canonical spelled within
  have relative : mounted.relative path = standardize (String.ofList rest) := by
    rw [Mounted.relative,found]
  have proper : ∀ segment ∈ segments, Proper segment := fun segment member =>
    proper_place path segment (places ▸ List.mem_append_right _ member)
  have own : Canonical (mounted.relative path) := relative ▸ canonical_standardize _
  refine ⟨own,?_,rest,found,relative⟩
  have place : place (mounted.storage.actualPath ++ "/" ++ mounted.relative path) =
      place path := by
    rw [own.place_append,relative,seen,place_ofPlace proper,places]
  rw [standardize,place]
  exact spelled

/-- Mounts that serve a path together see the same of it. -/
theorem relative_of_mem_resolve (canonical : ∀ mounted ∈ all, Canonical mounted.storage.mountPath)
    {first second : Mounted} (one : first ∈ resolve all path) (two : second ∈ resolve all path) :
    second.relative path = first.relative path := by
  rw [resolve_eq_siblings canonical one] at two
  have shared : second.storage.actualPath = first.storage.actualPath := (mem_siblings.mp two).2
  rw [relative,relative,shared]

end Mounted

/-- Along every run: a path that no mount serves is not found. A path that is served is seen in one
way by all mounts that serve it best, and whichever of them the cursors choose, and however the path
is spelled, the answer is that mount with what it sees. -/
theorem State.route_recomposes (name : String) (steps : List Step) (path : String) :
    let state := (start { name }).run steps
    let group := state.storagesByPath (standardize path)
    (group = [] → ((route path).run.run state).1 = .error (.notServed (standardize path))) ∧
    (group ≠ [] → ∃ relative, (∀ member ∈ group, member.Seen (standardize path) relative) ∧
      ∀ asked cursors, standardize asked = standardize path → ∃ member ∈ group,
        ((route asked).run.run { state with cursors }).1 = .ok (member,relative)) := by
  intro state group
  have sound : state.Sound := sound_run name steps
  have canonical : ∀ each ∈ state.mounted, Canonical each.storage.mountPath := by
    intro each inside
    obtain ⟨found,live⟩ := mem_mounted.mp inside
    rw [live]
    exact sound.canonical_live found
  have again : standardize (standardize path) = standardize path := canonical_standardize path
  constructor
  · intro empty
    apply route_of_unserved
    rw [Cursors.select_eq_none_iff,again]
    exact empty
  · intro filled
    obtain ⟨first,leading⟩ := List.exists_mem_of_ne_nil group filled
    have shared : ∀ member ∈ group,
        member.relative (standardize path) = first.relative (standardize path) :=
      fun member inside => Mounted.relative_of_mem_resolve canonical leading inside
    refine ⟨first.relative (standardize path),fun member inside => ?_,fun asked cursors same => ?_⟩
    · obtain ⟨mounted,longest⟩ := Mounted.mem_resolve.mp inside
      rw [← shared member inside]
      exact Mounted.seen_relative (canonical member mounted) again longest.1
    · have served : (cursors.select state.mounted (standardize path)).1 ≠ none := by
        rw [ne_eq,Cursors.select_eq_none_iff,again]
        exact filled
      obtain ⟨member,chosen⟩ := Option.ne_none_iff_exists'.mp served
      have inside := Cursors.mem_resolve_of_select chosen
      rw [again] at inside
      rw [← same] at chosen
      refine ⟨member,inside,(route_of_select chosen).trans ?_⟩
      rw [same,shared member inside]

/-- Two mounts share a logical path, and a path below it is seen alike from both. -/
theorem State.route_recomposes_shared :
    let primary : Storage := { mountPath := "/m", driver := "memory" }
    let spare : Storage := { mountPath := "/m.balance2", driver := "memory" }
    let steps : List Step := [⟨.willing .live,.builtin,.create primary⟩,
      ⟨.willing .live,.builtin,.create spare⟩]
    let state := (start { name := "storages" }).run steps
    let mounted : Mounted := ⟨"/m.balance2",1,{ spare with id := ⟨2⟩, modified := 7 }⟩
    let cursors := Cursors.empty.put "/m" 0
    standardize "m//x/../y/" = "/m/y" ∧ standardize "/m/./y" = "/m/y" ∧
      mounted ∈ state.storagesByPath "/m/y" ∧ mounted.Seen "/m/y" "/y" ∧
      (∃ member ∈ state.storagesByPath "/m/y",
        ((route "/m/./y").run.run { state with cursors }).1 = .ok (member,"/y")) ∧
      ((route "/mx").run.run state).1 = .error (.notServed "/mx") := by
  intro primary spare steps state mounted cursors
  have spelled : standardize "m//x/../y/" = "/m/y" := by decide +kernel
  have alike : standardize "/m/./y" = "/m/y" := by decide +kernel
  have apart : standardize "/mx" = "/mx" := by decide +kernel
  have unserved : state.storagesByPath (standardize "/mx") = [] := by decide +kernel
  have inside : mounted ∈ state.storagesByPath (standardize "m//x/../y/") :=
    Mounted.mem_resolve.mpr ⟨by decide +kernel,by decide +kernel⟩
  have missing := (route_recomposes "storages" steps "/mx").1 unserved
  obtain ⟨relative,seen,reached⟩ := (route_recomposes "storages" steps "m//x/../y/").2
    (List.ne_nil_of_mem inside)
  obtain ⟨member,among,answer⟩ := reached "/m/./y" cursors (alike.trans spelled.symm)
  have own := seen mounted inside
  rw [spelled] at inside own among
  obtain ⟨rest,found,follows⟩ := own.follows
  have rests : Path.after? mounted.storage.actualPath "/m/y" = some "/y".toList := by decide +kernel
  have relative_eq : relative = "/y" := by
    rw [follows,← Option.some.inj (rests.symm.trans found)]
    decide +kernel
  rw [relative_eq] at own answer
  rw [apart] at missing
  exact ⟨spelled,alike,inside,own,⟨member,among,answer⟩,missing⟩

end MountHub
