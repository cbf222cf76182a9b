import MountHub.Manager.Routing
import MountHub.Proofs.Manager.Call
import MountHub.Proofs.Registry.Rotation

/-! Selections while mounts come and go. Cursors outlive the groups that they were made for; all
the same a selection stays inside of the group that is there when it is made. -/
namespace MountHub
open Call MountHub.Path

/-- What can happen between selections. A driver may also come to hold another storage. -/
inductive Act where
  | enter (path : String) (number : Nat)
  | leave (path : String)
  | hold (number : Nat) (driver : Driver)
  | select (path : String)

def Act.after (state : State) : Act → State
  | .enter path number => ((mount path number).run state).2
  | .leave path => ((unmount path).run state).2
  | .hold number driver => ((putDriver number driver).run state).2
  | .select path => ((balanced path).run state).2

variable {state : State} {acts : List Act} {group : String} {cursor : Nat}

namespace State

def acted (state : State) (acts : List Act) : State := acts.foldl Act.after state

theorem acted_append_singleton (state : State) (acts : List Act) (act : Act) :
    state.acted (acts ++ [act]) = act.after (state.acted acts) :=
  List.foldl_append

theorem length_storagesByPath (state : State) (path : String) :
    (state.storagesByPath path).length = (state.mounted.filter fun mounted =>
      decide (Mounted.Longest state.mounted path mounted.location)).length := by
  rw [storagesByPath,Mounted.resolve_eq,List.length_mergeSort]

theorem length_storagesByPath_le (state : State) (path : String) :
    (state.storagesByPath path).length ≤ state.registry.size := by
  rw [length_storagesByPath]
  apply (List.length_filter_le _ _).trans
  rw [mounted,List.length_map]
  rfl

/-- All that a selection does. -/
theorem balanced_cases (state : State) (path : String) :
    (state.storagesByPath (standardize path)).length < 2 ∧
      (balanced path).run state = ((state.storagesByPath (standardize path)).head?,state) ∨
    ∃ first position, (state.storagesByPath (standardize path)).head? = some first ∧
      2 ≤ (state.storagesByPath (standardize path)).length ∧
      position = state.cursors.next first.storage.actualPath
        (state.storagesByPath (standardize path)).length ∧
      position < (state.storagesByPath (standardize path)).length ∧
      (balanced path).run state = ((state.storagesByPath (standardize path))[position]?,
        { state with cursors := state.cursors.put first.storage.actualPath position }) := by
  have run : (balanced path).run state = ((state.cursors.select state.mounted path).1,
      { state with cursors := (state.cursors.select state.mounted path).2 }) := rfl
  rcases state.cursors.select_cases state.mounted path with
    ⟨few,same⟩ | ⟨first,position,head,many,rfl,same⟩
  · exact .inl ⟨few,by rw [run,same]; rfl⟩
  · have bound : state.cursors.next first.storage.actualPath _ < _ :=
      Cursors.next_lt _ (Nat.zero_lt_of_lt many)
    exact .inr ⟨first,_,head,many,rfl,bound,by rw [run,same]; rfl⟩

end State

/-- A cursor that an act leaves was there before, or it stands inside of a group that is
mounted. -/
theorem Act.cursor_cases (act : Act) (found : (act.after state).cursors.find? group = some cursor) :
    state.cursors.find? group = some cursor ∨ cursor < state.registry.size := by
  cases act with
  | enter | leave | hold => exact .inl found
  | select path =>
    rcases state.balanced_cases path with ⟨_,run⟩ | ⟨_,_,_,_,_,bound,run⟩
    · rw [Act.after,run] at found
      exact .inl found
    · rw [Act.after,run,Cursors.find?_put] at found
      split_ifs at found
      · obtain rfl := Option.some.inj found
        exact .inr (bound.trans_le (state.length_storagesByPath_le _))
      · exact .inl found

namespace State

/-- Each cursor was made when more mounts were there than it counts. -/
theorem cursor_acted (fresh : state.cursors = .empty)
    (found : (state.acted acts).cursors.find? group = some cursor) :
    ∃ before, before <+: acts ∧ cursor < (state.acted before).registry.size := by
  -- From the end, since the moment of a cursor is given by the acts up to it.
  induction acts using List.reverseRecOn with
  | nil =>
    rw [acted,List.foldl_nil,fresh] at found
    cases found
  | append_singleton acts act ih =>
    rw [acted_append_singleton] at found
    rcases act.cursor_cases found with earlier | bound
    · obtain ⟨before,start,bound⟩ := ih earlier
      exact ⟨before,start.trans (List.prefix_append _ _),bound⟩
    · exact ⟨acts,List.prefix_append _ _,bound⟩

/-- Whatever is mounted, unmounted and selected, in any order, and whatever drivers come to hold:
a selection has nothing exactly if nothing serves the path in its one spelling, and else it has one
of the mounts that do. Fewer than two of them leave all as it is. Among more, it is the turn of one
by the cursor of the first one's group, which is put to where that one stands, and nothing else
changes. No cursor has counted beyond what was once mounted. -/
theorem selections_inside (table : Table) (drivers : List Driver) (acts : List Act)
    (path : String) :
    let start : State := { table, drivers }
    let state := start.acted acts
    let found := state.storagesByPath (standardize path)
    let chosen := ((balanced path).run state).1
    let after := ((balanced path).run state).2
    (∀ group cursor, state.cursors.find? group = some cursor →
      ∃ before, before <+: acts ∧ cursor + 1 ≤ (start.acted before).registry.size) ∧
    (chosen = none ↔ found = []) ∧
    (∀ mounted, chosen = some mounted → mounted ∈ found) ∧
    (found.length < 2 → after = state) ∧
    (2 ≤ found.length → ∃ first position, found.head? = some first ∧
      position = state.cursors.next first.storage.actualPath found.length ∧
      position < found.length ∧ chosen = found[position]? ∧
      after = { state with cursors := after.cursors } ∧
      ∀ group, after.cursors.find? group =
        if first.storage.actualPath = group then some position else state.cursors.find? group) := by
  intro start state found chosen after
  refine ⟨fun group cursor => cursor_acted rfl,Cursors.select_eq_none_iff,
    fun mounted => Cursors.mem_resolve_of_select,?_,?_⟩
  · intro few
    rcases state.balanced_cases path with ⟨_,run⟩ | ⟨_,_,_,many,_⟩
    · exact congrArg Prod.snd run
    · exact absurd many (Nat.not_le_of_lt few)
  · intro many
    rcases state.balanced_cases path with ⟨few,_⟩ | ⟨first,position,head,_,place,bound,run⟩
    · exact absurd many (Nat.not_le_of_lt few)
    · refine ⟨first,position,head,place,bound,congrArg Prod.fst run,?_,fun group => ?_⟩
      · simp only [after,run]
      · simp only [after,run,Cursors.find?_put]

/-- A cursor that a group of three has left behind leads into what is left of the group. -/
theorem selections_inside_shrunk :
    let driver (path : String) : Driver := .memory { storage := { mountPath := path } }
    let start : State := {
      table := { name := "storages" }
      drivers := [driver "/g",driver "/g.balance1",driver "/g.balance2"] }
    let acts : List Act := [.enter "/g" 0,.enter "/g.balance1" 1,.enter "/g.balance2" 2,
      .select "/g/a",.select "/g/a",.select "/g/a",.leave "/g"]
    let state := start.acted acts
    let found := state.storagesByPath (standardize "/g/b")
    let after := ((balanced "/g/b").run state).2
    state.cursors.find? "/g" = some 2 ∧ found.length = 2 ∧
      (∃ before, before <+: acts ∧ 2 + 1 ≤ (start.acted before).registry.size) ∧
      ((balanced "/h").run state).2 = state ∧
      ∃ mounted, found[1]? = some mounted ∧ mounted ∈ found ∧
        ((balanced "/g/b").run state).1 = some mounted ∧ after.cursors.find? "/g" = some 1 := by
  intro driver start acts state found after
  let full := start.acted (acts.take 3)
  have shared : ∀ mounted ∈ full.mounted ++ state.mounted, mounted.storage.actualPath = "/g" := by
    decide +kernel
  have turn (cursors : Cursors) : (cursors.select full.mounted "/g/a").2 =
      cursors.put "/g" (cursors.next "/g" 3) := by
    have size : (Mounted.resolve full.mounted (standardize "/g/a")).length = 3 :=
      (full.length_storagesByPath _).trans (by decide +kernel)
    rcases cursors.select_cases full.mounted "/g/a" with ⟨few,_⟩ | ⟨first,_,head,_,rfl,same⟩
    · omega
    · have inside := (Mounted.mem_resolve.mp (List.mem_of_head? head)).1
      rw [same,size,shared first (List.mem_append_left _ inside)]
  have stale : state.cursors.find? "/g" = some 2 := by
    change ((((Cursors.empty.select full.mounted "/g/a").2.select full.mounted "/g/a").2.select
      full.mounted "/g/a").2).find? "/g" = some 2
    rw [turn,turn,turn]
    decide
  have size : found.length = 2 := (state.length_storagesByPath _).trans (by decide +kernel)
  have nowhere : (state.storagesByPath (standardize "/h")).length < 2 := by
    rw [length_storagesByPath]
    decide +kernel
  obtain ⟨inside,_,member,_,many⟩ := selections_inside start.table start.drivers acts "/g/b"
  obtain ⟨first,position,head,place,bound,chosen,_,cursors⟩ := many size.ge
  have group := shared first
    (List.mem_append_right _ (Mounted.mem_resolve.mp (List.mem_of_head? head)).1)
  obtain rfl : position = 1 := by
    rw [place,group,size,Cursors.next,stale]
  have second : found[1]? = some found[1] := List.getElem?_eq_getElem bound
  exact ⟨stale,size,inside "/g" 2 stale,
    (selections_inside start.table start.drivers acts "/h").2.2.2.1 nowhere,
    found[1],second,member _ (chosen.trans second),chosen.trans second,
    (cursors "/g").trans (if_pos group)⟩

end State
end MountHub
