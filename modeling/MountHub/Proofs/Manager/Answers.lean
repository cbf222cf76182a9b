import MountHub.Proofs.Manager.Call
import MountHub.Proofs.Table.Contents

/-! What the calls on one table say, whatever calls came before. Each answer and what it
leaves is told by the map from ids to storages and by the ids that were handed out so far. -/
namespace MountHub

/-- What a call on the table says when it succeeds. -/
inductive Reply where
  | assigned (id : StorageId)
  | done
  | found (storage : Storage)
  | listed (rows : List Storage) (total : Nat)

def Reply.assigned? : Except TableError Reply → Option StorageId
  | .ok (.assigned id) => some id
  | _ => none

namespace Call

/-- The call on the table, as the operations of a manager make it. -/
def perform (world : World) : TableCall → Call (Except TableError Reply)
  | .create storage => return (← createRow world storage).map .assigned
  | .update storage => return (← updateRow world storage).map fun () => .done
  | .delete id => return (← deleteRow world id).map fun () => .done
  | .get id => return (← getRow world id).map .found
  | .list page size =>
    return (← listRows world page size).map fun (rows,total) => .listed rows total

def performAll (world : World) (calls : List TableCall) : Call (List (Except TableError Reply)) :=
  calls.mapM (perform world)

end Call

namespace Table

variable {table changed : Table} {storage row old : Storage} {id other : StorageId}
  {assigned : List StorageId} {refusal : Option TableError}

/-- How a call on a table is answered, and which table it leaves, when these ids were handed
out before. -/
inductive Answers (refusal : Option TableError) (assigned : List StorageId) (table : Table) :
    TableCall → Except TableError Reply → Table → Prop
  | refused {call : TableCall} {error : TableError} (refuses : refusal = some error) :
      Answers refusal assigned table call (.error error) table
  | created {storage : Storage} {id : StorageId} {changed : Table}
      (room : assigned.length + 1 < idLimit) (next : id.raw.toNat = assigned.length + 1)
      (fresh : ∀ before ∈ assigned, before.raw < id.raw)
      (free : ∀ other row, table.contents other = some row →
        row.mountPath ≠ storage.mountPath)
      (kept : changed.contents = Function.update table.contents id (some { storage with id })) :
      Answers refusal assigned table (.create storage) (.ok (.assigned id)) changed
  | taken {storage row : Storage} {other : StorageId} (room : assigned.length + 1 < idLimit)
      (present : table.contents other = some row) (same : row.mountPath = storage.mountPath) :
      Answers refusal assigned table (.create storage) (.error (.pathTaken table.name)) table
  | full {storage : Storage} (last : assigned.length + 1 = idLimit) :
      Answers refusal assigned table (.create storage)
        (.error (.database "database or disk is full")) table
  | updated {storage old : Storage} {changed : Table}
      (present : table.contents storage.id = some old)
      (free : ∀ other row, table.contents other = some row → other ≠ storage.id →
        row.mountPath ≠ storage.mountPath)
      (kept : changed.contents = Function.update table.contents storage.id (some storage)) :
      Answers refusal assigned table (.update storage) (.ok .done) changed
  | unknown {storage : Storage} (absent : table.contents storage.id = none) :
      Answers refusal assigned table (.update storage) (.error (.notFound storage.id)) table
  | claimed {storage old row : Storage} {other : StorageId}
      (known : table.contents storage.id = some old) (present : table.contents other = some row)
      (different : other ≠ storage.id) (same : row.mountPath = storage.mountPath) :
      Answers refusal assigned table (.update storage) (.error (.pathTaken table.name)) table
  | deleted {id : StorageId} {old : Storage} {changed : Table}
      (present : table.contents id = some old)
      (kept : changed.contents = Function.update table.contents id none) :
      Answers refusal assigned table (.delete id) (.ok .done) changed
  | gone {id : StorageId} (absent : table.contents id = none) :
      Answers refusal assigned table (.delete id) (.error (.notFound id)) table
  | found {id : StorageId} {row : Storage} (present : table.contents id = some row) :
      Answers refusal assigned table (.get id) (.ok (.found row)) table
  | missing {id : StorageId} (absent : table.contents id = none) :
      Answers refusal assigned table (.get id) (.error (.notFound id)) table
  | listed {page size : UInt64} {rows : List Storage} {total : Nat}
      (current : ∀ row ∈ rows, table.contents row.id = some row) (ordered : Ordered rows)
      (all : table.Counts total) :
      Answers refusal assigned table (.list page size) (.ok (.listed rows total)) table
  | beyond {page size : UInt64}
      (far : 0x10000000000000000 ≤ (page.toNat - 1) * size.toNat) :
      Answers refusal assigned table (.list page size) (.error .pageOutOfRange) table

/-- A table that handed out these ids, one after the other. -/
structure Handed (assigned : List StorageId) (table : Table) : Prop where
  sound : table.Sound
  count : table.lastId = assigned.length
  within : ∀ id ∈ assigned, id.raw.toNat ≤ table.lastId

theorem handed_empty (name : String) : Handed [] { name } :=
  ⟨sound_empty name,rfl,by simp⟩

namespace Handed

theorem create_error {cause : TableError} (handed : table.Handed assigned)
    (failed : table.create storage = .error cause) :
    Answers refusal assigned table (.create storage) (.error cause) table := by
  unfold create at failed
  split_ifs at failed with room present
  · obtain ⟨row,inside,same⟩ := List.any_eq_true.mp present
    obtain rfl := Except.error.inj failed
    exact .taken (handed.count ▸ room)
      (handed.sound.contents_of_mem (List.mem_map_of_mem inside)) (beq_iff_eq.mp same)
  · obtain rfl := Except.error.inj failed
    have limit := handed.sound.limit
    exact .full (by rw [← handed.count]; omega)

theorem create_ok (handed : table.Handed assigned)
    (created : table.create storage = .ok (id,changed)) :
    Answers refusal assigned table (.create storage) (.ok (.assigned id)) changed := by
  obtain ⟨next,room,free,_,_⟩ := create_eq_ok created
  refine .created (handed.count ▸ room) (handed.count ▸ next) ?_ ?_
    (handed.sound.contents_create created)
  · intro before member
    have bound := handed.within before member
    exact UInt64.lt_iff_toNat_lt.mpr (by omega)
  · intro other row kept
    exact free row (handed.sound.contents_eq_some_iff.mp kept).1

theorem keep (handed : table.Handed assigned) (sound : changed.Sound)
    (last : changed.lastId = table.lastId) : changed.Handed assigned :=
  ⟨sound,last ▸ handed.count,last ▸ handed.within⟩

theorem create (handed : table.Handed assigned)
    (created : table.create storage = .ok (id,changed)) : changed.Handed (assigned ++ [id]) := by
  obtain ⟨next,_,_,_,last⟩ := create_eq_ok created
  refine ⟨handed.sound.create created,?_,fun before member => ?_⟩
  · rw [last,handed.count,List.length_append,List.length_singleton]
  · rcases List.mem_append.mp member with old | new
    · have bound := handed.within before old
      omega
    · rw [List.mem_singleton.mp new]
      omega

end Handed

theorem Sound.update_error {cause : TableError} (sound : table.Sound)
    (failed : table.update storage = .error cause) :
    Answers refusal assigned table (.update storage) (.error cause) table := by
  cases known : table.contents storage.id with
  | none =>
    rw [update_of_contents_eq_none known] at failed
    obtain rfl := Except.error.inj failed
    exact .unknown known
  | some old =>
    have found := contents_eq_some_iff_get.mp known
    by_cases free : ∀ other ∈ table.storages, other.id ≠ storage.id →
        other.mountPath ≠ storage.mountPath
    · obtain ⟨changed,updated⟩ := update_of_free found free
      rw [updated] at failed
      cases failed
    · push Not at free
      obtain ⟨other,member,different,same⟩ := free
      rw [update_of_taken found member different same] at failed
      obtain rfl := Except.error.inj failed
      exact .claimed known (sound.contents_of_mem member) different same

theorem Sound.update_ok (sound : table.Sound) (updated : table.update storage = .ok changed) :
    Answers refusal assigned table (.update storage) (.ok .done) changed := by
  obtain ⟨⟨old,member,key⟩,free,_,_⟩ := update_eq_ok updated
  refine .updated (key ▸ sound.contents_of_mem member) ?_ (sound.contents_update updated)
  intro other row kept different
  obtain ⟨inside,rfl⟩ := sound.contents_eq_some_iff.mp kept
  exact free row inside different

theorem delete_error {cause : TableError} (failed : table.delete id = .error cause) :
    Answers refusal assigned table (.delete id) (.error cause) table := by
  cases known : table.contents id with
  | none =>
    rw [delete_of_contents_eq_none known] at failed
    obtain rfl := Except.error.inj failed
    exact .gone known
  | some old =>
    obtain ⟨changed,deleted⟩ := delete_of_get (contents_eq_some_iff_get.mp known)
    rw [deleted] at failed
    cases failed

theorem Sound.delete_ok (sound : table.Sound) (deleted : table.delete id = .ok changed) :
    Answers refusal assigned table (.delete id) (.ok .done) changed := by
  obtain ⟨⟨old,member,key⟩,_,_⟩ := delete_eq_ok deleted
  exact .deleted (key ▸ sound.contents_of_mem member) (sound.contents_delete deleted)

theorem get_error {cause : TableError} (failed : table.get id = .error cause) :
    Answers refusal assigned table (.get id) (.error cause) table := by
  cases known : table.contents id with
  | none =>
    rw [get_of_contents_eq_none known] at failed
    obtain rfl := Except.error.inj failed
    exact .missing known
  | some row =>
    rw [contents_eq_some_iff_get.mp known] at failed
    cases failed

theorem list_error {page size : UInt64} {cause : TableError}
    (failed : table.list page size = .error cause) :
    Answers refusal assigned table (.list page size) (.error cause) table := by
  unfold list at failed
  simp only [toNat_before] at failed
  split_ifs at failed with inside
  obtain rfl := Except.error.inj failed
  exact .beyond (Nat.le_of_not_lt inside)

theorem Sound.list_ok {page size : UInt64} {rows : List Storage} {total : Nat}
    (sound : table.Sound) (listed : table.list page size = .ok (rows,total)) :
    Answers refusal assigned table (.list page size) (.ok (.listed rows total)) table :=
  .listed (fun _ member => sound.contents_of_mem (mem_of_list listed member))
    (sound.ordered_shown.sublist (sublist_of_list listed)) (total_of_list listed ▸ sound.counts)

/-- What a call comes to: its answer, and the ids that are handed out then. -/
structure Performed (refusal : Option TableError) (assigned : List StorageId) (table : Table)
    (call : TableCall) (reply : Except TableError Reply) (changed : Table) : Prop where
  answers : Answers refusal assigned table call reply changed
  handed : changed.Handed (assigned ++ (Reply.assigned? reply).toList)

theorem Answers.performed {call : TableCall} {reply : Except TableError Reply}
    (answers : Answers refusal assigned table call reply changed)
    (silent : Reply.assigned? reply = none) (handed : changed.Handed assigned) :
    Performed refusal assigned table call reply changed :=
  ⟨answers,by simpa [silent] using handed⟩

end Table

namespace Call
open Table

variable {α β : Type} {world : World} {state : State} {assigned : List StorageId}
  {call : TableCall}

/-- A call that fails leaves the rows and the ids as they are. -/
theorem performed_onTable (answer : Table → Except TableError (α × Table))
    {asked : Except TableError β} {give : β → α × Table} (say : α → Reply)
    (handed : state.table.Handed assigned) (same : answer state.table = asked.map give)
    (failed : ∀ cause, asked = .error cause →
      Answers ((world state.events).refusesCall call) assigned state.table call (.error cause)
        state.table)
    (done : ∀ value, asked = .ok value →
      Performed ((world state.events).refusesCall call) assigned state.table call
        (.ok (say (give value).1)) (give value).2) :
    let ran := (onTable world call answer).run state
    Performed ((world state.events).refusesCall call) assigned state.table call
      (ran.1.map say) ran.2.table := by
  rw [run_onTable,same,World.answers]
  cases refusal : (world state.events).refusesCall call with
  | some error => exact (Answers.refused rfl).performed rfl handed
  | none =>
    rw [refusal] at failed done
    cases asked with
    | error cause => exact (failed cause rfl).performed rfl handed
    | ok value => exact done value rfl

theorem performed_perform (world : World) (call : TableCall)
    (handed : state.table.Handed assigned) :
    let ran := (perform world call).run state
    Performed ((world state.events).refusesCall call) assigned state.table call
      ran.1 ran.2.table := by
  have sound := handed.sound
  cases call with
  | create storage =>
    have same : state.table.create storage = (state.table.create storage).map id :=
      (congrFun Except.map_id _).symm
    refine performed_onTable (·.create storage) .assigned handed same
      (fun _ => handed.create_error) fun result created => ?_
    exact ⟨handed.create_ok created,handed.create created⟩
  | update storage =>
    refine performed_onTable (fun table => (table.update storage).map ((),·)) (fun _ => .done)
      handed rfl (fun _ => sound.update_error) fun changed updated => ?_
    have last := (update_eq_ok updated).2.2.2
    exact (sound.update_ok updated).performed rfl (handed.keep (sound.update updated) last)
  | delete id =>
    refine performed_onTable (fun table => (table.delete id).map ((),·)) (fun _ => .done)
      handed rfl (fun _ => delete_error) fun changed deleted => ?_
    have last := (delete_eq_ok deleted).2.2
    exact (sound.delete_ok deleted).performed rfl (handed.keep (sound.delete deleted) last)
  | get id =>
    refine performed_onTable (fun table => (table.get id).map (·,table)) .found
      handed rfl (fun _ => get_error) fun row found => ?_
    exact (Answers.found (contents_eq_some_iff_get.mpr found)).performed rfl handed
  | list page size =>
    refine performed_onTable (fun table => (table.list page size).map (·,table))
      (fun (rows,total) => .listed rows total) handed rfl (fun _ => list_error)
      fun result listed => ?_
    exact (sound.list_ok listed).performed rfl handed

theorem run_performAll_cons (world : World) (call : TableCall) (calls : List TableCall)
    (state : State) :
    (performAll world (call :: calls)).run state =
      let first := (perform world call).run state
      let rest := (performAll world calls).run first.2
      (first.1 :: rest.1,rest.2) := by
  rw [performAll,List.mapM_cons]
  rfl

/-- The ids that a stretch of calls handed out. -/
theorem handed_performAll (world : World) (state : State) (calls : List TableCall)
    (handed : state.table.Handed assigned) :
    let ran := (performAll world calls).run state
    ran.2.table.Handed (assigned ++ ran.1.filterMap Reply.assigned?) := by
  induction calls generalizing state assigned with
  | nil =>
    change state.table.Handed (assigned ++ [])
    simpa using handed
  | cons call calls later =>
    have rest := later _ (performed_perform world call handed).handed
    rw [run_performAll_cons]
    cases given : Reply.assigned? ((perform world call).run state).1 <;>
      simpa [given] using rest

/-- Whatever calls were made on a table that was empty, the next one is answered by the map
that the table then is. -/
theorem answered_as_map (world : World) (name : String) (calls : List TableCall)
    (call : TableCall) :
    let earlier := (performAll world calls).run (.start { name })
    let ran := (perform world call).run earlier.2
    (State.start { name }).table.contents = (fun _ => none) ∧ earlier.2.table.Unique ∧
      Answers ((world earlier.2.events).refusesCall call) (earlier.1.filterMap Reply.assigned?)
        earlier.2.table call ran.1 ran.2.table := by
  intro earlier ran
  have handed : earlier.2.table.Handed (earlier.1.filterMap Reply.assigned?) :=
    handed_performAll world (.start { name }) calls (handed_empty name)
  exact ⟨contents_empty name,handed.sound.unique,(performed_perform world call handed).answers⟩

end Call
end MountHub
