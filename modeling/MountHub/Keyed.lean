/-! Lists of values under keys. Whoever looks a key up sees what was put there last. -/
namespace MountHub.Keyed

variable {α : Type}

def find? (entries : List (String × α)) (key : String) : Option α :=
  (entries.find? fun entry => entry.1 == key).map (·.2)

/-- All entries but those under a key. -/
def remove (entries : List (String × α)) (key : String) : List (String × α) :=
  entries.filter fun entry => entry.1 != key

/-- Puts a value under a key, in place of what was there. -/
def put (entries : List (String × α)) (key : String) (value : α) : List (String × α) :=
  remove entries key ++ [(key,value)]

def keys (entries : List (String × α)) : List String := entries.map (·.1)

@[simp] theorem find?_nil (key : String) : find? ([] : List (String × α)) key = none := rfl

theorem find?_remove (entries : List (String × α)) (key other : String) :
    find? (remove entries key) other = if key = other then none else find? entries other := by
  unfold find? remove
  rw [List.find?_filter]
  by_cases same : key = other
  · subst same
    simp
  · rw [if_neg same]
    congr 2
    funext entry
    by_cases found : entry.1 = other
    · simp [found,Ne.symm same]
    · simp [found]

theorem find?_put (entries : List (String × α)) (key other : String) (value : α) :
    find? (put entries key value) other =
      if key = other then some value else find? entries other := by
  have removed := find?_remove entries key other
  unfold find? at removed ⊢
  rw [put,List.find?_append]
  by_cases same : key = other
  · subst same
    simp only [↓reduceIte,Option.map_eq_none_iff] at removed
    simp [removed]
  · rw [if_neg same] at removed ⊢
    rw [← removed]
    simp [same]

theorem mem_iff_find? {entries : List (String × α)} (distinct : (keys entries).Nodup)
    (key : String) (value : α) : (key,value) ∈ entries ↔ find? entries key = some value := by
  induction entries with
  | nil => simp
  | cons entry more ih =>
    obtain ⟨first,held⟩ := entry
    rw [keys,List.map_cons,List.nodup_cons] at distinct
    have rest := ih distinct.2
    unfold find? at rest ⊢
    by_cases same : first = key
    · subst same
      have absent : (first,value) ∉ more := fun member =>
        distinct.1 (List.mem_map.mpr ⟨_,member,rfl⟩)
      simp [absent,eq_comm]
    · rw [List.mem_cons,rest]
      simp [same,Ne.symm same]

theorem nodup_keys_remove {entries : List (String × α)} (distinct : (keys entries).Nodup)
    (key : String) : (keys (remove entries key)).Nodup :=
  distinct.sublist (List.filter_sublist.map _)

theorem nodup_keys_put {entries : List (String × α)} (distinct : (keys entries).Nodup)
    (key : String) (value : α) : (keys (put entries key value)).Nodup := by
  rw [keys,put,List.map_append,List.nodup_append]
  refine ⟨nodup_keys_remove distinct key,by simp,?_⟩
  intro kept member _ last
  obtain ⟨entry,inside,rfl⟩ := List.mem_map.mp member
  rw [List.map_singleton,List.mem_singleton] at last
  have different := (List.mem_filter.mp inside).2
  rw [last]
  simpa using different

end MountHub.Keyed
