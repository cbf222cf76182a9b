import MountHub.Registry.Resolve
import Mathlib.Data.List.Basic

/-! Paths within locations. The locations that one path lies within form a chain:
of two of them the one with more slashes is the longer one, and as many slashes
mean the same location. -/
namespace MountHub.Path

/-- A path is at a location or below it. -/
def Within (location path : String) : Prop :=
  path = location ∨ (location ++ "/").toList <+: path.toList

theorem after?_eq_some_iff {start path : String} {rest : List Char} :
    after? start path = some rest ↔ start.toList ++ rest = path.toList :=
  List.isPrefixOf?_eq_some_iff_append_eq

theorem liesIn_iff {location path : String} :
    Mounted.liesIn location path = true ↔ Within location path := by
  unfold Mounted.liesIn Within
  rw [Bool.or_eq_true,beq_iff_eq,Option.any_eq_true]
  constructor
  · rintro (same | ⟨rest,found,slash⟩)
    · exact .inl same
    · obtain ⟨c,more,rfl⟩ : ∃ c more, rest = c :: more := by
        cases rest with
        | nil => simp at slash
        | cons c more => exact ⟨c,more,rfl⟩
      have first : c = '/' := by simpa using slash
      subst first
      exact .inr ⟨more,by simpa using after?_eq_some_iff.mp found⟩
  · rintro (same | ⟨rest,found⟩)
    · exact .inl same
    · refine .inr ⟨'/' :: rest,after?_eq_some_iff.mpr ?_,by simp⟩
      simpa using found

instance (location path : String) : Decidable (Within location path) :=
  decidable_of_iff _ liesIn_iff

theorem Within.prefix {location path : String} (within : Within location path) :
    location.toList <+: path.toList := by
  rcases within with rfl | below
  · exact List.prefix_rfl
  · rw [String.toList_append] at below
    exact (List.prefix_append _ _).trans below

/-- What follows the shorter of two locations of one path begins with a slash. -/
theorem Within.eq_or_slash {location path : String} (within : Within location path)
    {rest : List Char} (longer : location.toList ++ rest <+: path.toList) :
    rest = [] ∨ ∃ more, rest = '/' :: more := by
  cases rest with
  | nil => exact .inl rfl
  | cons c more =>
    refine .inr ⟨more,?_⟩
    rcases within with rfl | below
    · have bound := longer.length_le
      simp only [List.length_append,List.length_cons] at bound
      omega
    · obtain ⟨first,found⟩ := longer
      obtain ⟨second,reached⟩ := below
      rw [← found] at reached
      have same : '/' :: second = c :: (more ++ first) := by simpa using reached
      rw [(List.cons.inj same).1]

theorem Within.eq_or_deeper {first second path : String} (within : Within first path)
    (other : Within second path) (shorter : first.toList <+: second.toList) :
    first = second ∨ depth first < depth second ∧ first.length < second.length := by
  obtain ⟨rest,found⟩ := shorter
  rcases within.eq_or_slash (found ▸ other.prefix) with rfl | ⟨more,rfl⟩
  · exact .inl (String.toList_injective (by simpa using found))
  · have counted := congrArg (List.count '/') found
    have measured := congrArg List.length found
    simp only [List.count_append,List.count_cons_self] at counted
    simp only [List.length_append,List.length_cons,String.length_toList] at measured
    exact .inr ⟨by unfold depth; omega,by omega⟩

/-- Two locations of one path are the same, or one is both deeper and longer. -/
theorem Within.compare {first second path : String} (within : Within first path)
    (other : Within second path) :
    first = second ∨ (depth first < depth second ∧ first.length < second.length) ∨
      (depth second < depth first ∧ second.length < first.length) := by
  rcases List.prefix_or_prefix_of_prefix within.prefix other.prefix with shorter | longer
  · rcases within.eq_or_deeper other shorter with same | deeper
    · exact .inl same
    · exact .inr (.inl deeper)
  · rcases other.eq_or_deeper within longer with same | deeper
    · exact .inl same.symm
    · exact .inr (.inr deeper)

/-- As many slashes mean the same location. -/
theorem Within.eq_of_depth_eq {first second path : String} (within : Within first path)
    (other : Within second path) (level : depth first = depth second) : first = second := by
  rcases within.compare other with same | deeper | deeper
  · exact same
  · omega
  · omega

/-- The longer location is the deeper one. -/
theorem Within.length_le_iff {first second path : String} (within : Within first path)
    (other : Within second path) : first.length ≤ second.length ↔ depth first ≤ depth second := by
  rcases within.compare other with rfl | deeper | deeper
  · simp
  · omega
  · omega

end MountHub.Path
