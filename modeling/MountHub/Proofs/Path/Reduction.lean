import MountHub.Proofs.Path.Place
import Mathlib.Logic.Function.Iterate
import Mathlib.Logic.Relation

/-! Reducing the pieces of a path. Empty pieces and `.` fall out, and `..` cancels the name before
it, or falls out at the top. In whatever order that is done, a list of pieces comes to one list of
names, which is the place that the path leads to; so the one spelling of a path is what its names
say and nothing else. -/
namespace MountHub.Path

variable {path : String} {all next names : List Segment}

/-- The top, or names that each stand behind a slash. -/
def Spelled (path : String) : Prop :=
  path = "/" ∨ ∃ names, names ≠ [] ∧ (∀ name ∈ names, Proper name) ∧
    path.toList = names.flatMap fun name => '/' :: name

/-- One simplification, at any place of a list of pieces. -/
inductive Simplifies : List Segment → List Segment → Prop
  | empty (upper lower : List Segment) : Simplifies (upper ++ [] :: lower) (upper ++ lower)
  | here (upper lower : List Segment) : Simplifies (upper ++ ['.'] :: lower) (upper ++ lower)
  | back {name : Segment} (proper : Proper name) (upper lower : List Segment) :
      Simplifies (upper ++ name :: ['.','.'] :: lower) (upper ++ lower)
  | top (lower : List Segment) : Simplifies (['.','.'] :: lower) lower

/-- A list comes to another one by simplifications, and no more of them is left. -/
structure Reduces (all names : List Segment) : Prop where
  steps : Relation.ReflTransGen Simplifies all names
  ended : ∀ next, ¬ Simplifies names next

theorem canonical_iff_spelled : Canonical path ↔ Spelled path := by
  constructor
  · intro canonical
    refine or_iff_not_imp_left.mpr fun below => ?_
    have read := canonical.pieces_eq below
    refine ⟨place path,?_,proper_place path,by simpa using eq_append_of_pieces read⟩
    intro top
    have written := canonical.toList_eq_text
    rw [top] at written
    exact below (String.toList_injective written)
  · rintro (rfl | ⟨names,some,proper,written⟩)
    · decide
    · refine canonical_of_pieces some proper ?_
      rw [written]
      exact pieces_flatMap fun name member => (proper name member).whole

theorem standardize_eq_iff {first second : String} :
    standardize first = standardize second ↔ place first = place second := by
  constructor
  · intro same
    rw [← place_standardize first,same,place_standardize]
  · intro same
    rw [standardize,standardize,same]

namespace Simplifies

/-- Where a simplification is possible, a piece is no name. -/
theorem exists_improper (step : Simplifies all next) : ∃ piece ∈ all, ¬ Proper piece := by
  cases step with
  | empty => exact ⟨[],by simp,fun proper => proper.filled rfl⟩
  | here => exact ⟨['.'],by simp,fun proper => proper.notHere rfl⟩
  | back | top => exact ⟨['.','.'],by simp,fun proper => proper.notUp rfl⟩

theorem subset (step : Simplifies all next) : next ⊆ all := by
  cases step with
  | empty upper lower | here upper lower => simp
  | back _ upper lower =>
    exact List.append_subset.mpr ⟨by simp,fun piece member => by simp [member]⟩
  | top lower => simp

/-- The walk through the pieces comes to the same place with a simplification and without. -/
theorem reduce_eq (step : Simplifies all next) : reduce all = reduce next := by
  cases step with
  | empty upper lower => simp [reduce]
  | here upper lower => simp [reduce,walk]
  | back proper upper lower =>
    rw [reduce,reduce,List.foldl_append,List.foldl_append,List.foldl_cons,walk_proper proper]
    simp [walk]
  | top lower => simp [reduce,walk]

end Simplifies

/-- What the walk has behind it are names, and what is before it is left as it is; each step of
the walk is a simplification, unless a name is added to the names. -/
theorem steps_foldl_walk {more : List Segment} (whole : ∀ piece ∈ more, '/' ∉ piece) :
    ∀ {reached : List Segment}, (∀ segment ∈ reached, Proper segment) →
      Relation.ReflTransGen Simplifies (reached.reverse ++ more) (more.foldl walk reached).reverse := by
  induction more with
  | nil =>
    intro reached _
    rw [List.append_nil]
    exact .refl
  | cons piece more ih =>
    intro reached proper
    have rest := ih (fun later member => whole later (List.mem_cons_of_mem _ member))
      (proper_walk proper (whole piece (by simp)))
    rw [List.foldl_cons]
    by_cases staying : piece = [] ∨ piece = ['.']
    · have stays : walk reached piece = reached := if_pos staying
      rw [stays] at rest ⊢
      rcases staying with rfl | rfl
      · exact .head (.empty _ _) rest
      · exact .head (.here _ _) rest
    · by_cases up : piece = ['.','.']
      · subst up
        have left : walk reached ['.','.'] = reached.tail := rfl
        rw [left] at rest ⊢
        cases reached with
        | nil => exact .head (.top _) rest
        | cons name above =>
          rw [List.reverse_cons,List.append_assoc]
          exact .head (.back (proper name (by simp)) _ _) rest
      · have added : walk reached piece = piece :: reached := by
          rw [walk,if_neg staying,if_neg up]
        rw [added] at rest ⊢
        rw [List.reverse_cons,List.append_assoc] at rest
        exact rest

theorem reduces_reduce (whole : ∀ piece ∈ all, '/' ∉ piece) : Reduces all (reduce all) where
  steps := @steps_foldl_walk all whole [] nofun
  ended next step := by
    obtain ⟨name,member,improper⟩ := step.exists_improper
    rw [reduce,List.mem_reverse] at member
    exact improper (proper_foldl_walk whole (by simp) name member)

/-- In whatever order the pieces are simplified, they come to the same names. -/
theorem Reduces.eq_reduce (reduces : Reduces all names) (whole : ∀ piece ∈ all, '/' ∉ piece) :
    names = reduce all := by
  obtain ⟨steps,ended⟩ := reduces
  have kept : reduce all = reduce names ∧ ∀ piece ∈ names, '/' ∉ piece := by
    clear ended
    induction steps with
    | refl => exact ⟨rfl,whole⟩
    | tail _ step ih => exact ⟨ih.1.trans step.reduce_eq,fun piece member =>
        ih.2 piece (step.subset member)⟩
  rw [kept.1]
  rcases (reduces_reduce kept.2).steps.cases_head with same | ⟨next,step,_⟩
  · exact same
  · exact absurd step (ended next)

theorem reduces_iff : Reduces (pieces path.toList) names ↔ names = place path := by
  constructor
  · exact fun reduces => reduces.eq_reduce slash_notMem_pieces
  · rintro rfl
    exact reduces_reduce slash_notMem_pieces

theorem place_append_up (path : String) : place (path ++ "/..") = (place path).dropLast := by
  have split : path ++ "/.." = path ++ "/" ++ ".." := by
    rw [String.append_assoc]
    rfl
  rw [split,place_append_slash]
  change ((place path).reverse.tail).reverse = (place path).dropLast
  rw [List.tail_reverse,List.reverse_reverse]

/-- Steps up leave one name after the other, and at the top there is none to leave. -/
theorem place_iterate_up (path : String) (count : Nat) :
    place ((· ++ "/..")^[count] path) = (place path).take ((place path).length - count) := by
  induction count with
  | zero => simp
  | succ count ih =>
    rw [Function.iterate_succ_apply',place_append_up,ih,List.dropLast_eq_take,List.take_take,
      List.length_take]
    congr 1
    omega

/-- The laws of the one spelling. It is the top, or names behind slashes; paths that are so written
are the ones that stay as they are, and the ones that any path comes to. A path behind another one
leads on from where that one leads to, and steps up do not lead above the top. Two paths are
spelled alike exactly if their pieces come to the same names, once nothing is left to simplify;
and they come to some, and to no others. -/
theorem standardize_one_spelling (path other : String) :
    Spelled (standardize path) ∧ (standardize path = path ↔ Spelled path) ∧
    standardize (standardize path) = standardize path ∧
    ((∃ given, standardize given = path) ↔ Spelled path) ∧
    standardize (path ++ "/" ++ other) = standardize (standardize path ++ "/" ++ other) ∧
    (∀ count, place ((· ++ "/..")^[count] path) = (place path).take ((place path).length - count)) ∧
    (∃! names, Reduces (pieces path.toList) names) ∧
    (standardize path = standardize other ↔
      ∃ names, Reduces (pieces path.toList) names ∧ Reduces (pieces other.toList) names) := by
  have again : Canonical (standardize path) := canonical_standardize path
  refine ⟨canonical_iff_spelled.mp again,canonical_iff_spelled,again,?_,?_,
    place_iterate_up path,?_,?_⟩
  · rw [← canonical_iff_spelled]
    constructor
    · rintro ⟨given,rfl⟩
      exact canonical_standardize given
    · exact fun canonical => ⟨path,canonical⟩
  · rw [standardize_eq_iff,place_append_slash,place_append_slash,place_standardize]
  · exact ⟨place path,reduces_iff.mpr rfl,fun names reduces => reduces_iff.mp reduces⟩
  · rw [standardize_eq_iff]
    simp only [reduces_iff,exists_eq_left]

end MountHub.Path
