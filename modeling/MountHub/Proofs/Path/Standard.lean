import MountHub.Path.Balance
import Mathlib.Data.List.Basic

/-! The standard spelling of a path. Segments that stand for themselves survive
being written and read again, so that standardizing twice changes nothing. -/
namespace MountHub.Path

/-- A segment that names one step down and nothing else. -/
structure Proper (segment : Segment) : Prop where
  filled : segment ≠ []
  notHere : segment ≠ ['.']
  notUp : segment ≠ ['.','.']
  whole : '/' ∉ segment

theorem slash_notMem_pieces {cs : List Char} : ∀ piece ∈ pieces cs, '/' ∉ piece := by
  induction cs with
  | nil => simp [pieces]
  | cons c rest ih =>
    simp only [pieces]
    split
    · simpa using ih
    · rename_i different
      split
      · simpa using Ne.symm different
      · rename_i piece more found
        rw [found] at ih
        intro read member
        rcases List.mem_cons.mp member with rfl | later
        · have kept := ih piece (by simp)
          simp [kept,Ne.symm different]
        · exact ih read (List.mem_cons_of_mem _ later)

theorem proper_walk {reached : List Segment} {piece : Segment}
    (proper : ∀ segment ∈ reached, Proper segment) (whole : '/' ∉ piece) :
    ∀ segment ∈ walk reached piece, Proper segment := by
  unfold walk
  split
  · exact proper
  · rename_i moving
    split
    · exact fun segment member => proper segment (List.mem_of_mem_tail member)
    · rename_i down
      intro segment member
      rcases List.mem_cons.mp member with rfl | before
      · exact ⟨fun empty => moving (.inl empty),fun dot => moving (.inr dot),down,whole⟩
      · exact proper segment before

theorem proper_foldl_walk {read : List Segment} (whole : ∀ piece ∈ read, '/' ∉ piece) :
    ∀ {reached : List Segment}, (∀ segment ∈ reached, Proper segment) →
      ∀ segment ∈ read.foldl walk reached, Proper segment := by
  induction read with
  | nil => exact fun proper => proper
  | cons piece more ih =>
    intro reached proper
    exact ih (fun later member => whole later (List.mem_cons_of_mem _ member))
      (proper_walk proper (whole piece (by simp)))

theorem proper_place (path : String) : ∀ segment ∈ place path, Proper segment := by
  intro segment member
  rw [place,reduce,List.mem_reverse] at member
  exact proper_foldl_walk slash_notMem_pieces (by simp) segment member

/-- A proper segment is pushed as it is. -/
theorem walk_proper {segment : Segment} (proper : Proper segment) (reached : List Segment) :
    walk reached segment = segment :: reached := by
  simp [walk,proper.filled,proper.notHere,proper.notUp]

@[simp] theorem walk_empty (reached : List Segment) : walk reached [] = reached := by
  simp [walk]

theorem foldl_walk_proper {segments : List Segment} (proper : ∀ segment ∈ segments, Proper segment) :
    ∀ reached, segments.foldl walk reached = segments.reverse ++ reached := by
  induction segments with
  | nil => simp
  | cons segment more ih =>
    intro reached
    rw [List.foldl_cons,walk_proper (proper segment (by simp)),
      ih fun later member => proper later (List.mem_cons_of_mem _ member)]
    simp

theorem pieces_append_slash {segment : Segment} (whole : '/' ∉ segment) (rest : List Char) :
    pieces (segment ++ '/' :: rest) = segment :: pieces rest := by
  induction segment with
  | nil => simp
  | cons c more ih =>
    rw [List.mem_cons,not_or] at whole
    simp [pieces,ih whole.2,Ne.symm whole.1]

theorem pieces_of_whole {segment : Segment} (whole : '/' ∉ segment) : pieces segment = [segment] := by
  induction segment with
  | nil => rfl
  | cons c more ih =>
    rw [List.mem_cons,not_or] at whole
    simp [pieces,ih whole.2,Ne.symm whole.1]

/-- Writing segments behind slashes and reading the pieces gives them back, behind
the empty piece that stands before the first slash. -/
theorem pieces_flatMap {segments : List Segment} (whole : ∀ segment ∈ segments, '/' ∉ segment) :
    pieces (segments.flatMap fun segment => '/' :: segment) = [] :: segments := by
  induction segments with
  | nil => rfl
  | cons segment more ih =>
    have later := ih fun other member => whole other (List.mem_cons_of_mem _ member)
    have first := whole segment (by simp)
    rw [List.flatMap_cons,List.cons_append,pieces_slash]
    cases more with
    | nil => simp [pieces_of_whole first]
    | cons next others =>
      rw [List.flatMap_cons,List.cons_append] at later ⊢
      rw [pieces_append_slash first]
      rw [pieces_slash] at later
      rw [List.cons.inj later |>.2]

theorem reduce_pieces_text {segments : List Segment} (proper : ∀ segment ∈ segments, Proper segment) :
    reduce (pieces (text segments)) = segments := by
  cases segments with
  | nil => simp [text,pieces,reduce]
  | cons segment more =>
    rw [text,pieces_flatMap fun other member => (proper other member).whole]
    · simp [reduce,foldl_walk_proper proper]
    · simp

@[simp] theorem place_standardize (path : String) : place (standardize path) = place path := by
  rw [place,standardize,String.toList_ofList]
  exact reduce_pieces_text (proper_place path)

theorem canonical_standardize (path : String) : Canonical (standardize path) := by
  rw [Canonical,standardize,place_standardize,standardize]

theorem text_eq_cons (segments : List Segment) : ∃ rest, text segments = '/' :: rest := by
  cases segments <;> simp [text]

/-- A path in its one spelling is absolute. -/
theorem Canonical.toList_eq {path : String} (canonical : Canonical path) :
    ∃ rest, path.toList = '/' :: rest := by
  rw [← canonical,standardize,String.toList_ofList]
  exact text_eq_cons (place path)

theorem marker_eq_cons : marker = '.' :: ['b','a','l','a','n','c','e'] := by decide

theorem Canonical.actual_ne_empty {path : String} (canonical : Canonical path) :
    actual path ≠ "" := by
  obtain ⟨rest,absolute⟩ := canonical.toList_eq
  have unmarked : marker.isPrefixOf ('/' :: rest) = false := by
    simp [marker_eq_cons,List.isPrefixOf]
  unfold actual
  rw [absolute,beforeMarker,unmarked]
  cases found : beforeMarker rest with
  | none =>
    intro empty
    simp only [Bool.false_eq_true,↓reduceIte,Option.map_none] at empty
    rw [empty] at absolute
    simp at absolute
  | some start =>
    intro empty
    simpa using congrArg String.toList empty

end MountHub.Path
