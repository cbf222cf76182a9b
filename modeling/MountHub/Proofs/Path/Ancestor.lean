import MountHub.Proofs.Path.Standard
import Mathlib.Data.List.Infix

/-! Starts of paths in their one spelling. What such a path lies below is in its one spelling
itself. The logical path of a mount is where the mount path has no marker, or where the text
before the marker ends in a segment that names a step down, or is the top. -/
namespace MountHub.Path

theorem eq_append_of_pieces {cs : List Char} {first : Segment} {more : List Segment}
    (read : pieces cs = first :: more) : cs = first ++ more.flatMap fun piece => '/' :: piece := by
  induction cs generalizing first more with
  | nil =>
    obtain ⟨rfl,rfl⟩ := List.cons.inj read
    rfl
  | cons c rest ih =>
    simp only [pieces] at read
    split at read
    · rename_i slash
      obtain ⟨rfl,rfl⟩ := List.cons.inj read
      obtain ⟨piece,later,found⟩ := List.exists_cons_of_ne_nil (pieces_ne_nil rest)
      rw [found,List.flatMap_cons,slash]
      exact congrArg ('/' :: ·) (ih found)
    · split at read
      · rename_i none
        exact absurd none (pieces_ne_nil rest)
      · rename_i piece later found
        obtain ⟨rfl,rfl⟩ := List.cons.inj read
        exact congrArg (c :: ·) (ih found)

theorem pieces_append_cons_slash (front back : List Char) :
    pieces (front ++ '/' :: back) = pieces front ++ pieces back := by
  induction front with
  | nil => simp [pieces]
  | cons c rest ih =>
    rw [List.cons_append,pieces,pieces,ih]
    split
    · rfl
    · obtain ⟨piece,later,found⟩ := List.exists_cons_of_ne_nil (pieces_ne_nil rest)
      simp only [found,List.cons_append]

/-- All pieces of the start of a text but the last one are pieces of the text. -/
theorem dropLast_pieces_prefix (front back : List Char) :
    (pieces front).dropLast <+: pieces (front ++ back) := by
  induction front with
  | nil => simp [pieces]
  | cons c rest ih =>
    rw [List.cons_append,pieces,pieces]
    split
    · rw [List.dropLast_cons_of_ne_nil (pieces_ne_nil rest)]
      exact List.cons_prefix_cons.mpr ⟨rfl,ih⟩
    · obtain ⟨piece,later,found⟩ := List.exists_cons_of_ne_nil (pieces_ne_nil rest)
      rw [found] at ih ⊢
      cases later with
      | nil => simp
      | cons next others =>
        rw [List.dropLast_cons_of_ne_nil (by simp)] at ih ⊢
        obtain ⟨tail,reached⟩ := ih
        rw [← reached]
        simp

/-- A text of segments behind slashes is the one spelling of its place. -/
theorem canonical_of_pieces {path : String} {segments : List Segment} (some : segments ≠ [])
    (proper : ∀ segment ∈ segments, Proper segment) (read : pieces path.toList = [] :: segments) :
    Canonical path := by
  have written : path.toList = text segments := by
    rw [eq_append_of_pieces read,text]
    · rfl
    · exact some
  have place : place path = segments := by
    rw [Path.place,written,reduce_pieces_text proper]
  rw [Canonical,standardize,place,← written,String.ofList_toList]

theorem Canonical.pieces_eq {path : String} (canonical : Canonical path) (below : path ≠ "/") :
    pieces path.toList = [] :: place path := by
  have written : path.toList = text (place path) := by
    rw [← String.toList_ofList (l := text (place path))]
    exact congrArg String.toList canonical.symm
  have some : place path ≠ [] := by
    intro top
    rw [top,text] at written
    exact below (String.toList_injective written)
  rw [written,text]
  · exact pieces_flatMap fun segment member => (proper_place path segment member).whole
  · exact some

/-- A path with a slash and something beside it is not the top. -/
theorem ne_top_of_split {path : String} {front rest : List Char}
    (split : path.toList = front ++ '/' :: rest) (longer : front ≠ [] ∨ rest ≠ []) :
    path ≠ "/" := by
  rintro rfl
  have size := congrArg List.length split
  have some : 0 < front.length ∨ 0 < rest.length :=
    longer.imp List.length_pos_iff.mpr List.length_pos_iff.mpr
  simp at size
  omega

/-- What a path in its one spelling lies below is in its one spelling. -/
theorem Canonical.of_below {upper path : String} (canonical : Canonical path)
    (below : (upper ++ "/").toList <+: path.toList) (filled : upper ≠ "") : Canonical upper := by
  obtain ⟨rest,reached⟩ := below
  have split : path.toList = upper.toList ++ '/' :: rest := by
    rw [← reached]
    simp
  have some : upper.toList ≠ [] := by
    intro empty
    exact filled (String.toList_injective (by simpa using empty))
  have read := canonical.pieces_eq (ne_top_of_split split (.inl some))
  rw [split,pieces_append_cons_slash] at read
  obtain ⟨first,segments,found⟩ := List.exists_cons_of_ne_nil (pieces_ne_nil upper.toList)
  rw [found,List.cons_append] at read
  obtain ⟨rfl,places⟩ := List.cons.inj read
  refine canonical_of_pieces ?_ (fun segment member => ?_) found
  · rintro rfl
    exact some (by simpa using eq_append_of_pieces found)
  · exact proper_place path segment (places ▸ List.mem_append_left _ member)

/-- The last piece of a path. -/
def lastPiece (path : String) : Segment :=
  (pieces path.toList).getLast (pieces_ne_nil path.toList)

theorem start_beforeMarker {cs before : List Char} (found : beforeMarker cs = some before) :
    before <+: cs := by
  induction cs generalizing before with
  | nil => cases found
  | cons c rest ih =>
    rw [beforeMarker] at found
    split at found
    · obtain rfl := Option.some.inj found
      exact List.nil_prefix
    · obtain ⟨more,here,rfl⟩ := Option.map_eq_some_iff.mp found
      exact List.cons_prefix_cons.mpr ⟨rfl,ih here⟩

theorem start_actual (mountPath : String) : (actual mountPath).toList <+: mountPath.toList := by
  unfold actual
  split
  · rename_i before found
    rw [String.toList_ofList]
    exact start_beforeMarker found
  · exact List.prefix_rfl

/-- The start of a path in its one spelling is in its one spelling exactly if it is the top, or
its last piece names a step down. -/
theorem Canonical.prefix_iff {upper path : String} (canonical : Canonical path)
    (front : upper.toList <+: path.toList) (filled : upper ≠ "") :
    Canonical upper ↔ upper = "/" ∨ Proper (lastPiece upper) := by
  obtain ⟨more,absolute⟩ : ∃ more, upper.toList = '/' :: more := by
    obtain ⟨rest,start⟩ := canonical.toList_eq
    rw [start] at front
    cases found : upper.toList with
    | nil => exact absurd (String.toList_injective (by simpa using found)) filled
    | cons c more =>
      rw [found] at front
      rw [(List.cons_prefix_cons.mp front).1]
      exact ⟨more,rfl⟩
  constructor
  · intro own
    refine or_iff_not_imp_left.mpr fun deeper => ?_
    have read := own.pieces_eq deeper
    have some : place upper ≠ [] := by
      intro top
      rw [top,absolute,pieces_slash] at read
      exact pieces_ne_nil more (List.cons.inj read).2
    have last : lastPiece upper = (place upper).getLast some := by
      simp only [lastPiece,read,List.getLast_cons some]
    rw [last]
    exact proper_place upper _ (List.getLast_mem some)
  · rintro (rfl | proper)
    · decide
    · obtain ⟨back,split⟩ := front
      by_cases top : path = "/"
      · rw [top,absolute] at split
        have alone : more = [] ∧ back = [] := by simpa using split
        rw [alone.1] at absolute
        obtain rfl : upper = "/" := String.toList_injective absolute
        decide
      · have first := dropLast_pieces_prefix upper.toList back
        rw [split,canonical.pieces_eq top,absolute,pieces_slash,
          List.dropLast_cons_of_ne_nil (pieces_ne_nil more)] at first
        have below := (List.cons_prefix_cons.mp first).2
        have last : lastPiece upper = (pieces more).getLast (pieces_ne_nil more) := by
          simp only [lastPiece,absolute,pieces_slash,List.getLast_cons (pieces_ne_nil more)]
        refine canonical_of_pieces (pieces_ne_nil more) (fun segment member => ?_)
          (by rw [absolute,pieces_slash])
        rw [← List.dropLast_append_getLast (pieces_ne_nil more)] at member
        rcases List.mem_append.mp member with inside | alone
        · exact proper_place path segment (below.subset inside)
        · rw [List.mem_singleton.mp alone,← last]
          exact proper

end MountHub.Path
