import MountHub.Proofs.Path.Ancestor

/-! Paths and places. A path in its one spelling is the text of its place, so that it has no more
and no less in it than the segments of the place; one name more in the path is one segment more in
the place. -/
namespace MountHub.Path

/-- The one spelling of a place. -/
def ofPlace (segments : List Segment) : String := String.ofList (text segments)

/-- What all paths below a path begin with. -/
def folder (path : String) : String := if path = "/" then path else path ++ "/"

/-- The path of a name in the folder of a path. -/
def below (path name : String) : String := folder path ++ name

variable {path name : String} {segments : List Segment}

theorem place_ofPlace (proper : ∀ segment ∈ segments, Proper segment) :
    place (ofPlace segments) = segments := by
  rw [place,ofPlace,String.toList_ofList]
  exact reduce_pieces_text proper

theorem canonical_ofPlace (proper : ∀ segment ∈ segments, Proper segment) :
    Canonical (ofPlace segments) := by
  have same : standardize (ofPlace segments) = ofPlace (place (ofPlace segments)) := rfl
  rw [Canonical,same,place_ofPlace proper]

theorem Canonical.ofPlace_place (canonical : Canonical path) : ofPlace (place path) = path :=
  canonical

/-- The text of a place with something in it: the segments above, a slash, and the rest. -/
theorem text_append_cons (upper : List Segment) (segment : Segment) (more : List Segment) :
    text (upper ++ segment :: more) =
      (upper.flatMap fun piece => '/' :: piece) ++
        '/' :: (segment ++ more.flatMap fun piece => '/' :: piece) := by
  have written : text (upper ++ segment :: more) =
      (upper ++ segment :: more).flatMap fun piece => '/' :: piece := by
    cases upper <;> rfl
  rw [written,List.flatMap_append,List.flatMap_cons,List.cons_append]

theorem Canonical.toList_eq_text (canonical : Canonical path) : path.toList = text (place path) := by
  rw [← String.toList_ofList (l := text (place path))]
  exact congrArg String.toList canonical.symm

theorem Canonical.toList_folder (canonical : Canonical path) :
    (folder path).toList = ((place path).flatMap fun piece => '/' :: piece) ++ ['/'] := by
  unfold folder
  split_ifs with top
  · subst top
    rfl
  · have written := canonical.toList_eq_text
    cases reached : place path with
    | nil =>
      rw [reached] at written
      exact absurd (String.toList_injective written) top
    | cons first more =>
      rw [String.toList_append,written,reached]
      rfl

theorem Canonical.below_eq (canonical : Canonical path) :
    below path name = ofPlace (place path ++ [name.toList]) := by
  apply String.toList_injective
  rw [below,String.toList_append,canonical.toList_folder,ofPlace,String.toList_ofList,
    text_append_cons,List.flatMap_nil,List.append_nil,List.append_assoc]
  rfl

theorem Canonical.place_below (canonical : Canonical path) (proper : Proper name.toList) :
    place (below path name) = place path ++ [name.toList] := by
  rw [canonical.below_eq]
  apply place_ofPlace
  intro segment member
  rcases List.mem_append.mp member with above | last
  · exact proper_place path segment above
  · rw [List.mem_singleton.mp last]
    exact proper

/-- What follows a slash leads on from the place before it. -/
theorem place_append_slash (front back : String) : place (front ++ "/" ++ back) =
    ((pieces back.toList).foldl walk (place front).reverse).reverse := by
  have written : (front ++ "/" ++ back).toList = front.toList ++ '/' :: back.toList := by
    simp
  rw [place,written,pieces_append_cons_slash,reduce,List.foldl_append,place,reduce,
    List.reverse_reverse]

/-- A path in its one spelling leads as far down behind any other as it does from the top. -/
theorem Canonical.place_append (canonical : Canonical path) (front : String) :
    place (front ++ "/" ++ path) = place front ++ place path := by
  rw [place_append_slash]
  by_cases top : path = "/"
  · rw [top]
    simp [pieces,place,reduce]
  · rw [canonical.pieces_eq top,List.foldl_cons,walk_empty,
      foldl_walk_proper (proper_place path)]
    simp

/-- A path in its one spelling begins with the text of a place and a slash, and goes on behind it,
exactly if it leads on from that place; then what follows is the next segment and the rest. -/
theorem Canonical.append_slash_iff (canonical : Canonical path)
    (proper : ∀ segment ∈ segments, Proper segment) {rest : List Char} (filled : rest ≠ []) :
    path.toList = (segments.flatMap fun piece => '/' :: piece) ++ '/' :: rest ↔
      ∃ segment more, place path = segments ++ segment :: more ∧
        rest = segment ++ more.flatMap fun piece => '/' :: piece := by
  constructor
  · intro split
    have read := canonical.pieces_eq (ne_top_of_split split (.inr filled))
    rw [split,pieces_append_cons_slash,
      pieces_flatMap fun segment member => (proper segment member).whole] at read
    obtain ⟨segment,more,next⟩ := List.exists_cons_of_ne_nil (pieces_ne_nil rest)
    rw [next] at read
    exact ⟨segment,more,(List.cons.inj read).2.symm,eq_append_of_pieces next⟩
  · rintro ⟨segment,more,reached,rfl⟩
    rw [canonical.toList_eq_text,reached,text_append_cons]

end MountHub.Path
