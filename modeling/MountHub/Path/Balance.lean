import MountHub.Path.Basic

/-! Balance groups. Mounts that stand for one logical path are told apart by a
marker and whatever follows it, as in `/movies.balance2`. -/
namespace MountHub.Path

/-- The text that starts the distinguishing end of a group member's mount path. -/
def marker : List Char := ".balance".toList

/-- What stands before the first marker, if there is one. -/
def beforeMarker : List Char → Option (List Char)
  | [] => none
  | c :: rest =>
    if marker.isPrefixOf (c :: rest) then some []
    else (beforeMarker rest).map (c :: ·)

def isBalance (mountPath : String) : Bool :=
  (beforeMarker mountPath.toList).isSome

/-- A mount path up to its first marker: the logical path that the members of
one group share. -/
def actual (mountPath : String) : String :=
  match beforeMarker mountPath.toList with
  | some start => String.ofList start
  | none => mountPath

theorem actual_of_not_isBalance {mountPath : String} (plain : isBalance mountPath = false) :
    actual mountPath = mountPath := by
  unfold isBalance at plain
  unfold actual
  split
  · rename_i found
    simp [found] at plain
  · rfl

end MountHub.Path
