/-! Virtual paths. A path is read as its pieces between slashes, and the pieces
are reduced to the segments of an absolute place in the tree. -/
namespace MountHub.Path

abbrev Segment := List Char

/-- The pieces of a text between its slashes, empty ones included. -/
def pieces : List Char → List Segment
  | [] => [[]]
  | c :: rest =>
    if c = '/' then [] :: pieces rest
    else match pieces rest with
      | [] => [[c]]
      | piece :: more => (c :: piece) :: more

/-- Adds one piece to the segments walked so far, the last one first: empty
pieces and `.` stay where they are, `..` leaves the last segment, and leaving
the top stays at the top. -/
def walk (reached : List Segment) (piece : Segment) : List Segment :=
  if piece = [] ∨ piece = ['.'] then reached
  else if piece = ['.', '.'] then reached.tail
  else piece :: reached

/-- The place that a list of pieces leads to, from the top. -/
def reduce (all : List Segment) : List Segment :=
  (all.foldl walk []).reverse

/-- The text of a place: each segment behind a slash, and one slash for the top. -/
def text : List Segment → List Char
  | [] => ['/']
  | place => place.flatMap fun segment => '/' :: segment

def place (path : String) : List Segment :=
  reduce (pieces path.toList)

/-- The one spelling of a path: absolute, without empty or dotted segments and
without a slash at its end. -/
def standardize (path : String) : String :=
  String.ofList (text (place path))

def Canonical (path : String) : Prop := standardize path = path

instance (path : String) : Decidable (Canonical path) :=
  inferInstanceAs (Decidable (standardize path = path))

def depth (path : String) : Nat := path.toList.count '/'

/-- What follows `start` in `path`, when `path` begins with it. -/
def after? (start path : String) : Option (List Char) :=
  start.toList.isPrefixOf? path.toList

theorem pieces_ne_nil (cs : List Char) : pieces cs ≠ [] := by
  cases cs with
  | nil => simp [pieces]
  | cons c rest =>
    simp only [pieces]
    split
    · simp
    · split <;> simp

@[simp] theorem pieces_slash (rest : List Char) : pieces ('/' :: rest) = [] :: pieces rest := by
  simp [pieces]

end MountHub.Path
