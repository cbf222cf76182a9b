/-! Parts of a text by the bytes that its characters take in UTF-8. A cut may fall inside
of a character; then there is no part. -/
namespace MountHub.Text

def byteLength : List Char → Nat
  | [] => 0
  | c :: text => c.utf8Size + byteLength text

def takeBytes? : Nat → List Char → Option (List Char)
  | 0,_ => some []
  | _ + 1,[] => none
  | bytes + 1,c :: text =>
    if c.utf8Size ≤ bytes + 1 then (takeBytes? (bytes + 1 - c.utf8Size) text).map (c :: ·)
    else none
termination_by _ text => text.length

def dropBytes? : Nat → List Char → Option (List Char)
  | 0,text => some text
  | _ + 1,[] => none
  | bytes + 1,c :: text =>
    if c.utf8Size ≤ bytes + 1 then dropBytes? (bytes + 1 - c.utf8Size) text else none
termination_by _ text => text.length

def between? (start stop : Nat) (text : List Char) : Option (List Char) := do
  takeBytes? (stop - start) (← dropBytes? start text)

end MountHub.Text
