import MountHub.Text.Quoted

/-! Session tokens: sixteen bytes in base sixteen, in five groups. -/
namespace MountHub

def byteText (byte : UInt8) : List Char :=
  [Nat.digitChar (byte.toNat / 16),Nat.digitChar (byte.toNat % 16)]

def marked (bytes : List UInt8) : List UInt8 :=
  (bytes.modify 6 fun byte => (byte &&& 0x0f) ||| 0x40).modify 8
    fun byte => (byte &&& 0x3f) ||| 0x80

def sessionToken (bytes : List UInt8) : String :=
  let digits := (marked bytes).flatMap byteText
  let group (start size : Nat) := String.ofList ((digits.drop start).take size)
  String.intercalate "-" [group 0 8,group 8 4,group 12 4,group 16 4,group 20 12]

end MountHub
