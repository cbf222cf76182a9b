import MountHub.Text.Digits

/-! How a database is asked for: by the path of its file, or by an address that begins
with `file:`. In an address a byte may be written as a percent sign and two digits, and
options may follow a question mark. -/
namespace MountHub.Files

inductive Access where
  | read
  | write
  /-- To write, and to make the file if it is not there. -/
  | create
  | memory
deriving DecidableEq, Inhabited

def Access.rank : Access → Nat
  | .read => 1
  | .write => 2
  | .create => 6
  | .memory => 128

structure Address where
  path : String
  hasOptions : Bool := false
  access : Access := .create
  shared : Bool := false
  backend : String := "unix"
  /-- Whether the file is taken to never change. -/
  frozen : Bool := false
  lockless : Bool := false
  /-- Whether the index of a log is only read. -/
  readsIndex : Bool := false
  model : Option String := none
deriving DecidableEq, Inhabited

namespace Address

def digit? (byte : UInt8) : Option UInt8 :=
  if 0x30 ≤ byte ∧ byte ≤ 0x39 then some (byte - 0x30)
  else if 0x41 ≤ byte ∧ byte ≤ 0x46 then some (byte - 0x37)
  else if 0x61 ≤ byte ∧ byte ≤ 0x66 then some (byte - 0x57)
  else none

/-- The bytes that a part of an address stands for. A zero byte ends the part. -/
def decode : List UInt8 → List UInt8
  | [] => []
  | 0x25 :: high :: low :: rest =>
    match digit? high,digit? low with
    | some high,some low =>
      let byte := high * 16 + low
      if byte = 0 then [] else byte :: decode rest
    | _,_ => 0x25 :: decode (high :: low :: rest)
  | byte :: rest => byte :: decode rest

/-- Bytes as text. Bytes that are no text stand for characters that no text has. -/
def textOf (bytes : List UInt8) : String :=
  match String.fromUTF8? ⟨bytes.toArray⟩ with
  | some text => text
  | none => String.ofList (bytes.map fun byte =>
      Char.ofNat (if byte < 0x80 then byte.toNat else 0x10ff00 + byte.toNat))

def split (mark : UInt8) : List UInt8 → List (List UInt8)
  | [] => [[]]
  | byte :: rest =>
    if byte = mark then [] :: split mark rest
    else match split mark rest with
      | first :: more => (byte :: first) :: more
      | [] => [[byte]]

def option (bytes : List UInt8) : String × String :=
  (textOf (decode (bytes.takeWhile (· ≠ 0x3d))),
    textOf (decode ((bytes.dropWhile (· ≠ 0x3d)).drop 1)))

/-- Options with a name; those without are passed over. -/
def options (bytes : List UInt8) : List (String × String) :=
  ((split 0x26 bytes).map option).filter fun option => option.1 ≠ ""

def isHexadecimal (c : Char) : Bool := (Text.digit? c).isSome

/-- The number that a text begins with, in base sixteen behind `0x`; zero instead of one
that has more than 31 bits. -/
def leadingNumber (text : List Char) : Nat :=
  let value := match text with
    | '0' :: 'x' :: digits | '0' :: 'X' :: digits =>
      Text.number 16 (digits.takeWhile isHexadecimal)
    | digits => Text.number 10 (digits.takeWhile Char.isDigit)
  if value < 0x80000000 then value else 0

/-- Whether a value says yes. Of a number the last byte counts. -/
def isYes (value : String) : Bool :=
  if (value.toList.head?.map Char.isDigit).getD false then leadingNumber value.toList % 256 ≠ 0
  else ["on","yes","true"].contains (String.ofList (value.toList.map Char.toLower))

def accessOf? (value : String) : Option Access :=
  [("ro",Access.read),("rw",.write),("rwc",.create),("memory",.memory)].lookup value

def apply (address : Address) : String × String → Except String Address
  | ("vfs",backend) => .ok { address with backend }
  | ("cache","shared") => .ok { address with shared := true }
  | ("cache","private") => .ok { address with shared := false }
  | ("cache",value) => .error ("no such cache mode: " ++ value)
  | ("mode",value) =>
    match accessOf? value with
    | none => .error ("no such access mode: " ++ value)
    | some .memory => .ok { address with access := .memory }
    | some access =>
      if access.rank ≤ address.access.rank then .ok { address with access }
      else .error ("access mode not allowed: " ++ value)
  | _ => .ok address

def backends : List String := ["unix","unix-none","unix-dotfile","unix-excl","memdb"]

def withoutHost (bytes : List UInt8) : Except String (List UInt8) :=
  match bytes with
  | 0x2f :: 0x2f :: rest =>
    let host := rest.takeWhile (· ≠ 0x2f)
    if host = [] ∨ textOf host = "localhost" then .ok (rest.drop host.length)
    else .error ("invalid uri authority: " ++ textOf host)
  | bytes => .ok bytes

/-- Reads what follows `file:`. What follows a number sign is passed over. -/
def readOptions (bytes : List UInt8) : Except String Address := do
  let bytes := (← withoutHost bytes).takeWhile (· ≠ 0x23)
  let path := textOf (decode (bytes.takeWhile (· ≠ 0x3f)))
  let given := options ((bytes.dropWhile (· ≠ 0x3f)).drop 1)
  let address ← given.foldlM apply { path, hasOptions := true }
  if backends.contains address.backend then
    .ok { address with
      frozen := (given.lookup "immutable").any isYes
      lockless := (given.lookup "nolock").any isYes
      readsIndex := (given.lookup "readonly_shm").any isYes
      model := given.lookup "modeof" }
  else .error ("no such vfs: " ++ address.backend)

def read (name : String) : Except String Address :=
  match name.toUTF8.toList with
  | 0x66 :: 0x69 :: 0x6c :: 0x65 :: 0x3a :: bytes => readOptions bytes
  | _ => .ok { path := name }

def inMemory : String := ":memory:"

/-- Whether the database is in memory whatever keeps files. -/
def isTemporary (address : Address) : Bool :=
  address.path = "" || address.path = inMemory || address.access = .memory

def isInMemory (address : Address) : Bool :=
  address.isTemporary || address.backend = "memdb"

def storeName? (address : Address) : Option (List String) :=
  if address.isTemporary || address.backend ≠ "memdb" then none
  else match address.path.toList with
    | '/' :: _ :: _ | '\\' :: _ :: _ => some ["store",address.path]
    | _ => none

/-- The name of the cache for a database with a full path, if it is shared. -/
def cacheName? (address : Address) (path : String) : Option (String × String) :=
  if address.shared && path ≠ "" then some (address.backend,path) else none

def isReadOnly (address : Address) : Bool :=
  address.access = .read || (address.frozen && !address.isTemporary)

end Address
end MountHub.Files
