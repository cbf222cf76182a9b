/-! JSON values and their compact text. -/
namespace MountHub.Json

/-- A value with whole numbers only; the fields of an object keep their order. -/
inductive Value where
  | null
  | bool (value : Bool)
  | number (value : Int)
  | string (value : String)
  | array (items : List Value)
  | object (fields : List (String × Value))
deriving Inhabited

/-- One character of a string: quote, backslash and controls are escaped, all
else stands for itself. -/
def escaped (c : Char) : List Char :=
  if c = '"' then ['\\','"']
  else if c = '\\' then ['\\','\\']
  else if c = '\x08' then ['\\','b']
  else if c = '\t' then ['\\','t']
  else if c = '\n' then ['\\','n']
  else if c = '\x0c' then ['\\','f']
  else if c = '\r' then ['\\','r']
  else if c.toNat < 0x20 then
    ['\\','u','0','0',Nat.digitChar (c.toNat / 16),Nat.digitChar (c.toNat % 16)]
  else [c]

def quotedText (text : String) : List Char :=
  '"' :: (text.toList.flatMap escaped ++ ['"'])

mutual
/-- The compact text of a value: no blanks anywhere outside strings. -/
def Value.chars : Value → List Char
  | .null => ['n','u','l','l']
  | .bool true => ['t','r','u','e']
  | .bool false => ['f','a','l','s','e']
  | .number value => (toString value).toList
  | .string value => quotedText value
  | .array items => '[' :: (itemsChars items ++ [']'])
  | .object fields => '{' :: (fieldsChars fields ++ ['}'])

def itemsChars : List Value → List Char
  | [] => []
  | [item] => item.chars
  | item :: more => item.chars ++ ',' :: itemsChars more

def fieldsChars : List (String × Value) → List Char
  | [] => []
  | [(name,value)] => quotedText name ++ ':' :: value.chars
  | (name,value) :: more => quotedText name ++ ':' :: (value.chars ++ ',' :: fieldsChars more)
end

def Value.text (value : Value) : String := String.ofList value.chars

end MountHub.Json
