import KernelLink.Json.Number

namespace KernelLink

/-- A JSON value. The members of an object stand in the order and number in which they were
written. -/
inductive Json where
  | null
  | bool (value : Bool)
  | number (value : Number)
  | text (value : String)
  | array (items : List Json)
  | object (members : List (String × Json))
  deriving Repr, Inhabited

namespace Json

/-- The member of that key, if the value is an object that has one. -/
def field? (j : Json) (key : String) : Option Json :=
  match j with
  | .object members => members.lookup key
  | _ => none

def text? : Json → Option String
  | .text s => some s
  | _ => none

def items? : Json → Option (List Json)
  | .array items => some items
  | _ => none

/-- The integer that the value is, if it fits in 64 bits with a sign. -/
def signed64? : Json → Option Int
  | .number (.integer i) => if i < Nat.pow 2 63 then some i else none
  | _ => none

def ofNat (n : Nat) : Json := .number (.integer n)

end Json

/-- A character as it is written inside a JSON string. -/
def escapedChar (c : Char) : Bytes :=
  if c = '"' then [octet '\\', octet '"']
  else if c = '\\' then [octet '\\', octet '\\']
  else if c = '\x08' then [octet '\\', octet 'b']
  else if c = '\x0c' then [octet '\\', octet 'f']
  else if c = '\n' then [octet '\\', octet 'n']
  else if c = '\r' then [octet '\\', octet 'r']
  else if c = '\t' then [octet '\\', octet 't']
  else if c.toNat < 32 then
    octet '\\' :: octet 'u' :: octet '0' :: octet '0' :: Bytes.hex [c.val.toUInt8]
  else String.utf8EncodeChar c

/-- A text as a JSON string. -/
def quotedText (s : String) : Bytes :=
  octet '"' :: s.toList.flatMap escapedChar ++ [octet '"']

namespace Json

mutual

/-- The compact form: no blanks, members in the order in which they stand. -/
def write : Json → Bytes
  | .null => Bytes.ofString "null"
  | .bool b => Bytes.ofString (if b then "true" else "false")
  | .number n => Bytes.ofString n.text
  | .text s => quotedText s
  | .array [] => [octet '[', octet ']']
  | .array (j :: rest) => octet '[' :: write j ++ writeItems rest
  | .object [] => [octet '\x7b', octet '\x7d']
  | .object ((key, j) :: rest) =>
    octet '\x7b' :: quotedText key ++ octet ':' :: write j ++ writeMembers rest

/-- The items after the first, up to the closing bracket. -/
def writeItems : List Json → Bytes
  | [] => [octet ']']
  | j :: rest => octet ',' :: write j ++ writeItems rest

/-- The members after the first, up to the closing brace. -/
def writeMembers : List (String × Json) → Bytes
  | [] => [octet '\x7d']
  | (key, j) :: rest =>
    octet ',' :: quotedText key ++ octet ':' :: write j ++ writeMembers rest

end

end Json
end KernelLink
