import EnergyAudit.Decimal.Layout
import EnergyAudit.Json.Value

/-! # Printing JSON

Documents are printed with two spaces of indentation for each container, a key and its value on one
line, and empty containers as a pair of brackets.  Strings escape the quote, the backslash and the
control characters below the space.  Infinities and NaN have no number in JSON and print as null,
as does what was unreadable. -/

namespace EnergyAudit.Json

/-- A hexadecimal digit, in small letters. -/
def hexChar (n : Nat) : Char :=
  if n < 10 then Char.ofNat ('0'.toNat + n) else Char.ofNat ('a'.toNat + (n - 10))

/-- How a character is written inside a string. -/
def escape (c : Char) : List Char :=
  match c with
  | '"' => ['\\', '"']
  | '\\' => ['\\', '\\']
  | '\x08' => ['\\', 'b']
  | '\x0c' => ['\\', 'f']
  | '\n' => ['\\', 'n']
  | '\r' => ['\\', 'r']
  | '\t' => ['\\', 't']
  | c =>
      if c < ' ' then ['\\', 'u', '0', '0', hexChar (c.toNat / 16), hexChar (c.toNat % 16)] else [c]

def quote (s : String) : List Char :=
  '"' :: s.toList.flatMap escape ++ ['"']

/-- Spaces at the start of a line inside `depth` containers. -/
def indent (depth : Nat) : List Char :=
  List.replicate (2 * depth) ' '

def floatText (x : Float) : List Char :=
  ((Decimal.json? x).getD "null").toList

mutual

/-- The document as it stands inside `depth` containers. -/
def print (depth : Nat) : Json → List Char
  | .null => "null".toList
  | .bool true => "true".toList
  | .bool false => "false".toList
  | .int value => (toString value).toList
  | .float value => floatText value
  | .str value => quote value
  | .unreadable => "null".toList
  | .arr [] => ['[', ']']
  | .arr (item :: items) =>
      '[' :: '\n' :: indent (depth + 1) ++ print (depth + 1) item ++ printItems depth items
  | .obj [] => ['{', '}']
  | .obj ((key, value) :: members) =>
      '{' :: '\n' :: indent (depth + 1) ++ quote key ++ ':' :: ' ' :: print (depth + 1) value
        ++ printMembers depth members

def printItems (depth : Nat) : List Json → List Char
  | [] => '\n' :: indent depth ++ [']']
  | item :: items =>
      ',' :: '\n' :: indent (depth + 1) ++ print (depth + 1) item ++ printItems depth items

/-- The members after the first one, and the end of the object. -/
def printMembers (depth : Nat) : List (String × Json) → List Char
  | [] => '\n' :: indent depth ++ ['}']
  | (key, value) :: members =>
      ',' :: '\n' :: indent (depth + 1) ++ quote key ++ ':' :: ' ' :: print (depth + 1) value
        ++ printMembers depth members

end

def render (document : Json) : String :=
  String.ofList (print 0 document)

/-- Puts a member in front of the first one with a greater key. -/
def insertByKey (member : String × Json) : List (String × Json) → List (String × Json)
  | [] => [member]
  | other :: members =>
      if member.1 < other.1 then member :: other :: members
      else other :: insertByKey member members

mutual

/-- The document with the members of every object in the order of their keys. -/
def sorted : Json → Json
  | .null => .null
  | .bool value => .bool value
  | .int value => .int value
  | .float value => .float value
  | .str value => .str value
  | .arr items => .arr (sortedItems items)
  | .obj members => .obj (sortedMembers members)
  | .unreadable => .unreadable

def sortedItems : List Json → List Json
  | [] => []
  | item :: items => sorted item :: sortedItems items

def sortedMembers : List (String × Json) → List (String × Json)
  | [] => []
  | (key, value) :: members => insertByKey (key, sorted value) (sortedMembers members)

end

end EnergyAudit.Json
