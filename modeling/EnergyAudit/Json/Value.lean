/-! # JSON values

A number without a fraction or an exponent that fits 64 bits is kept as a whole number, every other
number as a double.  Members of an object keep the order of the text, and a key may occur more than
once; `merged` gives the reading in which the last member of a key wins.

Some text is JSON by its grammar and yet stands for no value: a number beyond the range of doubles,
a string with half of a surrogate pair.  It is kept as `unreadable`, since a reader that has no use
for that part of a document need not mind it. -/

namespace EnergyAudit

/-- A JSON document. -/
inductive Json where
  | null
  | bool (value : Bool)
  | int (value : Int)
  | float (value : Float)
  | str (value : String)
  | arr (items : List Json)
  | obj (members : List (String × Json))
  /-- Proper JSON text that stands for no value. -/
  | unreadable

namespace Json

mutual

/-- The document with one member for each key of an object, the last one. -/
def merged : Json → Json
  | .null => .null
  | .bool value => .bool value
  | .int value => .int value
  | .float value => .float value
  | .str value => .str value
  | .arr items => .arr (mergedItems items)
  | .obj members => .obj (mergedMembers members)
  | .unreadable => .unreadable

def mergedItems : List Json → List Json
  | [] => []
  | item :: items => merged item :: mergedItems items

/-- Merges each member and keeps the last one of each key. -/
def mergedMembers : List (String × Json) → List (String × Json)
  | [] => []
  | (key, value) :: members =>
      let rest := mergedMembers members
      if rest.any (·.1 == key) then rest else (key, merged value) :: rest

end

mutual

/-- Whether the document can be read in all its parts, with at most `depth` containers inside one
another. -/
def isReadable (depth : Nat) : Json → Bool
  | .arr items => 0 < depth && areReadable (depth - 1) items
  | .obj members => 0 < depth && membersReadable (depth - 1) members
  | .unreadable => false
  | .null | .bool _ | .int _ | .float _ | .str _ => true

/-- Whether each item can be read. -/
def areReadable (depth : Nat) : List Json → Bool
  | [] => true
  | item :: items => isReadable depth item && areReadable depth items

def membersReadable (depth : Nat) : List (String × Json) → Bool
  | [] => true
  | (_, value) :: members => isReadable depth value && membersReadable depth members

end

def member? (members : List (String × Json)) (key : String) : Option Json :=
  (members.find? (·.1 == key)).map (·.2)

end Json

end EnergyAudit
