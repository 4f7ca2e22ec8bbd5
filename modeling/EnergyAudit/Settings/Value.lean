import EnergyAudit.Json.Value

/-! # Configuration values

Configuration files and the environment are read into values of one kind, which settings are taken
from later on. -/

namespace EnergyAudit

/-- A value in a configuration. -/
inductive ConfigValue where
  | null
  | bool (value : Bool)
  | int (value : Int)
  | float (value : Float)
  | str (value : String)
  | list (items : List ConfigValue)
  | table (members : List (String × ConfigValue))

namespace ConfigValue

/-- The members of a table; none of anything else. -/
def members : ConfigValue → List (String × ConfigValue)
  | .table members => members
  | _ => []

/-- The items of a list; none of anything else. -/
def items : ConfigValue → List ConfigValue
  | .list items => items
  | _ => []

def get? (members : List (String × ConfigValue)) (key : String) : Option ConfigValue :=
  (members.find? (·.1 == key)).map (·.2)

/-- The members with the value at the key, in place of what was there. -/
def put (key : String) (value : ConfigValue) :
    List (String × ConfigValue) → List (String × ConfigValue)
  | [] => [(key, value)]
  | member :: rest =>
      if member.1 == key then (key, value) :: rest else member :: put key value rest

/-- Least whole number of the configuration. -/
def leastInt : Int := Int64.minValue.toInt

/-- Greatest whole number of the configuration. -/
def greatestInt : Int := Int64.maxValue.toInt

/-- Whether a whole number is one of the configuration. -/
def fits (n : Int) : Bool := leastInt ≤ n && n ≤ greatestInt

mutual

/-- A JSON document as a configuration value.  A number that does not fit becomes a double. -/
def ofJson (toDouble : Int → Float) : Json → ConfigValue
  | .null | .unreadable => .null
  | .bool value => .bool value
  | .int value => if fits value then .int value else .float (toDouble value)
  | .float value => .float value
  | .str value => .str value
  | .arr items => .list (ofJsonItems toDouble items)
  | .obj members => .table (ofJsonMembers toDouble members)

def ofJsonItems (toDouble : Int → Float) : List Json → List ConfigValue
  | [] => []
  | item :: items => ofJson toDouble item :: ofJsonItems toDouble items

def ofJsonMembers (toDouble : Int → Float) : List (String × Json) → List (String × ConfigValue)
  | [] => []
  | (key, value) :: members => (key, ofJson toDouble value) :: ofJsonMembers toDouble members

end

end ConfigValue

end EnergyAudit
