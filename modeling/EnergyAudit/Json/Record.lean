import EnergyAudit.Count
import EnergyAudit.Decimal.Reading
import EnergyAudit.Json.Value

/-! # Records in JSON

A record is an object with a member for each field, or a list of the fields in their order.  Unknown
members are ignored.  A field may have an old name beside its own; a record that gives a field twice
is refused.  Values are not converted: a whole number does for a double, and nothing else for
anything but its own kind. -/

namespace EnergyAudit.Json

/-- Names of a field, its own name first. -/
structure FieldNames where
  name : String
  aliases : List String := []

def field (name : String) : FieldNames := ⟨name, []⟩

def FieldNames.matches (names : FieldNames) (key : String) : Bool :=
  key == names.name || names.aliases.contains key

/-- The value of the field among the members; `none` if it is there twice. -/
def findField (members : List (String × Json)) (names : FieldNames) : Option (Option Json) :=
  match members.filter (names.matches ·.1) with
  | [] => some none
  | [member] => some (some member.2)
  | _ => none

/-- The values of a record's fields.  A list has to hold all of them, unless the fields have
defaults (`partly`), when the last ones may be missing. -/
def fields? (partly : Bool) (names : List FieldNames) : Json → Option (List (Option Json))
  | .obj members => names.mapM (findField members)
  | .arr items =>
      if items.length == names.length || (partly && items.length < names.length) then
        some (items.map some ++ List.replicate (names.length - items.length) none)
      else none
  | _ => none

def asString? : Json → Option String
  | .str value => some value
  | _ => none

def asBool? : Json → Option Bool
  | .bool value => some value
  | _ => none

/-- The natural number below `bound` that the value is. -/
def asNatBelow? (bound : Nat) : Json → Option Nat
  | .int (.ofNat n) => if n < bound then some n else none
  | _ => none

def asWord64? (value : Json) : Option UInt64 :=
  (asNatBelow? UInt64.size value).map UInt64.ofNat

def asWord32? (value : Json) : Option UInt32 :=
  (asNatBelow? UInt32.size value).map UInt32.ofNat

/-- The signed 64-bit number that the value is. -/
def asSigned64? : Json → Option Int64
  | .int n => Count.signed? n
  | _ => none

/-- The double nearest to a whole number. -/
def doubleOfInt (n : Int) : Float :=
  match n with
  | .ofNat n => Decimal.nearestDouble n 0
  | .negSucc n => -Decimal.nearestDouble (n + 1) 0

def asDouble? : Json → Option Float
  | .float value => some value
  | .int n => some (doubleOfInt n)
  | _ => none

def asList? {α : Type} (decode : Json → Option α) : Json → Option (List α)
  | .arr items => items.mapM decode
  | _ => none

/-- The value named by a string, or by an object with that one key and null. -/
def asTag? {α : Type} (ofName : String → Option α) : Json → Option α
  | .str name => ofName name
  | .obj [(name, .null)] => ofName name
  | _ => none

def required {α : Type} (decode : Json → Option α) (value : Option Json) : Option α :=
  value.bind decode

/-- The value of a field that stands at `default` when it is missing. -/
def withDefault {α : Type} (default : α) (decode : Json → Option α) (value : Option Json) :
    Option α :=
  match value with
  | none => some default
  | some value => decode value

/-- The value of a field that may be missing or null. -/
def optional {α : Type} (decode : Json → Option α) (value : Option Json) : Option (Option α) :=
  match value with
  | none | some .null => some none
  | some value => (decode value).map some

/-- A whole number that is a 64-bit word. -/
def ofWord64 (n : UInt64) : Json := .int n.toNat

/-- A whole number that is a 32-bit word. -/
def ofWord32 (n : UInt32) : Json := .int n.toNat

/-- A whole number that is a signed 64-bit number. -/
def ofSigned64 (n : Int64) : Json := .int n.toInt

end EnergyAudit.Json
