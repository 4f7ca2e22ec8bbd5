import EnergyAudit.Json.Printer
import EnergyAudit.Json.Record
import EnergyAudit.Text.Quoted

/-! # Mismatches between values and records

A value that is no record of the wanted kind has a first mismatch.  The members of an object are
looked at in the order of their keys, the items of a list in their own. -/

namespace EnergyAudit.Json

/-- What a field of a record holds. -/
inductive FieldKind where
  | string
  | double
  | word64
  /-- One of the names, or null. -/
  | optionalName (known : List String)
deriving DecidableEq, Repr

/-- The fields of a record with what they hold, in their order. -/
structure RecordShape where
  title : String
  fields : List (FieldNames × FieldKind)

/-- Where a value differs from what is wanted. -/
inductive Mismatch where
  /-- The value is of another kind. -/
  | kind (found : Json) (wanted : String)
  /-- The value is of the kind, but not one of the wanted ones. -/
  | value (found : Json) (wanted : String)
  | unknownName (name : String) (known : List String)
  | fieldTwice (name : String)
  | tooManyItems (count : Nat)

/-- A value as a complaint shows it. -/
def shown : Json → String
  | .null | .unreadable => "null"
  | .bool value => "boolean `" ++ (if value then "true" else "false") ++ "`"
  | .int value => "integer `" ++ toString value ++ "`"
  | .float value => "floating point `" ++ String.ofList (floatText value) ++ "`"
  | .str value => "string " ++ Text.quoted value
  | .arr _ => "sequence"
  | .obj _ => "map"

/-- The names that are known, as a complaint shows them. -/
def alternatives : List String → String
  | [] => "nothing"
  | [a] => "`" ++ a ++ "`"
  | [a, b] => "`" ++ a ++ "` or `" ++ b ++ "`"
  | names => "one of " ++ ", ".intercalate (names.map fun name => "`" ++ name ++ "`")

def Mismatch.message : Mismatch → String
  | .kind found wanted => "invalid type: " ++ found.shown ++ ", expected " ++ wanted
  | .value found wanted => "invalid value: " ++ found.shown ++ ", expected " ++ wanted
  | .unknownName name known =>
      "unknown variant `" ++ name ++ "`, expected " ++ alternatives known
  | .fieldTwice name => "duplicate field `" ++ name ++ "`"
  | .tooManyItems count =>
      "invalid length " ++ toString count ++ ", expected fewer elements in array"

/-- The mismatch of a value that is to be a natural number of 64 bits. -/
def wordMismatch? : Json → Option Mismatch
  | .int (.ofNat n) =>
      if n < UInt64.size then none else some (.value (.int n) "usize")
  | .int n => some (.value (.int n) "usize")
  | found => some (.kind found "usize")

def nameMismatch? (known : List String) (name : String) : Option Mismatch :=
  if known.contains name then none else some (.unknownName name known)

def optionalNameMismatch? (known : List String) : Json → Option Mismatch
  | .null => none
  | .str name => nameMismatch? known name
  | .obj [(name, inner)] =>
      (nameMismatch? known name).or
        (match inner with
          | .null => none
          | inner => some (.kind inner "unit"))
  | .obj members => some (.value (.obj members) "map with a single key")
  | found => some (.kind found "string or map")

def FieldKind.mismatch? (kind : FieldKind) (value : Json) : Option Mismatch :=
  match kind, value with
  | .string, .str _ => none
  | .string, found => some (.kind found "a string")
  | .double, .float _ | .double, .int _ => none
  | .double, found => some (.kind found "f64")
  | .word64, found => wordMismatch? found
  | .optionalName known, found => optionalNameMismatch? known found

/-- The first mismatch among the members, where the fields in `seen` have had their values. -/
def RecordShape.memberMismatch? (shape : RecordShape) (seen : List String) :
    List (String × Json) → Option Mismatch
  | [] => none
  | (key, value) :: members =>
      match shape.fields.find? (·.1.matches key) with
      | none => shape.memberMismatch? seen members
      | some (names, kind) =>
          if seen.contains names.name then some (.fieldTwice names.name)
          else (kind.mismatch? value).or (shape.memberMismatch? (names.name :: seen) members)

def byKey (members : List (String × Json)) : List (String × Json) :=
  members.foldr insertByKey []

/-- The first mismatch of a value that is to be a record of the shape, each field of which may be
missing. -/
def RecordShape.mismatch? (shape : RecordShape) : Json → Option Mismatch
  | .obj members => shape.memberMismatch? [] (byKey members)
  | .arr items =>
      ((items.zip shape.fields).findSome? fun (item, _, kind) => kind.mismatch? item).or
        (if items.length ≤ shape.fields.length then none else some (.tooManyItems items.length))
  | found => some (.kind found shape.title)

def RecordShape.mapMismatch? (shape : RecordShape) : Json → Option Mismatch
  | .obj members => (byKey members).findSome? fun (_, value) => shape.mismatch? value
  | found => some (.kind found "a map")

end EnergyAudit.Json
