import EnergyAudit.Settings.Layer
import EnergyAudit.Text.Lowercase
import EnergyAudit.Text.Lines

/-! # Settings from the environment

A variable with the right first letters sets the key that the rest of its name spells in small
letters, where two underscores stand for a dot.  Its text is taken for a truth value, a whole number
or a double if it is one. -/

namespace EnergyAudit

/-- Environment variables with their texts. -/
abbrev Environment := List (String × String)

namespace Environment

/-- What follows the start in the text, if it starts with it. -/
def behind? : List Char → List Char → Option (List Char)
  | [], text => some text
  | a :: start, b :: text => if a == b then behind? start text else none
  | _ :: _, [] => none

/-- The text of a variable.  A variable is kept as its name, an equals sign and its text in one, and
is found by any name that ends in front of an equals sign. -/
def get? (environment : Environment) (name : String) : Option String :=
  if name == "" then none
  else
    environment.findSome? fun (known, text) =>
      (behind? (name ++ "=").toList (known ++ "=" ++ text).toList).map String.ofList

/-- What the name of a setting starts with, in small letters. -/
def settingStart : List Char := "ecocompute_".toList

/-- The name with a dot for every two underscores. -/
def dotted : List Char → List Char
  | '_' :: '_' :: rest => '.' :: dotted rest
  | c :: rest => c :: dotted rest
  | [] => []

/-- The key that a variable sets, if its name has the right start in any mixture of case. -/
def key? (name : String) : Option String :=
  if settingStart.isPrefixOf (Text.lower name.toList) then
    some (String.ofList (Text.lower (dotted (name.toList.drop settingStart.length))))
  else none

/-- The whole number of 64 bits that the text is. -/
def int? (text : List Char) : Option Int :=
  (Decimal.readInt? text).filter ConfigValue.fits

def value (text : String) : ConfigValue :=
  match String.ofList (Text.lower text.toList) with
  | "true" => .bool true
  | "false" => .bool false
  | _ =>
      ((int? text.toList).map ConfigValue.int).getD
        (((Decimal.read? text.toList).map ConfigValue.float).getD (.str text))

/-- The layer of the settings in the environment.  Of two variables for one key the later counts. -/
def layer (environment : Environment) : List (String × ConfigValue) :=
  environment.foldl (fun layer (name, text) =>
    match key? name with
    | some key => ConfigValue.put key (value text) layer
    | none => layer) []

end Environment

end EnergyAudit
