import EnergyAudit.Json.Record
import EnergyAudit.Text.Blank
import EnergyAudit.Text.Lowercase

/-! # Quantization schemes

A scheme is named by a label.  Labels are compared without regard to case, blanks around them, and
the difference between a hyphen and an underscore.  A label that has no measurements is kept in its
normal form. -/

namespace EnergyAudit

/-- How the weights of a model are stored. -/
inductive Quantization where
  | fp16
  | nf4
  /-- With the default threshold for outliers. -/
  | int8Default
  /-- Without a separate treatment of outliers. -/
  | int8Pure
  | other (label : String)
deriving DecidableEq, Repr

namespace Quantization

def label : Quantization → String
  | .fp16 => "fp16"
  | .nf4 => "nf4"
  | .int8Default => "int8_default"
  | .int8Pure => "int8_pure"
  | .other label => label

/-- Whether there are measurements for the scheme. -/
def isMeasured : Quantization → Bool
  | .other _ => false
  | _ => true

/-- The normal form of a label: trimmed, in small letters, with underscores for hyphens. -/
def normalForm (label : List Char) : List Char :=
  (Text.lower (Text.trim label)).map fun c => if c == '-' then '_' else c

def ofNormalForm : String → Quantization
  | "fp16" => .fp16
  | "nf4" => .nf4
  | "int8_default" => .int8Default
  | "int8" => .int8Default
  | "int8_pure" => .int8Pure
  | label => .other label

def ofLabel (label : String) : Quantization :=
  ofNormalForm (String.ofList (normalForm label.toList))

def toJson (quantization : Quantization) : Json := .str quantization.label

def ofJson? (value : Json) : Option Quantization :=
  (Json.asString? value).map ofLabel

end Quantization

end EnergyAudit
