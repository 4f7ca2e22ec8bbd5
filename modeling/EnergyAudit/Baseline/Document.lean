import EnergyAudit.Baseline
import EnergyAudit.Json.Diagnosis
import EnergyAudit.Json.Printer
import EnergyAudit.SortedMap

/-! # Documents of baselines

A document holds a baseline for each key.  Its text is a JSON object; one without the member
`baselines` is read as a single record, which is the layout that documents used to have. -/

namespace EnergyAudit

/-- Why the text of a document cannot be used. -/
inductive DocumentError where
  /-- The text is no JSON document. -/
  | malformed (reason : Option Json.Malformation)
  /-- A part of the JSON document is not what it should be. -/
  | mismatched (reason : Option Json.Mismatch)
  | notAnObject

/-- What is wrong with the text, in words. -/
def DocumentError.reason : DocumentError → String
  | .malformed reason => reason.elim "not JSON" Json.Malformation.message
  | .mismatched reason => reason.elim "not a document of baselines" Json.Mismatch.message
  | .notAnObject => "root must be an object"

/-- Baselines by their keys. -/
structure BaselineDocument where
  baselines : SortedMap Baseline

namespace BaselineDocument

def empty : BaselineDocument := ⟨.empty⟩

/-- The document with the baseline under its key. -/
def insert (document : BaselineDocument) (baseline : Baseline) : BaselineDocument :=
  ⟨document.baselines.insert baseline.key baseline⟩

def baselinesJson (baselines : SortedMap Baseline) : Json :=
  .obj (baselines.entries.map fun entry => (entry.1, entry.2.toJson))

def toJson (document : BaselineDocument) : Json :=
  .obj [("baselines", baselinesJson document.baselines)]

def baselinesOfJson? : Json → Option (SortedMap Baseline)
  | .obj members =>
      (members.mapM fun member => (Baseline.ofJson? member.2).map (member.1, ·)).map
        SortedMap.ofList
  | _ => none

def ofJson? (value : Json) : Option BaselineDocument := do
  let [baselines] ← Json.fields? false [Json.field "baselines"] value | none
  return ⟨← Json.required baselinesOfJson? baselines⟩

/-- The document that an object holds, in either layout. -/
def ofMembers (members : List (String × Json)) : Except DocumentError BaselineDocument :=
  match Json.member? members "baselines" with
  | some baselines =>
      match ofJson? (.obj members) with
      | some document => .ok document
      | none => .error (.mismatched (Baseline.shape.mapMismatch? baselines))
  | none =>
      match Baseline.ofJson? (.obj members) with
      | some baseline => .ok (empty.insert baseline)
      | none => .error (.mismatched (Baseline.shape.mismatch? (.obj members)))

def parse (text : String) : Except DocumentError BaselineDocument :=
  match Json.parseMerged? text with
  | none => .error (.malformed (Json.malformation? text))
  | some (.obj members) => ofMembers members
  | some _ => .error .notAnObject

def render (document : BaselineDocument) : String := document.toJson.render

/-- The later of two entries by their timestamps; the first one if they are alike. -/
def laterEntry (a b : String × Baseline) : String × Baseline :=
  if a.2.timestamp < b.2.timestamp then b else a

/-- The entry with the latest timestamp, the first such by its key. -/
def latest? (document : BaselineDocument) : Option (String × Baseline) :=
  match document.baselines.entries with
  | [] => none
  | entry :: rest => some (rest.foldl laterEntry entry)

/-- The baseline for the fingerprint, or else the one with the latest timestamp. -/
def select? (document : BaselineDocument) (fingerprint : String) : Option Baseline :=
  let exact := if fingerprint == "" then none else document.baselines.find? fingerprint
  exact.or (document.latest?.map (·.2))

end BaselineDocument

end EnergyAudit
