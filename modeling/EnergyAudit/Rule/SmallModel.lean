import EnergyAudit.Rule.Flags

/-! # Small models

Names of models so small that 4-bit loading costs more energy than it saves.  The first model of the
table whose name occurs in a source, comments included, is the one that the source is about. -/

namespace EnergyAudit.Rule

/-- A model with the spellings of its name. -/
structure SmallModel where
  name : String
  /-- Characters of the spelling; those marked true may be left out. -/
  spelling : List (Char × Bool)

/-- Reads a spelling in which a question mark follows each character that may be left out. -/
def spelled : List Char → List (Char × Bool)
  | [] => []
  | c :: '?' :: rest => (c, true) :: spelled rest
  | c :: rest => (c, false) :: spelled rest

def spellingPattern (spelling : List (Char × Bool)) : Pattern :=
  .sequence (spelling.map fun (letter, optional) =>
    let piece := Pattern.one (Pattern.sameLetter letter)
    if optional then .maybe piece else piece)

/-- Every way to write a spelling. -/
def expansions : List (Char × Bool) → List (List Char)
  | [] => [[]]
  | (c, optional) :: rest =>
      let longer := (expansions rest).map (c :: ·)
      if optional then longer ++ expansions rest else longer

/-- A row of the table. -/
def smallModel (spelling name : String) : SmallModel :=
  ⟨name, spelled spelling.toList⟩

def smallModels : List SmallModel :=
  [smallModel "qwen2?-1.5b" "Qwen2-1.5B",
   smallModel "phi-?3-?mini" "Phi-3-mini (3.8B)",
   smallModel "phi-?2" "Phi-2 (2.7B)",
   smallModel "gemma-?2b" "Gemma-2B",
   smallModel "tinyllama" "TinyLlama (1.1B)",
   smallModel "stablelm-?2?-?1.6" "StableLM-1.6B",
   smallModel "opt-?1.3b" "OPT-1.3B",
   smallModel "opt-?2.7b" "OPT-2.7B",
   smallModel "gpt-?2" "GPT-2",
   smallModel "bloom-?1b" "BLOOM-1B"]

def SmallModel.occursIn (model : SmallModel) (source : List Char) : Bool :=
  (spellingPattern model.spelling).occursIn source

def mentionedSmallModels (source : List Char) : List String :=
  (smallModels.filter (·.occursIn source)).map (·.name)

/-- Name of the small model that the source is about. -/
def smallModel? (source : List Char) : Option String :=
  (smallModels.find? (·.occursIn source)).map (·.name)

/-- The small model of a source that switches 4-bit loading on, and the line where it does. -/
def smallModelLoad? (source : List Char) : Option (String × Nat) := do
  let line ← fourBitLine? source
  let model ← smallModel? source
  return (model, line)

end EnergyAudit.Rule
