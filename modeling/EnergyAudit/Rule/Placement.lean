import EnergyAudit.Rule.Source
import EnergyAudit.Text.Lowercase
import EnergyAudit.Text.Lines

/-! # Device placement of loaded models

A loading call is placed when an argument for the device stands within five lines of it, even in a
comment.  Loading a tokenizer needs no device. -/

namespace EnergyAudit.Rule

def loadingCall : Pattern :=
  .sequence [.word "from_pretrained", .blanks, .exactly "("]

def deviceArgument : Pattern :=
  .sequence [.word "device_map", .blanks, .exactly "="]

/-- How many lines on either side of a loading call are searched for a device. -/
def contextLines : Nat := 5

/-- The lines within reach of the line with `index` lines before it. -/
def nearbyLines (lines : List (List Char)) (index : Nat) : List (List Char) :=
  let first := index - contextLines
  let last := min (index + contextLines + 1) lines.length
  (lines.drop first).take (last - first)

def mentionsTokenizer (line : List Char) : Bool :=
  Text.contains "tokenizer".toList (Text.lower line) || Text.contains "Tokenizer".toList line

/-- Whether the line, with `index` lines before it, loads a model without placing it. -/
def isUnplacedLoad (lines : List (List Char)) (line : List Char) (index : Nat) : Bool :=
  loadingCall.occursIn (code line)
    && !(nearbyLines lines index).any deviceArgument.occursIn
    && !mentionsTokenizer line

/-- Number of the first line that loads a model without placing it. -/
def unplacedLoad? (source : List Char) : Option Nat :=
  let lines := Text.lines source
  (lines.zipIdx.find? fun (line, index) => isUnplacedLoad lines line index).map (·.2 + 1)

end EnergyAudit.Rule
