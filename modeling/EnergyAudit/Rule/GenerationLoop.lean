import EnergyAudit.Rule.Source
import EnergyAudit.Text.Lines

/-! # Loops that generate one answer at a time

A loop header opens a body that lasts until the first line, blank lines apart, that is indented no
deeper than the header.  A source generates in a loop when a body holds a call of `generate`. -/

namespace EnergyAudit.Rule

/-- The header of a loop over one variable, at the end of a line. -/
def loopHeader : Pattern :=
  .sequence [.exactly "for", .atLeastOne Text.isBlank, .atLeastOne Text.isWord,
    .atLeastOne Text.isBlank, .exactly "in", .atLeastOne Text.isBlank, .atLeastOne Text.isWord,
    .many (· != '\n'), .exactly ":", .blanks, .textEnd]

def generateCall : List Char := ".generate(".toList

/-- Whether the body that these lines start with, under a header of the given indentation, generates
an answer. -/
def bodyGenerates (indent : Nat) : List (List Char) → Bool
  | [] => false
  | line :: rest =>
      if Text.isBlankLine line then bodyGenerates indent rest
      else if Text.indentation line ≤ indent then false
      else Text.contains generateCall line || bodyGenerates indent rest

/-- How many lines precede the first loop whose body generates an answer. -/
def linesBeforeLoop? : List (List Char) → Option Nat
  | [] => none
  | header :: rest =>
      if loopHeader.occursIn header && bodyGenerates (Text.indentation header) rest then some 0
      else (linesBeforeLoop? rest).map (· + 1)

/-- Number of the line that heads the first loop whose body generates an answer. -/
def generationLoop? (source : List Char) : Option Nat :=
  (linesBeforeLoop? (Text.lines source)).map (· + 1)

end EnergyAudit.Rule
