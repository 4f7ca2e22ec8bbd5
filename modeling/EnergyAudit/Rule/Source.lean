import EnergyAudit.Pattern
import EnergyAudit.Text.Lines

/-! # Source lines

Rules look at a source file line by line.  What follows the first number sign of a line is a
comment; what precedes it is the code of the line. -/

namespace EnergyAudit.Rule

/-- The code of a line: everything before the first comment sign. -/
def code (line : List Char) : List Char :=
  line.takeWhile (· != '#')

def codeLines (source : List Char) : List (List Char) :=
  (Text.lines source).map code

/-- Number, counted from one, of the first line of which `holds` is true. -/
def firstLine? (holds : List Char → Bool) (lines : List (List Char)) : Option Nat :=
  (lines.findIdx? holds).map (· + 1)

theorem firstLine?_isSome {holds : List Char → Bool} {lines : List (List Char)} :
    (firstLine? holds lines).isSome = lines.any holds := by
  simp [firstLine?, List.findIdx?_isSome]

end EnergyAudit.Rule
