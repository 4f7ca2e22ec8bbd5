/-! # Lines, and pieces of texts

A text is cut into lines at each line feed; a carriage return right before the line feed belongs
to the line end.  A text that ends with a line feed has no further, empty line after it.  What is
looked for in a text may stand anywhere in it. -/

namespace EnergyAudit.Text

/-- The pieces of a text that `c` stands in front of. -/
def startPieces (separator c : Char) : List (List Char) → List (List Char)
  | [] => [[c]]
  | piece :: pieces =>
      if c == separator then [] :: piece :: pieces else (c :: piece) :: pieces

/-- Pieces of the text between the separators, at least one. -/
def splitOn (separator : Char) (s : List Char) : List (List Char) :=
  s.foldr (startPieces separator) [[]]

theorem splitOn_nil (separator : Char) : splitOn separator [] = [[]] := rfl

theorem splitOn_cons (separator c : Char) (s : List Char) :
    splitOn separator (c :: s) = startPieces separator c (splitOn separator s) := rfl

theorem splitOn_ne_nil (separator : Char) (s : List Char) : splitOn separator s ≠ [] := by
  cases s with
  | nil => simp [splitOn_nil]
  | cons c rest =>
      rw [splitOn_cons]
      cases splitOn separator rest with
      | nil => simp [startPieces]
      | cons piece pieces => simp only [startPieces]; split <;> simp

/-- The line without a carriage return at its very end. -/
def dropCarriageReturn (line : List Char) : List Char :=
  if line.getLast? == some '\r' then line.dropLast else line

/-- Every line that a line feed ends loses a carriage return before it; the rest of the text after
the last line feed is a line of its own unless it is empty. -/
def linesOfPieces : List (List Char) → List (List Char)
  | [] => []
  | [last] => if last.isEmpty then [] else [last]
  | piece :: pieces => dropCarriageReturn piece :: linesOfPieces pieces

def unlines (lines : List String) : String :=
  String.join (lines.map (· ++ "\n"))

/-- The lines of the text, without their line ends. -/
def lines (s : List Char) : List (List Char) :=
  linesOfPieces (splitOn '\n' s)

/-- Whether `needle` stands somewhere in the text. -/
def contains (needle : List Char) : List Char → Bool
  | [] => needle.isEmpty
  | c :: s => needle.isPrefixOf (c :: s) || contains needle s

theorem contains_iff {needle s : List Char} : contains needle s = true ↔ needle <:+: s := by
  induction s with
  | nil => simp [contains, List.isEmpty_iff]
  | cons c s ih => simp [contains, ih, List.isPrefixOf_iff_prefix, List.infix_cons_iff]

end EnergyAudit.Text
