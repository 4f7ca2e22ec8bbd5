import EnergyAudit.Text.Utf8

/-! # Blank characters and trimming

Classes of characters are given by tables of inclusive ranges of code points.  One of them are the
blanks, which are the characters of the Unicode property White_Space.  Texts are handled as lists of
characters; `trim` takes the blanks off both ends, and `indentation` measures the blanks a line
starts with. -/

namespace EnergyAudit.Text

/-- Whether `n` lies in one of the inclusive ranges. -/
def inRanges (ranges : List (Nat × Nat)) (n : Nat) : Bool :=
  ranges.any fun range => range.1 ≤ n && n ≤ range.2

theorem inRanges_iff {ranges : List (Nat × Nat)} {n : Nat} :
    inRanges ranges n = true ↔ ∃ range ∈ ranges, range.1 ≤ n ∧ n ≤ range.2 := by
  simp [inRanges]

def blankRanges : List (Nat × Nat) :=
  [(0x9, 0xd), (0x20, 0x20), (0x85, 0x85), (0xa0, 0xa0), (0x1680, 0x1680), (0x2000, 0x200a),
   (0x2028, 0x2029), (0x202f, 0x202f), (0x205f, 0x205f), (0x3000, 0x3000)]

/-- Whether `c` is a blank: a space, a tab, a line break and the like. -/
def isBlank (c : Char) : Bool :=
  inRanges blankRanges c.toNat

def trimStart (s : List Char) : List Char :=
  s.dropWhile isBlank

def trimEnd (s : List Char) : List Char :=
  (s.reverse.dropWhile isBlank).reverse

/-- The text without the blanks at either end. -/
def trim (s : List Char) : List Char :=
  trimEnd (trimStart s)

/-- Number of bytes of blanks at the start of the line. -/
def indentation (line : List Char) : Nat :=
  utf8Width (line.takeWhile isBlank)

/-- Whether the line holds nothing but blanks. -/
def isBlankLine (line : List Char) : Bool :=
  line.all isBlank

theorem isBlank_of_isWhitespace {c : Char} (h : c.isWhitespace = true) : isBlank c = true := by
  simp only [Char.isWhitespace, Bool.or_eq_true, decide_eq_true_eq] at h
  rcases h with ((rfl | rfl) | rfl) | rfl <;> decide

end EnergyAudit.Text
