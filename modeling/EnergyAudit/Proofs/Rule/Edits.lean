import EnergyAudit.Proofs.Audit.LineNumbers
import EnergyAudit.Proofs.Pattern.Pieces

/-! # Edits of a source

Comments may be written, changed and removed without touching the code of a line, and a line that is
put in adds its own code and takes none away.  A carriage return that such an edit moves into the
code of a line, or out of it, goes unnoticed. -/

namespace EnergyAudit.Rule

open Text (LineEnd splitOn dropCarriageReturn linesOfPieces)

/-! ## Edits -/

/-- The text may be the comment of a line: a number sign and what follows it, or nothing. -/
def IsComment (text : List Char) : Prop := '\n' ∉ text ∧ ∀ c ∈ text.head?, c = '#'

/-- A line ends here, with a line end or with the text. -/
def AtLineEnd (after : List Char) : Prop :=
  after = [] ∨ ∃ (lineEnd : LineEnd) (below : List Char), after = lineEnd.text ++ below

/-- The second text is the first one with another comment in one of its lines, or with one more
comment, or with one less. -/
inductive Recommented : List Char → List Char → Prop where
  | intro {before old new after : List Char} (wasComment : IsComment old) (isComment : IsComment new)
      (ends : AtLineEnd after) : Recommented (before ++ (old ++ after)) (before ++ (new ++ after))

/-- What stands behind the text starts a line. -/
def StartsLine (above : List Char) : Prop := above = [] ∨ above.getLast? = some '\n'

/-- The second text is the first one with the line put in at a boundary between lines.  Behind a
last line that has no end, one is put in front of the line; at the end of the text the line itself
need not have one. -/
inductive Inserted (line : List Char) : List Char → List Char → Prop where
  | intro {above below front back : List Char}
      (opens : front = [] ∧ StartsLine above ∨
        below = [] ∧ ∃ lineEnd : LineEnd, front = lineEnd.text)
      (closes : below = [] ∧ back = [] ∨ ∃ lineEnd : LineEnd, back = lineEnd.text) :
      Inserted line (above ++ below) (above ++ (front ++ (line ++ (back ++ below))))

/-! ## The code of a line -/

variable {p : Pattern} {line comment s t : List Char}

theorem code_append_comment (line : List Char) (rest : List Char) :
    code (line ++ '#' :: rest) = code line := by
  induction line with
  | nil => rfl
  | cons c line ih =>
      simp only [code, List.cons_append, List.takeWhile_cons] at ih ⊢
      rw [ih]

/-- What is put behind a line goes to its code, or else to its comment. -/
theorem code_append (line rest : List Char) :
    code (line ++ rest) = code line ∨
      code line = line ∧ code (line ++ rest) = line ++ code rest := by
  by_cases marked : '#' ∈ line
  · obtain ⟨start, behind, rfl⟩ := List.append_of_mem marked
    rw [List.append_assoc, List.cons_append, code_append_comment, code_append_comment]
    exact .inl rfl
  · have plain : ∀ c ∈ line, (c != '#') = true := fun c inside =>
      bne_iff_ne.mpr fun sign => marked (sign ▸ inside)
    exact .inr ⟨List.takeWhile_eq_self_iff.mpr plain, List.takeWhile_append_of_pos plain⟩

theorem occursIn_nil (overlooked : p.overlooks '\r' = true) : p.occursIn [] = false := by
  rw [← Bool.not_eq_true]
  intro occurs
  obtain ⟨before, piece, rest, split, found⟩ := Pattern.occursIn_iff.mp occurs
  have empty := List.append_eq_nil_iff.mp split.symm
  have nullable := Pattern.isNullable_of_matches_nil found (List.append_eq_nil_iff.mp empty.1).2
  simp [Pattern.overlooks, nullable] at overlooked

theorem occursIn_code_return (overlooked : p.overlooks '\r' = true) (line : List Char) :
    p.occursIn (code (line ++ ['\r'])) = p.occursIn (code line) := by
  rcases code_append line ['\r'] with same | ⟨plain, grown⟩
  · rw [same]
  · rw [grown, plain]
    exact Pattern.occursIn_append_singleton overlooked line

theorem occursIn_code_dropCarriageReturn (overlooked : p.overlooks '\r' = true)
    (line : List Char) :
    p.occursIn (code (dropCarriageReturn line)) = p.occursIn (code line) := by
  rcases Text.eq_dropCarriageReturn line with same | returned
  · rw [← same]
  · conv_rhs => rw [returned, occursIn_code_return overlooked]

theorem occursIn_code_comment (overlooked : p.overlooks '\r' = true)
    (isComment : IsComment comment) {tail : List Char} (bare : tail = [] ∨ tail = ['\r'])
    (line : List Char) :
    p.occursIn (code (line ++ (comment ++ tail))) = p.occursIn (code line) := by
  cases comment with
  | nil =>
      rcases bare with rfl | rfl
      · rw [List.append_nil, List.append_nil]
      · exact occursIn_code_return overlooked line
  | cons c comment =>
      obtain rfl := isComment.2 c rfl
      rw [List.cons_append, code_append_comment]

/-! ## The code of all lines -/

theorem firstLine?_cons_eq (holds : List Char → Bool) (line : List Char)
    (lines : List (List Char)) : firstLine? holds (line :: lines) =
      if holds line then some 1 else (firstLine? holds lines).map (· + 1) := by
  rw [firstLine?, List.findIdx?_cons]
  split
  · rfl
  · rw [firstLine?]

/-- The first line depends only on what holds of each line. -/
theorem firstLine?_congr {holds : List Char → Bool} {lines lines' : List (List Char)}
    (same : lines.map holds = lines'.map holds) :
    firstLine? holds lines = firstLine? holds lines' := by
  have toFlags (lines : List (List Char)) :
      lines.findIdx? holds = (lines.map holds).findIdx? (· == true) := by
    rw [List.findIdx?_map]
    simp [Function.comp_def]
  rw [firstLine?, firstLine?, toFlags, toFlags, same]

theorem firstLine?_linesOfPieces (overlooked : p.overlooks '\r' = true)
    (pieces : List (List Char)) :
    firstLine? p.occursIn ((linesOfPieces pieces).map code) =
      firstLine? p.occursIn (pieces.map code) := by
  fun_induction linesOfPieces pieces with
  | case1 => rfl
  | case2 last empty =>
      have none : p.occursIn (code []) = false := occursIn_nil overlooked
      rw [List.isEmpty_iff.mp empty, List.map_singleton, firstLine?_cons_eq, none]
      rfl
  | case3 last filled => rfl
  | case4 piece pieces several ih =>
      rw [List.map_cons, List.map_cons, firstLine?_cons_eq, firstLine?_cons_eq, ih,
        occursIn_code_dropCarriageReturn overlooked]

/-- Carriage returns and an empty rest behind the last line feed make no difference. -/
theorem firstLine?_codeLines (overlooked : p.overlooks '\r' = true) (source : List Char) :
    firstLine? p.occursIn (codeLines source) =
      firstLine? p.occursIn ((splitOn '\n' source).map code) :=
  firstLine?_linesOfPieces overlooked (splitOn '\n' source)

theorem any_codeLines (overlooked : p.overlooks '\r' = true) (source : List Char) :
    (codeLines source).any p.occursIn = ((splitOn '\n' source).map code).any p.occursIn := by
  rw [← firstLine?_isSome, ← firstLine?_isSome, firstLine?_codeLines overlooked]

/-! ## Comments -/

/-- Where a line ends, a carriage return is left over at most. -/
theorem AtLineEnd.cases {after : List Char} (ends : AtLineEnd after) :
    ∃ tail, (tail = [] ∨ tail = ['\r']) ∧
      (after = tail ∨ ∃ below, after = tail ++ '\n' :: below) := by
  rcases ends with rfl | ⟨lineEnd, below, rfl⟩
  · exact ⟨[], .inl rfl, .inl rfl⟩
  · cases lineEnd with
    | feed => exact ⟨[], .inl rfl, .inr ⟨below, rfl⟩⟩
    | returnFeed => exact ⟨['\r'], .inr rfl, .inr ⟨below, rfl⟩⟩

/-- What is found in the code of the lines, whatever comment stands at a place. -/
theorem map_occursIn_comment (overlooked : p.overlooks '\r' = true)
    (isComment : IsComment comment) (before : List Char) {tail : List Char}
    (bare : tail = [] ∨ tail = ['\r']) :
    ((splitOn '\n' (before ++ (comment ++ tail))).map code).map p.occursIn =
      ((splitOn '\n' before).map code).map p.occursIn := by
  obtain ⟨pieces, last, split, grows⟩ := Text.exists_splitOn_append '\n' before
  have oneLine : '\n' ∉ comment ++ tail := by
    rw [List.mem_append, not_or]
    refine ⟨isComment.1, ?_⟩
    rcases bare with rfl | rfl <;> decide
  rw [grows _ oneLine, split]
  simp only [List.map_append, List.map_singleton, occursIn_code_comment overlooked isComment bare]

theorem firstLine?_recommented (overlooked : p.overlooks '\r' = true) (edit : Recommented s t) :
    firstLine? p.occursIn (codeLines t) = firstLine? p.occursIn (codeLines s) := by
  rw [firstLine?_codeLines overlooked, firstLine?_codeLines overlooked]
  apply firstLine?_congr
  obtain ⟨wasComment, isComment, ends⟩ := edit
  rename_i before old new after
  obtain ⟨tail, bare, rfl | ⟨below, rfl⟩⟩ := ends.cases
  · rw [map_occursIn_comment overlooked isComment before bare,
      map_occursIn_comment overlooked wasComment before bare]
  · have cut (comment : List Char) : before ++ (comment ++ (tail ++ '\n' :: below)) =
        (before ++ (comment ++ tail)) ++ '\n' :: below := by simp
    rw [cut, cut, Text.splitOn_append_separator, Text.splitOn_append_separator, List.map_append,
      List.map_append, List.map_append, List.map_append,
      map_occursIn_comment overlooked isComment before bare,
      map_occursIn_comment overlooked wasComment before bare]

/-! ## Lines put in -/

theorem any_codeLines_append_feed (overlooked : p.overlooks '\r' = true) (s t : List Char) :
    (codeLines (s ++ '\n' :: t)).any p.occursIn =
      ((codeLines s).any p.occursIn || (codeLines t).any p.occursIn) := by
  rw [any_codeLines overlooked, any_codeLines overlooked, any_codeLines overlooked,
    Text.splitOn_append_separator, List.map_append, List.any_append]

theorem any_codeLines_return (overlooked : p.overlooks '\r' = true) (s : List Char) :
    (codeLines (s ++ ['\r'])).any p.occursIn = (codeLines s).any p.occursIn := by
  have isComment : IsComment [] := ⟨List.not_mem_nil, nofun⟩
  have same := map_occursIn_comment overlooked isComment s (.inr rfl)
  rw [List.nil_append] at same
  rw [any_codeLines overlooked, any_codeLines overlooked, ← firstLine?_isSome,
    ← firstLine?_isSome, firstLine?_congr same]

theorem any_codeLines_append_lineEnd (overlooked : p.overlooks '\r' = true) (s : List Char)
    (lineEnd : LineEnd) (t : List Char) :
    (codeLines (s ++ (lineEnd.text ++ t))).any p.occursIn =
      ((codeLines s).any p.occursIn || (codeLines t).any p.occursIn) := by
  cases lineEnd with
  | feed => exact any_codeLines_append_feed overlooked s t
  | returnFeed =>
      have cut : s ++ (LineEnd.returnFeed.text ++ t) = (s ++ ['\r']) ++ '\n' :: t := by
        simp [LineEnd.text]
      rw [cut, any_codeLines_append_feed overlooked, any_codeLines_return overlooked]

theorem any_codeLines_of_startsLine (overlooked : p.overlooks '\r' = true) {above : List Char}
    (starts : StartsLine above) (t : List Char) :
    (codeLines (above ++ t)).any p.occursIn =
      ((codeLines above).any p.occursIn || (codeLines t).any p.occursIn) := by
  have nothing : (codeLines []).any p.occursIn = false := rfl
  rcases starts with rfl | last
  · rw [nothing, List.nil_append, Bool.false_or]
  · obtain ⟨start, rfl⟩ := List.getLast?_eq_some_iff.mp last
    rw [List.append_assoc, List.singleton_append, any_codeLines_append_feed overlooked,
      any_codeLines_append_feed overlooked, nothing, Bool.or_false]

theorem any_codeLines_line (overlooked : p.overlooks '\r' = true) (oneLine : '\n' ∉ line) :
    (codeLines line).any p.occursIn = p.occursIn (code line) := by
  rw [any_codeLines overlooked, Text.splitOn_of_not_mem oneLine]
  simp

/-- A line that is put in adds what is found in its own code, and nothing else is lost or found. -/
theorem any_codeLines_inserted (overlooked : p.overlooks '\r' = true) (oneLine : '\n' ∉ line)
    (edit : Inserted line s t) :
    (codeLines t).any p.occursIn = ((codeLines s).any p.occursIn || p.occursIn (code line)) := by
  obtain ⟨opens, closes⟩ := edit
  rename_i above below front back
  have behind : (codeLines (line ++ (back ++ below))).any p.occursIn =
      (p.occursIn (code line) || (codeLines below).any p.occursIn) := by
    rcases closes with ⟨rfl, rfl⟩ | ⟨lineEnd, rfl⟩
    · rw [List.append_nil, List.append_nil, any_codeLines_line overlooked oneLine]
      exact (Bool.or_false _).symm
    · rw [any_codeLines_append_lineEnd overlooked, any_codeLines_line overlooked oneLine]
  rcases opens with ⟨rfl, starts⟩ | ⟨rfl, lineEnd, rfl⟩
  · rw [List.nil_append, any_codeLines_of_startsLine overlooked starts,
      any_codeLines_of_startsLine overlooked starts, behind, Bool.or_assoc,
      Bool.or_comm (p.occursIn (code line))]
  · rw [any_codeLines_append_lineEnd overlooked, behind, List.append_nil]
    exact congrArg _ (Bool.or_false _)

end EnergyAudit.Rule
