import EnergyAudit.Text.Lines

/-! # Lines as pieces of a text

Every line of a text stands in it as it is, so that what is found in a line is found in the text.
Pieces that stand between separators are found again when the text is cut there.  So are lines, each
of which ends with a line feed and holds no other. -/

namespace EnergyAudit.Text

/-- The piece stands in the text, and ends where the text does or at a separator. -/
def StandsIn (separator : Char) (s piece : List Char) : Prop :=
  ∃ before after, s = before ++ (piece ++ after) ∧ ∀ c ∈ after.head?, c = separator

/-- The first piece starts the text, and every piece stands somewhere in it. -/
theorem pieces_standIn (separator : Char) (s : List Char) :
    (∀ piece, (splitOn separator s).head? = some piece →
        ∃ after, s = piece ++ after ∧ ∀ c ∈ after.head?, c = separator) ∧
      ∀ piece ∈ splitOn separator s, StandsIn separator s piece := by
  induction s with
  | nil =>
      refine ⟨fun piece same => ⟨[], ?_, nofun⟩, fun piece member => ⟨[], [], ?_, nofun⟩⟩
      · simpa [splitOn_nil] using same
      · simpa [splitOn_nil] using member
  | cons c s ih =>
      obtain ⟨first, all⟩ := ih
      rw [splitOn_cons]
      cases split : splitOn separator s with
      | nil => exact absurd split (splitOn_ne_nil separator s)
      | cons head tail =>
          rw [split] at first all
          obtain ⟨after, starts, ends⟩ := first head rfl
          have later : ∀ piece ∈ head :: tail, StandsIn separator (c :: s) piece := by
            intro piece member
            obtain ⟨before, after, rfl, ends⟩ := all piece member
            exact ⟨c :: before, after, rfl, ends⟩
          simp only [startPieces]
          by_cases cut : c = separator
          · simp only [cut, beq_self_eq_true, if_true]
            rw [cut] at later
            have empty : ∀ d ∈ (separator :: s).head?, d = separator := by simp
            refine ⟨fun piece same => ?_, fun piece member => ?_⟩
            · obtain rfl := Option.some.inj same
              exact ⟨separator :: s, rfl, empty⟩
            · rcases List.mem_cons.mp member with rfl | member
              · exact ⟨[], separator :: s, rfl, empty⟩
              · exact later piece member
          · simp only [beq_eq_false_iff_ne.mpr cut, Bool.false_eq_true, if_false]
            have grown : c :: s = (c :: head) ++ after := by rw [starts, List.cons_append]
            refine ⟨fun piece same => ?_, fun piece member => ?_⟩
            · obtain rfl := Option.some.inj same
              exact ⟨after, grown, ends⟩
            · rcases List.mem_cons.mp member with rfl | member
              · exact ⟨[], after, grown, ends⟩
              · exact later piece (List.mem_cons_of_mem _ member)

theorem splitOn_of_not_mem {separator : Char} {piece : List Char} (inside : separator ∉ piece) :
    splitOn separator piece = [piece] := by
  induction piece with
  | nil => rfl
  | cons c piece ih =>
      simp only [List.mem_cons, not_or] at inside
      simp [splitOn_cons, ih inside.2, startPieces, Ne.symm inside.1]

theorem splitOn_append_separator (separator : Char) (s t : List Char) :
    splitOn separator (s ++ separator :: t) = splitOn separator s ++ splitOn separator t := by
  induction s with
  | nil =>
      rw [List.nil_append, splitOn_cons]
      cases split : splitOn separator t with
      | nil => exact absurd split (splitOn_ne_nil separator t)
      | cons piece pieces => simp [startPieces, splitOn_nil]
  | cons c s ih =>
      rw [List.cons_append, splitOn_cons, ih, splitOn_cons]
      cases split : splitOn separator s with
      | nil => exact absurd split (splitOn_ne_nil separator s)
      | cons piece pieces => simp only [List.cons_append, startPieces]; split <;> rfl

theorem splitOn_append {separator : Char} {piece : List Char} (inside : separator ∉ piece)
    (rest : List Char) :
    splitOn separator (piece ++ separator :: rest) = piece :: splitOn separator rest := by
  rw [splitOn_append_separator, splitOn_of_not_mem inside, List.singleton_append]

/-- What is put behind a text without a separator goes to its last piece. -/
theorem exists_splitOn_append (separator : Char) (s : List Char) :
    ∃ pieces last, splitOn separator s = pieces ++ [last] ∧
      ∀ t, separator ∉ t → splitOn separator (s ++ t) = pieces ++ [last ++ t] := by
  induction s with
  | nil => exact ⟨[], [], rfl, fun t inside => splitOn_of_not_mem inside⟩
  | cons c s ih =>
      obtain ⟨pieces, last, split, grows⟩ := ih
      by_cases cut : c = separator
      · refine ⟨[] :: pieces, last, ?_, fun t inside => ?_⟩
        · rw [splitOn_cons, split, cut]
          cases pieces <;> simp [startPieces]
        · rw [List.cons_append, splitOn_cons, grows t inside, cut]
          cases pieces <;> simp [startPieces]
      · cases pieces with
        | nil =>
            refine ⟨[], c :: last, ?_, fun t inside => ?_⟩
            · simp [splitOn_cons, split, startPieces, cut]
            · simp [splitOn_cons, grows t inside, startPieces, cut]
        | cons piece pieces =>
            refine ⟨(c :: piece) :: pieces, last, ?_, fun t inside => ?_⟩
            · simp [splitOn_cons, split, startPieces, cut]
            · simp [splitOn_cons, grows t inside, startPieces, cut]

/-- Pieces without the separator are found again between separators. -/
theorem splitOn_intercalate {separator : Char} {pieces : List (List Char)} (some : pieces ≠ [])
    (inside : ∀ piece ∈ pieces, separator ∉ piece) :
    splitOn separator ([separator].intercalate pieces) = pieces := by
  induction pieces with
  | nil => exact absurd rfl some
  | cons piece pieces ih =>
      have first := inside piece List.mem_cons_self
      cases pieces with
      | nil =>
          rw [List.intercalate_singleton]
          exact splitOn_of_not_mem first
      | cons next pieces =>
          rw [List.intercalate_cons_cons, List.append_assoc, List.singleton_append,
            splitOn_append first,
            ih (by simp) fun later member => inside later (List.mem_cons_of_mem _ member)]

/-- The pieces with the separators between them are the text again. -/
theorem intercalate_splitOn (separator : Char) (s : List Char) :
    [separator].intercalate (splitOn separator s) = s := by
  induction s with
  | nil => rfl
  | cons c s ih =>
      rw [splitOn_cons]
      cases split : splitOn separator s with
      | nil => exact absurd split (splitOn_ne_nil separator s)
      | cons piece pieces =>
          rw [split] at ih
          simp only [startPieces]
          split
          · rename_i same
            rw [List.intercalate_cons_cons, ih, eq_of_beq same]
            rfl
          · rw [← ih]
            cases pieces with
            | nil => rfl
            | cons next pieces =>
                rw [List.intercalate_cons_cons, List.intercalate_cons_cons]
                rfl

theorem not_mem_of_mem_splitOn {separator : Char} {piece s : List Char}
    (member : piece ∈ splitOn separator s) : separator ∉ piece := by
  induction s generalizing piece with
  | nil =>
      rw [splitOn_nil, List.mem_singleton] at member
      simp [member]
  | cons c s ih =>
      rw [splitOn_cons] at member
      cases split : splitOn separator s with
      | nil => exact absurd split (splitOn_ne_nil separator s)
      | cons head tail =>
          rw [split] at member ih
          simp only [startPieces] at member
          split at member
          · rcases List.mem_cons.mp member with rfl | member
            · exact List.not_mem_nil
            · exact ih member
          · rename_i other
            rcases List.mem_cons.mp member with rfl | member
            · simp only [List.mem_cons, not_or]
              refine ⟨?_, ih List.mem_cons_self⟩
              rintro rfl
              simp at other
            · exact ih (List.mem_cons_of_mem _ member)

/-- A line has a carriage return at its end, or nothing is dropped. -/
theorem eq_dropCarriageReturn (line : List Char) :
    line = dropCarriageReturn line ∨ line = dropCarriageReturn line ++ ['\r'] := by
  unfold dropCarriageReturn
  split
  · rename_i returned
    obtain ⟨start, rfl⟩ := List.getLast?_eq_some_iff.mp (eq_of_beq returned)
    exact .inr (by rw [List.dropLast_concat])
  · exact .inl rfl

theorem linesOfPieces_append (pieces : List (List Char)) {more : List (List Char)}
    (some : more ≠ []) :
    linesOfPieces (pieces ++ more) = pieces.map dropCarriageReturn ++ linesOfPieces more := by
  induction pieces with
  | nil => rfl
  | cons piece pieces ih =>
      have several : pieces ++ more ≠ [] := List.append_ne_nil_of_right_ne_nil pieces some
      rw [List.cons_append, linesOfPieces, ih, List.map_cons, List.cons_append]
      exact several

/-- A line feed behind a text ends all of its lines. -/
theorem lines_append_feed (s t : List Char) :
    lines (s ++ '\n' :: t) = (splitOn '\n' s).map dropCarriageReturn ++ lines t := by
  rw [lines, splitOn_append_separator, linesOfPieces_append _ (splitOn_ne_nil '\n' t), lines]

/-- A line is one of the pieces that the text is cut into, but for a carriage return. -/
theorem mem_linesOfPieces {line : List Char} {pieces : List (List Char)}
    (member : line ∈ linesOfPieces pieces) :
    ∃ piece ∈ pieces, piece = line ∨ piece = line ++ ['\r'] := by
  fun_induction linesOfPieces pieces with
  | case1 => simp at member
  | case2 last empty => simp at member
  | case3 last empty =>
      simp only [List.mem_singleton] at member
      exact ⟨last, by simp, .inl member.symm⟩
  | case4 piece pieces several ih =>
      rcases List.mem_cons.mp member with rfl | member
      · exact ⟨piece, by simp, eq_dropCarriageReturn piece⟩
      · obtain ⟨found, inside, same⟩ := ih member
        exact ⟨found, List.mem_cons_of_mem _ inside, same⟩

/-- A line stands in the text, and ends where the text does or at a line end. -/
theorem exists_append_of_mem_lines {line s : List Char} (member : line ∈ lines s) :
    ∃ before after, s = before ++ (line ++ after) ∧ ∀ c ∈ after.head?, c = '\r' ∨ c = '\n' := by
  obtain ⟨piece, inside, same⟩ := mem_linesOfPieces member
  obtain ⟨before, after, whole, ends⟩ := (pieces_standIn '\n' s).2 piece inside
  rcases same with rfl | rfl
  · exact ⟨before, after, whole, fun c first => .inr (ends c first)⟩
  · exact ⟨before, '\r' :: after, by simpa using whole, by simp⟩

theorem mem_lines_inside {line s : List Char} (member : line ∈ lines s) : line <:+: s := by
  obtain ⟨before, after, whole, -⟩ := exists_append_of_mem_lines member
  exact ⟨before, after, by rw [whole, List.append_assoc]⟩

/-! ## Texts that are written line by line -/

/-- Whether the character does not occur in the text. -/
def Lacks (c : Char) (s : String) : Prop := c ∉ s.toList

instance (c : Char) (s : String) : Decidable (Lacks c s) :=
  inferInstanceAs (Decidable (c ∉ s.toList))

/-- Whether the text is a single line. -/
abbrev IsLine (s : String) : Prop := Lacks '\n' s

/-- The lines of a text, which stand between its line feeds. -/
def feedLines (s : String) : List String := (splitOn '\n' s.toList).map String.ofList

variable {c : Char} {s t : String}

@[simp]
theorem lacks_append : Lacks c (s ++ t) ↔ Lacks c s ∧ Lacks c t := by
  simp [Lacks, not_or]

theorem Lacks.append (first : Lacks c s) (rest : Lacks c t) : Lacks c (s ++ t) :=
  lacks_append.mpr ⟨first, rest⟩

theorem lacks_ofList_iff {letters : List Char} : Lacks c (String.ofList letters) ↔ c ∉ letters := by
  rw [Lacks, String.toList_ofList]

theorem lacks_ofList {letters : List Char} (other : letters.all (· != c) = true) :
    Lacks c (String.ofList letters) := by
  rw [lacks_ofList_iff]
  intro member
  simpa using List.all_eq_true.mp other c member

theorem lacks_toString_nat (other : c.isDigit = false) (n : Nat) : Lacks c (toString n) := by
  intro member
  rw [Nat.toString_eq_repr, Nat.toList_repr] at member
  have digit := Nat.isDigit_of_mem_toDigits (by decide) (by decide) member
  rw [digit] at other
  exact nomatch other

theorem isLine_toString_nat (n : Nat) : IsLine (toString n) := lacks_toString_nat rfl n

theorem isLine_toString_int (n : Int) : IsLine (toString n) := by
  cases n with
  | ofNat n => exact isLine_toString_nat n
  | negSucc n =>
      have written : toString (Int.negSucc n) = "-" ++ toString (n + 1) := rfl
      rw [written]
      exact .append (lacks_ofList rfl) (isLine_toString_nat _)

/-- What stands in the text between line feeds is one of its lines. -/
theorem mem_feedLines_of_infix {line : String} (single : IsLine line)
    (inside : '\n' :: (line.toList ++ ['\n']) <:+: s.toList) : line ∈ feedLines s := by
  obtain ⟨before, after, whole⟩ := inside
  have cut : s.toList = before ++ '\n' :: (line.toList ++ '\n' :: after) := by
    rw [← whole]
    simp
  rw [feedLines, cut, splitOn_append_separator, splitOn_append single, List.map_append,
    List.map_cons, String.ofList_toList]
  exact List.mem_append_right _ List.mem_cons_self

/-- A line has no characters but those of the text. -/
theorem lacks_of_mem_feedLines {line : String} (lacks : Lacks c s) (member : line ∈ feedLines s) :
    Lacks c line := by
  obtain ⟨piece, inside, rfl⟩ := List.mem_map.mp member
  obtain ⟨before, after, whole, -⟩ := (pieces_standIn '\n' s.toList).2 piece inside
  rw [Lacks, whole] at lacks
  rw [Lacks, String.toList_ofList]
  exact fun within => lacks (List.mem_append_right _ (List.mem_append_left _ within))

theorem feedLines_of_isLine (line : IsLine s) : feedLines s = [s] := by
  rw [feedLines, splitOn_of_not_mem line, List.map_singleton, String.ofList_toList]

theorem feedLines_append_feed (s t : String) :
    feedLines (s ++ "\n" ++ t) = feedLines s ++ feedLines t := by
  simp [feedLines, splitOn_append_separator]

theorem feedLines_unlines_append (lines : List String) (rest : String) :
    feedLines (unlines lines ++ rest) = lines.flatMap feedLines ++ feedLines rest := by
  induction lines with
  | nil => rfl
  | cons line lines ih =>
      have split : unlines (line :: lines) ++ rest = line ++ "\n" ++ (unlines lines ++ rest) := by
        rw [unlines, List.map_cons, String.join_cons, String.append_assoc]
        rfl
      rw [split, feedLines_append_feed, ih, List.flatMap_cons, List.append_assoc]

/-- Behind the last line feed there is an empty line. -/
theorem feedLines_unlines (lines : List String) :
    feedLines (unlines lines) = lines.flatMap feedLines ++ [""] := by
  have ended := feedLines_unlines_append lines ""
  rwa [String.append_empty, feedLines_of_isLine (lacks_ofList rfl)] at ended

theorem flatMap_feedLines {lines : List String} (single : ∀ line ∈ lines, IsLine line) :
    lines.flatMap feedLines = lines := by
  induction lines with
  | nil => rfl
  | cons line lines ih =>
      obtain ⟨first, rest⟩ := List.forall_mem_cons.mp single
      rw [List.flatMap_cons, feedLines_of_isLine first, ih rest, List.singleton_append]

end EnergyAudit.Text
