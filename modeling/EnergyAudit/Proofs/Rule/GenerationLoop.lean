import EnergyAudit.Proofs.Pattern.Pieces
import EnergyAudit.Proofs.Rule.FirstLine

/-! # Which loop generates answers

A loop generates answers if a line below its header calls `generate` and is indented deeper than the
header, as all lines between them are that are not blank.  The scan of a source finds the first such
loop. -/

namespace EnergyAudit.Rule

open Pattern (IsRun)
open Text (isBlank isWord isBlankLine indentation)

/-! ## Loop headers -/

/-- The line ends in the header of a loop over one word.  More may stand between the second word and
the colon, as in `for item in items[1:]:`. -/
inductive HeadsLoop : List Char → Prop where
  | intro {before gap item gap' gap'' items more tail : List Char}
      (gapBlank : IsRun isBlank gap) (itemWord : IsRun isWord item)
      (gapBlank' : IsRun isBlank gap') (gapBlank'' : IsRun isBlank gap'')
      (itemsWord : IsRun isWord items) (oneLine : '\n' ∉ more)
      (tailBlank : ∀ c ∈ tail, isBlank c = true) :
      HeadsLoop (before ++ ("for".toList ++ (gap ++ (item ++ (gap' ++ ("in".toList ++
        (gap'' ++ (items ++ (more ++ (":".toList ++ tail))))))))))

theorem occursIn_loopHeader_iff {line : List Char} :
    loopHeader.occursIn line = true ↔ HeadsLoop line := by
  simp only [loopHeader, Pattern.occursIn_iff_startsHere, Pattern.startsHere_sequence_cons,
    Pattern.startsHere_sequence_nil, Pattern.blanks, Pattern.matches_exactly_iff,
    Pattern.matches_atLeastOne_iff, Pattern.matches_many_iff, Pattern.matches_textEnd_iff, and_true]
  constructor
  · rintro ⟨before, _, rfl, _, _, rfl, rfl, gap, _, rfl, gapBlank, item, _, rfl, itemWord,
      gap', _, rfl, gapBlank', _, _, rfl, rfl, gap'', _, rfl, gapBlank'', items, _, rfl, itemsWord,
      more, _, rfl, oneLine, _, _, rfl, rfl, tail, _, rfl, tailBlank, _, _, rfl, rfl, rfl⟩
    have oneLine : '\n' ∉ more := fun feed => absurd (oneLine _ feed) (by decide)
    simp only [List.append_nil]
    exact .intro gapBlank itemWord gapBlank' gapBlank'' itemsWord oneLine tailBlank
  · rintro ⟨gapBlank, itemWord, gapBlank', gapBlank'', itemsWord, oneLine, tailBlank⟩
    have oneLine : ∀ c ∈ _, (c != '\n') = true := fun c inside =>
      bne_iff_ne.mpr fun feed => oneLine (feed ▸ inside)
    exact ⟨_, _, rfl, _, _, rfl, rfl, _, _, rfl, gapBlank, _, _, rfl, itemWord, _, _, rfl,
      gapBlank', _, _, rfl, rfl, _, _, rfl, gapBlank'', _, _, rfl, itemsWord, _, _, rfl, oneLine,
      _, _, rfl, rfl, _, [], (List.append_nil _).symm, tailBlank, [], [], rfl, rfl, rfl⟩

/-! ## Bodies -/

/-- A call of `generate` stands deeper than the indentation, and so do all lines above it that are
not blank. -/
inductive GeneratesBelow (indent : Nat) : List (List Char) → Prop where
  | intro {between after : List (List Char)} {call : List Char}
      (inside : ∀ line ∈ between, ¬ isBlankLine line → indent < indentation line)
      (deeper : indent < indentation call) (calls : generateCall <:+: call) :
      GeneratesBelow indent (between ++ call :: after)

variable {indent : Nat} {line : List Char} {rest : List (List Char)}

theorem not_isBlankLine_of_calls (calls : generateCall <:+: line) : ¬ isBlankLine line := by
  intro blank
  have dot : '.' ∈ line := calls.subset (by decide)
  exact absurd (List.all_eq_true.mp blank _ dot) (by decide)

theorem generatesBelow_cons_iff : GeneratesBelow indent (line :: rest) ↔
    (¬ isBlankLine line → indent < indentation line) ∧
      (generateCall <:+: line ∨ GeneratesBelow indent rest) := by
  constructor
  · intro generates
    generalize all : line :: rest = lines at generates
    obtain ⟨inside, deeper, calls⟩ := generates
    rcases List.cons_eq_append_iff.mp all with ⟨rfl, same⟩ | ⟨between, rfl, rfl⟩
    · obtain ⟨rfl, rfl⟩ := List.cons.inj same
      exact ⟨fun _ => deeper, .inl calls⟩
    · rw [List.forall_mem_cons] at inside
      exact ⟨inside.1, .inr ⟨inside.2, deeper, calls⟩⟩
  · rintro ⟨deeper, calls | ⟨inside, callDeeper, calls⟩⟩
    · show GeneratesBelow indent ([] ++ line :: rest)
      exact .intro nofun (deeper (not_isBlankLine_of_calls calls)) calls
    · rw [← List.cons_append]
      exact .intro (List.forall_mem_cons.mpr ⟨deeper, inside⟩) callDeeper calls

theorem bodyGenerates_iff {lines : List (List Char)} :
    bodyGenerates indent lines = true ↔ GeneratesBelow indent lines := by
  induction lines with
  | nil =>
      simp only [bodyGenerates, Bool.false_eq_true, false_iff]
      intro generates
      generalize all : ([] : List (List Char)) = lines at generates
      obtain ⟨⟩ := generates
      exact List.append_ne_nil_of_right_ne_nil _ (List.cons_ne_nil _ _) all.symm
  | cons line rest ih =>
      rw [generatesBelow_cons_iff, bodyGenerates]
      by_cases blank : isBlankLine line = true
      · have noCall : ¬ generateCall <:+: line := fun calls => not_isBlankLine_of_calls calls blank
        simp [blank, noCall, ih]
      · by_cases deeper : indent < indentation line
        · simp [blank, deeper, Nat.not_le.mpr deeper, Text.contains_iff, ih]
        · simp [blank, deeper, Nat.not_lt.mp deeper]

/-! ## The first loop -/

/-- The line of the number heads a loop that generates answers. -/
inductive LoopAt : List (List Char) → Nat → Prop where
  | intro {before below : List (List Char)} {header : List Char} (heads : HeadsLoop header)
      (generates : GeneratesBelow (indentation header) below) :
      LoopAt (before ++ header :: below) (before.length + 1)

theorem loopAt_cons_iff {header : List Char} {number : Nat} :
    LoopAt (header :: rest) number ↔
      (number = 1 ∧ HeadsLoop header ∧ GeneratesBelow (indentation header) rest) ∨
        ∃ later, number = later + 1 ∧ LoopAt rest later := by
  constructor
  · intro loop
    generalize all : header :: rest = lines at loop
    obtain ⟨heads, generates⟩ := loop
    rcases List.cons_eq_append_iff.mp all with ⟨rfl, same⟩ | ⟨before, rfl, rfl⟩
    · obtain ⟨rfl, rfl⟩ := List.cons.inj same
      exact .inl ⟨rfl, heads, generates⟩
    · exact .inr ⟨before.length + 1, rfl, heads, generates⟩
  · rintro (⟨rfl, heads, generates⟩ | ⟨_, rfl, heads, generates⟩)
    · show LoopAt ([] ++ header :: rest) 1
      exact .intro heads generates
    · rw [← List.cons_append, ← List.length_cons]
      exact .intro heads generates

variable {lines : List (List Char)} {number : Nat}

theorem LoopAt.pos (loop : LoopAt lines number) : 1 ≤ number := by
  cases loop
  exact Nat.le_add_left 1 _

theorem heads_and_generates_iff {header : List Char} :
    (loopHeader.occursIn header && bodyGenerates (indentation header) rest) = true ↔
      HeadsLoop header ∧ GeneratesBelow (indentation header) rest := by
  rw [Bool.and_eq_true, occursIn_loopHeader_iff, bodyGenerates_iff]

theorem not_loopAt_of_linesBeforeLoop? (missed : linesBeforeLoop? lines = none) :
    ¬ LoopAt lines number := by
  induction lines generalizing number with
  | nil =>
      intro loop
      generalize all : ([] : List (List Char)) = lines at loop
      obtain ⟨⟩ := loop
      exact List.append_ne_nil_of_right_ne_nil _ (List.cons_ne_nil _ _) all.symm
  | cons header rest ih =>
      rw [linesBeforeLoop?] at missed
      split at missed
      · contradiction
      · rename_i other
        rw [loopAt_cons_iff]
        rintro (⟨_, loop⟩ | ⟨later, _, loop⟩)
        · exact other (heads_and_generates_iff.mpr loop)
        · exact ih (Option.map_eq_none_iff.mp missed) loop

theorem isLeast_of_linesBeforeLoop? {before : Nat} (found : linesBeforeLoop? lines = some before) :
    IsLeast {number | LoopAt lines number} (before + 1) := by
  induction lines generalizing before with
  | nil => exact nomatch found
  | cons header rest ih =>
      rw [linesBeforeLoop?] at found
      split at found
      · rename_i loop
        cases found
        exact ⟨loopAt_cons_iff.mpr (.inl ⟨rfl, heads_and_generates_iff.mp loop⟩),
          fun _ first => first.pos⟩
      · rename_i other
        obtain ⟨before, later, rfl⟩ := Option.map_eq_some_iff.mp found
        obtain ⟨loop, least⟩ := ih later
        refine ⟨loopAt_cons_iff.mpr (.inr ⟨_, rfl, loop⟩), fun number first => ?_⟩
        rcases loopAt_cons_iff.mp first with ⟨_, loop⟩ | ⟨number, rfl, loop⟩
        · exact absurd (heads_and_generates_iff.mpr loop) other
        · exact Nat.succ_le_succ (least loop)

/-- The line heads a loop that generates answers, and no line above it does. -/
def IsFirstLoop (source : List Char) (number : Nat) : Prop :=
  IsLeast {number | LoopAt (Text.lines source) number} number

theorem isFirstLoop_of_generationLoop? {source : List Char}
    (found : generationLoop? source = some number) : IsFirstLoop source number := by
  obtain ⟨before, first, rfl⟩ := Option.map_eq_some_iff.mp found
  exact isLeast_of_linesBeforeLoop? first

theorem generationLoop?_iff (source : List Char) :
    (∀ number, generationLoop? source = some number ↔ IsFirstLoop source number) ∧
      (generationLoop? source = none ↔ ∀ number, ¬ LoopAt (Text.lines source) number) :=
  search_iff (fun _ => isFirstLoop_of_generationLoop?) fun missed _ =>
    not_loopAt_of_linesBeforeLoop? (Option.map_eq_none_iff.mp missed)

theorem generationLoop?_eq_some_iff {source : List Char} :
    generationLoop? source = some number ↔ IsFirstLoop source number :=
  (generationLoop?_iff source).1 number

theorem generationLoop?_eq_none_iff {source : List Char} :
    generationLoop? source = none ↔ ∀ number, ¬ LoopAt (Text.lines source) number :=
  (generationLoop?_iff source).2

theorem toNat_ofNat_of_generationLoop? {source : List Char}
    (found : generationLoop? source = some number) :
    source.length < UInt64.size → (UInt64.ofNat number).toNat = number :=
  toNat_ofNat_of_isLineOf (found ▸ isLineOf_generationLoop? source)

/-- The scan gives the number of the first line that heads a loop that generates answers, and none
exactly if no line does.  The rule reports that line and nothing else. -/
theorem generationLoop?_finds_first (source : List Char) :
    (∀ number, generationLoop? source = some number ↔ IsFirstLoop source number) ∧
      (generationLoop? source = none ↔ ∀ number, ¬ LoopAt (Text.lines source) number) ∧
      ∀ file,
        (∀ number, IsFirstLoop source number →
          ∃ finding, sequentialGenerate.check source file = [finding] ∧ finding.file = file ∧
            finding.line = some (UInt64.ofNat number) ∧
              (source.length < UInt64.size → (UInt64.ofNat number).toNat = number)) ∧
          ((∀ number, ¬ LoopAt (Text.lines source) number) →
            sequentialGenerate.check source file = []) := by
  refine ⟨fun number => generationLoop?_eq_some_iff, generationLoop?_eq_none_iff,
    fun file => ⟨fun number first => ?_, fun loopless => ?_⟩⟩
  · have found := generationLoop?_eq_some_iff.mpr first
    refine ⟨sequentialGenerate.report file (some number) sequentialGenerateAdvice, ?_, rfl, rfl,
      toNat_ofNat_of_generationLoop? found⟩
    rw [check, found]
    rfl
  · rw [check, generationLoop?_eq_none_iff.mpr loopless]
    rfl

/-- A loop whose body ends before the call, and a loop with a loop in it, with a line between them
that is blank and one that is indented by wide blanks. -/
def closedAndNestedLoops : String :=
  "for p in ps:\n\u2003use(p)\nfor q in qs[1:]:\n \n\tfor r in q:\n\n\t\tm.generate(r)\n"

/-- A loop that is closed before the call. -/
def closedLoop : String := "for p in ps:\n    use(p)\nm.generate(ps)\n"

theorem check_closedAndNestedLoops :
    closedAndNestedLoops.toList.length < UInt64.size ∧
      IsFirstLoop closedAndNestedLoops.toList 3 ∧
      (∃ finding, sequentialGenerate.check closedAndNestedLoops.toList "run.py" = [finding] ∧
        finding.file = "run.py" ∧ finding.line = some 3 ∧ (UInt64.ofNat 3).toNat = 3) ∧
      sequentialGenerate.check closedLoop.toList "run.py" = [] := by
  have few : closedAndNestedLoops.toList.length < UInt64.size := by decide +kernel
  have third : generationLoop? closedAndNestedLoops.toList = some 3 := by decide +kernel
  have missed : generationLoop? closedLoop.toList = none := by decide +kernel
  obtain ⟨found, -, report⟩ := generationLoop?_finds_first closedAndNestedLoops.toList
  obtain ⟨-, loopless, silent⟩ := generationLoop?_finds_first closedLoop.toList
  have first := (found 3).mp third
  obtain ⟨finding, only, file, line, kept⟩ := (report "run.py").1 3 first
  exact ⟨few, first, ⟨finding, only, file, line, kept few⟩,
    (silent "run.py").2 (loopless.mp missed)⟩

end EnergyAudit.Rule
